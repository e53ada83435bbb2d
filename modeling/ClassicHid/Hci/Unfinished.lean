import ClassicHid.Hci.Interleaving
import ClassicHid.L2cap.Frame

/-!
# The unfinished PDUs of the assembler

Whatever packets a controller delivers, the assembler keeps the beginnings of PDUs that are not
complete, and hands out byte strings that have the length they declare.

## Main definitions

* `PendingAcl.Unfinished`: the beginning of a PDU that declares more bytes than have arrived
* `AssemblerOp`: a packet, or the end of a connection
* `AclAssembler.Sound`: every entry is unfinished

## Main results

* `AclAssembler.feedEntry_sound`: one packet and the entry of its handle
* `AclAssembler.Sound.apply`: one operation
* `AclAssembler.unfinished_run`: the entries and the PDUs of any run
-/

namespace ClassicHid

open Foundation
open Std (ExtTreeMap)

/-- The beginning of a PDU, with its header, that declares more bytes than have arrived. -/
structure PendingAcl.Unfinished (pending : PendingAcl) : Prop where
  header : 4 ≤ pending.data.length
  unfinished : pending.data.length < pending.expected
  bound : pending.expected ≤ 65539
  declared : pending.expected = 4 + (le16At pending.data 0).toNat

/-- A continuation leaves the header of a PDU as it is. -/
theorem PendingAcl.Unfinished.le16At_append {pending : PendingAcl} (h : pending.Unfinished)
    (data : Bytes) : 4 + (le16At (pending.data ++ data) 0).toNat = pending.expected := by
  have hheader := h.header
  rw [Foundation.le16At_append (by omega), h.declared]

/-- What is done to the assembler. -/
inductive AssemblerOp
  | feed (packet : AclPacket)
  | clearHandle (handle : UInt16)

namespace AclAssembler

variable {assembler : AclAssembler} {packet : AclPacket} {held : Option PendingAcl}

/-- One operation, and what the assembler hands out. -/
def apply (assembler : AclAssembler) : AssemblerOp →
    Except CodecError (Option Bytes) × AclAssembler
  | .feed packet => feed packet assembler
  | .clearHandle handle => (.ok none, clearHandle handle assembler)

/-- Every entry is the beginning of an unfinished PDU. -/
def Sound (assembler : AclAssembler) : Prop :=
  ∀ (handle : UInt16) (pending : PendingAcl), assembler.pending[handle]? = some pending →
    pending.Unfinished

/-- A start packet that is shorter than it declares begins an unfinished PDU. -/
theorem unfinished_start {data : Bytes} (hheader : 4 ≤ data.length)
    (hshort : data.length < (le16At data 0).toNat + 4) :
    PendingAcl.Unfinished { expected := (le16At data 0).toNat + 4, data := data } where
  header := hheader
  unfinished := hshort
  bound := by
    have := (le16At data 0).toNat_lt
    show (le16At data 0).toNat + 4 ≤ 65539
    omega
  declared := Nat.add_comm _ 4

/-- **One packet**: an unfinished entry is replaced by an unfinished one, and a byte string that is
handed out has the length it declares. -/
theorem feedEntry_sound (hheld : ∀ pending, held = some pending → pending.Unfinished) :
    (∀ pending, (feedEntry held packet).2 = some pending → pending.Unfinished) ∧
      ∀ bytes, (feedEntry held packet).1 = .ok (some bytes) →
        bytes.length = 4 + (le16At bytes 0).toNat := by
  simp only [feedEntry]
  split
  · cases held with
    | none => exact ⟨(by rintro _ ⟨⟩), (by rintro _ ⟨⟩)⟩
    | some pending =>
      have hpending := hheld pending rfl
      have hdeclared := hpending.le16At_append packet.data
      dsimp only
      split
      · exact ⟨(by rintro _ ⟨⟩), (by rintro _ ⟨⟩)⟩
      rename_i hfits
      split
      · rename_i hcomplete
        refine ⟨(by rintro _ ⟨⟩), ?_⟩
        intro bytes hbytes
        cases hbytes
        rw [hcomplete, hdeclared]
      · rename_i hincomplete
        refine ⟨?_, (by rintro _ ⟨⟩)⟩
        intro pending' hpending'
        cases hpending'
        exact {
          header := by
            have := hpending.header
            rw [List.length_append]
            omega
          unfinished := Nat.lt_of_le_of_ne (Nat.not_lt.mp hfits) hincomplete
          bound := hpending.bound
          declared := hdeclared.symm }
  · split
    · exact ⟨hheld, (by rintro _ ⟨⟩)⟩
    rename_i hheader
    split
    · exact ⟨hheld, (by rintro _ ⟨⟩)⟩
    rename_i hfits
    split
    · rename_i hcomplete
      refine ⟨(by rintro _ ⟨⟩), ?_⟩
      intro bytes hbytes
      cases hbytes
      rw [hcomplete, Nat.add_comm]
    · rename_i hincomplete
      refine ⟨?_, (by rintro _ ⟨⟩)⟩
      intro pending' hpending'
      cases hpending'
      exact unfinished_start (Nat.not_lt.mp hheader)
        (Nat.lt_of_le_of_ne (Nat.not_lt.mp hfits) hincomplete)

/-- **One operation** keeps every entry unfinished. -/
theorem Sound.apply (h : assembler.Sound) (op : AssemblerOp) :
    (assembler.apply op).2.Sound ∧
      ∀ bytes, (assembler.apply op).1 = .ok (some bytes) →
        bytes.length = 4 + (le16At bytes 0).toNat := by
  cases op with
  | feed packet =>
    obtain ⟨houtput, hentry⟩ := step_entry assembler packet
    have hsound : (∀ pending, (feedEntry (assembler.entry packet.connectionHandle) packet).2 =
          some pending → pending.Unfinished) ∧
        ∀ bytes, (feedEntry (assembler.entry packet.connectionHandle) packet).1 =
          .ok (some bytes) → bytes.length = 4 + (le16At bytes 0).toNat :=
      feedEntry_sound (h packet.connectionHandle)
    constructor
    · intro handle pending hpending
      have hafter := hentry handle
      rw [entry, show (step assembler packet).2.pending[handle]? = some pending from hpending]
        at hafter
      split at hafter
      · exact hsound.1 pending hafter.symm
      · exact h handle pending hafter.symm
    · intro bytes hbytes
      exact hsound.2 bytes (houtput.symm.trans hbytes)
  | clearHandle handle =>
    refine ⟨?_, (by rintro _ ⟨⟩)⟩
    intro handle' pending hpending
    have hafter := entry_erase assembler handle handle'
    have herased : ({ pending := assembler.pending.erase handle } :
        AclAssembler).pending[handle']? = some pending := hpending
    rw [entry, herased] at hafter
    split at hafter
    · cases hafter
    · exact h handle' pending hafter.symm

theorem sound_empty : Sound {} := by
  intro handle pending h
  cases (ExtTreeMap.getElem?_empty (a := handle)).symm.trans h

/-- **Any run** from an assembler whose entries are unfinished. -/
theorem Sound.run (h : assembler.Sound) (ops : List AssemblerOp) :
    (final AclAssembler.apply assembler ops).Sound ∧
      ∀ bytes, .ok (some bytes) ∈ outputs AclAssembler.apply assembler ops →
        bytes.length = 4 + (le16At bytes 0).toNat := by
  induction ops generalizing assembler with
  | nil => exact ⟨h, fun bytes => nofun⟩
  | cons op ops ih =>
    obtain ⟨hsound, hbytes⟩ := h.apply op
    obtain ⟨hsound', hbytes'⟩ := ih hsound
    refine ⟨hsound', ?_⟩
    intro bytes hmem
    rw [outputs_cons] at hmem
    rcases List.mem_cons.mp hmem with hfirst | hmem
    · exact hbytes bytes hfirst.symm
    · exact hbytes' bytes hmem

/-- **The unfinished PDUs after any packets**: every entry is the beginning of a PDU that declares
more bytes, and every byte string handed out has the length it declares, so that nothing of it is
lost when it is read. -/
theorem unfinished_run (ops : List AssemblerOp) :
    (∀ (handle : UInt16) (pending : PendingAcl),
      (final apply {} ops).pending[handle]? = some pending →
      4 ≤ pending.data.length ∧ pending.data.length < pending.expected ∧
        pending.expected ≤ 65539 ∧ pending.expected = 4 + (le16At pending.data 0).toNat) ∧
    ∀ bytes, .ok (some bytes) ∈ outputs apply {} ops →
      bytes.length = 4 + (le16At bytes 0).toNat ∧
        L2capPdu.fromBytes bytes = .ok { cid := le16At bytes 2, payload := bytes.drop 4 } := by
  obtain ⟨hsound, hbytes⟩ := sound_empty.run ops
  constructor
  · intro handle pending hpending
    have h := hsound handle pending hpending
    exact ⟨h.header, h.unfinished, h.bound, h.declared⟩
  · intro bytes hmem
    have hlength := hbytes bytes hmem
    exact ⟨hlength, L2capPdu.fromBytes_eq hlength⟩

end AclAssembler

end ClassicHid

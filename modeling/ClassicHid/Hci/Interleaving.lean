import ClassicHid.Foundation.Interleaving
import ClassicHid.Hci.Acl

/-!
# Interleaved fragments

The fragments of PDUs of many connections may arrive in any order that keeps the order of each
connection: the assembler treats a packet by the entry of its handle alone, so each connection gets
its own PDUs, each one with its last fragment.

## Main definitions

* `AclAssembler.feedEntry`: a packet and the unfinished PDU of its handle
* `Transfer`: a PDU with the options it is cut with
* `Transfer.fragments`, `Transfer.outcomes`: its packets, and what the assembler says to each

## Main results

* `AclAssembler.localizes`: the assembler is one machine for each handle
* `Transfer.outputs_fragments`: the fragments of one PDU
* `AclAssembler.interleaved_fragments`: any interleaving of the fragments of many
-/

namespace ClassicHid

open Foundation
open Std (ExtTreeMap)

namespace AclAssembler

/-- One packet and the unfinished PDU of its handle. -/
def feedEntry (entry : Option PendingAcl) (packet : AclPacket) :
    Except CodecError (Option Bytes) × Option PendingAcl :=
  if packet.packetBoundary = aclContinuation then
    match entry with
    | none => (.error (.unexpectedContinuation packet.connectionHandle), none)
    | some pending =>
      let data := pending.data ++ packet.data
      if data.length > pending.expected then
        (.error (.continuationOverflow pending.expected data.length), none)
      else if data.length = pending.expected then (.ok (some data), none)
      else (.ok none, some { pending with data := data })
  else if packet.data.length < 4 then (.error .invalidL2capPdu, entry)
  else
    let expected := (le16At packet.data 0).toNat + 4
    if packet.data.length > expected then
      (.error (.continuationOverflow expected packet.data.length), entry)
    else if packet.data.length = expected then (.ok (some packet.data), none)
    else (.ok none, some { expected := expected, data := packet.data })

/-- One packet, as a machine. -/
def step (assembler : AclAssembler) (packet : AclPacket) :
    Except CodecError (Option Bytes) × AclAssembler :=
  feed packet assembler

/-- The unfinished PDU of a handle. -/
def entry (handle : UInt16) (assembler : AclAssembler) : Option PendingAcl :=
  assembler.pending[handle]?

theorem entry_insert (assembler : AclAssembler) (handle handle' : UInt16) (pending : PendingAcl) :
    entry handle' { pending := assembler.pending.insert handle pending } =
      if handle' = handle then some pending else entry handle' assembler := by
  rw [entry, ExtTreeMap.getElem?_insert, entry]
  by_cases h : handle' = handle
  · rw [if_pos h, if_pos (by rw [h]; exact Std.ReflOrd.compare_self)]
  · rw [if_neg h, if_neg fun heq => h (Std.LawfulEqOrd.eq_of_compare heq).symm]

theorem entry_erase (assembler : AclAssembler) (handle handle' : UInt16) :
    entry handle' { pending := assembler.pending.erase handle } =
      if handle' = handle then none else entry handle' assembler := by
  rw [entry, ExtTreeMap.getElem?_erase, entry]
  by_cases h : handle' = handle
  · rw [if_pos h, if_pos (by rw [h]; exact Std.ReflOrd.compare_self)]
  · rw [if_neg h, if_neg fun heq => h (Std.LawfulEqOrd.eq_of_compare heq).symm]

/-- What a packet does to every entry. -/
theorem step_entry (assembler : AclAssembler) (packet : AclPacket) :
    (step assembler packet).1 = (feedEntry (entry packet.connectionHandle assembler) packet).1 ∧
      ∀ handle, entry handle (step assembler packet).2 =
        if handle = packet.connectionHandle then
          (feedEntry (entry packet.connectionHandle assembler) packet).2
        else entry handle assembler := by
  have hself (handle : UInt16) : entry handle assembler =
      if handle = packet.connectionHandle then entry packet.connectionHandle assembler
      else entry handle assembler := by
    split
    · rename_i h
      rw [h]
    · rfl
  simp only [step, feed, feedEntry]
  split
  · rcases hentry : assembler.pending[packet.connectionHandle]? with _ | pending
    · simp only [entry, hentry]
      refine ⟨trivial, fun handle => ?_⟩
      have := hself handle
      rwa [entry, entry, hentry] at this
    · simp only [entry, hentry]
      split
      · exact ⟨rfl, entry_erase assembler _⟩
      split
      · exact ⟨rfl, entry_erase assembler _⟩
      · exact ⟨rfl, fun handle => entry_insert assembler _ handle _⟩
  split
  · exact ⟨rfl, hself⟩
  split
  · exact ⟨rfl, hself⟩
  split
  · exact ⟨rfl, entry_erase assembler _⟩
  · exact ⟨rfl, fun handle => entry_insert assembler _ handle _⟩

/-- **The assembler is one machine for each handle.** -/
theorem localizes : Localizes step AclPacket.connectionHandle entry feedEntry where
  output assembler packet := (step_entry assembler packet).1
  same assembler packet := by rw [(step_entry assembler packet).2, if_pos rfl]
  other assembler packet handle h := by rw [(step_entry assembler packet).2, if_neg h]

end AclAssembler

/-! ### The fragments of one PDU -/

theorem exists_mapM_ok {α β ε : Type} {f : α → Except ε β} {l : List α}
    (h : ∀ a ∈ l, ∃ b, f a = .ok b) : ∃ bs, l.mapM f = .ok bs := by
  induction l with
  | nil => exact ⟨[], rfl⟩
  | cons a l ih =>
    obtain ⟨b, hb⟩ := h a (by simp)
    obtain ⟨bs, hbs⟩ := ih fun a ha => h a (by simp [ha])
    refine ⟨b :: bs, ?_⟩
    rw [List.mapM_cons, hb, hbs]
    rfl

/-- A PDU with the options it is cut with. A packet of less than four bytes cannot start a PDU. -/
structure Transfer where
  pdu : Bytes
  payloadSize : ℕ
  broadcastFlag : UInt8
  flushable : Bool
  wellFormed : WellFormedPdu pdu
  four_le : 4 ≤ payloadSize
  payloadSize_le : payloadSize ≤ 65535
  broadcast_le : broadcastFlag ≤ 3

namespace Transfer

/-- The packets of a PDU, cut for a handle. -/
def fragments (handle : UInt16) (transfer : Transfer) : List AclPacket :=
  ((fragmentL2capPdu handle transfer.broadcastFlag transfer.payloadSize transfer.pdu
    transfer.flushable).toOption).getD []

/-- What the assembler says to the packets: nothing before the last one completes the PDU. -/
def outcomes (handle : UInt16) (transfer : Transfer) :
    List (Except CodecError (Option Bytes)) :=
  List.replicate ((transfer.fragments handle).length - 1) (.ok none) ++
    [.ok (some transfer.pdu)]

/-- A well-formed PDU is cut for every handle that a packet can carry. -/
theorem fragmentL2capPdu_eq {handle : UInt16} (hhandle : handle ≤ 0x0FFF) (transfer : Transfer) :
    fragmentL2capPdu handle transfer.broadcastFlag transfer.payloadSize transfer.pdu
      transfer.flushable = .ok (transfer.fragments handle) := by
  have hfour := transfer.four_le
  have hpdu := transfer.wellFormed.1
  have hcut : ∃ packets, fragmentL2capPdu handle transfer.broadcastFlag transfer.payloadSize
      transfer.pdu transfer.flushable = .ok packets := by
    rw [fragmentL2capPdu, if_neg (by omega), if_neg (not_not.mpr transfer.wellFormed.2)]
    apply exists_mapM_ok
    rintro ⟨data, index⟩ hdata
    have hlength := length_le_of_mem_chunks (List.fst_mem_of_mem_zipIdx hdata)
    have hboundary : fragmentBoundary transfer.flushable index ≤ 3 := by
      unfold fragmentBoundary
      split
      · split <;> decide
      · decide
    exact ⟨_, AclPacket.new_eq_ok hhandle hboundary transfer.broadcast_le
      (Nat.le_trans hlength transfer.payloadSize_le)⟩
  obtain ⟨packets, hcut⟩ := hcut
  rw [fragments, hcut]
  rfl

/-- The later fragments of a PDU: nothing before the last one completes it. -/
theorem outputs_continuations {expected : ℕ} {packets : List AclPacket}
    (hpackets : ∀ p ∈ packets, p.packetBoundary = aclContinuation ∧ p.data ≠ [])
    (hne : packets ≠ []) {data : Bytes}
    (hlength : data.length + (packets.flatMap (·.data)).length = expected) :
    outputs AclAssembler.feedEntry (some ⟨expected, data⟩) packets =
        List.replicate (packets.length - 1) (.ok none) ++
          [.ok (some (data ++ packets.flatMap (·.data)))] ∧
      final AclAssembler.feedEntry (some ⟨expected, data⟩) packets = none := by
  induction packets generalizing data with
  | nil => exact absurd rfl hne
  | cons packet packets ih =>
    obtain ⟨hboundary, hdata⟩ := hpackets packet (by simp)
    have hpos := List.length_pos_of_ne_nil hdata
    rw [List.flatMap_cons, List.length_append] at hlength
    rcases eq_or_ne packets [] with rfl | hrest
    · rw [List.flatMap_nil, List.length_nil] at hlength
      have hfeed : AclAssembler.feedEntry (some ⟨expected, data⟩) packet =
          (.ok (some (data ++ packet.data)), none) := by
        simp [AclAssembler.feedEntry, hboundary,
          show data.length + packet.data.length = expected by omega]
      rw [outputs_cons, final_cons, hfeed]
      simp
    · have hlater : 0 < (packets.flatMap (·.data)).length := by
        obtain ⟨later, packets, rfl⟩ := List.exists_cons_of_ne_nil hrest
        have := List.length_pos_of_ne_nil (hpackets later (by simp)).2
        rw [List.flatMap_cons, List.length_append]
        omega
      have hfeed : AclAssembler.feedEntry (some ⟨expected, data⟩) packet =
          (.ok none, some ⟨expected, data ++ packet.data⟩) := by
        simp [AclAssembler.feedEntry, hboundary,
          show ¬ expected < data.length + packet.data.length by omega,
          show data.length + packet.data.length ≠ expected by omega]
      obtain ⟨houtputs, hfinal⟩ := ih (fun p hp => hpackets p (by simp [hp])) hrest
        (show (data ++ packet.data).length + (packets.flatMap (·.data)).length = expected by
          rw [List.length_append]; omega)
      have hcount : (packet :: packets).length - 1 = (packets.length - 1) + 1 := by
        have := List.length_pos_of_ne_nil hrest
        rw [List.length_cons]
        omega
      rw [outputs_cons, final_cons, hfeed, hcount, List.replicate_succ]
      dsimp only
      rw [houtputs, List.append_assoc]
      exact ⟨rfl, hfinal⟩

/-- **The fragments of one PDU** complete it with the last one and leave nothing behind, whatever
unfinished PDU was there before. -/
theorem outputs_fragments {handle : UInt16} (hhandle : handle ≤ 0x0FFF) (transfer : Transfer)
    (entry : Option PendingAcl) :
    outputs AclAssembler.feedEntry entry (transfer.fragments handle) = transfer.outcomes handle ∧
      final AclAssembler.feedEntry entry (transfer.fragments handle) = none := by
  obtain ⟨hpdu, hsize, first, rest, hfragments, -, hboundary, hfirst, hdata, hrest⟩ :=
    fragmentL2capPdu_ok (fragmentL2capPdu_eq hhandle transfer)
  have hfour := transfer.four_le
  have hlong := hpdu.1
  -- The length is read from the first fragment, which holds the whole header.
  have hexpected : (le16At first.data 0).toNat + 4 = transfer.pdu.length := by
    rw [hfirst, ← hpdu.2]
    conv_rhs => rw [← List.take_append_drop transfer.payloadSize transfer.pdu]
    rw [le16At_append]
    rw [List.length_take]
    omega
  have hlength : first.data.length = min transfer.payloadSize transfer.pdu.length := by
    rw [hfirst, List.length_take]
  rw [outcomes, hfragments, outputs_cons, final_cons]
  rcases Nat.lt_or_ge transfer.payloadSize transfer.pdu.length with hlt | hle
  · have hfeed : AclAssembler.feedEntry entry first =
        (.ok none, some ⟨transfer.pdu.length, first.data⟩) := by
      simp only [AclAssembler.feedEntry, if_neg hboundary, hexpected]
      rw [if_neg (by omega), if_neg (by omega), if_neg (by omega)]
    have hflat : rest.flatMap (·.data) = transfer.pdu.drop transfer.payloadSize := by
      rw [List.flatMap_def, hdata, flatten_chunks hsize]
    have hne : rest ≠ [] := by
      rintro rfl
      have hempty := congrArg List.length hflat
      rw [List.flatMap_nil, List.length_nil, List.length_drop] at hempty
      omega
    have hpieces : ∀ p ∈ rest, p.packetBoundary = aclContinuation ∧ p.data ≠ [] := by
      intro p hp
      have hpiece : p.data ∈ chunks transfer.payloadSize
          (transfer.pdu.drop transfer.payloadSize) := by
        rw [← hdata]
        exact List.mem_map_of_mem hp
      exact ⟨(hrest p hp).2, nonempty_of_mem_chunks hpiece⟩
    have hwhole : first.data ++ rest.flatMap (·.data) = transfer.pdu := by
      rw [hflat, hfirst, List.take_append_drop]
    obtain ⟨houtputs, hfinal⟩ := outputs_continuations hpieces hne
      (by rw [← List.length_append, hwhole])
    have hcount : (first :: rest).length - 1 = (rest.length - 1) + 1 := by
      have := List.length_pos_of_ne_nil hne
      rw [List.length_cons]
      omega
    rw [hfeed, hcount, List.replicate_succ]
    dsimp only
    rw [houtputs, hwhole]
    exact ⟨rfl, hfinal⟩
  · have hall : first.data = transfer.pdu := by rw [hfirst, List.take_of_length_le hle]
    have hnil : rest = [] := by
      rw [List.drop_eq_nil_of_le hle, chunks_nil, List.map_eq_nil_iff] at hdata
      exact hdata
    have hfeed : AclAssembler.feedEntry entry first = (.ok (some transfer.pdu), none) := by
      simp only [AclAssembler.feedEntry, if_neg hboundary, hexpected]
      rw [if_neg (by omega), if_neg (by omega), if_pos (by omega), hall]
    rw [hnil, hfeed]
    exact ⟨rfl, rfl⟩

/-- The fragments of a list of PDUs for one handle. -/
theorem outputs_flatMap_fragments {handle : UInt16} (hhandle : handle ≤ 0x0FFF)
    (transfers : List Transfer) (entry : Option PendingAcl) :
    outputs AclAssembler.feedEntry entry (transfers.flatMap (fragments handle)) =
        transfers.flatMap (outcomes handle) ∧
      final AclAssembler.feedEntry entry (transfers.flatMap (fragments handle)) =
        if transfers = [] then entry else none := by
  induction transfers generalizing entry with
  | nil => exact ⟨rfl, rfl⟩
  | cons transfer transfers ih =>
    obtain ⟨houtputs, hfinal⟩ := transfer.outputs_fragments hhandle entry
    obtain ⟨hrest, hend⟩ := ih none
    rw [List.flatMap_cons, List.flatMap_cons, outputs_append, final_append, houtputs, hfinal, hrest,
      hend]
    simp

end Transfer

/-! ### The fragments of many connections -/

/-- An interleaving of the fragments of the PDUs of each handle, that keeps their order. -/
def Interleaves (handles : List UInt16) (transfers : UInt16 → List Transfer)
    (stream : List AclPacket) : Prop :=
  ∀ handle, (stream.filter fun packet => packet.connectionHandle = handle) =
    if handle ∈ handles then (transfers handle).flatMap (Transfer.fragments handle) else []

/-- **Any interleaving of fragments**, from any assembler: every PDU of a handle can be cut, no
packet is an error, each handle gets exactly its PDUs, each one with its last fragment, and nothing
is left of a handle that had a PDU; the entry of a handle without one is what it was. -/
theorem AclAssembler.interleaved_fragments (assembler : AclAssembler) (handles : List UInt16)
    (hhandles : ∀ handle ∈ handles, handle ≤ 0x0FFF) (transfers : UInt16 → List Transfer)
    (stream : List AclPacket) (hstream : Interleaves handles transfers stream) :
    (∀ handle ∈ handles, ∀ transfer ∈ transfers handle,
      fragmentL2capPdu handle transfer.broadcastFlag transfer.payloadSize transfer.pdu
        transfer.flushable = .ok (transfer.fragments handle)) ∧
    (∀ outcome ∈ outputs step assembler stream, ∃ completed, outcome = .ok completed) ∧
    ∀ handle ∈ handles,
      outputsOf step AclPacket.connectionHandle assembler stream handle =
        (transfers handle).flatMap (Transfer.outcomes handle) ∧
      entry handle (final step assembler stream) =
        if transfers handle = [] then entry handle assembler else none := by
  have hone (handle : UInt16) (hhandle : handle ∈ handles) :
      outputsOf step AclPacket.connectionHandle assembler stream handle =
          (transfers handle).flatMap (Transfer.outcomes handle) ∧
        entry handle (final step assembler stream) =
          if transfers handle = [] then entry handle assembler else none := by
    have hfilter := hstream handle
    rw [if_pos hhandle] at hfilter
    obtain ⟨houtputs, hfinal⟩ := Transfer.outputs_flatMap_fragments (hhandles handle hhandle)
      (transfers handle) (entry handle assembler)
    rw [localizes.outputs, localizes.final, hfilter]
    exact ⟨houtputs, hfinal⟩
  refine ⟨fun handle hhandle transfer _ =>
    Transfer.fragmentL2capPdu_eq (hhandles handle hhandle) transfer, ?_, hone⟩
  -- Every outcome is one of the handle of its packet.
  intro outcome houtcome
  obtain ⟨packet, hpacket⟩ := exists_zip_of_mem_outputs houtcome
  have hhandle : packet.connectionHandle ∈ handles := by
    by_contra hnot
    have hfilter := hstream packet.connectionHandle
    rw [if_neg hnot, List.filter_eq_nil_iff] at hfilter
    exact hfilter packet (List.of_mem_zip hpacket).1 (decide_eq_true rfl)
  have hmem : outcome ∈ outputsOf step AclPacket.connectionHandle assembler stream
      packet.connectionHandle :=
    List.mem_map.mpr ⟨(packet, outcome), List.mem_filter.mpr ⟨hpacket, decide_eq_true rfl⟩, rfl⟩
  rw [(hone _ hhandle).1] at hmem
  obtain ⟨transfer, _, hmem⟩ := List.mem_flatMap.mp hmem
  rcases List.mem_append.mp hmem with hmem | hmem
  · exact ⟨none, List.eq_of_mem_replicate hmem⟩
  · exact ⟨some transfer.pdu, List.mem_singleton.mp hmem⟩

/-- A PDU of two packets. -/
def sampleTransfer : Transfer where
  pdu := [2, 0, 0x11, 0, 7, 8]
  payloadSize := 4
  broadcastFlag := 0
  flushable := true
  wellFormed := by decide
  four_le := by decide
  payloadSize_le := by decide
  broadcast_le := by decide

/-- Two connections with one PDU each, their packets in turns. -/
def sampleStream : List AclPacket :=
  [(⟨1, 2, 0, [2, 0, 0x11, 0], by decide, by decide, by decide, by decide⟩ : AclPacket),
    ⟨3, 2, 0, [2, 0, 0x11, 0], by decide, by decide, by decide, by decide⟩,
    ⟨3, 1, 0, [7, 8], by decide, by decide, by decide, by decide⟩,
    ⟨1, 1, 0, [7, 8], by decide, by decide, by decide, by decide⟩]

theorem AclAssembler.interleaved_fragments_sampleStream :
    (outputsOf step AclPacket.connectionHandle {} sampleStream 1).length = 2 ∧
      entry 3 (final step {} sampleStream) = none := by
  have hhandles : ∀ handle ∈ ([1, 3] : List UInt16), handle ≤ 0x0FFF := by
    simp only [List.forall_mem_cons, List.not_mem_nil, false_implies, implies_true, and_true]
    decide
  have hfragments (handle : UInt16) (h : handle ∈ ([1, 3] : List UInt16)) :
      sampleStream.filter (fun packet => packet.connectionHandle = handle) =
        [sampleTransfer].flatMap (Transfer.fragments handle) := by
    simp only [List.mem_cons, List.not_mem_nil, or_false] at h
    rcases h with rfl | rfl <;> decide +kernel
  have hstream : Interleaves [1, 3] (fun _ => [sampleTransfer]) sampleStream := by
    intro handle
    split
    · rename_i h
      exact hfragments handle h
    · rename_i h
      rw [List.filter_eq_nil_iff]
      intro packet hpacket heq
      have hhandle : ∀ packet ∈ sampleStream, packet.connectionHandle ∈ ([1, 3] : List UInt16) := by
        decide
      rw [← of_decide_eq_true heq] at h
      exact h (hhandle packet hpacket)
  obtain ⟨-, -, hresult⟩ := interleaved_fragments {} [1, 3] hhandles _ sampleStream hstream
  have houtputs := (hresult 1 (by decide)).1
  refine ⟨?_, (hresult 3 (by decide)).2⟩
  rw [houtputs]
  decide +kernel

/-- An unfinished PDU of a handle that gets no PDU stays: the first packet of the sample stream has
begun it. -/
theorem AclAssembler.stale_entry_stays :
    Interleaves [1] (fun _ => []) [] ∧
      entry 1 (final step (final step {} (sampleStream.take 1)) []) =
        some ⟨6, [2, 0, 0x11, 0]⟩ := by
  refine ⟨fun handle => ?_, by decide +kernel⟩
  split <;> rfl

end ClassicHid

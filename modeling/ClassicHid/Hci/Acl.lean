import ClassicHid.Foundation.Exec
import ClassicHid.Foundation.MapSum
import ClassicHid.Hci.Packet

/-!
# ACL fragmentation and reassembly

An L2CAP PDU is cut into ACL packets of the controller's payload size and put together again from
the length in its first two bytes.

## Main definitions

* `fragmentL2capPdu`: the ACL packets of a PDU
* `AclAssembler.feed`: one packet of a handle, and the PDU it completes
* `AclAssembler.feedAll`: a sequence of packets, and the PDUs they complete
* `WellFormedPdu`: a byte string that declares its own length

## Main results

* `fragmentL2capPdu_ok`: a well-formed PDU is cut into its pieces, the first one marked
* `AclAssembler.feedAll_fragments`: the packets of one PDU complete that PDU and no other
-/

namespace ClassicHid

open Foundation
open Std (ExtTreeMap)

/-- A PDU whose first two bytes are the number of bytes after its four-byte header. -/
def WellFormedPdu (pdu : Bytes) : Prop :=
  4 ≤ pdu.length ∧ (le16At pdu 0).toNat + 4 = pdu.length

instance (pdu : Bytes) : Decidable (WellFormedPdu pdu) := by
  unfold WellFormedPdu
  infer_instance

/-- The packet boundary flag of the fragment at position `index`. -/
def fragmentBoundary (flushable : Bool) (index : ℕ) : UInt8 :=
  if index = 0 then
    if flushable then aclFirstFlushable else aclFirstNonFlushable
  else aclContinuation

/-- The ACL packets of a PDU, cut into payloads of `aclPayloadSize` bytes. -/
def fragmentL2capPdu (connectionHandle : UInt16) (broadcastFlag : UInt8) (aclPayloadSize : ℕ)
    (pdu : Bytes) (flushable : Bool) : Except CodecError (List AclPacket) :=
  if aclPayloadSize = 0 ∨ pdu.length < 4 then .error .invalidL2capPdu
  else if (le16At pdu 0).toNat + 4 ≠ pdu.length then .error .invalidL2capPdu
  else (chunks aclPayloadSize pdu).zipIdx.mapM fun (data, index) =>
    AclPacket.new connectionHandle (fragmentBoundary flushable index) broadcastFlag data

/-- A PDU of which some bytes have arrived, and the length it will have. -/
structure PendingAcl where
  expected : ℕ
  data : Bytes
  deriving DecidableEq, Repr

/-- The unfinished PDUs, by connection handle. -/
structure AclAssembler where
  pending : ExtTreeMap UInt16 PendingAcl := ∅

namespace AclAssembler

/-- One packet: the PDU it completes, if any. -/
def feed (packet : AclPacket) : Exec AclAssembler CodecError (Option Bytes) := fun assembler =>
  let handle := packet.connectionHandle
  if packet.packetBoundary = aclContinuation then
    match assembler.pending[handle]? with
    | none => (.error (.unexpectedContinuation handle), assembler)
    | some pending =>
      let data := pending.data ++ packet.data
      if data.length > pending.expected then
        (.error (.continuationOverflow pending.expected data.length),
          { pending := assembler.pending.erase handle })
      else if data.length = pending.expected then
        (.ok (some data), { pending := assembler.pending.erase handle })
      else
        (.ok none, { pending := assembler.pending.insert handle { pending with data := data } })
  else if packet.data.length < 4 then (.error .invalidL2capPdu, assembler)
  else
    let expected := (le16At packet.data 0).toNat + 4
    if packet.data.length > expected then
      (.error (.continuationOverflow expected packet.data.length), assembler)
    else if packet.data.length = expected then
      (.ok (some packet.data), { pending := assembler.pending.erase handle })
    else
      (.ok none,
        { pending := assembler.pending.insert handle { expected := expected, data := packet.data } })

def clearHandle (connectionHandle : UInt16) (assembler : AclAssembler) : AclAssembler :=
  { pending := assembler.pending.erase connectionHandle }

/-- A sequence of packets: the PDUs they complete, in order. -/
def feedAll : List AclPacket → Exec AclAssembler CodecError (List Bytes)
  | [] => pure []
  | packet :: packets => do
      let completed ← feed packet
      let rest ← feedAll packets
      pure (completed.toList ++ rest)

/-! ### Feeding sequences -/

theorem feedAll_cons {packet : AclPacket} {packets : List AclPacket} {a a' : AclAssembler}
    {completed : Option Bytes} (h : feed packet a = (.ok completed, a')) :
    feedAll (packet :: packets) a =
      ((feedAll packets a').1.map (completed.toList ++ ·), (feedAll packets a').2) := by
  rw [feedAll, Exec.bind_ok h, Exec.bind_apply]
  rcases feedAll packets a' with ⟨_ | rest, a''⟩ <;> rfl

/-- A sequence that fails at no packet may be fed in two parts. -/
theorem feedAll_append {l₁ l₂ : List AclPacket} {a a' : AclAssembler} {pdus : List Bytes}
    (h : feedAll l₁ a = (.ok pdus, a')) :
    feedAll (l₁ ++ l₂) a = ((feedAll l₂ a').1.map (pdus ++ ·), (feedAll l₂ a').2) := by
  induction l₁ generalizing a pdus with
  | nil =>
    cases h
    rcases h₂ : feedAll l₂ a' with ⟨_ | rest, a''⟩ <;> simp [h₂, Except.map]
  | cons packet l₁ ih =>
    rw [feedAll, Exec.bind_eq_ok] at h
    obtain ⟨completed, a₁, hfeed, h⟩ := h
    rw [Exec.bind_eq_ok] at h
    obtain ⟨rest, a₂, hrest, h⟩ := h
    cases h
    rw [List.cons_append, feedAll_cons hfeed, ih hrest]
    rcases feedAll l₂ a' with ⟨_ | more, a₃⟩ <;> simp [Except.map]

/-- The later fragments of a PDU complete it, on the last one. -/
theorem feedAll_continuations {handle : UInt16} {expected : ℕ} {packets : List AclPacket}
    (hp : ∀ p ∈ packets, p.connectionHandle = handle ∧ p.packetBoundary = aclContinuation ∧
      p.data ≠ [])
    (hne : packets ≠ []) {a : AclAssembler} {data : Bytes}
    (ha : data.length + (packets.flatMap (·.data)).length = expected) :
    feedAll packets { pending := a.pending.insert handle ⟨expected, data⟩ } =
      (.ok [data ++ packets.flatMap (·.data)], { pending := a.pending.erase handle }) := by
  induction packets generalizing data with
  | nil => exact absurd rfl hne
  | cons packet packets ih =>
    obtain ⟨hh, hb, hd⟩ := hp packet (by simp)
    have hpos := List.length_pos_of_ne_nil hd
    simp only [List.flatMap_cons, List.length_append] at ha
    rcases eq_or_ne packets [] with rfl | hrest
    · have hfeed : feed packet { pending := a.pending.insert handle ⟨expected, data⟩ } =
          (.ok (some (data ++ packet.data)), { pending := a.pending.erase handle }) := by
        simp only [List.flatMap_nil, List.length_nil] at ha
        simp [feed, hb, hh, show data.length + packet.data.length = expected by omega,
          erase_insert_self]
      rw [feedAll_cons hfeed]
      simp [feedAll, Except.map]
    · have hlater : 0 < (packets.flatMap (·.data)).length := by
        obtain ⟨q, packets, rfl⟩ := List.exists_cons_of_ne_nil hrest
        have := List.length_pos_of_ne_nil (hp q (by simp)).2.2
        simp only [List.flatMap_cons, List.length_append]
        omega
      have hfeed : feed packet { pending := a.pending.insert handle ⟨expected, data⟩ } =
          (.ok none,
            { pending := a.pending.insert handle ⟨expected, data ++ packet.data⟩ }) := by
        simp [feed, hb, hh, show ¬ expected < data.length + packet.data.length by omega,
          show data.length + packet.data.length ≠ expected by omega, insert_insert_self]
      rw [feedAll_cons hfeed, ih (fun p h => hp p (by simp [h])) hrest
        (by simp only [List.length_append]; omega)]
      simp [Except.map]

end AclAssembler

/-! ### Fragments -/

/-- The fragments of the pieces that follow the first one. -/
theorem mapM_continuations {handle : UInt16} {flushable : Bool} {broadcast : UInt8}
    {pieces : List Bytes} {n : ℕ} {packets : List AclPacket} (hn : n ≠ 0)
    (h : (pieces.zipIdx n).mapM (fun (data, index) =>
      AclPacket.new handle (fragmentBoundary flushable index) broadcast data) = .ok packets) :
    packets.map (·.data) = pieces ∧
      ∀ p ∈ packets, p.connectionHandle = handle ∧ p.packetBoundary = aclContinuation := by
  induction pieces generalizing n packets with
  | nil =>
    cases h
    simp
  | cons piece pieces ih =>
    rw [List.zipIdx_cons, List.mapM_cons] at h
    rcases hp : AclPacket.new handle (fragmentBoundary flushable n) broadcast piece with _ | packet
    · simp [hp, bind, Except.bind] at h
    rcases hps : (pieces.zipIdx (n + 1)).mapM (fun (data, index) =>
      AclPacket.new handle (fragmentBoundary flushable index) broadcast data) with _ | rest
    · simp [hp, hps, bind, Except.bind] at h
    simp only [hp, hps, bind, Except.bind, pure, Except.pure, Except.ok.injEq] at h
    subst h
    obtain ⟨hdata, hrest⟩ := ih (by omega) hps
    obtain ⟨hh, hb, -, hd⟩ := AclPacket.of_new hp
    refine ⟨by simp [hd, hdata], ?_⟩
    intro p hmem
    rcases List.mem_cons.mp hmem with rfl | hmem
    · exact ⟨hh, by simp [hb, fragmentBoundary, hn]⟩
    · exact hrest p hmem

/-- What a successful fragmentation says: the PDU is well formed, the first packet starts it,
and the data of the packets are its pieces. -/
theorem fragmentL2capPdu_ok {handle : UInt16} {broadcast : UInt8} {size : ℕ} {pdu : Bytes}
    {flushable : Bool} {packets : List AclPacket}
    (h : fragmentL2capPdu handle broadcast size pdu flushable = .ok packets) :
    WellFormedPdu pdu ∧ size ≠ 0 ∧ ∃ first rest, packets = first :: rest ∧
      first.connectionHandle = handle ∧ first.packetBoundary ≠ aclContinuation ∧
      first.data = pdu.take size ∧ rest.map (·.data) = chunks size (pdu.drop size) ∧
      ∀ p ∈ rest, p.connectionHandle = handle ∧ p.packetBoundary = aclContinuation := by
  simp only [fragmentL2capPdu] at h
  split at h
  · cases h
  rename_i hsize
  split at h
  · cases h
  rename_i hlen
  rw [not_or, Nat.not_lt] at hsize
  rw [not_not] at hlen
  have hne : pdu ≠ [] := by
    rintro rfl
    simp at hsize
  rw [chunks_of_ne_nil hsize.1 hne, List.zipIdx_cons, List.mapM_cons] at h
  rcases hf : AclPacket.new handle (fragmentBoundary flushable 0) broadcast (pdu.take size) with
    _ | first
  · simp [hf, bind, Except.bind] at h
  rcases hr : ((chunks size (pdu.drop size)).zipIdx (0 + 1)).mapM (fun (data, index) =>
    AclPacket.new handle (fragmentBoundary flushable index) broadcast data) with _ | rest
  · simp [hf, hr, bind, Except.bind] at h
  simp only [hf, hr, bind, Except.bind, pure, Except.pure, Except.ok.injEq] at h
  obtain ⟨hh, hb, -, hd⟩ := AclPacket.of_new hf
  obtain ⟨hdata, hrest⟩ := mapM_continuations (by omega) hr
  refine ⟨⟨hsize.2, hlen⟩, hsize.1, first, rest, h.symm, hh, ?_, hd, hdata, hrest⟩
  rw [hb]
  cases flushable <;> decide

/-- Every fragment carries the handle it was cut for. -/
theorem handle_of_mem_fragments {handle : UInt16} {broadcast : UInt8} {size : ℕ} {pdu : Bytes}
    {flushable : Bool} {packets : List AclPacket}
    (h : fragmentL2capPdu handle broadcast size pdu flushable = .ok packets) :
    ∀ p ∈ packets, p.connectionHandle = handle := by
  obtain ⟨-, -, first, rest, rfl, hh, -, -, -, hrest⟩ := fragmentL2capPdu_ok h
  intro p hp
  rcases List.mem_cons.mp hp with rfl | hp
  · exact hh
  · exact (hrest p hp).1

/-- A PDU that fits into one packet is not cut. -/
theorem fragmentL2capPdu_single {handle : UInt16} {size : ℕ} {pdu : Bytes}
    (hhandle : handle ≤ 0x0FFF) (hwf : WellFormedPdu pdu) (hsize : pdu.length ≤ size)
    (hlength : pdu.length ≤ 65535) :
    ∃ packet, fragmentL2capPdu handle 0 size pdu false = .ok [packet] ∧
      packet.connectionHandle = handle ∧ packet.data = pdu := by
  have hboundary : fragmentBoundary false 0 ≤ 3 := by decide
  have hbroadcast : (0 : UInt8) ≤ 3 := by decide
  have hnew := AclPacket.new_eq_ok hhandle hboundary hbroadcast hlength
  refine ⟨⟨handle, fragmentBoundary false 0, 0, pdu, hhandle, hboundary, hbroadcast, hlength⟩, ?_,
    rfl, rfl⟩
  have hpos := hwf.1
  have hne : pdu ≠ [] := List.ne_nil_of_length_pos (by omega)
  rw [fragmentL2capPdu, if_neg (by omega), if_neg (not_not.mpr hwf.2),
    chunks_of_ne_nil (by omega) hne, List.take_of_length_le hsize, List.drop_of_length_le hsize,
    chunks_nil, List.zipIdx_cons, List.zipIdx_nil, List.mapM_cons, List.mapM_nil]
  dsimp only
  rw [hnew]
  rfl

/-- There are at most as many fragments as bytes. -/
theorem length_fragments_le {handle : UInt16} {broadcast : UInt8} {size : ℕ} {pdu : Bytes}
    {flushable : Bool} {packets : List AclPacket}
    (h : fragmentL2capPdu handle broadcast size pdu flushable = .ok packets) :
    packets.length ≤ pdu.length := by
  obtain ⟨hwf, hsize, first, rest, rfl, -, -, -, hdata, -⟩ := fragmentL2capPdu_ok h
  have hrest : rest.length = (chunks size (pdu.drop size)).length := by
    rw [← hdata, List.length_map]
  have hle := length_chunks_le size (pdu.drop size)
  have hpdu := hwf.1
  simp only [List.length_drop] at hle
  simp only [List.length_cons]
  omega

/-- **Reassembly**: from any assembler, the fragments of a PDU complete that PDU and no other,
and leave nothing of their handle behind. -/
theorem AclAssembler.feedAll_fragments {handle : UInt16} {broadcast : UInt8} {size : ℕ}
    {pdu : Bytes} {flushable : Bool} {packets : List AclPacket} (hsize : 4 ≤ size)
    (h : fragmentL2capPdu handle broadcast size pdu flushable = .ok packets)
    (a : AclAssembler) :
    feedAll packets a = (.ok [pdu], { pending := a.pending.erase handle }) := by
  obtain ⟨hwf, hs, first, rest, rfl, hh, hb, hd, hdata, hrest⟩ := fragmentL2capPdu_ok h
  have h4 := hwf.1
  -- The length is read from the first fragment, which holds the whole header.
  have hexp : (le16At first.data 0).toNat + 4 = pdu.length := by
    rw [hd, ← hwf.2]
    conv_rhs => rw [← List.take_append_drop size pdu]
    rw [le16At_append]
    simp only [List.length_take]
    omega
  have hfirst : ¬ first.data.length < 4 := by
    rw [hd]
    simp only [List.length_take]
    omega
  rcases Nat.lt_or_ge size pdu.length |>.symm with hle | hlt
  · have hall : first.data = pdu := by rw [hd, List.take_of_length_le hle]
    have hnil : rest = [] := by
      rw [List.drop_eq_nil_of_le hle, chunks_nil, List.map_eq_nil_iff] at hdata
      exact hdata
    have hfeed : feed first a = (.ok (some pdu), { pending := a.pending.erase handle }) := by
      simp only [feed, if_neg hb, if_neg hfirst, hexp, hh]
      simp [hall]
    rw [hnil, feedAll_cons hfeed]
    simp [feedAll, Except.map]
  · have hlen : first.data.length = size := by rw [hd, List.length_take]; omega
    have hfeed : feed first a =
        (.ok none, { pending := a.pending.insert handle ⟨pdu.length, first.data⟩ }) := by
      simp only [feed, if_neg hb, if_neg hfirst, hexp, hh]
      rw [if_neg (by omega), if_neg (by omega)]
    have hflat : rest.flatMap (·.data) = pdu.drop size := by
      rw [List.flatMap_def, hdata, flatten_chunks hs]
    have hne : rest ≠ [] := by
      rintro rfl
      have := congrArg List.length hflat
      simp only [List.flatMap_nil, List.length_nil, List.length_drop] at this
      omega
    have hp : ∀ p ∈ rest, p.connectionHandle = handle ∧ p.packetBoundary = aclContinuation ∧
        p.data ≠ [] := by
      intro p hp
      refine ⟨(hrest p hp).1, (hrest p hp).2,
        nonempty_of_mem_chunks (l := pdu.drop size) (n := size) ?_⟩
      rw [← hdata]
      exact List.mem_map_of_mem hp
    rw [feedAll_cons hfeed, feedAll_continuations hp hne (by
      rw [hflat, List.length_drop, hlen]; omega), hflat, hd, List.take_append_drop]
    simp [Except.map]

end ClassicHid

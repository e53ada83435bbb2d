import ClassicHid.Foundation.Exec
import ClassicHid.Foundation.Framing
import ClassicHid.Hci.Codec

/-!
# The USB transport

A USB controller delivers events on its interrupt endpoint and ACL packets on a bulk endpoint. A
transfer need not end where a packet does: it may hold part of one, or several. The transport reads
the two endpoints in turn, keeps what it has of an unfinished packet in a buffer of the endpoint,
and queues the packets that are complete.

## Main definitions

* `UsbIo B`: the reads of a backend
* `framePackets`: the complete packets of a buffer
* `UsbTransport.pollPacket`, `UsbTransport.polls`: one poll of the transport, and several

## Main results

* `framePackets_eq_cut`: the framer takes the packets that have arrived
* `UsbTransport.Framed.poll`: a poll keeps the two streams apart and loses nothing
* `usb_framing`: the packets delivered do not depend on how the streams are cut into transfers
-/

namespace ClassicHid

open Foundation

def maxHciPacketSize : ℕ := 4096

inductive UsbTransferError
  | timeout
  | disconnected
  | access
  | other (message : String)
  deriving DecidableEq, Repr

/-- The failures of reading. -/
inductive UsbError
  | transfer (error : UsbTransferError)
  | codec (error : CodecError)
  | packetTooLarge (declared maximum : ℕ)
  deriving DecidableEq, Repr

/-- The reads of a backend: the bytes it puts into the buffer of its caller. -/
class UsbIo (B : Type) where
  readInterrupt (endpoint : UInt8) : B → Except UsbTransferError Bytes × B
  readBulk (endpoint : UInt8) : B → Except UsbTransferError Bytes × B

/-- The endpoints that are read. -/
structure UsbLayout where
  interruptIn : UInt8
  bulkIn : UInt8
  deriving DecidableEq, Repr

structure UsbTransport (B : Type) where
  backend : B
  layout : UsbLayout
  nextEndpoint : Bool := false
  eventBytes : Bytes := []
  aclBytes : Bytes := []
  pending : List Packet := []
  shutdown : Bool := false

/-! ### Framing -/

/-- The length of the packet at the head of a buffer, without its type, once its header is there. -/
def rawLength (packetType : UInt8) (buffered : Bytes) : Except UsbError (Option ℕ) :=
  if packetType = 0x04 then
    match buffered with
    | _ :: length :: _ => .ok (some (2 + length.toNat))
    | _ => .ok none
  else if packetType = 0x02 then
    match buffered with
    | _ :: _ :: lo :: hi :: _ => .ok (some (4 + (fromLe16 lo hi).toNat))
    | _ => .ok none
  else .error (.codec (.unsupportedPacketType packetType))

/-- The packets taken from a buffer so far, and the buffer. -/
structure Framing where
  packets : List Packet := []
  buffered : Bytes

/-- Take the next packet from the buffer; the result says whether there was one. -/
def frameOne (packetType : UInt8) : Exec Framing UsbError Bool := do
  let framing ← Exec.get
  match ← Exec.lift (rawLength packetType framing.buffered) with
  | none => pure false
  | some rawLength => do
    let declared := rawLength + 1
    if declared > maxHciPacketSize then do
      Exec.modify ({ · with buffered := [] })
      Exec.fail (.packetTooLarge declared maxHciPacketSize)
    else if framing.buffered.length < rawLength then pure false
    else do
      Exec.modify ({ · with buffered := framing.buffered.drop rawLength })
      let packet ← Exec.lift
        ((Packet.fromBytes (packetType :: framing.buffered.take rawLength)).mapError .codec)
      Exec.modify ({ · with packets := framing.packets ++ [packet] })
      pure true

/-- The complete packets of a buffer, which keeps the rest. -/
def framePackets (packetType : UInt8) : Exec Bytes UsbError (List Packet) := fun buffered =>
  match Exec.loop (·.buffered.length) (frameOne packetType) { buffered := buffered } with
  | (.ok _, framing) => (.ok framing.packets, framing.buffered)
  | (.error error, framing) => (.error error, framing.buffered)

/-! ### Polling -/

namespace UsbTransport

variable {B : Type}

/-- Take the first packet that waits. -/
def popPending (transport : UsbTransport B) : Option Packet × UsbTransport B :=
  match transport.pending with
  | [] => (none, transport)
  | packet :: pending => (some packet, { transport with pending := pending })

/-- What a transfer brought is framed, and the first packet that waits is returned. -/
def receive (events : Bool) (chunk : Bytes) : Exec (UsbTransport B) UsbError (Option Packet) :=
  fun transport =>
    let (framed, transport) :=
      if events then
        let (framed, eventBytes) := framePackets 0x04 (transport.eventBytes ++ chunk)
        (framed, { transport with eventBytes := eventBytes })
      else
        let (framed, aclBytes) := framePackets 0x02 (transport.aclBytes ++ chunk)
        (framed, { transport with aclBytes := aclBytes })
    match framed with
    | .error error => (.error error, transport)
    | .ok packets =>
      let (packet, transport) :=
        popPending { transport with pending := transport.pending ++ packets }
      (.ok packet, transport)

/-- One transfer from the endpoint whose turn it is. -/
def transfer [UsbIo B] (events : Bool) (transport : UsbTransport B) :
    Except UsbTransferError Bytes × UsbTransport B :=
  let (result, backend) :=
    if events then UsbIo.readInterrupt transport.layout.interruptIn transport.backend
    else UsbIo.readBulk transport.layout.bulkIn transport.backend
  (result, { transport with nextEndpoint := events, backend := backend })

/-- A poll when no packet waits: one transfer, from the two endpoints in turn. -/
def pollTransfer [UsbIo B] : Exec (UsbTransport B) UsbError (Option Packet) := fun transport =>
  let events := !transport.nextEndpoint
  match transfer events transport with
  | (.error .timeout, transport) => (.ok none, transport)
  | (.error error, transport) => (.error (.transfer error), transport)
  | (.ok chunk, transport) =>
    if chunk.length = 0 then (.ok none, transport)
    else if chunk.length > maxHciPacketSize - 1 then
      (.error (.transfer (.other "USB backend returned a count larger than its buffer")), transport)
    else receive events chunk transport

/-- One poll: a packet that waits, or else what one transfer brings. -/
def pollPacket [UsbIo B] : Exec (UsbTransport B) UsbError (Option Packet) := fun transport =>
  if transport.shutdown then (.ok none, transport)
  else
    match popPending transport with
    | (some packet, transport) => (.ok (some packet), transport)
    | (none, transport) => pollTransfer transport

/-- The results of a number of polls, and the transport after them. -/
def polls [UsbIo B] : ℕ → UsbTransport B →
    List (Except UsbError (Option Packet)) × UsbTransport B
  | 0, transport => ([], transport)
  | n + 1, transport =>
    let (result, transport) := pollPacket transport
    let (results, transport) := polls n transport
    (result :: results, transport)

end UsbTransport

/-! ### The packets of a stream -/

/-- An event as it stands in the stream of its endpoint, without its type. -/
def EventPacket.raw (packet : EventPacket) : Bytes :=
  [packet.eventCode, UInt8.ofNat packet.parameters.length] ++ packet.parameters

/-- An ACL packet as it stands in the stream of its endpoint, without its type. -/
def AclPacket.raw (packet : AclPacket) : Bytes :=
  toLe16 (header packet.connectionHandle packet.packetBoundary packet.broadcastFlag) ++
    toLe16 (UInt16.ofNat packet.data.length) ++ packet.data

/-- An event is never too large. -/
theorem EventPacket.raw_length (packet : EventPacket) : packet.raw.length < maxHciPacketSize := by
  have hlength := packet.length_le
  simp only [EventPacket.raw, List.cons_append, List.nil_append, List.length_cons, maxHciPacketSize]
  omega

/-- The packets of one family, as the framer of their type sees them: each can be read back, its
header says how long it is, and until the header is there nothing is known. -/
structure Family {α : Type} (packetType : UInt8) (raw : α → Bytes) (wrap : α → Packet) : Prop where
  fromBytes (item : α) : Packet.fromBytes (packetType :: raw item) = .ok (wrap item)
  empty : rawLength packetType [] = .ok none
  complete (item : α) (more : Bytes) :
    rawLength packetType (raw item ++ more) = .ok (some (raw item).length)
  begun {item : α} {bytes : Bytes} : bytes <+: raw item →
    rawLength packetType bytes = .ok none ∨
      rawLength packetType bytes = .ok (some (raw item).length)

theorem rawLength_event (packet : EventPacket) (code : UInt8) (rest : Bytes) :
    rawLength 0x04 (code :: UInt8.ofNat packet.parameters.length :: rest) =
      .ok (some packet.raw.length) := by
  simp only [rawLength, if_true, toNat_ofNat_length packet.length_le, EventPacket.raw,
    List.cons_append, List.nil_append, List.length_cons]
  rw [Nat.add_comm]

theorem eventFamily : Family 0x04 EventPacket.raw Packet.event where
  fromBytes packet := Packet.fromBytes_toBytes (.event packet)
  empty := rfl
  complete packet more := rawLength_event packet packet.eventCode (packet.parameters ++ more)
  begun {packet bytes} h := by
    obtain ⟨rest, hrest⟩ := h
    rcases bytes with _ | ⟨code, _ | ⟨length, bytes⟩⟩
    · exact .inl rfl
    · exact .inl rfl
    · simp only [EventPacket.raw, List.cons_append, List.nil_append, List.cons.injEq] at hrest
      obtain ⟨-, rfl, -⟩ := hrest
      exact .inr (rawLength_event packet code bytes)

theorem rawLength_acl (packet : AclPacket) (b₀ b₁ : UInt8) (rest : Bytes) :
    rawLength 0x02 (b₀ :: b₁ :: (toLe16 (UInt16.ofNat packet.data.length) ++ rest)) =
      .ok (some packet.raw.length) := by
  have hlength : (UInt16.ofNat packet.data.length).toNat = packet.data.length :=
    UInt16.toNat_ofNat_of_lt' (Nat.lt_succ_of_le packet.length_le)
  have hraw : packet.raw.length = 4 + packet.data.length := by
    simp only [AclPacket.raw, toLe16, List.cons_append, List.nil_append, List.length_cons]
    omega
  simp only [rawLength, toLe16, List.cons_append, List.nil_append]
  rw [if_neg (by decide), if_pos trivial, fromLe16_toLe16, hlength, hraw]

theorem aclFamily : Family 0x02 AclPacket.raw Packet.acl where
  fromBytes packet := Packet.fromBytes_toBytes (.acl packet)
  empty := rfl
  complete packet more := by
    have hraw := rawLength_acl packet (UInt8.ofNat (AclPacket.header packet.connectionHandle
      packet.packetBoundary packet.broadcastFlag).toNat) (UInt8.ofNat ((AclPacket.header
      packet.connectionHandle packet.packetBoundary packet.broadcastFlag).toNat / 256))
      (packet.data ++ more)
    rw [← hraw, AclPacket.raw]
    simp [toLe16]
  begun {packet bytes} h := by
    obtain ⟨rest, hrest⟩ := h
    rcases bytes with _ | ⟨b₀, _ | ⟨b₁, _ | ⟨b₂, _ | ⟨b₃, bytes⟩⟩⟩⟩
    · exact .inl rfl
    · exact .inl rfl
    · exact .inl rfl
    · exact .inl rfl
    · simp only [AclPacket.raw, toLe16, List.cons_append, List.nil_append,
        List.cons.injEq] at hrest
      obtain ⟨-, -, rfl, rfl, -⟩ := hrest
      exact .inr (rawLength_acl packet b₀ b₁ bytes)

/-! ### The framer -/

section Framer

variable {α : Type} {packetType : UInt8} {raw : α → Bytes} {wrap : α → Packet}

theorem rawLength_pos {buffered : Bytes} {length : ℕ}
    (h : rawLength packetType buffered = .ok (some length)) : 0 < length := by
  unfold rawLength at h
  split at h
  · split at h <;> cases h
    omega
  · split at h
    · split at h <;> cases h
      omega
    · cases h

/-- Every packet that is taken makes the buffer shorter. -/
theorem frameOne_decreases :
    Exec.Decreases (fun framing : Framing => framing.buffered.length) (frameOne packetType) := by
  intro framing framing' h
  rw [frameOne, Exec.get_bind] at h
  rcases hlength : rawLength packetType framing.buffered with error | _ | length <;>
    rw [hlength] at h
  · cases h
  · cases h
  rw [Exec.lift_ok_bind] at h
  dsimp only at h
  split at h
  · cases h
  split at h
  · cases h
  rename_i hlong
  simp only [Exec.modify_bind] at h
  rcases hpacket : Packet.fromBytes (packetType :: framing.buffered.take length) with
    error | packet <;> rw [hpacket] at h
  · cases h
  · cases h
    have hpos := rawLength_pos hlength
    simp only [List.length_drop]
    omega

/-- The framer stops at a packet that is not complete. -/
theorem frameOne_begun (h : Family packetType raw wrap) {item : α} {framing : Framing}
    (hsize : (raw item).length < maxHciPacketSize) (hbegun : framing.buffered <+: raw item)
    (hshort : framing.buffered.length < (raw item).length) :
    frameOne packetType framing = (.ok false, framing) := by
  rw [frameOne, Exec.get_bind]
  rcases h.begun hbegun with hlength | hlength
  · rw [hlength]
    rfl
  · rw [hlength, Exec.lift_ok_bind]
    dsimp only
    rw [if_neg (by omega), if_pos hshort]
    rfl

/-- The framer takes a packet that is complete. -/
theorem frameOne_complete (h : Family packetType raw wrap) {item : α} {framing : Framing}
    {more : Bytes} (hsize : (raw item).length < maxHciPacketSize)
    (hbytes : framing.buffered = raw item ++ more) :
    frameOne packetType framing =
      (.ok true, { packets := framing.packets ++ [wrap item], buffered := more }) := by
  rw [frameOne, Exec.get_bind, hbytes, h.complete, Exec.lift_ok_bind]
  dsimp only
  rw [if_neg (by omega), if_neg (by simp), List.drop_left, List.take_left, h.fromBytes]
  rfl

/-- **The framer** takes the packets that have arrived and keeps what is left over. -/
theorem loop_frameOne (h : Family packetType raw wrap) {items : List α}
    (hsize : ∀ item ∈ items, (raw item).length < maxHciPacketSize) (framing : Framing)
    (hstream : framing.buffered <+: items.flatMap raw) :
    Exec.loop (fun framing : Framing => framing.buffered.length) (frameOne packetType) framing =
      (.ok (), { packets := framing.packets ++ (cut raw items framing.buffered).1.map wrap,
                 buffered := (cut raw items framing.buffered).2 }) := by
  induction items generalizing framing with
  | nil =>
    have hempty : framing.buffered = [] := List.prefix_nil.mp hstream
    have hone : frameOne packetType framing = (.ok false, framing) := by
      rw [frameOne, Exec.get_bind, hempty, h.empty]
      rfl
    rw [Exec.loop_eq frameOne_decreases, Exec.bind_ok hone]
    simp [cut]
  | cons item items ih =>
    rw [List.flatMap_cons] at hstream
    have hitem := hsize item List.mem_cons_self
    rw [Exec.loop_eq frameOne_decreases]
    rcases Nat.lt_or_ge framing.buffered.length (raw item).length with hlt | hle
    · have hbegun : framing.buffered <+: raw item :=
        List.prefix_of_prefix_length_le hstream (List.prefix_append _ _) (Nat.le_of_lt hlt)
      rw [Exec.bind_ok (frameOne_begun h hitem hbegun hlt), cut_cons_of_lt items hlt]
      simp
    · obtain ⟨more, hmore⟩ : raw item <+: framing.buffered :=
        List.prefix_of_prefix_length_le (List.prefix_append _ _) hstream hle
      rw [← hmore, List.prefix_append_right_inj] at hstream
      rw [Exec.bind_ok (frameOne_complete h hitem hmore.symm), cut_cons_of_le items hle, ← hmore,
        List.drop_left]
      simp only [if_true]
      rw [ih (fun item hmem => hsize item (List.mem_cons_of_mem _ hmem)) _ hstream]
      simp

theorem framePackets_eq_cut (h : Family packetType raw wrap) {items : List α}
    (hsize : ∀ item ∈ items, (raw item).length < maxHciPacketSize) {buffered : Bytes}
    (hstream : buffered <+: items.flatMap raw) :
    framePackets packetType buffered =
      (.ok ((cut raw items buffered).1.map wrap), (cut raw items buffered).2) := by
  have hloop := loop_frameOne h hsize { buffered := buffered } hstream
  rw [framePackets, hloop]
  rfl

end Framer

/-! ### Scripts -/

/-- The result of a read: the bytes of a transfer, or why there are none. -/
abbrev Read := Except UsbTransferError Bytes

/-- A backend that reads from scripts, and has nothing to read when they end. -/
structure ScriptedIo where
  interrupt : List Read
  bulk : List Read

def readScript : List Read → Read × List Read
  | [] => (.error .timeout, [])
  | read :: reads => (read, reads)

instance : UsbIo ScriptedIo where
  readInterrupt _ io :=
    ((readScript io.interrupt).1, { io with interrupt := (readScript io.interrupt).2 })
  readBulk _ io := ((readScript io.bulk).1, { io with bulk := (readScript io.bulk).2 })

/-- The bytes that reads bring. -/
def readBytes (reads : List Read) : Bytes := reads.flatMap fun read => read.toOption.getD []

/-- A read that brings what fits into the buffer of its caller, or times out. -/
def isTransfer : Read → Bool
  | .ok chunk => chunk.length ≤ maxHciPacketSize - 1
  | .error error => error = .timeout

/-- What has become of the stream of one endpoint: of the script, `rest` is still to be read, and
what was read has given the items `arrived` and left over what the buffer holds. -/
def Streamed {α : Type} (raw : α → Bytes) (items : List α) (script rest : List Read)
    (arrived : List α) (buffer : Bytes) : Prop :=
  ∃ reads, script = reads ++ rest ∧ cut raw items (readBytes reads) = (arrived, buffer)

namespace Streamed

variable {α : Type} {packetType : UInt8} {raw : α → Bytes} {wrap : α → Packet} {items : List α}
  {script rest : List Read} {arrived : List α} {buffer : Bytes}

/-- A read that brings nothing. -/
theorem skip {read : Read} (h : Streamed raw items script (read :: rest) arrived buffer)
    (hread : readBytes [read] = []) : Streamed raw items script rest arrived buffer := by
  obtain ⟨reads, hscript, hcut⟩ := h
  refine ⟨reads ++ [read], by simp [hscript], ?_⟩
  rw [readBytes, List.flatMap_append, ← readBytes, ← readBytes, hread, List.append_nil]
  exact hcut

/-- **A read that brings a chunk**: the framer takes the items that have arrived with it. -/
theorem read {chunk : Bytes} (h : Streamed raw items script (.ok chunk :: rest) arrived buffer)
    (hfamily : Family packetType raw wrap)
    (hsize : ∀ item ∈ items, (raw item).length < maxHciPacketSize)
    (hstream : readBytes script <+: items.flatMap raw) :
    ∃ later buffer', framePackets packetType (buffer ++ chunk) =
        (.ok (later.map wrap), buffer') ∧
      Streamed raw items script rest (arrived ++ later) buffer' := by
  obtain ⟨reads, rfl, hcut⟩ := h
  have hchunk : readBytes (reads ++ [.ok chunk]) = readBytes reads ++ chunk := by
    simp [readBytes, Except.toOption]
  have hsofar : readBytes reads ++ chunk <+: items.flatMap raw := by
    refine List.IsPrefix.trans ⟨readBytes rest, ?_⟩ hstream
    simp [readBytes, Except.toOption]
  have hremaining := cut_remaining hsofar
  rw [hcut] at hremaining
  refine ⟨_, _, framePackets_eq_cut hfamily
    (fun item hitem => hsize item (List.mem_of_mem_drop hitem)) hremaining, reads ++ [.ok chunk],
    by simp, ?_⟩
  rw [hchunk, cut_append, hcut]

end Streamed

/-! ### The two streams -/

theorem event?_map_event (events : List EventPacket) :
    (events.map Packet.event).filterMap Packet.event? = events ∧
      (events.map Packet.event).filterMap Packet.acl? = [] := by
  constructor
  · rw [List.filterMap_map]
    exact List.filterMap_some
  · simp [Packet.acl?]

theorem acl?_map_acl (acls : List AclPacket) :
    (acls.map Packet.acl).filterMap Packet.acl? = acls ∧
      (acls.map Packet.acl).filterMap Packet.event? = [] := by
  constructor
  · rw [List.filterMap_map]
    exact List.filterMap_some
  · simp [Packet.event?]

namespace UsbTransport

/-- The packets that polls returned. -/
def returned (results : List (Except UsbError (Option Packet))) : List Packet :=
  results.filterMap fun result => result.toOption.join

/-- **The transport keeps its streams**: the packets that were returned or wait are the events and
the ACL packets that have arrived, each family in its order, and each buffer holds what is left over
of its own stream. -/
structure Framed (events : List EventPacket) (acls : List AclPacket) (script : ScriptedIo)
    (delivered : List Packet) (transport : UsbTransport ScriptedIo) : Prop where
  events : Streamed EventPacket.raw events script.interrupt transport.backend.interrupt
    ((delivered ++ transport.pending).filterMap Packet.event?) transport.eventBytes
  acls : Streamed AclPacket.raw acls script.bulk transport.backend.bulk
    ((delivered ++ transport.pending).filterMap Packet.acl?) transport.aclBytes
  kinds : ∀ packet ∈ delivered ++ transport.pending, packet.event?.isSome ∨ packet.acl?.isSome

variable {events : List EventPacket} {acls : List AclPacket} {script : ScriptedIo}
  {delivered : List Packet} {transport : UsbTransport ScriptedIo}

theorem framed_new (layout : UsbLayout) :
    Framed events acls script [] { backend := script, layout := layout } where
  events := ⟨[], rfl, by cases events <;> simp [readBytes, cut, EventPacket.raw]⟩
  acls := ⟨[], rfl, by cases acls <;> simp [readBytes, cut, AclPacket.raw, toLe16]⟩
  kinds := by simp

/-- A packet that waits is returned. -/
theorem Framed.pop (h : Framed events acls script delivered transport) {packet : Packet}
    {pending : List Packet} (hpending : transport.pending = packet :: pending) :
    Framed events acls script (delivered ++ [packet]) { transport with pending := pending } := by
  have heq : delivered ++ [packet] ++ pending = delivered ++ transport.pending := by
    rw [hpending, List.append_assoc]
    rfl
  refine ⟨?_, ?_, ?_⟩ <;> rw [heq]
  · exact h.events
  · exact h.acls
  · exact h.kinds

/-- A poll that returns nothing but what has arrived. -/
def Delivers (events : List EventPacket) (acls : List AclPacket) (script : ScriptedIo)
    (delivered : List Packet)
    (outcome : Except UsbError (Option Packet) × UsbTransport ScriptedIo) : Prop :=
  ∃ packet, outcome.1 = .ok packet ∧
    Framed events acls script (delivered ++ packet.toList) outcome.2

theorem Framed.delivers_none (h : Framed events acls script delivered transport) :
    Delivers events acls script delivered (.ok none, transport) :=
  ⟨none, rfl, by simpa using h⟩

/-- Of the packets that wait, the first one is returned. -/
theorem Framed.delivers_pop (h : Framed events acls script delivered transport) :
    Delivers events acls script delivered
      (.ok (popPending transport).1, (popPending transport).2) := by
  rcases hpending : transport.pending with _ | ⟨packet, pending⟩
  · rw [popPending, hpending]
    exact h.delivers_none
  · rw [popPending, hpending]
    exact ⟨some packet, rfl, h.pop hpending⟩

/-- What a transfer of events brings. -/
theorem Framed.receive_events (h : Framed events acls script delivered transport) {chunk : Bytes}
    {rest : List Read} (hread : transport.backend.interrupt = .ok chunk :: rest)
    (hstream : readBytes script.interrupt <+: events.flatMap EventPacket.raw) :
    Delivers events acls script delivered (receive true chunk { transport with
      nextEndpoint := true
      backend := { transport.backend with interrupt := rest } }) := by
  have hevents := h.events
  rw [hread] at hevents
  obtain ⟨later, buffer, hframe, hstreamed⟩ := hevents.read eventFamily
    (fun packet _ => packet.raw_length) hstream
  have hframed : Framed events acls script delivered { transport with
      nextEndpoint := true
      backend := { transport.backend with interrupt := rest }
      eventBytes := buffer
      pending := transport.pending ++ later.map .event } := by
    refine ⟨?_, ?_, fun packet hpacket => ?_⟩
    · rw [← List.append_assoc, List.filterMap_append, (event?_map_event later).1]
      exact hstreamed
    · rw [← List.append_assoc, List.filterMap_append, (event?_map_event later).2, List.append_nil]
      exact h.acls
    · rw [← List.append_assoc, List.mem_append] at hpacket
      rcases hpacket with hpacket | hpacket
      · exact h.kinds packet hpacket
      · obtain ⟨event, _, rfl⟩ := List.mem_map.mp hpacket
        exact .inl rfl
  rw [receive]
  simp only [if_true, hframe]
  exact hframed.delivers_pop

/-- What a transfer of ACL packets brings. -/
theorem Framed.receive_acls (h : Framed events acls script delivered transport) {chunk : Bytes}
    {rest : List Read} (hread : transport.backend.bulk = .ok chunk :: rest)
    (hsize : ∀ packet ∈ acls, packet.raw.length < maxHciPacketSize)
    (hstream : readBytes script.bulk <+: acls.flatMap AclPacket.raw) :
    Delivers events acls script delivered (receive false chunk { transport with
      nextEndpoint := false
      backend := { transport.backend with bulk := rest } }) := by
  have hacls := h.acls
  rw [hread] at hacls
  obtain ⟨later, buffer, hframe, hstreamed⟩ := hacls.read aclFamily hsize hstream
  have hframed : Framed events acls script delivered { transport with
      nextEndpoint := false
      backend := { transport.backend with bulk := rest }
      aclBytes := buffer
      pending := transport.pending ++ later.map .acl } := by
    refine ⟨?_, ?_, fun packet hpacket => ?_⟩
    · rw [← List.append_assoc, List.filterMap_append, (acl?_map_acl later).2, List.append_nil]
      exact h.events
    · rw [← List.append_assoc, List.filterMap_append, (acl?_map_acl later).1]
      exact hstreamed
    · rw [← List.append_assoc, List.mem_append] at hpacket
      rcases hpacket with hpacket | hpacket
      · exact h.kinds packet hpacket
      · obtain ⟨acl, _, rfl⟩ := List.mem_map.mp hpacket
        exact .inr rfl
  rw [receive]
  simp only [Bool.false_eq_true, if_false, hframe]
  exact hframed.delivers_pop

/-- A read of a script brings a chunk, or nothing that the buffers keep. -/
theorem isTransfer_cases {read : Read} (h : isTransfer read = true) :
    (read = .error .timeout ∨ read = .ok []) ∨
      ∃ chunk, read = .ok chunk ∧ chunk.length ≠ 0 ∧ ¬ chunk.length > maxHciPacketSize - 1 := by
  rcases read with error | chunk
  · simp only [isTransfer, decide_eq_true_eq] at h
    exact .inl (.inl (by rw [h]))
  · simp only [isTransfer, decide_eq_true_eq] at h
    cases chunk with
    | nil => exact .inl (.inr rfl)
    | cons byte chunk => exact .inr ⟨_, rfl, by simp, Nat.not_lt.mpr h⟩

/-- A transfer from the interrupt endpoint. -/
theorem Framed.poll_events (h : Framed events acls script delivered transport)
    (hturn : transport.nextEndpoint = false)
    (hreads : ∀ read ∈ transport.backend.interrupt, isTransfer read = true)
    (hstream : readBytes script.interrupt <+: events.flatMap EventPacket.raw) :
    Delivers events acls script delivered (pollTransfer transport) := by
  rw [pollTransfer, hturn]
  have hevents := h.events
  rcases hinterrupt : transport.backend.interrupt with _ | ⟨read, rest⟩
  · have htransfer : transfer true transport = (.error .timeout, { transport with
        nextEndpoint := true, backend := { transport.backend with interrupt := [] } }) := by
      simp [transfer, UsbIo.readInterrupt, hinterrupt, readScript]
    rw [Bool.not_false, htransfer]
    rw [hinterrupt] at hevents
    exact Framed.delivers_none ⟨hevents, h.acls, h.kinds⟩
  · have htransfer : transfer true transport = (read, { transport with
        nextEndpoint := true, backend := { transport.backend with interrupt := rest } }) := by
      simp [transfer, UsbIo.readInterrupt, hinterrupt, readScript]
    rw [Bool.not_false, htransfer]
    rw [hinterrupt] at hevents
    rcases isTransfer_cases (hreads read (by rw [hinterrupt]; exact List.mem_cons_self)) with
      (rfl | rfl) | ⟨chunk, rfl, hne, hfits⟩
    · exact Framed.delivers_none ⟨hevents.skip rfl, h.acls, h.kinds⟩
    · exact Framed.delivers_none ⟨hevents.skip rfl, h.acls, h.kinds⟩
    · simp only [if_neg hne, if_neg hfits]
      exact h.receive_events hinterrupt hstream

/-- A transfer from the bulk endpoint. -/
theorem Framed.poll_acls (h : Framed events acls script delivered transport)
    (hturn : transport.nextEndpoint = true)
    (hreads : ∀ read ∈ transport.backend.bulk, isTransfer read = true)
    (hsize : ∀ packet ∈ acls, packet.raw.length < maxHciPacketSize)
    (hstream : readBytes script.bulk <+: acls.flatMap AclPacket.raw) :
    Delivers events acls script delivered (pollTransfer transport) := by
  rw [pollTransfer, hturn]
  have hacls := h.acls
  rcases hbulk : transport.backend.bulk with _ | ⟨read, rest⟩
  · have htransfer : transfer false transport = (.error .timeout, { transport with
        nextEndpoint := false, backend := { transport.backend with bulk := [] } }) := by
      simp [transfer, UsbIo.readBulk, hbulk, readScript]
    rw [Bool.not_true, htransfer]
    rw [hbulk] at hacls
    exact Framed.delivers_none ⟨h.events, hacls, h.kinds⟩
  · have htransfer : transfer false transport = (read, { transport with
        nextEndpoint := false, backend := { transport.backend with bulk := rest } }) := by
      simp [transfer, UsbIo.readBulk, hbulk, readScript]
    rw [Bool.not_true, htransfer]
    rw [hbulk] at hacls
    rcases isTransfer_cases (hreads read (by rw [hbulk]; exact List.mem_cons_self)) with
      (rfl | rfl) | ⟨chunk, rfl, hne, hfits⟩
    · exact Framed.delivers_none ⟨h.events, hacls.skip rfl, h.kinds⟩
    · exact Framed.delivers_none ⟨h.events, hacls.skip rfl, h.kinds⟩
    · simp only [if_neg hne, if_neg hfits]
      exact h.receive_acls hbulk hsize hstream

theorem mem_of_streamed {α : Type} {raw : α → Bytes} {items arrived : List α}
    {reads rest : List Read} {buffer : Bytes} (h : Streamed raw items reads rest arrived buffer)
    (hreads : ∀ read ∈ reads, isTransfer read = true) : ∀ read ∈ rest, isTransfer read = true := by
  obtain ⟨_, rfl, -⟩ := h
  exact fun read hread => hreads read (List.mem_append_right _ hread)

/-- **A poll** keeps the two streams apart, loses nothing and makes nothing up. -/
theorem Framed.poll (h : Framed events acls script delivered transport)
    (hsize : ∀ packet ∈ acls, packet.raw.length < maxHciPacketSize)
    (hreads : ∀ read ∈ script.interrupt ++ script.bulk, isTransfer read = true)
    (hinterrupt : readBytes script.interrupt <+: events.flatMap EventPacket.raw)
    (hbulk : readBytes script.bulk <+: acls.flatMap AclPacket.raw) :
    Delivers events acls script delivered (pollPacket transport) := by
  rw [pollPacket]
  split
  · exact h.delivers_none
  rcases hpending : transport.pending with _ | ⟨packet, pending⟩
  · rw [popPending, hpending]
    rcases hturn : transport.nextEndpoint with _ | _
    · exact h.poll_events hturn (mem_of_streamed h.events fun read hread =>
        hreads read (List.mem_append_left _ hread)) hinterrupt
    · exact h.poll_acls hturn (mem_of_streamed h.acls fun read hread =>
        hreads read (List.mem_append_right _ hread)) hsize hbulk
  · rw [popPending, hpending]
    exact ⟨some packet, rfl, h.pop hpending⟩

/-- Any number of polls. -/
theorem Framed.polls (h : Framed events acls script delivered transport)
    (hsize : ∀ packet ∈ acls, packet.raw.length < maxHciPacketSize)
    (hreads : ∀ read ∈ script.interrupt ++ script.bulk, isTransfer read = true)
    (hinterrupt : readBytes script.interrupt <+: events.flatMap EventPacket.raw)
    (hbulk : readBytes script.bulk <+: acls.flatMap AclPacket.raw) (n : ℕ) :
    (∀ result ∈ (UsbTransport.polls n transport).1, result.isOk = true) ∧
      Framed events acls script (delivered ++ returned (UsbTransport.polls n transport).1)
        (UsbTransport.polls n transport).2 := by
  induction n generalizing delivered transport with
  | zero => exact ⟨nofun, by simpa [UsbTransport.polls, returned] using h⟩
  | succ n ih =>
    obtain ⟨packet, hresult, hframed⟩ := h.poll hsize hreads hinterrupt hbulk
    obtain ⟨hok, hframed'⟩ := ih hframed
    simp only [UsbTransport.polls]
    refine ⟨fun result hmem => ?_, ?_⟩
    · rcases List.mem_cons.mp hmem with rfl | hmem
      · rw [hresult]
        rfl
      · exact hok result hmem
    · have heq : returned ((pollPacket transport).1 ::
          (UsbTransport.polls n (pollPacket transport).2).1) = packet.toList ++
          returned (UsbTransport.polls n (pollPacket transport).2).1 := by
        rw [hresult]
        cases packet <;> rfl
      rw [heq, ← List.append_assoc]
      exact hframed'

end UsbTransport

/-- **Framing does not depend on transfers**: whatever the transfers in which the streams of the two
endpoints arrive, no poll fails; the packets returned and those that wait are, in order, the events
and the ACL packets that have arrived as a whole; and each buffer holds what is left over of its own
stream. -/
theorem usb_framing (layout : UsbLayout) (events : List EventPacket) (acls : List AclPacket)
    (hsize : ∀ packet ∈ acls, packet.raw.length + 1 ≤ maxHciPacketSize) (script : ScriptedIo)
    (hreads : ∀ read ∈ script.interrupt ++ script.bulk, isTransfer read = true)
    (hinterrupt : readBytes script.interrupt <+: events.flatMap EventPacket.raw)
    (hbulk : readBytes script.bulk <+: acls.flatMap AclPacket.raw) (n : ℕ)
    {results : List (Except UsbError (Option Packet))} {transport : UsbTransport ScriptedIo}
    (hpolls : UsbTransport.polls n { backend := script, layout := layout } =
      (results, transport)) :
    (∀ result ∈ results, result.isOk = true) ∧
      ∃ interruptRead bulkRead, script.interrupt = interruptRead ++ transport.backend.interrupt ∧
        script.bulk = bulkRead ++ transport.backend.bulk ∧
        ((UsbTransport.returned results ++ transport.pending).filterMap Packet.event?,
          transport.eventBytes) = cut EventPacket.raw events (readBytes interruptRead) ∧
        ((UsbTransport.returned results ++ transport.pending).filterMap Packet.acl?,
          transport.aclBytes) = cut AclPacket.raw acls (readBytes bulkRead) ∧
        ∀ packet ∈ UsbTransport.returned results ++ transport.pending,
          packet.event?.isSome ∨ packet.acl?.isSome := by
  obtain ⟨hok, hframed⟩ := (UsbTransport.framed_new layout).polls hsize hreads hinterrupt hbulk n
  rw [hpolls] at hok hframed
  obtain ⟨⟨interruptRead, hi, hevents⟩, ⟨bulkRead, hb, hacls⟩, hkinds⟩ := hframed
  exact ⟨hok, interruptRead, bulkRead, hi, hb, hevents.symm, hacls.symm, hkinds⟩

/-- Three events, which arrive in two transfers, with a read that times out between them; and an ACL
packet, of which the last byte is still to come. -/
def sampleScript : ScriptedIo where
  interrupt := [.ok [0x0E, 0x04, 0x01], .error .timeout,
    .ok [0x03, 0x0C, 0x00, 0xFF, 0x01, 0xAA, 0xFF, 0x01, 0xBB]]
  bulk := [.ok [], .ok [0x40, 0x20, 0x02, 0x00, 0xCC]]

def sampleEvents : List EventPacket :=
  [⟨0x0E, [0x01, 0x03, 0x0C, 0x00], by decide⟩, ⟨0xFF, [0xAA], by decide⟩,
    ⟨0xFF, [0xBB], by decide⟩]

def sampleAcls : List AclPacket :=
  [⟨0x40, 2, 0, [0xCC, 0xDD], AclPacket.sampleHandle_le, AclPacket.firstFlushable_le,
    AclPacket.pointToPoint_le, by decide⟩]

/-- Seven polls, which read both scripts. -/
def samplePolls : List (Except UsbError (Option Packet)) × UsbTransport ScriptedIo :=
  UsbTransport.polls 7
    { backend := sampleScript, layout := { interruptIn := 0x81, bulkIn := 0x82 } }

theorem usb_framing_sampleScript :
    (∀ result ∈ samplePolls.1, result.isOk = true) ∧
      samplePolls.2.backend.interrupt = [] ∧ samplePolls.2.backend.bulk = [] ∧
      (UsbTransport.returned samplePolls.1 ++ samplePolls.2.pending).filterMap Packet.event? =
        sampleEvents ∧ samplePolls.2.aclBytes = [0x40, 0x20, 0x02, 0x00, 0xCC] := by
  have hread : samplePolls.2.backend.interrupt.isEmpty = true ∧
      samplePolls.2.backend.bulk.isEmpty = true := by decide +kernel
  have harrived : (cut EventPacket.raw sampleEvents (readBytes sampleScript.interrupt)).1 =
      sampleEvents := by decide +kernel
  have hleft : (cut AclPacket.raw sampleAcls (readBytes sampleScript.bulk)).2 =
      [0x40, 0x20, 0x02, 0x00, 0xCC] := by decide +kernel
  rcases hpolls : samplePolls with ⟨results, transport⟩
  rw [hpolls, List.isEmpty_iff, List.isEmpty_iff] at hread
  obtain ⟨hok, interruptRead, bulkRead, hinterrupt, hbulk, hevents, hacls, -⟩ :=
    usb_framing { interruptIn := 0x81, bulkIn := 0x82 } sampleEvents sampleAcls (by decide)
      sampleScript (by decide) (by decide) (by decide) 7 hpolls
  rw [hread.1, List.append_nil] at hinterrupt
  rw [hread.2, List.append_nil] at hbulk
  rw [hinterrupt, ← hevents] at harrived
  rw [hbulk, ← hacls] at hleft
  exact ⟨hok, hread.1, hread.2, harrived, hleft⟩

end ClassicHid

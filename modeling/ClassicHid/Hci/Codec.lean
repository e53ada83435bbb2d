import ClassicHid.Foundation.Exec
import ClassicHid.Hci.Packet

/-!
# The HCI packet codec

The wire form of the three packet families. The type of a packet is its first byte, its declared
length is checked against the bytes that are there, and an ACL packet packs its handle and two
flags into one 16-bit header.

## Main definitions

* `Packet.toBytes`, `Packet.fromBytes`: the wire form of a packet
* `AclPacket.header`: the handle and the flags of an ACL packet

## Main results

* `Packet.fromBytes_toBytes`: a packet is read back from its bytes
* `Packet.toBytes_of_fromBytes`: what is read is written back as it was
-/

namespace ClassicHid

open Foundation

def commandPacketType : UInt8 := 0x01
def aclPacketType : UInt8 := 0x02
def eventPacketType : UInt8 := 0x04

def aclHandleMask : UInt16 := 0x0FFF
def aclBoundaryMask : UInt16 := 0x0003
def aclBroadcastMask : UInt16 := 0x0003

def requirePacketType (packet : Bytes) (expected : UInt8) : Except CodecError Unit :=
  match packet.head? with
  | some actual => if actual = expected then .ok () else .error (.unsupportedPacketType actual)
  | none => .error .emptyPacket

def validateExactLength (actual expected : ℕ) : Except CodecError Unit :=
  if actual < expected then .error (.truncated "payload")
  else if actual > expected then .error (.trailingBytes expected actual)
  else .ok ()

/-! ### The three families -/

/-- What every family reads: the packet type, a header of a fixed size, and as many bytes after it
as the header declares. -/
def readPacket {α : Type} (packetType : UInt8) (header : ℕ) (field : String)
    (declared : Bytes → ℕ) (build : Bytes → Except CodecError α) (packet : Bytes) :
    Except CodecError α := do
  requirePacketType packet packetType
  if packet.length < header then throw (.truncated field)
  validateExactLength packet.length (header + declared packet)
  build packet

namespace CommandPacket

def fromBytes : Bytes → Except CodecError CommandPacket :=
  readPacket commandPacketType 4 "command" (fun packet => (packet.getD 3 0).toNat) fun packet =>
    new (le16At packet 1) (packet.drop 4)

def toBytes (packet : CommandPacket) : Bytes :=
  [commandPacketType] ++ toLe16 packet.opcode ++ [UInt8.ofNat packet.parameters.length] ++
    packet.parameters

end CommandPacket

namespace EventPacket

def fromBytes : Bytes → Except CodecError EventPacket :=
  readPacket eventPacketType 3 "event" (fun packet => (packet.getD 2 0).toNat) fun packet =>
    new (packet.getD 1 0) (packet.drop 3)

def toBytes (packet : EventPacket) : Bytes :=
  [eventPacketType, packet.eventCode, UInt8.ofNat packet.parameters.length] ++ packet.parameters

end EventPacket

namespace AclPacket

/-- The handle and the two flags of a packet in one integer. -/
def header (connectionHandle : UInt16) (packetBoundary broadcastFlag : UInt8) : UInt16 :=
  connectionHandle ||| (packetBoundary.toUInt16 <<< 12) ||| (broadcastFlag.toUInt16 <<< 14)

def fromBytes : Bytes → Except CodecError AclPacket :=
  readPacket aclPacketType 5 "ACL packet" (fun packet => (le16At packet 3).toNat) fun packet =>
    let header := le16At packet 1
    new (header &&& aclHandleMask) ((header >>> 12) &&& aclBoundaryMask).toUInt8
      ((header >>> 14) &&& aclBroadcastMask).toUInt8 (packet.drop 5)

def toBytes (packet : AclPacket) : Bytes :=
  [aclPacketType] ++ toLe16 (header packet.connectionHandle packet.packetBoundary
    packet.broadcastFlag) ++ toLe16 (UInt16.ofNat packet.data.length) ++ packet.data

end AclPacket

namespace Packet

def fromBytes (packet : Bytes) : Except CodecError Packet :=
  match packet.head? with
  | none => .error .emptyPacket
  | some packetType =>
    if packetType = commandPacketType then (CommandPacket.fromBytes packet).map .command
    else if packetType = eventPacketType then (EventPacket.fromBytes packet).map .event
    else if packetType = aclPacketType then (AclPacket.fromBytes packet).map .acl
    else .error (.unsupportedPacketType packetType)

def toBytes : Packet → Bytes
  | command packet => packet.toBytes
  | event packet => packet.toBytes
  | acl packet => packet.toBytes

end Packet

/-! ### The header of an ACL packet -/

namespace AclPacket

theorem toNat_header {handle : UInt16} {boundary broadcast : UInt8} (hhandle : handle ≤ 0x0FFF)
    (hboundary : boundary ≤ 3) (hbroadcast : broadcast ≤ 3) :
    (header handle boundary broadcast).toNat =
      handle.toNat + 2 ^ 12 * boundary.toNat + 2 ^ 14 * broadcast.toNat := by
  have hhandle : handle.toNat ≤ 0xFFF := UInt16.le_iff_toNat_le.mp hhandle
  have hboundary : boundary.toNat ≤ 3 := UInt8.le_iff_toNat_le.mp hboundary
  have hbroadcast : broadcast.toNat ≤ 3 := UInt8.le_iff_toNat_le.mp hbroadcast
  have hlow : boundary.toNat <<< 12 % 2 ^ 16 = boundary.toNat <<< 12 := by
    rw [Nat.shiftLeft_eq]
    omega
  have hhigh : broadcast.toNat <<< 14 % 2 ^ 16 = broadcast.toNat <<< 14 := by
    rw [Nat.shiftLeft_eq]
    omega
  -- The three parts do not overlap, so that putting them together is adding them.
  have hfirst : handle.toNat ||| boundary.toNat <<< 12 = boundary.toNat <<< 12 + handle.toNat := by
    rw [Nat.or_comm, Nat.shiftLeft_add_eq_or_of_lt (by omega)]
  have hsecond : (boundary.toNat <<< 12 + handle.toNat) ||| broadcast.toNat <<< 14 =
      broadcast.toNat <<< 14 + (boundary.toNat <<< 12 + handle.toNat) := by
    have hlt : boundary.toNat <<< 12 + handle.toNat < 2 ^ 14 := by
      rw [Nat.shiftLeft_eq]
      omega
    rw [Nat.or_comm]
    exact (Nat.shiftLeft_add_eq_or_of_lt hlt _).symm
  have htoNat : (header handle boundary broadcast).toNat =
      handle.toNat ||| boundary.toNat <<< 12 % 2 ^ 16 ||| broadcast.toNat <<< 14 % 2 ^ 16 := rfl
  rw [htoNat, hlow, hhigh, hfirst, hsecond, Nat.shiftLeft_eq, Nat.shiftLeft_eq]
  omega

/-- The fields of a header as numbers. -/
theorem toNat_fields (header : UInt16) :
    (header &&& aclHandleMask).toNat = header.toNat % 2 ^ 12 ∧
      ((header >>> 12) &&& aclBoundaryMask).toUInt8.toNat = header.toNat / 2 ^ 12 % 4 ∧
      ((header >>> 14) &&& aclBroadcastMask).toUInt8.toNat = header.toNat / 2 ^ 14 % 4 := by
  have hflag (n : ℕ) : (n &&& 3) % 2 ^ 8 = n % 4 := by
    rw [show (3 : ℕ) = 2 ^ 2 - 1 from rfl, Nat.and_two_pow_sub_one_eq_mod]
    omega
  refine ⟨Nat.and_two_pow_sub_one_eq_mod header.toNat 12, ?_, ?_⟩
  · have htoNat : ((header >>> 12) &&& aclBoundaryMask).toUInt8.toNat =
        (header.toNat >>> 12 &&& 3) % 2 ^ 8 := rfl
    rw [htoNat, hflag, Nat.shiftRight_eq_div_pow]
  · have htoNat : ((header >>> 14) &&& aclBroadcastMask).toUInt8.toNat =
        (header.toNat >>> 14 &&& 3) % 2 ^ 8 := rfl
    rw [htoNat, hflag, Nat.shiftRight_eq_div_pow]

theorem fields_le (header : UInt16) :
    header &&& aclHandleMask ≤ 0x0FFF ∧ ((header >>> 12) &&& aclBoundaryMask).toUInt8 ≤ 3 ∧
      ((header >>> 14) &&& aclBroadcastMask).toUInt8 ≤ 3 := by
  obtain ⟨hhandle, hboundary, hbroadcast⟩ := toNat_fields header
  refine ⟨?_, ?_, ?_⟩
  · rw [UInt16.le_iff_toNat_le, hhandle]
    exact Nat.le_of_lt_succ (Nat.mod_lt _ (by decide))
  · rw [UInt8.le_iff_toNat_le, hboundary]
    exact Nat.le_of_lt_succ (Nat.mod_lt _ (by decide))
  · rw [UInt8.le_iff_toNat_le, hbroadcast]
    exact Nat.le_of_lt_succ (Nat.mod_lt _ (by decide))

/-- The fields of a header are read back. -/
theorem fields_header {handle : UInt16} {boundary broadcast : UInt8} (hhandle : handle ≤ 0x0FFF)
    (hboundary : boundary ≤ 3) (hbroadcast : broadcast ≤ 3) :
    header handle boundary broadcast &&& aclHandleMask = handle ∧
      ((header handle boundary broadcast >>> 12) &&& aclBoundaryMask).toUInt8 = boundary ∧
      ((header handle boundary broadcast >>> 14) &&& aclBroadcastMask).toUInt8 = broadcast := by
  obtain ⟨h₁, h₂, h₃⟩ := toNat_fields (header handle boundary broadcast)
  rw [toNat_header hhandle hboundary hbroadcast] at h₁ h₂ h₃
  have hhandle : handle.toNat ≤ 0xFFF := UInt16.le_iff_toNat_le.mp hhandle
  have hboundary : boundary.toNat ≤ 3 := UInt8.le_iff_toNat_le.mp hboundary
  have hbroadcast : broadcast.toNat ≤ 3 := UInt8.le_iff_toNat_le.mp hbroadcast
  refine ⟨UInt16.toNat_inj.mp ?_, UInt8.toNat_inj.mp ?_, UInt8.toNat_inj.mp ?_⟩ <;> omega

/-- A header is its fields put together. -/
theorem header_fields (h : UInt16) :
    header (h &&& aclHandleMask) ((h >>> 12) &&& aclBoundaryMask).toUInt8
      ((h >>> 14) &&& aclBroadcastMask).toUInt8 = h := by
  obtain ⟨hhandle, hboundary, hbroadcast⟩ := fields_le h
  obtain ⟨h₁, h₂, h₃⟩ := toNat_fields h
  apply UInt16.toNat_inj.mp
  rw [toNat_header hhandle hboundary hbroadcast, h₁, h₂, h₃]
  have := h.toNat_lt
  omega

end AclPacket

/-! ### Reading and writing -/

theorem requirePacketType_eq_ok {packet : Bytes} {expected : UInt8} :
    requirePacketType packet expected = .ok () ↔ packet.head? = some expected := by
  unfold requirePacketType
  split
  · split <;> simp_all
  · simp_all

theorem validateExactLength_eq_ok {actual expected : ℕ} :
    validateExactLength actual expected = .ok () ↔ actual = expected := by
  unfold validateExactLength
  split
  · simp
    omega
  split
  · simp
    omega
  · simp
    omega

/-- **What a family accepts.** -/
theorem readPacket_eq_ok {α : Type} {packetType : UInt8} {header : ℕ} {field : String}
    {declared : Bytes → ℕ} {build : Bytes → Except CodecError α} {packet : Bytes} {a : α} :
    readPacket packetType header field declared build packet = .ok a ↔
      packet.head? = some packetType ∧ header ≤ packet.length ∧
        packet.length = header + declared packet ∧ build packet = .ok a := by
  rw [readPacket, except_bind_eq_ok]
  constructor
  · rintro ⟨_, htype, h⟩
    split at h
    · cases h
    rename_i hshort
    rw [except_bind_eq_ok] at h
    obtain ⟨_, hexact, h⟩ := h
    exact ⟨requirePacketType_eq_ok.mp htype, Nat.not_lt.mp hshort,
      validateExactLength_eq_ok.mp hexact, h⟩
  · rintro ⟨htype, hshort, hexact, h⟩
    refine ⟨(), requirePacketType_eq_ok.mpr htype, ?_⟩
    rw [if_neg (Nat.not_lt.mpr hshort), except_bind_eq_ok]
    exact ⟨(), validateExactLength_eq_ok.mpr hexact, h⟩

theorem toNat_ofNat_length {l : Bytes} (h : l.length ≤ 255) :
    (UInt8.ofNat l.length).toNat = l.length := by
  rw [UInt8.toNat_ofNat']
  omega

/-- The length byte of what follows it. -/
theorem ofNat_length_eq {l : Bytes} {count : UInt8} (h : l.length = count.toNat) :
    UInt8.ofNat l.length = count := by
  rw [h, UInt8.ofNat_toNat]

namespace CommandPacket

theorem fromBytes_toBytes (packet : CommandPacket) : fromBytes packet.toBytes = .ok packet := by
  have hlength : packet.toBytes.length = 4 + packet.parameters.length := by
    simp only [toBytes, List.length_append, List.length_singleton, length_toLe16]
  have hcount : (packet.toBytes.getD 3 0).toNat = packet.parameters.length :=
    toNat_ofNat_length packet.length_le
  have hopcode : le16At packet.toBytes 1 = packet.opcode := fromLe16_toLe16 _
  refine readPacket_eq_ok.mpr ⟨rfl, by omega, by rw [hcount, hlength], ?_⟩
  rw [hopcode]
  exact new_eq_ok packet.length_le

theorem toBytes_of_fromBytes {bytes : Bytes} {packet : CommandPacket}
    (h : fromBytes bytes = .ok packet) : packet.toBytes = bytes := by
  obtain ⟨htype, hheader, hexact, h⟩ := readPacket_eq_ok.mp h
  obtain ⟨packetType, bytes, rfl, hrest₁⟩ := exists_cons_of_length hheader
  obtain ⟨lo, bytes, rfl, hrest₂⟩ := exists_cons_of_length hrest₁
  obtain ⟨hi, bytes, rfl, hrest₃⟩ := exists_cons_of_length hrest₂
  obtain ⟨count, parameters, rfl, _⟩ := exists_cons_of_length hrest₃
  cases htype
  have hcount : parameters.length = count.toNat := by
    simp only [List.length_cons, List.getD_cons_succ, List.getD_cons_zero] at hexact
    omega
  have hread : le16At (commandPacketType :: lo :: hi :: count :: parameters) 1 = fromLe16 lo hi :=
    rfl
  obtain ⟨hopcode, hparameters⟩ := of_new h
  rw [toBytes, hopcode, hparameters, hread, toLe16_fromLe16]
  simp [ofNat_length_eq hcount]

end CommandPacket

namespace EventPacket

theorem fromBytes_toBytes (packet : EventPacket) : fromBytes packet.toBytes = .ok packet := by
  have hlength : packet.toBytes.length = 3 + packet.parameters.length := by
    simp only [toBytes, List.length_append, List.length_cons, List.length_nil]
  have hcount : (packet.toBytes.getD 2 0).toNat = packet.parameters.length :=
    toNat_ofNat_length packet.length_le
  exact readPacket_eq_ok.mpr ⟨rfl, by omega, by rw [hcount, hlength], new_eq_ok packet.length_le⟩

theorem toBytes_of_fromBytes {bytes : Bytes} {packet : EventPacket}
    (h : fromBytes bytes = .ok packet) : packet.toBytes = bytes := by
  obtain ⟨htype, hheader, hexact, h⟩ := readPacket_eq_ok.mp h
  obtain ⟨packetType, bytes, rfl, hrest₁⟩ := exists_cons_of_length hheader
  obtain ⟨code, bytes, rfl, hrest₂⟩ := exists_cons_of_length hrest₁
  obtain ⟨count, parameters, rfl, _⟩ := exists_cons_of_length hrest₂
  cases htype
  have hcount : parameters.length = count.toNat := by
    simp only [List.length_cons, List.getD_cons_succ, List.getD_cons_zero] at hexact
    omega
  obtain ⟨hcode, hparameters⟩ := of_new h
  rw [toBytes, hcode, hparameters]
  simp [ofNat_length_eq hcount]

end EventPacket

namespace AclPacket

theorem fromBytes_toBytes (packet : AclPacket) : fromBytes packet.toBytes = .ok packet := by
  have hlength : packet.toBytes.length = 5 + packet.data.length := by
    simp only [toBytes, List.length_append, List.length_singleton, length_toLe16]
  have hheader : le16At packet.toBytes 1 =
      header packet.connectionHandle packet.packetBoundary packet.broadcastFlag :=
    fromLe16_toLe16 _
  have hcount : (le16At packet.toBytes 3).toNat = packet.data.length := by
    have hread : le16At packet.toBytes 3 = UInt16.ofNat packet.data.length := fromLe16_toLe16 _
    have := packet.length_le
    rw [hread, UInt16.toNat_ofNat']
    omega
  obtain ⟨hhandle, hboundary, hbroadcast⟩ :=
    fields_header packet.handle_le packet.boundary_le packet.broadcast_le
  refine readPacket_eq_ok.mpr ⟨rfl, by omega, by rw [hcount, hlength], ?_⟩
  dsimp only
  rw [hheader, hhandle, hboundary, hbroadcast]
  exact new_eq_ok packet.handle_le packet.boundary_le packet.broadcast_le packet.length_le

theorem toBytes_of_fromBytes {bytes : Bytes} {packet : AclPacket}
    (h : fromBytes bytes = .ok packet) : packet.toBytes = bytes := by
  obtain ⟨htype, hheader, hexact, h⟩ := readPacket_eq_ok.mp h
  obtain ⟨packetType, bytes, rfl, hrest₁⟩ := exists_cons_of_length hheader
  obtain ⟨lo, bytes, rfl, hrest₂⟩ := exists_cons_of_length hrest₁
  obtain ⟨hi, bytes, rfl, hrest₃⟩ := exists_cons_of_length hrest₂
  obtain ⟨lengthLo, bytes, rfl, hrest₄⟩ := exists_cons_of_length hrest₃
  obtain ⟨lengthHi, data, rfl, _⟩ := exists_cons_of_length hrest₄
  cases htype
  have hread : le16At (aclPacketType :: lo :: hi :: lengthLo :: lengthHi :: data) 1 =
      fromLe16 lo hi := rfl
  have hcount : le16At (aclPacketType :: lo :: hi :: lengthLo :: lengthHi :: data) 3 =
      fromLe16 lengthLo lengthHi := rfl
  have hdata : UInt16.ofNat data.length = fromLe16 lengthLo lengthHi := by
    apply UInt16.toNat_inj.mp
    rw [hcount] at hexact
    simp only [List.length_cons] at hexact
    have := (fromLe16 lengthLo lengthHi).toNat_lt
    rw [UInt16.toNat_ofNat']
    omega
  obtain ⟨hhandle, hboundary, hbroadcast, hpayload⟩ := of_new h
  rw [toBytes, hhandle, hboundary, hbroadcast, hpayload, hread, header_fields, toLe16_fromLe16]
  simp [hdata, toLe16_fromLe16]

end AclPacket

namespace Packet

/-- **A packet is read back from its bytes.** -/
theorem fromBytes_toBytes (packet : Packet) : fromBytes packet.toBytes = .ok packet := by
  cases packet with
  | command packet =>
    change (CommandPacket.fromBytes packet.toBytes).map Packet.command = _
    rw [packet.fromBytes_toBytes]
    rfl
  | event packet =>
    change (EventPacket.fromBytes packet.toBytes).map Packet.event = _
    rw [packet.fromBytes_toBytes]
    rfl
  | acl packet =>
    change (AclPacket.fromBytes packet.toBytes).map Packet.acl = _
    rw [packet.fromBytes_toBytes]
    rfl

/-- **What is read is written back as it was.** -/
theorem toBytes_of_fromBytes {bytes : Bytes} {packet : Packet}
    (h : fromBytes bytes = .ok packet) : packet.toBytes = bytes := by
  unfold fromBytes at h
  split at h
  · cases h
  split at h
  · rcases hread : CommandPacket.fromBytes bytes with error | read
    · rw [hread] at h
      cases h
    · rw [hread] at h
      cases h
      exact read.toBytes_of_fromBytes hread
  split at h
  · rcases hread : EventPacket.fromBytes bytes with error | read
    · rw [hread] at h
      cases h
    · rw [hread] at h
      cases h
      exact read.toBytes_of_fromBytes hread
  split at h
  · rcases hread : AclPacket.fromBytes bytes with error | read
    · rw [hread] at h
      cases h
    · rw [hread] at h
      cases h
      exact read.toBytes_of_fromBytes hread
  · cases h

/-- **The codec of HCI packets is a bijection** between the packets that can be built and the byte
strings that are accepted. -/
theorem codec_bijection :
    (∀ opcode parameters packet, CommandPacket.new opcode parameters = .ok packet →
        fromBytes (command packet).toBytes = .ok (command packet)) ∧
      (∀ eventCode parameters packet, EventPacket.new eventCode parameters = .ok packet →
        fromBytes (event packet).toBytes = .ok (event packet)) ∧
      (∀ handle boundary broadcast data packet,
        AclPacket.new handle boundary broadcast data = .ok packet →
          fromBytes (acl packet).toBytes = .ok (acl packet)) ∧
      ∀ bytes packet, fromBytes bytes = .ok packet → packet.toBytes = bytes := by
  refine ⟨?_, ?_, ?_, ?_⟩
  · intro opcode parameters packet _
    exact fromBytes_toBytes _
  · intro eventCode parameters packet _
    exact fromBytes_toBytes _
  · intro handle boundary broadcast data packet _
    exact fromBytes_toBytes _
  · intro bytes packet h
    exact toBytes_of_fromBytes h

/-- The first fragment of a PDU on the handle `0x0123`, as it travels. -/
theorem codec_bijection_fragment :
    ∃ packet, AclPacket.new 0x0123 2 1 [7, 8, 9] = .ok packet ∧
      (acl packet).toBytes = [0x02, 0x23, 0x61, 0x03, 0x00, 7, 8, 9] ∧
      fromBytes (acl packet).toBytes = .ok (acl packet) :=
  ⟨⟨0x0123, 2, 1, [7, 8, 9], by decide, by decide, by decide, by decide⟩, rfl, by decide,
    codec_bijection.2.2.1 0x0123 2 1 [7, 8, 9] _ rfl⟩

end Packet

end ClassicHid

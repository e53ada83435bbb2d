import ClassicHid.Foundation.Bytes

/-!
# HCI packets

The three packet families exchanged with the controller. Each packet type carries the bounds
its constructor checks, so a packet that cannot be framed cannot be built.

## Main definitions

* `CommandPacket`, `EventPacket`, `AclPacket`, `Packet`: the packet families
* `CommandPacket.new`, `EventPacket.new`, `AclPacket.new`: the checked constructors
-/

namespace ClassicHid

open Foundation

/-- Failures of the HCI codec. -/
inductive CodecError
  | emptyPacket
  | unsupportedPacketType (actual : UInt8)
  | truncated (field : String)
  | trailingBytes (expected actual : ℕ)
  | parameterTooLong (actual maximum : ℕ)
  | invalidConnectionHandle (handle : UInt16)
  | invalidPacketBoundary (boundary : UInt8)
  | invalidBroadcastFlag (flag : UInt8)
  | invalidL2capPdu
  | unexpectedContinuation (connectionHandle : UInt16)
  | continuationOverflow (expected actual : ℕ)
  deriving DecidableEq, Repr

/-- An HCI command; its parameters fit an 8-bit length. -/
structure CommandPacket where
  opcode : UInt16
  parameters : Bytes
  length_le : parameters.length ≤ 255
  deriving DecidableEq, Repr

/-- An HCI event; its parameters fit an 8-bit length. -/
structure EventPacket where
  eventCode : UInt8
  parameters : Bytes
  length_le : parameters.length ≤ 255
  deriving DecidableEq, Repr

/-- An ACL data packet; handle, flags and data fit their header fields. -/
structure AclPacket where
  connectionHandle : UInt16
  packetBoundary : UInt8
  broadcastFlag : UInt8
  data : Bytes
  handle_le : connectionHandle ≤ 0x0FFF
  boundary_le : packetBoundary ≤ 3
  broadcast_le : broadcastFlag ≤ 3
  length_le : data.length ≤ 65535
  deriving DecidableEq, Repr

theorem AclPacket.sampleHandle_le : (0x40 : UInt16) ≤ 0x0FFF := by decide

theorem AclPacket.firstFlushable_le : (2 : UInt8) ≤ 3 := by decide

theorem AclPacket.pointToPoint_le : (0 : UInt8) ≤ 3 := by decide

/-- A packet of one of the three families. -/
inductive Packet
  | command (packet : CommandPacket)
  | event (packet : EventPacket)
  | acl (packet : AclPacket)
  deriving DecidableEq, Repr

def Packet.event? : Packet → Option EventPacket
  | .event packet => some packet
  | _ => none

def Packet.acl? : Packet → Option AclPacket
  | .acl packet => some packet
  | _ => none

/-- A packet boundary flag: the first fragment of a PDU that the controller may not flush. -/
def aclFirstNonFlushable : UInt8 := 0

/-- A packet boundary flag: a later fragment of a PDU. -/
def aclContinuation : UInt8 := 1

/-- A packet boundary flag: the first fragment of a PDU that the controller may flush. -/
def aclFirstFlushable : UInt8 := 2

def CommandPacket.new (opcode : UInt16) (parameters : Bytes) : Except CodecError CommandPacket :=
  if h : parameters.length ≤ 255 then .ok ⟨opcode, parameters, h⟩
  else .error (.parameterTooLong parameters.length 255)

def EventPacket.new (eventCode : UInt8) (parameters : Bytes) : Except CodecError EventPacket :=
  if h : parameters.length ≤ 255 then .ok ⟨eventCode, parameters, h⟩
  else .error (.parameterTooLong parameters.length 255)

def AclPacket.new (connectionHandle : UInt16) (packetBoundary broadcastFlag : UInt8)
    (data : Bytes) : Except CodecError AclPacket :=
  if hh : connectionHandle ≤ 0x0FFF then
    if hp : packetBoundary ≤ 3 then
      if hb : broadcastFlag ≤ 3 then
        if hd : data.length ≤ 65535 then
          .ok ⟨connectionHandle, packetBoundary, broadcastFlag, data, hh, hp, hb, hd⟩
        else .error (.parameterTooLong data.length 65535)
      else .error (.invalidBroadcastFlag broadcastFlag)
    else .error (.invalidPacketBoundary packetBoundary)
  else .error (.invalidConnectionHandle connectionHandle)

theorem CommandPacket.new_eq_ok {opcode : UInt16} {parameters : Bytes}
    (h : parameters.length ≤ 255) :
    CommandPacket.new opcode parameters = .ok ⟨opcode, parameters, h⟩ := by
  simp [CommandPacket.new, h]

theorem EventPacket.new_eq_ok {eventCode : UInt8} {parameters : Bytes}
    (h : parameters.length ≤ 255) :
    EventPacket.new eventCode parameters = .ok ⟨eventCode, parameters, h⟩ := by
  simp [EventPacket.new, h]

theorem AclPacket.new_eq_ok {handle : UInt16} {boundary broadcast : UInt8} {data : Bytes}
    (hhandle : handle ≤ 0x0FFF) (hboundary : boundary ≤ 3) (hbroadcast : broadcast ≤ 3)
    (hdata : data.length ≤ 65535) :
    AclPacket.new handle boundary broadcast data =
      .ok ⟨handle, boundary, broadcast, data, hhandle, hboundary, hbroadcast, hdata⟩ := by
  simp [AclPacket.new, hhandle, hboundary, hbroadcast, hdata]

/-- A command that was built has the fields it was built from. -/
theorem CommandPacket.of_new {opcode : UInt16} {parameters : Bytes} {packet : CommandPacket}
    (h : CommandPacket.new opcode parameters = .ok packet) :
    packet.opcode = opcode ∧ packet.parameters = parameters := by
  rw [CommandPacket.new] at h
  split at h
  · cases h
    exact ⟨rfl, rfl⟩
  · cases h

/-- An event that was built has the fields it was built from. -/
theorem EventPacket.of_new {eventCode : UInt8} {parameters : Bytes} {packet : EventPacket}
    (h : EventPacket.new eventCode parameters = .ok packet) :
    packet.eventCode = eventCode ∧ packet.parameters = parameters := by
  rw [EventPacket.new] at h
  split at h
  · cases h
    exact ⟨rfl, rfl⟩
  · cases h

/-- A packet that was built has the fields it was built from. -/
theorem AclPacket.of_new {handle : UInt16} {boundary broadcast : UInt8} {data : Bytes}
    {packet : AclPacket} (h : AclPacket.new handle boundary broadcast data = .ok packet) :
    packet.connectionHandle = handle ∧ packet.packetBoundary = boundary ∧
      packet.broadcastFlag = broadcast ∧ packet.data = data := by
  simp only [AclPacket.new] at h
  repeat' split at h
  all_goals cases h
  simp

end ClassicHid

import ClassicHid.Hci.Acl
import ClassicHid.L2cap.Channel
import ClassicHid.Values

/-!
# The Classic host

The host side of one BR/EDR link: it answers the controller's pairing events, owns the L2CAP
channels of the link, and hands ACL packets to the controller as credits allow.

## Main definitions

* `ClassicEvent`, `HostOutput`: what the host is told and what it asks for
* `AclFlow`: the ACL credits and the packets waiting for one
* `ClassicHost`: the state of the host
* `ClassicHost.handleEvent`, `ClassicHost.processAcl`, `ClassicHost.sendChannelSdu`,
  `ClassicHost.connectChannel`: the operations
-/

namespace ClassicHid

open Foundation
open Std (ExtTreeMap)

def hciAcceptConnectionRequest : UInt16 := 0x0409

def hciLinkKeyRequestReply : UInt16 := 0x040B

def hciLinkKeyRequestNegativeReply : UInt16 := 0x040C

def hciAuthenticationRequested : UInt16 := 0x0411

def hciSetConnectionEncryption : UInt16 := 0x0413

def hciIoCapabilityRequestReply : UInt16 := 0x042B

def hciUserConfirmationRequestReply : UInt16 := 0x042C

def hciRolePeripheral : UInt8 := 0x01

def hciIoCapabilityNoInputNoOutput : UInt8 := 0x03

def hciAuthenticationRequirementsDedicatedBondingNoMitm : UInt8 := 0x02

inductive ClassicEvent
  | connectionRequest (peer : BluetoothAddress)
  | connectionComplete (status : UInt8) (connectionHandle : UInt16) (peer : BluetoothAddress)
  | linkKeyRequest (peer : BluetoothAddress)
  | linkKeyNotification (peer : BluetoothAddress) (linkKey : Bytes) (linkKeyType : UInt8)
      (length_linkKey : linkKey.length = 16)
  | ioCapabilityRequest (peer : BluetoothAddress)
  | userConfirmationRequest (peer : BluetoothAddress)
  | authenticationComplete (status : UInt8) (connectionHandle : UInt16)
  | encryptionChange (status : UInt8) (connectionHandle : UInt16) (enabled : Bool)
  | numberOfCompletedPackets (connectionHandle completed : UInt16)
  | disconnectionComplete (connectionHandle : UInt16) (reason : UInt8)
  deriving Repr

inductive SessionEvent
  | connected (peer : BluetoothAddress) (connectionHandle : UInt16)
  | bondStored (peer : BluetoothAddress)
  | encrypted (peer : BluetoothAddress)
  | channelOpened (psm : UInt32) (sourceCid : UInt16)
  | disconnected (peer : BluetoothAddress) (reason : UInt8)
  deriving DecidableEq, Repr

inductive HostOutput
  | command (packet : CommandPacket)
  | acl (packet : AclPacket)
  | event (event : SessionEvent)
  deriving DecidableEq, Repr

inductive HostError
  | bondStore (error : BondStoreError)
  | codec (error : CodecError)
  | l2cap (error : L2capError)
  | noConnection
  | connectionHandleMismatch (expected actual : UInt16)
  | peerMismatch (expected actual : BluetoothAddress)
  | aclCreditUnderflow (inFlight completed : UInt16)
  deriving DecidableEq, Repr

/-- The link the host holds. -/
structure Connection where
  peer : BluetoothAddress
  handle : UInt16
  encrypted : Bool
  channels : ChannelManager

/-! ### ACL credits -/

/-- The controller's buffers: how many packets it takes, how many it holds for each handle, and
the packets waiting for a buffer. -/
structure AclFlow where
  payloadSize : ℕ
  totalPackets : UInt16
  inFlight : ExtTreeMap UInt16 UInt16 := ∅
  queued : List AclPacket := []

namespace AclFlow

def new (payloadSize : ℕ) (totalPackets : UInt16) : AclFlow :=
  { payloadSize := payloadSize, totalPackets := totalPackets }

/-- The packets the controller holds, counted in 16 bits. -/
def inFlightTotal (flow : AclFlow) : UInt16 := (flow.inFlight.toList.map (·.2)).sum

def enqueue (packets : List AclPacket) (flow : AclFlow) : AclFlow :=
  { flow with queued := flow.queued ++ packets }

/-- One more packet of a handle is with the controller. -/
def take (handle : UInt16) (flow : AclFlow) : AclFlow :=
  { flow with inFlight := flow.inFlight.insert handle ((flow.inFlight[handle]?).getD 0 + 1) }

/-- Hand over the packets of `queued` while the controller has room: what is left of the queue,
and the packets handed over. -/
def release (flow : AclFlow) : List AclPacket → AclFlow × List AclPacket
  | [] => ({ flow with queued := [] }, [])
  | packet :: queued =>
    if flow.inFlightTotal < flow.totalPackets then
      let (flow, released) := (flow.take packet.connectionHandle).release queued
      (flow, packet :: released)
    else ({ flow with queued := packet :: queued }, [])

/-- Hand over queued packets while the controller has room. -/
def flush (flow : AclFlow) : AclFlow × List AclPacket := flow.release flow.queued

def complete (connectionHandle completed : UInt16) : Exec AclFlow HostError Unit := fun flow =>
  let inFlight := (flow.inFlight[connectionHandle]?).getD 0
  if completed > inFlight then (.error (.aclCreditUnderflow inFlight completed), flow)
  else if inFlight - completed = 0 then
    (.ok (), { flow with inFlight := flow.inFlight.erase connectionHandle })
  else
    (.ok (), { flow with
      inFlight := flow.inFlight.insert connectionHandle (inFlight - completed) })

def clearHandle (connectionHandle : UInt16) (flow : AclFlow) : AclFlow :=
  { flow with
    inFlight := flow.inFlight.erase connectionHandle
    queued := flow.queued.filter (·.connectionHandle ≠ connectionHandle) }

end AclFlow

/-! ### The host -/

/-- The state of the host. -/
structure ClassicHost (S : Type) where
  bonds : RecordingStore S
  connection : Option Connection := none
  pendingPeer : Option BluetoothAddress := none
  servers : ExtTreeMap UInt32 ClassicChannelSpec := ∅
  aclAssembler : AclAssembler := {}
  aclFlow : AclFlow
  output : List HostOutput := []

namespace ClassicHost

variable {S : Type}

/-- An operation of the host. -/
abbrev Op (S α : Type) := Exec (ClassicHost S) HostError α

def new (bonds : S) (aclPayloadSize : ℕ) (totalAclPackets : UInt16) : ClassicHost S :=
  { bonds := { inner := bonds }, aclFlow := .new aclPayloadSize totalAclPackets }

/-! #### Parts of the state -/

def setFlow (flow : AclFlow) (host : ClassicHost S) : ClassicHost S :=
  { host with aclFlow := flow }

/-- Append to the output. -/
def pushOutput (items : List HostOutput) : Op S Unit :=
  Exec.modify fun host => { host with output := host.output ++ items }

def queueCommand (opcode : UInt16) (parameters : Bytes) : Op S Unit := do
  let packet ← Exec.mapError .codec (Exec.lift (CommandPacket.new opcode parameters))
  pushOutput [.command packet]

/-- The channels of the link replaced. -/
def setChannels (channels : ChannelManager) (host : ClassicHost S) : ClassicHost S :=
  { host with connection := host.connection.map fun c => { c with channels := channels } }

/-- An operation on the channels of the link; an error when there is no link. -/
def onChannels {α : Type} (m : ChannelManager.Update α) : Op S α :=
  Exec.zoomOption (fun host => host.connection.map (·.channels)) setChannels .noConnection
    (Exec.mapError .l2cap m)

/-- Move queued packets to the output while there are credits. -/
def flushFlow : Op S Unit :=
  Exec.modify fun host =>
    { host with
      aclFlow := host.aclFlow.flush.1
      output := host.output ++ host.aclFlow.flush.2.map .acl }

def connectionHandle : Op S UInt16 := fun host =>
  match host.connection with
  | some connection => (.ok connection.handle, host)
  | none => (.error .noConnection, host)

def ensureHandle (actual : UInt16) : Op S Unit := do
  let expected ← connectionHandle
  if actual = expected then pure () else Exec.fail (.connectionHandleMismatch expected actual)

/-- The link, which must have the given handle. -/
def connectionOf (actual : UInt16) : Op S Connection := do
  ensureHandle actual
  match (← Exec.get).connection with
  | some connection => pure connection
  | none => Exec.fail .noConnection

/-- Cut one PDU into packets and queue them. -/
def enqueuePdu (handle : UInt16) (pdu : L2capPdu) : Op S Unit := do
  let size ← Exec.gets (·.aclFlow.payloadSize)
  let packets ← Exec.mapError .codec
    (Exec.lift (fragmentL2capPdu handle 0 size (pdu.toBytes false) false))
  Exec.modify fun host => host.setFlow (host.aclFlow.enqueue packets)

/-- The accepted channels with their PSMs. A channel is never removed, so each is found. -/
def openedChannels (channels : ChannelManager) : List (UInt32 × UInt16) :=
  channels.acceptedChannels.filterMap fun cid => (channels.channel cid).map fun c => (c.psm, cid)

/-- Queue the PDUs the channels have emitted and announce the channels that opened. -/
def flushChannels : Op S Unit := do
  let handle ← connectionHandle
  let channels ← onChannels Exec.get
  Exec.modify (setChannels { channels with outbound := [], acceptedChannels := [] })
  Exec.forEach (enqueuePdu handle) channels.outbound
  flushFlow
  pushOutput ((openedChannels channels).map fun (psm, cid) => .event (.channelOpened psm cid))

/-- An operation on the channels, and the queueing of what they emitted. -/
def callChannels {α : Type} (m : ChannelManager.Update α) : Op S α := do
  let a ← onChannels m
  flushChannels
  pure a

/-! #### Operations -/

def registerServer (psm : UInt32) (spec : ClassicChannelSpec) : Op S Unit := do
  let host ← Exec.get
  if host.connection.isSome then
    let _ ← onChannels (ChannelManager.registerServer (some psm) spec)
  Exec.modify fun host => { host with servers := host.servers.insert psm spec }

/-- The channels of a new link: none, with every server registered. -/
def newChannels (servers : ExtTreeMap UInt32 ClassicChannelSpec) :
    Except L2capError ChannelManager :=
  let registered := Exec.forEach
    (fun (psm, spec) => do let _ ← ChannelManager.registerServer (some psm) spec) servers.toList
    ChannelManager.new
  registered.1.map fun _ => registered.2

variable [BondStore S]

def onConnectionRequest (peer : BluetoothAddress) : Op S Unit := do
  Exec.modify fun host => { host with pendingPeer := some peer }
  queueCommand hciAcceptConnectionRequest (peer.asLeBytes ++ [hciRolePeripheral])

/-- An accepted request fixes the peer of the next link. -/
def checkPendingPeer (peer : BluetoothAddress) : Op S Unit := fun host =>
  match host.pendingPeer with
  | some expected =>
    if peer ≠ expected then (.error (.peerMismatch expected peer), host) else (.ok (), host)
  | none => (.ok (), host)

def onConnectionComplete (handle : UInt16) (peer : BluetoothAddress) : Op S Unit := do
  checkPendingPeer peer
  let servers ← Exec.gets servers
  let channels ← Exec.mapError .l2cap (Exec.lift (newChannels servers))
  Exec.modify fun host => { host with
    pendingPeer := none
    connection := some { peer := peer, handle := handle, encrypted := false, channels := channels } }
  pushOutput [.event (.connected peer handle)]
  queueCommand hciAuthenticationRequested (toLe16 handle)

def onLinkKeyRequest (peer : BluetoothAddress) : Op S Unit := do
  let host ← Exec.get
  match ← Exec.mapError .bondStore (Exec.lift (BondStore.load host.bonds.inner peer)) with
  | some bond => queueCommand hciLinkKeyRequestReply (peer.asLeBytes ++ bond.linkKey)
  | none => queueCommand hciLinkKeyRequestNegativeReply peer.asLeBytes

def onLinkKeyNotification (peer : BluetoothAddress) (bond : ClassicBond) : Op S Unit := do
  Exec.zoom bonds (fun bonds host => { host with bonds := bonds })
    (Exec.mapError .bondStore (RecordingStore.upsert peer bond))
  pushOutput [.event (.bondStored peer)]

def onEncrypted (handle : UInt16) : Op S Unit := do
  let connection ← connectionOf handle
  Exec.modify fun host => { host with connection := some { connection with encrypted := true } }
  pushOutput [.event (.encrypted connection.peer)]

/-- The packets of a handle taken out of an output. -/
def withoutHandle (handle : UInt16) (output : List HostOutput) : List HostOutput :=
  output.filter fun item => match item with
    | .acl packet => packet.connectionHandle ≠ handle
    | _ => true

def onDisconnectionComplete (handle : UInt16) (reason : UInt8) : Op S Unit := do
  let connection ← connectionOf handle
  Exec.modify fun host => { host with
    aclFlow := host.aclFlow.clearHandle handle
    aclAssembler := host.aclAssembler.clearHandle handle
    output := withoutHandle handle host.output
    connection := none }
  pushOutput [.event (.disconnected connection.peer reason)]

/-- The bond of a link key; only two key types come from an authenticated exchange. -/
def bondOf (linkKey : Bytes) (linkKeyType : UInt8) (h : linkKey.length = 16) : ClassicBond :=
  { linkKey := linkKey, linkKeyType := linkKeyType,
    authenticated := linkKeyType = 0x05 || linkKeyType = 0x08, length_linkKey := h }

def handleEvent (event : ClassicEvent) : Op S Unit :=
  match event with
  | .connectionRequest peer => onConnectionRequest peer
  | .connectionComplete status handle peer =>
    if status = 0 then onConnectionComplete handle peer
    else Exec.modify fun host => { host with pendingPeer := none }
  | .linkKeyRequest peer => onLinkKeyRequest peer
  | .linkKeyNotification peer linkKey linkKeyType h =>
    onLinkKeyNotification peer (bondOf linkKey linkKeyType h)
  | .ioCapabilityRequest peer =>
    queueCommand hciIoCapabilityRequestReply (peer.asLeBytes ++ [hciIoCapabilityNoInputNoOutput, 0,
      hciAuthenticationRequirementsDedicatedBondingNoMitm])
  | .userConfirmationRequest peer => queueCommand hciUserConfirmationRequestReply peer.asLeBytes
  | .authenticationComplete status handle =>
    if status = 0 then do
      ensureHandle handle
      queueCommand hciSetConnectionEncryption (toLe16 handle ++ [1])
    else pure ()
  | .encryptionChange status handle enabled =>
    if status = 0 ∧ enabled then onEncrypted handle else pure ()
  | .numberOfCompletedPackets handle completed => do
    Exec.zoom aclFlow setFlow (AclFlow.complete handle completed)
    flushFlow
  | .disconnectionComplete handle reason => onDisconnectionComplete handle reason

omit [BondStore S]

def processAcl (packet : AclPacket) : Op S Unit := do
  let handle ← connectionHandle
  if packet.connectionHandle ≠ handle then
    Exec.fail (.connectionHandleMismatch handle packet.connectionHandle)
  else
    let completed ← Exec.zoom aclAssembler
      (fun assembler host => { host with aclAssembler := assembler })
      (Exec.mapError .codec (AclAssembler.feed packet))
    match completed with
    | none => pure ()
    | some bytes => do
      let pdu ← Exec.mapError .l2cap (Exec.lift (L2capPdu.fromBytes bytes))
      callChannels (ChannelManager.processPdu pdu)

def sendChannelSdu (sourceCid : UInt16) (sdu : Bytes) : Op S Unit :=
  callChannels (ChannelManager.send sourceCid sdu)

/-- Begin an outgoing channel; the answer is its local channel identifier. -/
def connectChannel (psm : UInt32) (spec : ClassicChannelSpec) : Op S UInt16 :=
  callChannels (ChannelManager.connect psm spec)

/-- The PSM of a channel, the MTU of its peer, and whether it is open. -/
def channelInfo (host : ClassicHost S) (sourceCid : UInt16) : Option (UInt32 × UInt16 × Bool) := do
  let connection ← host.connection
  let channel ← connection.channels.channel sourceCid
  pure (channel.psm, channel.peerMtu, channel.isOpen)

def interruptSendCapacityAvailable (host : ClassicHost S) : Bool :=
  host.aclFlow.queued.isEmpty && host.aclFlow.inFlightTotal < host.aclFlow.totalPackets

def channelOutputIsFlushed (host : ClassicHost S) : Bool := host.aclFlow.queued.isEmpty

/-- The next SDU a channel received. -/
def takeChannelSdu (sourceCid : UInt16) (host : ClassicHost S) : Option Bytes × ClassicHost S :=
  match host.connection with
  | none => (none, host)
  | some connection =>
    match connection.channels.channel sourceCid with
    | none => (none, host)
    | some channel =>
      (channel.popReceived.1, host.setChannels { connection.channels with
        channels := connection.channels.channels.insert sourceCid channel.popReceived.2 })

def popOutput (host : ClassicHost S) : Option HostOutput × ClassicHost S :=
  match host.output with
  | [] => (none, host)
  | item :: output => (some item, { host with output := output })

end ClassicHost

end ClassicHid

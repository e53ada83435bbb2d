import ClassicHid.Session.Controller

/-!
# The backend session

A session drives one controller for one HID device: it opens a window in which a peer may connect,
hands the controller's packets to the host, carries out what the host asks for, runs SDP and HIDP on
the channels of the link, and keeps the events its caller has not yet polled.

The operations act on a `World`: the session, the readings of the clock, and the record of what
happened so far. The program keeps no such record. It is written beside the program's own effects,
each entry with the session as it was at that moment, so that statements can speak about runs.

## Main definitions

* `ConnectionWindow`, `ProtocolState`, `BackendSession`: the state of a session
* `Action`, `Entry`, `World`: the record of a run; `packetsOut`: the packets sent according to it
* `BackendSession.handlePolledPacket`: one packet from the controller
* `BackendSession.startPairing`, `startReconnect`, `poll`, `sendInterrupt`, `drainInterrupt`,
  `disconnect`, `close`: the calls of the interface
* `World.perform`, `World.inbound`: one call, and one packet between two calls
* `Reachable`: the worlds of all runs
-/

namespace ClassicHid

open Foundation
open Std (ExtTreeMap ExtTreeSet)

def connectionRejectedUnacceptableAddress : UInt8 := 0x0F

def remoteUserTerminatedConnection : UInt8 := 0x13

def authenticationFailure : UInt8 := 0x05

def classicServerMtu : UInt16 := 672

def eventQueueCapacity : ℕ := 64

/-! ### The state of a session -/

/-- Application-visible output from a backend session. -/
inductive Event
  | connected (peer : BluetoothAddress)
  | channelOpened (channel : Channel)
  | hidOutput (channel : Channel) (payload : Bytes)
  | disconnected (reason : Option UInt8)
  deriving DecidableEq, Repr

/-- Which peer may connect. -/
inductive ConnectionWindow
  | idle
  | pairing (peer : Option BluetoothAddress)
  | reconnecting (peer : BluetoothAddress)
  | connected
  deriving DecidableEq, Repr

namespace ConnectionWindow

/-- The peer a window waits for. -/
def expected : ConnectionWindow → Option BluetoothAddress
  | pairing peer => peer
  | reconnecting peer => some peer
  | idle | connected => none

/-- The answer to the request of a peer. A pairing window takes the first peer that asks. -/
def accept (peer : BluetoothAddress) : ConnectionWindow → Bool × ConnectionWindow
  | pairing none => (true, pairing (some peer))
  | pairing (some expected) => (expected = peer, pairing (some expected))
  | reconnecting expected => (expected = peer, reconnecting expected)
  | window => (false, window)

end ConnectionWindow

/-- A HID channel of the link, and whether it has been announced. -/
structure ProtocolChannel where
  cid : UInt16
  «open» : Bool
  deriving DecidableEq, Repr

/-- What runs on the channels of the link. -/
structure ProtocolState where
  sdp : ExtTreeMap UInt16 HidSdpChannel := ∅
  control : Option ProtocolChannel := none
  interrupt : Option ProtocolChannel := none
  hidp : HidpBridge := .new 0 0

namespace ProtocolState

def channel (protocols : ProtocolState) : Channel → Option ProtocolChannel
  | .control => protocols.control
  | .interrupt => protocols.interrupt

def setChannel (channel : Channel) (protocolChannel : ProtocolChannel)
    (protocols : ProtocolState) : ProtocolState :=
  match channel with
  | .control => { protocols with control := some protocolChannel }
  | .interrupt => { protocols with interrupt := some protocolChannel }

end ProtocolState

/-- The PSM of a HID channel. -/
def Channel.psm : Channel → UInt32
  | control => hidControlPsm
  | interrupt => hidInterruptPsm

/-- The state of a session over a bond store `S`. -/
structure BackendSession (S : Type) where
  io : Option HciIo
  capabilities : Capabilities
  config : SessionConfig
  host : ClassicHost S
  window : ConnectionWindow := .idle
  connection : Option (BluetoothAddress × UInt16) := none
  rejectedConnections : ExtTreeSet UInt16 := ∅
  protocols : ProtocolState := {}
  activeReconnect : Bool := false
  terminal : Option Error := none
  closed : Bool := false
  pendingEvents : List Event := []

/-! ### Runs -/

/-- The calls of the interface that change the session. -/
inductive Call
  | startPairing
  | startReconnect
  | poll (timeout : ℕ)
  | sendInterrupt (payload : Bytes)
  | drainInterrupt (timeout : ℕ)
  | disconnect
  | close
  deriving DecidableEq, Repr

/-- What happens in a run. -/
inductive Action
  | called (call : Call)
  | returned (call : Call) (result : Except Error (List Event))
  | received (packet : Packet)
  | sent (packet : Packet)
  | opened (window : ConnectionWindow)
  | connected (peer : BluetoothAddress) (handle : UInt16)
  | enqueued (event : Event)
  | connecting (psm : UInt32)
  | upserted (peer : BluetoothAddress) (bond : ClassicBond)
  | closed

/-- An action, with the session in which it was taken. -/
structure Entry (S : Type) where
  session : BackendSession S
  action : Action

/-- A session, the clock it reads and the record of its run, latest entry first. After its last
reading the clock stands at `horizon`, the last instant it can show. -/
structure World (S : Type) where
  session : BackendSession S
  clock : List ℕ := []
  horizon : ℕ := 0
  trace : List (Entry S) := []

namespace World

variable {S : Type}

/-- The world with one more entry in its record. -/
def log (action : Action) (w : World S) : World S :=
  { w with trace := ⟨w.session, action⟩ :: w.trace }

/-- The world with its session changed. -/
def set (f : BackendSession S → BackendSession S) (w : World S) : World S :=
  { w with session := f w.session }

/-- The world with one more event for the caller. One event too many ends the session. -/
def enqueue (event : Event) (w : World S) : World S :=
  if w.session.terminal.isSome then w
  else if w.session.pendingEvents.length = eventQueueCapacity then
    w.set ({ · with terminal := some (.new .eventQueueOverflow) })
  else (w.log (.enqueued event)).set fun session =>
    { session with pendingEvents := session.pendingEvents ++ [event] }

end World

section Record

variable {S : Type}

/-- The packet that an action hands to the controller. -/
def Action.sentPacket? : Action → Option Packet
  | .sent packet => some packet
  | _ => none

/-- The packets sent according to a record, oldest first. -/
def packetsOut (trace : List (Entry S)) : List Packet :=
  (trace.filterMap (·.action.sentPacket?)).reverse

theorem packetsOut_cons (session : BackendSession S) (action : Action) (trace : List (Entry S)) :
    packetsOut (⟨session, action⟩ :: trace) = packetsOut trace ++ action.sentPacket?.toList := by
  rw [packetsOut, List.filterMap_cons, packetsOut]
  cases action.sentPacket? <;> simp

theorem packetsOut_append (later trace : List (Entry S)) :
    packetsOut (later ++ trace) = packetsOut trace ++ packetsOut later := by
  simp [packetsOut]

theorem packetsOut_eq_nil {later : List (Entry S)}
    (h : ∀ entry ∈ later, entry.action.sentPacket? = none) : packetsOut later = [] := by
  rw [packetsOut, List.filterMap_eq_nil_iff.mpr h, List.reverse_nil]

end Record

namespace BackendSession

variable {S : Type}

/-- An operation of a session. -/
abbrev Op (S α : Type) := Exec (World S) Error α

/-! ### Parts of the world -/

/-- Change the session. -/
def update (f : BackendSession S → BackendSession S) : Op S Unit := Exec.modify (World.set f)

/-- Enter an action into the record. -/
def record (action : Action) : Op S Unit := Exec.modify (World.log action)

/-- Read the clock. -/
def now : Op S ℕ :=
  Exec.update fun w =>
    match w.clock with
    | [] => (w.horizon, w)
    | reading :: clock => (reading, { w with clock := clock })

/-- The bonds a host was asked to keep while it went from `before` to `after`. -/
def newUpserts (before after : ClassicHost S) : List (BluetoothAddress × ClassicBond) :=
  after.bonds.upserts.drop before.bonds.upserts.length

/-- The world after the host has changed: the bonds it stored are recorded. -/
def hosted (host : ClassicHost S) (w : World S) : World S :=
  { w with
    session := { w.session with host := host }
    trace := ((newUpserts w.session.host host).map fun (peer, bond) =>
      ⟨w.session, .upserted peer bond⟩).reverse ++ w.trace }

/-- An operation of the host. -/
def onHost {α : Type} (m : ClassicHost.Op S α) : Exec (World S) HostError α := fun w =>
  ((m w.session.host).1, hosted (m w.session.host).2 w)

/-! ### Input and output -/

/-- `send` of the controller, which must be there. -/
def sendPacket (packet : Packet) : Op S Unit := fun w =>
  match w.session.io with
  | none => (.error (.new .closed), w)
  | some io =>
    ((HciIo.send packet io).1,
      (w.log (.sent packet)).set ({ · with io := some (HciIo.send packet io).2 }))

/-- `recv_timeout` of the controller, which must be there. The result is a value: what an error
means is for the caller to say. -/
def receive (timeout : ℕ) : Op S (Except Error (Option Packet)) := fun w =>
  match w.session.io with
  | none => (.error (.new .closed), w)
  | some io =>
    match HciIo.recvTimeout timeout io with
    | (.ok (some packet), io) =>
      (.ok (.ok (some packet)), (w.log (.received packet)).set ({ · with io := some io }))
    | (answer, io) => (.ok answer, w.set ({ · with io := some io }))

/-! ### Commands and windows -/

def checkActive (session : BackendSession S) : Except Error Unit :=
  if session.closed then .error (.new .closed)
  else match session.terminal with
    | some error => .error error
    | none => .ok ()

def ensureActive : Op S Unit := fun w => (checkActive w.session, w)

def sendCommand (opcode : UInt16) (parameters : Bytes) : Op S Unit := do
  let command ← Exec.lift ((CommandPacket.new opcode parameters).mapError fun source =>
    Error.withSource .protocolViolation (.codec source))
  sendPacket (.command command)

def setScan (discoverable connectable : Bool) : Op S Unit :=
  sendCommand hciWriteScanEnable [discoverable.toUInt8 ||| (connectable.toUInt8 <<< 1)]

def writeInquiryResponse : Op S Unit := do
  let config ← Exec.gets (·.session.config)
  sendCommand hciWriteExtendedInquiryResponse (0 :: config.extendedInquiryResponse)

/-- The controller shows itself to nobody. -/
def hideController : Op S Unit := do
  writeInquiryResponse
  setScan false true
  setScan false false

def endConnectionWindow : Op S Unit := do
  let window ← Exec.gets (·.session.window)
  if window = .idle then pure ()
  else do
    hideController
    update fun session => { session with window := .idle }

/-- The session ends with an error, which is the result. -/
def recordTerminal {α : Type} (error : Error) : Op S α := do
  update fun session => { session with terminal := some error }
  Exec.fail error

def enqueueEvent (event : Event) : Op S Unit := Exec.modify (World.enqueue event)

/-! ### Channels -/

/-- Begin an outgoing channel. -/
def connectChannel (psm : UInt32) : Op S UInt16 := fun w =>
  match onHost (ClassicHost.connectChannel psm { mtu := classicServerMtu }) w with
  | (.ok cid, w') => (.ok cid, { w' with trace := ⟨w.session, .connecting psm⟩ :: w'.trace })
  | (.error error, w') => (.error (mapHostError error), w')

def sendChannelSdu (cid : UInt16) (sdu : Bytes) : Op S Unit :=
  Exec.mapError mapHostError (onHost (ClassicHost.sendChannelSdu cid sdu))

def takeChannelSdu (cid : UInt16) : Op S (Option Bytes) :=
  Exec.update fun w =>
    ((w.session.host.takeChannelSdu cid).1,
      w.set ({ · with host := (w.session.host.takeChannelSdu cid).2 }))

def protocolsUpdate (f : ProtocolState → ProtocolState) : Op S Unit :=
  update fun session => { session with protocols := f session.protocols }

/-- An active reconnect begins a HID channel that is not there. -/
def connectHidChannel (channel : Channel) : Op S Unit := do
  let session ← Exec.gets World.session
  if session.activeReconnect ∧ session.protocols.channel channel = none then do
    let cid ← connectChannel channel.psm
    protocolsUpdate (·.setChannel channel ⟨cid, false⟩)
  else pure ()

def startActiveReconnectControl : Op S Unit := connectHidChannel .control

/-- Whether a channel that opened is the one to announce. -/
def firstOpen (channel : Option ProtocolChannel) (cid : UInt16) : Bool :=
  match channel with
  | none => true
  | some channel => channel.cid = cid && !channel.open

/-- Announce a HID channel that opened, once. -/
def announceChannel (channel : Channel) (cid peerMtu : UInt16) : Op S Unit := do
  let session ← Exec.gets World.session
  if firstOpen (session.protocols.channel channel) cid then do
    protocolsUpdate fun protocols => { protocols.setChannel channel ⟨cid, true⟩ with
      hidp := protocols.hidp.setPeerMtu channel peerMtu.toNat }
    enqueueEvent (.channelOpened channel)
  else pure ()

def onChannelOpened (psm : UInt32) (cid : UInt16) : Op S Unit := do
  let session ← Exec.gets World.session
  match session.host.channelInfo cid with
  | none => Exec.fail (.new .protocolViolation)
  | some (actualPsm, peerMtu, isOpen) =>
    if !isOpen ∨ actualPsm ≠ psm then Exec.fail (.new .protocolViolation)
    else if psm = sdpPsm then
      protocolsUpdate fun protocols => { protocols with
        sdp := protocols.sdp.insertIfNew cid (.new session.config.hidService peerMtu) }
    else if psm = hidControlPsm then do
      announceChannel .control cid peerMtu
      connectHidChannel .interrupt
    else if psm = hidInterruptPsm then announceChannel .interrupt cid peerMtu
    else Exec.fail (.new .protocolViolation)

/-- An outgoing channel that has opened since is announced. -/
def refreshChannel (channel : Channel) : Op S Unit := do
  let session ← Exec.gets World.session
  match session.protocols.channel channel with
  | none => pure ()
  | some protocolChannel =>
    if !protocolChannel.open ∧ (session.host.channelInfo protocolChannel.cid).any (·.2.2) then
      onChannelOpened channel.psm protocolChannel.cid
    else pure ()

def refreshOutgoingChannels : Op S Unit := do
  refreshChannel .control
  refreshChannel .interrupt

/-! ### The output of the host -/

def popOutput : Op S (Option HostOutput) :=
  Exec.update fun w =>
    (w.session.host.popOutput.1, w.set ({ · with host := w.session.host.popOutput.2 }))

/-- Carry out one request of the host. -/
def handleOutput : HostOutput → Op S Unit
  | .command command => sendPacket (.command command)
  | .acl packet => sendPacket (.acl packet)
  | .event (.connected peer handle) => do
    record (.connected peer handle)
    update fun session => { session with
      connection := some (peer, handle), window := .connected, protocols := {} }
    hideController
    enqueueEvent (.connected peer)
  | .event (.disconnected _ reason) => do
    update fun session => { session with
      connection := none, window := .idle, protocols := {}, activeReconnect := false }
    enqueueEvent (.disconnected (some reason))
  | .event (.encrypted _) => startActiveReconnectControl
  | .event (.channelOpened psm sourceCid) => onChannelOpened psm sourceCid
  | .event (.bondStored _) => pure ()

/-- The work one request of the host can make: an announcement may begin a channel, whose request
is a PDU of 12 bytes. -/
def outputWeight : HostOutput → ℕ
  | .event (.encrypted _) | .event (.channelOpened ..) => 14
  | _ => 1

/-- The work a host has left, counted so that carrying out one of its requests makes it less. -/
def hostWork (host : ClassicHost S) : ℕ :=
  (host.output.map outputWeight).sum + host.aclFlow.queued.length +
    host.connection.elim 0 fun connection =>
      (connection.channels.outbound.map fun pdu => (pdu.toBytes false).length).sum +
        14 * connection.channels.acceptedChannels.length

/-- Carry out the next request of the host; the result says whether there was one. -/
def drainOne : Op S Bool := do
  match ← popOutput with
  | some output => do
    handleOutput output
    pure true
  | none => pure false

/-- Carry out what the host asks for, until it asks for nothing more. -/
def drainHostOutput : Op S Unit := Exec.loop (fun w => hostWork w.session.host) drainOne

/-! ### SDP and HIDP -/

/-- The SDUs that wait on a channel of the link. -/
def hostBacklog (cid : UInt16) (host : ClassicHost S) : ℕ :=
  host.connection.elim 0 fun connection => (connection.channels.channel cid).elim 0 (·.backlog)

/-- One request received on an SDP channel. -/
def handleSdp (cid : UInt16) (request : Bytes) : Op S Unit := do
  let session ← Exec.gets World.session
  match session.protocols.sdp[cid]? with
  | none => pure ()
  | some channel => do
    let (response, channel) := channel.handleSdu request
    protocolsUpdate fun protocols => { protocols with sdp := protocols.sdp.insert cid channel }
    match response with
    | some response => sendChannelSdu cid response
    | none => pure ()

/-- Handle the next SDU received on a channel; the result says whether there was one. -/
def serveOne (cid : UInt16) (handle : Bytes → Op S Unit) : Op S Bool := do
  match ← takeChannelSdu cid with
  | none => pure false
  | some sdu => do
    handle sdu
    pure true

/-- Handle the SDUs received on a channel one by one. -/
def serve (cid : UInt16) (handle : Bytes → Op S Unit) : Op S Unit :=
  Exec.loop (fun w => hostBacklog cid w.session.host) (serveOne cid handle)

def serveSdp (cid : UInt16) : Op S Unit := serve cid (handleSdp cid)

def applyHidpEvent : HidpBridgeEvent → Op S Unit
  | .output channel payload => enqueueEvent (.hidOutput channel payload)
  | .controlResponse response => do
    let session ← Exec.gets World.session
    match session.protocols.control with
    | some control => if control.open then sendChannelSdu control.cid response else pure ()
    | none => pure ()
  | .suspend | .resume | .virtualCableUnplug | .unsupported _ => pure ()

def applyHidpEvents (events : List HidpBridgeEvent) : Op S Unit :=
  Exec.forEach applyHidpEvent events

/-- One message received on a HID channel. -/
def handleHidp (channel : Channel) (cid : UInt16) (sdu : Bytes) : Op S Unit := do
  let session ← Exec.gets World.session
  let (result, hidp) := HidpBridge.handle channel sdu session.protocols.hidp
  protocolsUpdate fun protocols => { protocols with hidp := hidp }
  match result with
  | .ok events => applyHidpEvents events
  | .error (.malformed .control) =>
    match hidp.invalidParameterResponse with
    | .ok response => sendChannelSdu cid response
    | .error _ => pure ()
  | .error _ => pure ()

/-- Handle the messages received on a HID channel, if it is open. -/
def serveHidp (channel : Channel) (protocolChannel : Option ProtocolChannel) : Op S Unit :=
  match protocolChannel with
  | none => pure ()
  | some protocolChannel =>
    if protocolChannel.open then serve protocolChannel.cid (handleHidp channel protocolChannel.cid)
    else pure ()

def processProtocolInput : Op S Unit := do
  let sdp ← Exec.gets (·.session.protocols.sdp)
  Exec.forEach serveSdp sdp.keys
  let protocols ← Exec.gets (·.session.protocols)
  serveHidp .control protocols.control
  serveHidp .interrupt protocols.interrupt

/-! ### Packets from the controller -/

/-- A connection request is answered here unless the window lets it in. The result says whether
the host is to see it. -/
def screenConnectionRequest (parameters : Bytes) : Op S Bool := do
  Exec.lift (requireLen parameters 10 "connection request")
  let peer ← Exec.lift (addressAt parameters 0)
  let window ← Exec.gets (·.session.window)
  let (accepted, window) :=
    if parameters.getD 9 0 = 0x01 then window.accept peer else (false, window)
  update fun session => { session with window := window }
  if !accepted then do
    sendCommand hciRejectConnectionRequest
      (peer.asLeBytes ++ [connectionRejectedUnacceptableAddress])
    pure false
  else pure true

/-- A link with a peer that the window does not expect is ended here. -/
def screenConnectionComplete (parameters : Bytes) : Op S Bool := do
  Exec.lift (requireLen parameters 11 "connection complete")
  let status := parameters.getD 0 0
  let handle := le16At parameters 1
  let peer ← Exec.lift (addressAt parameters 3)
  let window ← Exec.gets (·.session.window)
  if status = 0 ∧ (window.expected ≠ some peer ∨ parameters.getD 9 0 ≠ 0x01) then do
    sendCommand hciDisconnect (toLe16 handle ++ [authenticationFailure])
    update fun session =>
      { session with rejectedConnections := session.rejectedConnections.insert handle }
    pure false
  else if status ≠ 0 then do
    endConnectionWindow
    update fun session => { session with activeReconnect := false }
    enqueueEvent (.disconnected (some status))
    pure true
  else pure true

/-- The end of a link that was ended here is no concern of the host. -/
def screenDisconnectionComplete (parameters : Bytes) : Op S Bool := do
  Exec.lift (requireLen parameters 4 "disconnection complete")
  let handle := le16At parameters 1
  let session ← Exec.gets World.session
  if parameters.getD 0 0 = 0 ∧ handle ∈ session.rejectedConnections then do
    update fun session =>
      { session with rejectedConnections := session.rejectedConnections.erase handle }
    pure false
  else pure true

def screenEvent (event : EventPacket) : Op S Bool :=
  if event.eventCode = eventConnectionRequest then screenConnectionRequest event.parameters
  else if event.eventCode = eventConnectionComplete then
    screenConnectionComplete event.parameters
  else if event.eventCode = eventDisconnectionComplete then
    screenDisconnectionComplete event.parameters
  else pure true

/-- Hand one event to the host. -/
def tellHost [BondStore S] (event : ClassicEvent) : Op S Unit :=
  Exec.mapError mapHostError (onHost (ClassicHost.handleEvent event))

/-- Hand an event to the host and carry out what it asks for. -/
def forwardEvent [BondStore S] (event : EventPacket) : Op S Unit := do
  let events ← Exec.lift (decodeClassicEvent event)
  Exec.forEach tellHost events
  drainHostOutput

def handleEvent [BondStore S] (event : EventPacket) : Op S Unit := do
  if ← screenEvent event then forwardEvent event else pure ()

def handleAcl (packet : AclPacket) : Op S Unit := do
  Exec.mapError mapHostError (onHost (ClassicHost.processAcl packet))
  drainHostOutput
  refreshOutgoingChannels
  processProtocolInput
  drainHostOutput

def handlePacket [BondStore S] : Packet → Op S Unit
  | .event event => handleEvent event
  | .acl packet => handleAcl packet
  | .command _ => Exec.fail (.new .protocolViolation)

/-- One packet: any failure ends the session. -/
def handlePolledPacket [BondStore S] (packet : Packet) : Op S Unit := fun w =>
  match handlePacket packet w with
  | (.error error, w) => recordTerminal error w
  | (.ok _, w) =>
    match w.session.terminal with
    | some error => (.error error, w)
    | none => (.ok (), w)

/-! ### The calls of the interface -/

def startPairing : Op S Unit := do
  ensureActive
  match (← Exec.gets (·.session.window)) with
  | .pairing _ => pure ()
  | .reconnecting _ | .connected => Exec.fail (.new .sendRejected)
  | .idle => do
    setScan false true
    writeInquiryResponse
    setScan true true
    record (.opened (.pairing none))
    update fun session => { session with activeReconnect := false, window := .pairing none }

/-- The only bond of the store. -/
def soleBond [BondStore S] (bonds : S) : Except Error BluetoothAddress :=
  match BondStore.loadAll bonds with
  | .error source => .error (.withSource .invalidBondStore (.bondStore source))
  | .ok [] => .error (.new .noBond)
  | .ok [(peer, _)] => .ok peer
  | .ok _ => .error (.new .invalidBondStore)

def createConnectionParameters (peer : BluetoothAddress) : Bytes :=
  peer.asLeBytes ++ toLe16 0 ++ [0, 0] ++ toLe16 0 ++ [1]

def startReconnect [BondStore S] : Op S Unit := do
  ensureActive
  match (← Exec.gets (·.session.window)) with
  | .reconnecting _ => pure ()
  | .pairing _ | .connected => Exec.fail (.new .sendRejected)
  | .idle => do
    let host ← Exec.gets (·.session.host)
    let peer ← Exec.lift (soleBond host.bonds.inner)
    setScan false true
    writeInquiryResponse
    setScan false true
    sendCommand hciCreateConnection (createConnectionParameters peer)
    record (.opened (.reconnecting peer))
    update fun session =>
      { session with activeReconnect := true, window := .reconnecting peer }

/-- Receive once and handle what came; the result says whether something did. -/
def receiveAndHandle [BondStore S] (timeout : ℕ) : Op S Bool := do
  match ← receive timeout with
  | .ok (some packet) => do
    handlePolledPacket packet
    pure true
  | .ok none => pure false
  | .error error => recordTerminal error

/-- The answers the controller has left. -/
def answersLeft (w : World S) : ℕ := w.session.io.elim 0 (·.answers.length)

/-- Receive until there is nothing more. -/
def receiveAll [BondStore S] : Op S Unit := Exec.loop answersLeft (receiveAndHandle 0)

def takeEvents : Op S (List Event) :=
  Exec.update fun w =>
    (w.session.pendingEvents, w.set ({ · with pendingEvents := [] }))

/-- Wait for a packet, unless an event is there already. -/
def receiveFirst [BondStore S] (timeout : ℕ) : Op S Bool := do
  let pending ← Exec.gets (·.session.pendingEvents)
  if pending.isEmpty then receiveAndHandle timeout else pure false

def poll [BondStore S] (timeout : ℕ) : Op S (List Event) := do
  ensureActive
  let _ ← receiveFirst timeout
  receiveAll
  takeEvents

def interruptSendCapacityAvailable (session : BackendSession S) : Bool :=
  session.terminal.isNone && !session.closed && session.protocols.interrupt.any (·.open) &&
    session.host.interruptSendCapacityAvailable

def sendInterrupt (payload : Bytes) : Op S Unit := do
  ensureActive
  let session ← Exec.gets World.session
  match session.protocols.interrupt.filter (·.open) with
  | none => Exec.fail (.new .sendRejected)
  | some channel => do
    let encoded ← Exec.lift ((session.protocols.hidp.encodeInput payload).mapError fun source =>
      Error.withSource .sendRejected (.hidp source))
    Exec.mapError (fun source => Error.withSource .sendRejected (.host source))
      (onHost (ClassicHost.sendChannelSdu channel.cid encoded))
    drainHostOutput

/-- The instant a timeout ends; now, when that instant cannot be shown. -/
def deadlineAfter (timeout : ℕ) : Op S ℕ := do
  let start ← now
  let horizon ← Exec.gets World.horizon
  if start + timeout ≤ horizon then pure (start + timeout) else now

/-- One round of waiting: the result says whether to wait on. -/
def drainRound [BondStore S] (deadline : ℕ) : Op S Bool := do
  let host ← Exec.gets (·.session.host)
  if host.channelOutputIsFlushed then pure false
  else do
    let remaining := deadline - (← now)
    if remaining = 0 then Exec.fail (.new .drainTimedOut)
    else
      match ← receive remaining with
      | .ok (some packet) => do
        handlePolledPacket packet
        pure true
      | .ok none => Exec.fail (.new .drainTimedOut)
      | .error error => recordTerminal error

def drainInterrupt [BondStore S] (timeout : ℕ) : Op S Unit := do
  ensureActive
  let deadline ← deadlineAfter timeout
  Exec.loop answersLeft (drainRound deadline)

/-- Ask the controller to end a link. -/
def requestDisconnect : Option (BluetoothAddress × UInt16) → Op S Unit
  | some (_, handle) =>
    sendCommand hciDisconnect (toLe16 handle ++ [remoteUserTerminatedConnection])
  | none => pure ()

def disconnect : Op S Unit := do
  ensureActive
  let connection ← Exec.gets (·.session.connection)
  update fun session =>
    { session with protocols := {}, activeReconnect := false, connection := none }
  requestDisconnect connection
  endConnectionWindow

/-- A session after it was closed. -/
def closedSession (session : BackendSession S) : BackendSession S :=
  { session with
    closed := true, connection := none, rejectedConnections := ∅, window := .idle,
    protocols := {}, activeReconnect := false, pendingEvents := [], io := none }

def close : Op S Unit := fun w =>
  if w.session.closed then (.ok (), w)
  else
    match w.session.io with
    | none => (.ok (), w.set closedSession)
    | some io => (io.close, (w.log .closed).set closedSession)

/-- Prepare a controller and open a session on it. -/
def initializeSession [BondStore S] (io : HciIo) (config : SessionConfig) (bonds : S) :
    Except Error (BackendSession S) := do
  let (initialized, io) ← match initializeController config io with
    | (.ok initialized, io) => .ok (initialized, io)
    | (.error error, _) => .error error
  let capabilities : Capabilities :=
    { localAddress := initialized.localAddress, controllerVersion := initialized.version,
      usb := io.metadata }
  let bonds ← match BondStore.selectLocalAddress capabilities.localAddress bonds with
    | (.ok _, bonds) => .ok bonds
    | (.error source, _) => .error (.withSource .invalidBondStore (.bondStore source))
  let register (psm : UInt32) := ClassicHost.registerServer psm { mtu := classicServerMtu }
  match Exec.forEach register [sdpPsm, hidControlPsm, hidInterruptPsm]
      (ClassicHost.new bonds initialized.aclPacketLength.toNat initialized.aclPacketCount) with
  | (.error source, _) => .error (.withSource .openFailed (.host source))
  | (.ok _, host) =>
    .ok { io := some io, capabilities := capabilities, config := config, host := host }

end BackendSession

/-! ### Calls and packets -/

section Runs

variable {S : Type} [BondStore S]

/-- A call, with the events it returns: those of a poll, none for any other call. -/
def Call.run : Call → BackendSession.Op S (List Event)
  | startPairing => do BackendSession.startPairing; pure []
  | startReconnect => do BackendSession.startReconnect; pure []
  | poll timeout => BackendSession.poll timeout
  | sendInterrupt payload => do BackendSession.sendInterrupt payload; pure []
  | drainInterrupt timeout => do BackendSession.drainInterrupt timeout; pure []
  | disconnect => do BackendSession.disconnect; pure []
  | close => do BackendSession.close; pure []

namespace World

/-- One call, between the entries of its beginning and of its end. -/
def perform (call : Call) (w : World S) : Except Error (List Event) × World S :=
  let (result, w') := call.run (w.log (.called call))
  (result, w'.log (.returned call result))

/-- One packet that the controller delivers while the session is active. This is what `poll` and
`drain_interrupt` do with a packet; taken by itself it lets a run stop between two packets. -/
def inbound (packet : Packet) (w : World S) : Except Error Unit × World S :=
  match BackendSession.checkActive w.session with
  | .error error => (.error error, w)
  | .ok _ => BackendSession.handlePolledPacket packet (w.log (.received packet))

end World

/-- The worlds of all runs: any controller, configuration, store and clock, any order of calls, and
any packets. -/
inductive Reachable : World S → Prop
  | initialized {io : HciIo} {config : SessionConfig} {bonds : S} {session : BackendSession S}
      (clock : List ℕ) (horizon : ℕ)
      (h : BackendSession.initializeSession io config bonds = .ok session) :
      Reachable { session := session, clock := clock, horizon := horizon }
  | performed {w : World S} (call : Call) (h : Reachable w) : Reachable (w.perform call).2
  | received {w : World S} (packet : Packet) (h : Reachable w) : Reachable (w.inbound packet).2

end Runs

end ClassicHid

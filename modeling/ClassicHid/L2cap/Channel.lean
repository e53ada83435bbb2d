import Std.Data.ExtTreeMap
import ClassicHid.L2cap.ControlFrame
import ClassicHid.L2cap.Ertm

/-!
# Connection-oriented L2CAP channels

The signaling state of one BR/EDR link: the registered servers, the channels by local channel
identifier, and the PDUs waiting to be sent.

## Main definitions

* `ClassicChannel`: one channel, with its configuration and the SDUs it received
* `ChannelManager`: the channels of a link
* `ChannelManager.processPdu`, `ChannelManager.send`, `ChannelManager.connect`,
  `ChannelManager.disconnect`, `ChannelManager.tick`: the operations on a link
* `scanOptions`, `ChannelManager.completeConfiguration`: the judgement of a peer's configuration
  request
-/

namespace ClassicHid

open Foundation
open Std (ExtTreeMap)

def l2capMinBrEdrMtu : UInt16 := 48

def l2capDefaultMps : UInt16 := 1010

def retransmissionModeEnhanced : UInt8 := 0x03

def connectionSuccessful : UInt16 := 0

def connectionRefusedPsmNotSupported : UInt16 := 2

def connectionRefusedNoResourcesAvailable : UInt16 := 4

def configurationSuccess : UInt16 := 0

def configurationUnacceptableParameters : UInt16 := 1

def configurationUnknownOptions : UInt16 := 3

def configurationOptionMtu : UInt8 := 0x01

def configurationOptionRetransmissionAndFlowControl : UInt8 := 0x04

def configurationOptionFcs : UInt8 := 0x05

/-! ### Channels -/

structure ClassicChannelSpec where
  mtu : UInt16 := 2048
  deriving DecidableEq, Repr

structure ErtmChannelSpec where
  mtu : UInt16 := 2048
  mps : UInt16 := 1010
  txWindowSize : UInt8 := 63
  maxRetransmissions : UInt8 := 1
  retransmissionTimeoutMs : UInt16 := 2000
  monitorTimeoutMs : UInt16 := 12000
  fcsEnabled : Bool := false
  deriving DecidableEq, Repr

inductive ClassicChannelMode
  | basic
  | enhancedRetransmission
  deriving DecidableEq, Repr

inductive ChannelSpec
  | basic (spec : ClassicChannelSpec)
  | ertm (spec : ErtmChannelSpec)
  deriving DecidableEq, Repr

namespace ChannelSpec

def mtu : ChannelSpec → UInt16
  | basic spec => spec.mtu
  | ertm spec => spec.mtu

def mode : ChannelSpec → ClassicChannelMode
  | basic _ => .basic
  | ertm _ => .enhancedRetransmission

def ertm? : ChannelSpec → Option ErtmChannelSpec
  | basic _ => none
  | ertm spec => some spec

end ChannelSpec

inductive ClassicChannelState
  | closed
  | waitConnectResponse
  | configuring
  | «open»
  | waitDisconnect
  deriving DecidableEq, Repr

/-- One channel. `connectionResult` is the peer's answer to an outgoing connection. -/
structure ClassicChannel where
  psm : UInt32
  sourceCid : UInt16
  destinationCid : UInt16
  mtu : UInt16
  peerMtu : UInt16 := l2capMinBrEdrMtu
  peerMps : UInt16 := l2capDefaultMps
  mode : ClassicChannelMode
  fcsEnabled : Bool := false
  state : ClassicChannelState
  connectionResult : Option UInt16
  incoming : Bool
  peerConfigurationReceived : Bool := false
  configurationResponseReceived : Bool := false
  openAnnounced : Bool := false
  spec : ChannelSpec
  ertm : Option ErtmEngine := none
  received : List Bytes := []
  deriving DecidableEq, Repr

namespace ClassicChannel

def newOutgoing (psm : UInt32) (sourceCid : UInt16) (spec : ChannelSpec) : ClassicChannel :=
  { psm := psm, sourceCid := sourceCid, destinationCid := 0, mtu := spec.mtu, mode := spec.mode,
    state := .waitConnectResponse, connectionResult := none, incoming := false, spec := spec }

def newIncoming (psm : UInt32) (sourceCid destinationCid : UInt16) (spec : ChannelSpec) :
    ClassicChannel :=
  { psm := psm, sourceCid := sourceCid, destinationCid := destinationCid, mtu := spec.mtu,
    mode := spec.mode, state := .configuring, connectionResult := some connectionSuccessful,
    incoming := true, spec := spec }

def isOpen (channel : ClassicChannel) : Bool := channel.state = .open

/-- The next received SDU. -/
def popReceived (channel : ClassicChannel) : Option Bytes × ClassicChannel :=
  match channel.received with
  | [] => (none, channel)
  | sdu :: received => (some sdu, { channel with received := received })

/-- The number of SDUs received and not yet taken, those still in the engine included. -/
def backlog (channel : ClassicChannel) : ℕ :=
  channel.received.length + channel.ertm.elim 0 (·.received.length)

end ClassicChannel

/-! ### Checks -/

def validateSpec (spec : ClassicChannelSpec) : Except L2capError Unit :=
  if spec.mtu < l2capMinBrEdrMtu then
    .error (.invalidPacket s!"Classic MTU must be at least {l2capMinBrEdrMtu.toNat}")
  else .ok ()

def validateErtmSpec (spec : ErtmChannelSpec) : Except L2capError Unit := do
  validateSpec { mtu := spec.mtu }
  if spec.mps = 0 then throw (.invalidPacket "ERTM MPS cannot be zero")
  if ¬ (1 ≤ spec.txWindowSize ∧ spec.txWindowSize < 64) then
    throw (.invalidPacket "ERTM transmit window must be between 1 and 63")
  if spec.retransmissionTimeoutMs = 0 ∨ spec.monitorTimeoutMs = 0 then
    throw (.invalidPacket "ERTM timeout cannot be zero")

/-- Whether every byte of `high` is even. -/
def evenBytes (high : ℕ) : Bool :=
  if high = 0 then true else if high % 2 ≠ 0 then false else evenBytes (high / 256)

/-- A PSM is odd and its higher bytes are even. -/
def validatePsm (psm : UInt32) : Except L2capError Unit :=
  if psm = 0 ∨ psm &&& 1 = 0 then .error (.invalidPacket "invalid Classic PSM")
  else if evenBytes (psm.toNat / 256) then .ok ()
  else .error (.invalidPacket "invalid Classic PSM")

/-! ### Retransmission option and frame check sequence -/

structure ErtmOption where
  mode : UInt8
  txWindowSize : UInt8
  maxRetransmissions : UInt8
  mps : UInt16
  deriving DecidableEq, Repr

def encodeErtmOption (spec : ErtmChannelSpec) : Bytes :=
  [retransmissionModeEnhanced, spec.txWindowSize, spec.maxRetransmissions] ++
    toLe16 spec.retransmissionTimeoutMs ++ toLe16 spec.monitorTimeoutMs ++ toLe16 spec.mps

def decodeErtmOption (value : Bytes) : Option ErtmOption :=
  if value.length = 9 then
    some { mode := value.getD 0 0, txWindowSize := value.getD 1 0,
           maxRetransmissions := value.getD 2 0, mps := le16At value 7 }
  else none

/-- The bytes a frame check sequence covers: the header of the PDU and its payload. -/
def fcsCovered (length cid : UInt16) (payload : Bytes) : Bytes :=
  toLe16 length ++ toLe16 cid ++ payload

def appendFcs (cid : UInt16) (payload : Bytes) : Except L2capError Bytes :=
  if payload.length + 2 > 65535 then .error (.invalidPacket "ERTM frame is too large")
  else .ok (payload ++
    toLe16 (crc16 (fcsCovered (UInt16.ofNat (payload.length + 2)) cid payload)))

def verifyAndStripFcs (cid : UInt16) (payload : Bytes) : Except L2capError Bytes :=
  if payload.length < 2 then .error (.invalidPacket "ERTM frame is missing its FCS")
  else if payload.length > 65535 then .error (.invalidPacket "ERTM frame is too large")
  else
    let split := payload.length - 2
    if crc16 (fcsCovered (UInt16.ofNat payload.length) cid (payload.take split)) ≠
        le16At payload split then
      .error (.invalidPacket "ERTM frame has an invalid FCS")
    else .ok (payload.take split)

/-! ### The judgement of a configuration request -/

/-- What is known while the options of a configuration request are read. -/
structure ConfigurationScan where
  result : UInt16 := configurationSuccess
  responseOptions : List ConfigurationOption := []
  peerMtu : UInt16
  peerErtm : Option ErtmOption := none
  peerFcs : Option Bool := none
  deriving DecidableEq, Repr

/-- The scan ends with a result other than success. -/
def ConfigurationScan.refuse (scan : ConfigurationScan) (result : UInt16)
    (options : List ConfigurationOption) : ConfigurationScan :=
  { scan with result := result, responseOptions := options }

/-- Whether a channel in `mode` can use the peer's retransmission parameters. -/
def ErtmOption.acceptable (mode : ClassicChannelMode) (parameters : ErtmOption) : Bool :=
  let expected : UInt8 := match mode with
    | .basic => 0
    | .enhancedRetransmission => retransmissionModeEnhanced
  !(parameters.mode ≠ expected || (parameters.mode = retransmissionModeEnhanced &&
    (parameters.txWindowSize = 0 || parameters.txWindowSize ≥ 64 || parameters.mps = 0)))

/-- Read the options in order; the first one that cannot be accepted ends the scan. -/
def scanOptions (mode : ClassicChannelMode) :
    ConfigurationScan → List ConfigurationOption → ConfigurationScan
  | scan, [] => scan
  | scan, option :: options =>
    if option.optionType = configurationOptionMtu then
      if option.value.length ≠ 2 then
        scan.refuse configurationUnacceptableParameters [option]
      else if le16At option.value 0 < l2capMinBrEdrMtu then
        scan.refuse configurationUnacceptableParameters
          [.new configurationOptionMtu (toLe16 l2capMinBrEdrMtu)]
      else scanOptions mode
        { scan with peerMtu := le16At option.value 0,
                    responseOptions := scan.responseOptions ++ [option] } options
    else if option.optionType = configurationOptionRetransmissionAndFlowControl then
      match decodeErtmOption option.value with
      | none => scan.refuse configurationUnacceptableParameters [option]
      | some parameters =>
        if !parameters.acceptable mode then
          scan.refuse configurationUnacceptableParameters [option]
        else scanOptions mode
          { scan with peerErtm := some parameters,
                      responseOptions := scan.responseOptions ++ [option] } options
    else if option.optionType = configurationOptionFcs then
      if option.value.length ≠ 1 ∨ option.value.getD 0 0 > 1 then
        scan.refuse configurationUnacceptableParameters [option]
      else scanOptions mode
        { scan with peerFcs := some (option.value.getD 0 0 ≠ 0),
                    responseOptions := scan.responseOptions ++ [option] } options
    else if !option.hint then scan.refuse configurationUnknownOptions [option]
    else scanOptions mode scan options

/-! ### The channels of a link -/

/-- The channels of a link, the servers that accept new ones, and the PDUs to send. -/
structure ChannelManager where
  servers : ExtTreeMap UInt32 ChannelSpec := ∅
  channels : ExtTreeMap UInt16 ClassicChannel := ∅
  acceptedChannels : List UInt16 := []
  outbound : List L2capPdu := []
  information : InformationCapabilities := {}
  informationResponses : List InformationResponse := []
  identifier : UInt8 := 0

namespace ChannelManager

/-- An update of the channels of a link. -/
abbrev Update (α : Type) := Exec ChannelManager L2capError α

def new : ChannelManager := {}

def withInformationCapabilities (information : InformationCapabilities) : ChannelManager :=
  { information := information }

def channel (manager : ChannelManager) (sourceCid : UInt16) : Option ClassicChannel :=
  manager.channels[sourceCid]?

/-- The channel with the local identifier `cid`, or the error with the given text. -/
def channelOr (message : String) (cid : UInt16) : Update ClassicChannel := fun manager =>
  match manager.channel cid with
  | some channel => (.ok channel, manager)
  | none => (.error (.invalidPacket s!"{message} {hex 4 cid.toNat}"), manager)

def setChannel (cid : UInt16) (channel : ClassicChannel) : Update Unit :=
  Exec.modify fun manager => { manager with channels := manager.channels.insert cid channel }

/-- The identifier of the next request; zero is skipped. -/
def nextIdentifier : Update UInt8 :=
  Exec.update fun manager =>
    let identifier := if manager.identifier + 1 = 0 then 1 else manager.identifier + 1
    (identifier, { manager with identifier := identifier })

def pushOutbound (pdu : L2capPdu) : Update Unit :=
  Exec.modify fun manager => { manager with outbound := manager.outbound ++ [pdu] }

def queueControl (frame : ControlFrame) : Update Unit :=
  pushOutbound { cid := l2capSignalingCid, payload := frame.toBytes }

def requestInformation (infoType : UInt16) : Update UInt8 := do
  let identifier ← nextIdentifier
  queueControl (.informationRequest identifier infoType)
  pure identifier

/-- The first of the `n` channel identifiers from `cid` on that is not in use. -/
def freeCid (channels : ExtTreeMap UInt16 ClassicChannel) (cid : ℕ) : ℕ → Option UInt16
  | 0 => none
  | n + 1 =>
    if channels.contains (UInt16.ofNat cid) then freeCid channels (cid + 1) n
    else some (UInt16.ofNat cid)

/-- The first free identifier of the dynamic range `0x0040` to `0xffff`. -/
def allocateCid (manager : ChannelManager) : Except L2capError UInt16 :=
  match freeCid manager.channels 0x0040 0xffc0 with
  | some cid => .ok cid
  | none => .error (.invalidPacket "no free Classic CID")

/-- The first of the `n` odd PSMs from `psm` on that is valid and not registered. -/
def freePsm (servers : ExtTreeMap UInt32 ChannelSpec) (psm : ℕ) : ℕ → Option UInt32
  | 0 => none
  | n + 1 =>
    if (validatePsm (UInt32.ofNat psm)).isOk ∧ ¬ servers.contains (UInt32.ofNat psm) then
      some (UInt32.ofNat psm)
    else freePsm servers (psm + 2) n

def registerServerWithSpec (psm : Option UInt32) (spec : ChannelSpec) : Update UInt32 := do
  let manager ← Exec.get
  let psm ← match psm with
    | some psm => do
      Exec.lift (validatePsm psm)
      pure psm
    | none =>
      match freePsm manager.servers 0x1001 0x7800 with
      | some psm => pure psm
      | none => Exec.fail (.invalidPacket "no free Classic PSM")
  if manager.servers.contains psm then
    Exec.fail (.invalidPacket s!"PSM {hex 1 psm.toNat} is already in use")
  else
    Exec.modify fun manager => { manager with servers := manager.servers.insert psm spec }
    pure psm

def registerServer (psm : Option UInt32) (spec : ClassicChannelSpec) : Update UInt32 := do
  Exec.lift (validateSpec spec)
  registerServerWithSpec psm (.basic spec)

def registerErtmServer (psm : Option UInt32) (spec : ErtmChannelSpec) : Update UInt32 := do
  Exec.lift (validateErtmSpec spec)
  registerServerWithSpec psm (.ertm spec)

def unregisterServer (psm : UInt32) : Update Bool :=
  Exec.update fun manager =>
    (manager.servers.contains psm, { manager with servers := manager.servers.erase psm })

def connectWithSpec (psm : UInt32) (spec : ChannelSpec) : Update UInt16 := do
  let sourceCid ← Exec.lift (allocateCid (← Exec.get))
  let identifier ← nextIdentifier
  setChannel sourceCid (.newOutgoing psm sourceCid spec)
  queueControl (.connectionRequest identifier psm sourceCid)
  pure sourceCid

/-- Begin an outgoing connection; the answer is its local channel identifier. -/
def connect (psm : UInt32) (spec : ClassicChannelSpec) : Update UInt16 := do
  Exec.lift (validatePsm psm)
  Exec.lift (validateSpec spec)
  connectWithSpec psm (.basic spec)

def connectErtm (psm : UInt32) (spec : ErtmChannelSpec) : Update UInt16 := do
  Exec.lift (validatePsm psm)
  Exec.lift (validateErtmSpec spec)
  connectWithSpec psm (.ertm spec)

/-! #### Retransmission mode -/

/-- Run an update of the engine of a channel. An error keeps what the engine changed. -/
def withEngine (cid : UInt16) (channel : ClassicChannel) (engine : ErtmEngine)
    (update : ErtmEngine.Update Unit) : Update Unit := do
  setChannel cid { channel with ertm := some (update engine).2 }
  Exec.lift (update engine).1

/-- Queue one ERTM frame, with its check sequence when the channel uses one. -/
def queueFrame (destinationCid : UInt16) (fcsEnabled : Bool) (frame : Bytes) : Update Unit := do
  let payload ← if fcsEnabled then Exec.lift (appendFcs destinationCid frame) else pure frame
  pushOutbound { cid := destinationCid, payload := payload }

/-- Move the frames and the SDUs of an engine to the link and to its channel. -/
def flushErtm (localCid : UInt16) : Update Unit := do
  let channel ← channelOr "channel not found for CID" localCid
  match channel.ertm with
  | none => Exec.fail (.invalidPacket "channel is not using ERTM")
  | some engine => do
    let ((frames, received), engine) := engine.drain
    setChannel localCid
      { channel with ertm := some engine, received := channel.received ++ received }
    Exec.forEach (queueFrame channel.destinationCid channel.fcsEnabled) frames

/-- Advance the clock of one channel. -/
def tickChannel (ticks : UInt32) (cid : UInt16) : Update Unit := do
  let channel ← channelOr "channel not found for CID" cid
  match channel.ertm with
  | none => pure ()
  | some engine => do
    withEngine cid channel engine (ErtmEngine.tick ticks)
    flushErtm cid

/-- Advance the retransmission clock of every channel in retransmission mode. -/
def tick (ticks : UInt32) : Update Unit := do
  let manager ← Exec.get
  let cids := (manager.channels.toList.filter fun entry => entry.2.ertm.isSome).map (·.1)
  Exec.forEach (tickChannel ticks) cids

def setReceiverBusy (sourceCid : UInt16) (busy : Bool) : Update Unit := do
  let channel ← channelOr "channel not found for CID" sourceCid
  match channel.ertm with
  | none => Exec.fail (.invalidPacket "channel is not using ERTM")
  | some engine => do
    withEngine sourceCid channel engine (ErtmEngine.setReceiverBusy busy)
    flushErtm sourceCid

/-! #### Signaling -/

/-- A channel configured on both sides opens; an incoming one is announced once. -/
def maybeOpen (localCid : UInt16) : Update Unit := fun manager =>
  match manager.channel localCid with
  | none => (.ok (), manager)
  | some channel =>
    if channel.peerConfigurationReceived ∧ channel.configurationResponseReceived ∧
        channel.state = .configuring then
      if channel.incoming ∧ ¬ channel.openAnnounced then
        (.ok (), { manager with
          channels := manager.channels.insert localCid
            { channel with state := .open, openAnnounced := true }
          acceptedChannels := manager.acceptedChannels ++ [localCid] })
      else
        (.ok (), { manager with
          channels := manager.channels.insert localCid { channel with state := .open } })
    else (.ok (), manager)

/-- The options of a local configuration request. -/
def configurationOptions (spec : ChannelSpec) : List ConfigurationOption :=
  .new configurationOptionMtu (toLe16 spec.mtu) ::
    match spec.ertm? with
    | none => []
    | some ertm =>
      .new configurationOptionRetransmissionAndFlowControl (encodeErtmOption ertm) ::
        if ertm.fcsEnabled then [.new configurationOptionFcs [1]] else []

def queueConfigureRequest (localCid : UInt16) : Update Unit := do
  let channel ← channelOr "channel not found for CID" localCid
  let identifier ← nextIdentifier
  let options ← Exec.lift (encodeConfigurationOptions (configurationOptions channel.spec))
  queueControl (.configureRequest identifier channel.destinationCid 0 options)

def onConnectionRequest (identifier : UInt8) (psm : UInt32) (remoteCid : UInt16) :
    Update Unit := do
  let manager ← Exec.get
  match manager.servers[psm]? with
  | none =>
    queueControl (.connectionResponse identifier 0 remoteCid connectionRefusedPsmNotSupported 0)
  | some spec =>
    match manager.allocateCid with
    | .error _ =>
      queueControl
        (.connectionResponse identifier 0 remoteCid connectionRefusedNoResourcesAvailable 0)
    | .ok localCid => do
      setChannel localCid (.newIncoming psm localCid remoteCid spec)
      queueControl (.connectionResponse identifier localCid remoteCid connectionSuccessful 0)
      queueConfigureRequest localCid

def onConnectionResponse (destinationCid sourceCid result : UInt16) : Update Unit := do
  let channel ← channelOr "connection response for unknown CID" sourceCid
  if channel.state ≠ .waitConnectResponse then
    Exec.fail (.invalidPacket "connection response in invalid state")
  else if result ≠ connectionSuccessful then
    setChannel sourceCid { channel with connectionResult := some result, state := .closed }
  else
    setChannel sourceCid
      { channel with connectionResult := some result, destinationCid := destinationCid,
                     state := .configuring }
    queueConfigureRequest sourceCid

/-- The parameters of the engine of a channel whose peer asked for `parameters`. The MTUs are not
negotiated: the engine accepts SDUs of any 16-bit length. -/
def negotiatedErtmConfig (spec : ErtmChannelSpec) (parameters : ErtmOption) : ErtmConfig :=
  { localMtu := 0xffff, peerMtu := 0xffff, localMps := spec.mps, peerMps := parameters.mps,
    txWindowSize := parameters.txWindowSize, maxRetransmissions := parameters.maxRetransmissions,
    retransmissionTimeoutTicks := spec.retransmissionTimeoutMs.toUInt32 }

/-- Accept the peer's configuration. -/
def acceptConfiguration (localCid : UInt16) (channel : ClassicChannel) (scan : ConfigurationScan) :
    Update (UInt16 × List ConfigurationOption) := do
  setChannel localCid { channel with peerConfigurationReceived := true }
  pure (configurationSuccess, scan.responseOptions)

/-- Refuse the peer's configuration and close the channel. -/
def refuseConfiguration (localCid : UInt16) (channel : ClassicChannel)
    (options : List ConfigurationOption) : Update (UInt16 × List ConfigurationOption) := do
  setChannel localCid
    { channel with state := .closed,
                   connectionResult := some configurationUnacceptableParameters }
  pure (configurationUnacceptableParameters, options)

/-- The judgement of a final request whose options were all acceptable: the mode of the channel
must agree with what the options asked for. -/
def completeConfiguration (localCid : UInt16) (channel : ClassicChannel)
    (scan : ConfigurationScan) : Update (UInt16 × List ConfigurationOption) :=
  match channel.spec.ertm?, scan.peerErtm with
  | some spec, some parameters =>
    if scan.peerFcs.getD false ≠ spec.fcsEnabled then
      refuseConfiguration localCid channel
        [.new configurationOptionFcs [spec.fcsEnabled.toUInt8]]
    else do
      let channel :=
        { channel with peerMps := parameters.mps, fcsEnabled := spec.fcsEnabled }
      setChannel localCid channel
      let engine ← Exec.lift (ErtmEngine.new (negotiatedErtmConfig spec parameters))
      acceptConfiguration localCid { channel with ertm := some engine } scan
  | some spec, none =>
    refuseConfiguration localCid channel
      [.new configurationOptionRetransmissionAndFlowControl (encodeErtmOption spec)]
  | none, peerErtm =>
    if peerErtm.isSome ∨ scan.peerFcs.getD false then
      refuseConfiguration localCid channel scan.responseOptions
    else acceptConfiguration localCid channel scan

def onConfigureRequest (identifier : UInt8) (localCid flags : UInt16) (encodedOptions : Bytes) :
    Update Unit := do
  let options ← Exec.lift (decodeConfigurationOptions encodedOptions)
  let channel ← channelOr "configuration request for unknown CID" localCid
  let scan := scanOptions channel.mode { peerMtu := channel.peerMtu } options
  -- The MTU is taken over while the options are read, also when a later one is refused.
  let channel := { channel with peerMtu := scan.peerMtu }
  setChannel localCid channel
  let (result, responseOptions) ←
    if scan.result = configurationSuccess ∧ flags &&& 1 = 0 then
      completeConfiguration localCid channel scan
    else pure (scan.result, scan.responseOptions)
  let options ← Exec.lift (encodeConfigurationOptions responseOptions)
  queueControl (.configureResponse identifier channel.destinationCid 0 result options)
  maybeOpen localCid

def onConfigureResponse (localCid result : UInt16) : Update Unit := do
  let channel ← channelOr "configuration response for unknown CID" localCid
  setChannel localCid
    (if result = configurationSuccess then { channel with configurationResponseReceived := true }
     else { channel with connectionResult := some result, state := .closed })
  maybeOpen localCid

def onDisconnectionRequest (identifier : UInt8) (localCid remoteCid : UInt16) : Update Unit := do
  let channel ← channelOr "disconnection request for unknown CID" localCid
  if channel.destinationCid ≠ remoteCid then
    Exec.fail (.invalidPacket "disconnection CID mismatch")
  else
    setChannel localCid { channel with state := .closed }
    queueControl (.disconnectionResponse identifier localCid remoteCid)

def onDisconnectionResponse (destinationCid sourceCid : UInt16) : Update Unit := do
  let channel ← channelOr "disconnection response for unknown CID" sourceCid
  if channel.destinationCid ≠ destinationCid then
    Exec.fail (.invalidPacket "disconnection CID mismatch")
  else setChannel sourceCid { channel with state := .closed }

def processControl (frame : ControlFrame) : Update Unit :=
  match frame with
  | .connectionRequest identifier psm sourceCid => onConnectionRequest identifier psm sourceCid
  | .connectionResponse _ destinationCid sourceCid result _ =>
    onConnectionResponse destinationCid sourceCid result
  | .configureRequest identifier destinationCid flags options =>
    onConfigureRequest identifier destinationCid flags options
  | .configureResponse _ sourceCid _ result _ => onConfigureResponse sourceCid result
  | .disconnectionRequest identifier destinationCid sourceCid =>
    onDisconnectionRequest identifier destinationCid sourceCid
  | .disconnectionResponse _ destinationCid sourceCid =>
    onDisconnectionResponse destinationCid sourceCid
  | .echoRequest identifier data => queueControl (.echoResponse identifier data)
  | .informationRequest identifier infoType => do
    let information ← Exec.gets information
    queueControl (information.response identifier infoType)
  | .informationResponse identifier infoType result data =>
    Exec.modify fun manager => { manager with
      informationResponses := manager.informationResponses ++
        [{ identifier := identifier, infoType := infoType, result := result, data := data }] }
  | _ => pure ()

/-! #### Data -/

/-- A data PDU for the local channel `localCid`. -/
def processData (localCid : UInt16) (payload : Bytes) : Update Unit := do
  let channel ← channelOr "channel not found for CID" localCid
  if channel.state ≠ .open then
    Exec.fail (.invalidPacket s!"channel {hex 4 localCid.toNat} is not open")
  else
    match channel.ertm with
    | some engine => do
      let frame ← if channel.fcsEnabled then Exec.lift (verifyAndStripFcs localCid payload)
        else pure payload
      withEngine localCid channel engine (ErtmEngine.receiveFrame frame)
      flushErtm localCid
    | none =>
      if payload.length > channel.mtu.toNat then
        Exec.fail (.invalidPacket s!"incoming SDU exceeds channel MTU {channel.mtu.toNat}")
      else setChannel localCid { channel with received := channel.received ++ [payload] }

/-- One PDU from the peer. -/
def processPdu (pdu : L2capPdu) : Update Unit :=
  if pdu.cid = l2capSignalingCid then do
    let frame ← Exec.lift (ControlFrame.fromBytes pdu.payload)
    processControl frame
  else processData pdu.cid pdu.payload

def processBytes (bytes : Bytes) : Update Unit := do
  let pdu ← Exec.lift (L2capPdu.fromBytes bytes)
  processPdu pdu

def send (sourceCid : UInt16) (sdu : Bytes) : Update Unit := do
  let channel ← channelOr "channel not found for CID" sourceCid
  if channel.state ≠ .open then Exec.fail (.invalidPacket "channel not open")
  else
    match channel.ertm with
    | some engine => do
      withEngine sourceCid channel engine (ErtmEngine.sendSdu sdu)
      flushErtm sourceCid
    | none =>
      if sdu.length > channel.peerMtu.toNat then
        Exec.fail (.invalidPacket s!"SDU exceeds peer MTU {channel.peerMtu.toNat}")
      else pushOutbound { cid := channel.destinationCid, payload := sdu }

def disconnect (sourceCid : UInt16) : Update Unit := do
  let channel ← channelOr "channel not found for CID" sourceCid
  if channel.state ≠ .open then Exec.fail (.invalidPacket "channel not open")
  else
    setChannel sourceCid { channel with state := .waitDisconnect }
    let identifier ← nextIdentifier
    queueControl (.disconnectionRequest identifier channel.destinationCid sourceCid)

end ChannelManager

end ClassicHid

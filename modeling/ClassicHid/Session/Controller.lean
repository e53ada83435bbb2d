import ClassicHid.HidService
import ClassicHid.Host.Basic

/-!
# The controller of a session

The controller as a session sees it: a source of packets, a sink for packets, and a fixed exchange
of commands that brings it into a known state. The controller's events are decoded here into the
events of the host.

## Main definitions

* `Error`, `SessionConfig`, `Capabilities`: the values of the session's interface
* `HciIo`: the answers of a controller, in the order in which they are asked for
* `sendComplete`: one command and its completion
* `initializeController`: the commands that prepare the controller
* `decodeClassicEvent`: an HCI event as events of the host
-/

namespace ClassicHid

open Foundation

/-! ### Errors -/

inductive ErrorKind
  | invalidConfiguration
  | openFailed
  | invalidControllerIdentity
  | identityMismatch
  | adapterIdentityRecoveryRequired
  | unsupportedController
  | invalidBondStore
  | noBond
  | closed
  | sendRejected
  | drainTimedOut
  | eventQueueOverflow
  | sourceTerminated
  | closeFailed
  | protocolViolation
  deriving DecidableEq, Repr

/-- What an error was made from. -/
inductive ErrorSource
  | codec (error : CodecError)
  | host (error : HostError)
  | bondStore (error : BondStoreError)
  | hidp (error : HidpBridgeError)
  | packetLength (field : String) (expected actual : ℕ)
  | commandFailure (opcode : UInt16) (status : UInt8)
  | transport
  deriving DecidableEq, Repr

/-- Error returned by a backend session operation. -/
structure Error where
  kind : ErrorKind
  source : Option ErrorSource
  deriving DecidableEq, Repr

namespace Error

def new (kind : ErrorKind) : Error := ⟨kind, none⟩

def withSource (kind : ErrorKind) (source : ErrorSource) : Error := ⟨kind, some source⟩

end Error

def requireLen (parameters : Bytes) (expected : ℕ) (field : String) : Except Error Unit :=
  if parameters.length = expected then .ok ()
  else .error (.withSource .protocolViolation (.packetLength field expected parameters.length))

def requireMinLen (parameters : Bytes) (minimum : ℕ) (field : String) : Except Error Unit :=
  if parameters.length ≥ minimum then .ok ()
  else .error (.withSource .protocolViolation (.packetLength field minimum parameters.length))

def protocolError (field : String) : Error :=
  .withSource .protocolViolation (.packetLength field 1 0)

def mapHostError (source : HostError) : Error :=
  .withSource (match source with
    | .bondStore _ => .invalidBondStore
    | _ => .protocolViolation) (.host source)

/-! ### Configuration -/

def extendedInquiryResponseLen : ℕ := 240

def completeLocalNameDataType : UInt8 := 0x09

def maxCompleteLocalNameLen : ℕ := extendedInquiryResponseLen - 2

/-- Controller identity and HID service settings for one session. -/
structure SessionConfig where
  localName : String
  classOfDevice : UInt32
  extendedInquiryResponse : Bytes
  hidService : HidServiceConfig
  length_localName : localName.toUTF8.toList.length ≤ maxCompleteLocalNameLen
  length_inquiryResponse : extendedInquiryResponse.length = extendedInquiryResponseLen

/-- The extended inquiry response that holds a complete local name, padded with zeros. -/
def completeLocalNameResponse (name : Bytes) : Bytes :=
  UInt8.ofNat (name.length + 1) :: completeLocalNameDataType ::
    (name ++ List.replicate (maxCompleteLocalNameLen - name.length) 0)

theorem length_completeLocalNameResponse {name : Bytes} (h : name.length ≤ maxCompleteLocalNameLen) :
    (completeLocalNameResponse name).length = extendedInquiryResponseLen := by
  simp only [maxCompleteLocalNameLen, extendedInquiryResponseLen] at h
  simp only [completeLocalNameResponse, maxCompleteLocalNameLen, extendedInquiryResponseLen,
    List.length_cons, List.length_append, List.length_replicate]
  omega

def SessionConfig.new (localName : String) (classOfDevice : UInt32)
    (hidService : HidServiceConfig) : Except Error SessionConfig :=
  let nameBytes := localName.toUTF8.toList
  if nameBytes = [] ∨ classOfDevice > 0x00ffffff then .error (.new .invalidConfiguration)
  else if h : nameBytes.length ≤ maxCompleteLocalNameLen then
    .ok { localName := localName, classOfDevice := classOfDevice,
          extendedInquiryResponse := completeLocalNameResponse nameBytes,
          hidService := hidService, length_localName := h,
          length_inquiryResponse := length_completeLocalNameResponse h }
  else .error (.new .invalidConfiguration)

structure ControllerVersion where
  hciVersion : UInt8
  hciSubversion : UInt16
  lmpVersion : UInt8
  companyIdentifier : UInt16
  lmpSubversion : UInt16
  deriving DecidableEq, Repr

/-- USB adapter location and identity metadata. -/
structure UsbAdapterMetadata where
  vendorId : UInt16
  productId : UInt16
  bus : UInt8
  deviceAddress : UInt8
  ports : Bytes
  deriving DecidableEq, Repr

/-- Validated controller capabilities retained by an open session. -/
structure Capabilities where
  localAddress : BluetoothAddress
  controllerVersion : ControllerVersion
  usb : UsbAdapterMetadata
  deriving DecidableEq, Repr

/-! ### Packet I/O -/

/-- The controller behind its transport. Whatever an implementation does is, over a run, a sequence
of answers to `recv_timeout` and a sequence of results of `send`; statements about all sessions
quantify over these sequences. A receive after the last answer times out, a send after the last
result succeeds. -/
structure HciIo where
  answers : List (Except Error (Option Packet)) := []
  sendResults : List (Except Error Unit) := []
  closeResult : Except Error Unit := .ok ()
  metadata : UsbAdapterMetadata

namespace HciIo

def send (_packet : Packet) : Exec HciIo Error Unit := fun io =>
  match io.sendResults with
  | [] => (.ok (), io)
  | result :: sendResults => (result, { io with sendResults := sendResults })

/-- A timeout is a number of nanoseconds. -/
def recvTimeout (_timeout : ℕ) : Exec HciIo Error (Option Packet) := fun io =>
  match io.answers with
  | [] => (.ok none, io)
  | answer :: answers => (answer, { io with answers := answers })

def close (io : HciIo) : Except Error Unit := io.closeResult

end HciIo

/-! ### Commands -/

def hciReset : UInt16 := 0x0C03

def hciSetEventMask : UInt16 := 0x0C01

def hciWriteLocalName : UInt16 := 0x0C13

def hciWriteScanEnable : UInt16 := 0x0C1A

def hciWriteClassOfDevice : UInt16 := 0x0C24

def hciWriteExtendedInquiryResponse : UInt16 := 0x0C52

def hciWriteSimplePairingMode : UInt16 := 0x0C56

def hciWriteDefaultLinkPolicySettings : UInt16 := 0x080F

def hciReadLocalVersionInformation : UInt16 := 0x1001

def hciReadLocalSupportedCommands : UInt16 := 0x1002

def hciReadLocalExtendedFeatures : UInt16 := 0x1004

def hciReadBufferSize : UInt16 := 0x1005

def hciReadBdAddr : UInt16 := 0x1009

def hciLeSetEventMask : UInt16 := 0x2001

def hciCreateConnection : UInt16 := 0x0405

def hciDisconnect : UInt16 := 0x0406

def hciRejectConnectionRequest : UInt16 := 0x040A

def eventConnectionComplete : UInt8 := 0x03

def eventConnectionRequest : UInt8 := 0x04

def eventDisconnectionComplete : UInt8 := 0x05

def eventAuthenticationComplete : UInt8 := 0x06

def eventEncryptionChange : UInt8 := 0x08

def eventCommandComplete : UInt8 := 0x0E

def eventCommandStatus : UInt8 := 0x0F

def eventNumberOfCompletedPackets : UInt8 := 0x13

def eventLinkKeyRequest : UInt8 := 0x17

def eventLinkKeyNotification : UInt8 := 0x18

def eventIoCapabilityRequest : UInt8 := 0x31

def eventUserConfirmationRequest : UInt8 := 0x33

def eventMask : Bytes := [0xFF, 0x9F, 0xFF, 0xBF, 0x07, 0xF8, 0xBF, 0x3D]

def leEventMask : Bytes := [0xFF, 0xFF, 0xF7, 0xFF, 0x0F, 0xED, 0x7B, 0x00]

def legacyLeEventMask : Bytes := [0x1F, 0, 0, 0, 0, 0, 0, 0]

def defaultLinkPolicySettings : UInt16 := 0x0005

def brEdrNotSupportedMask : UInt8 := 0x20

/-- Five seconds. -/
def commandTimeout : ℕ := 5000000000

def command (opcode : UInt16) (parameters : Bytes) : Except Error CommandPacket :=
  (CommandPacket.new opcode parameters).mapError fun source =>
    .withSource .invalidConfiguration (.codec source)

/-- What a received packet means for the command in progress: nothing, or its end. -/
def commandAnswer (opcode : UInt16) : Packet → Option (Except Error Bytes)
  | .event event =>
    if event.eventCode = eventCommandComplete then
      match requireMinLen event.parameters 4 "command complete" with
      | .error error => some (.error error)
      | .ok _ =>
        let status := event.parameters.getD 3 0
        if le16At event.parameters 1 ≠ opcode then none
        else if status ≠ 0 then
          some (.error (.withSource .openFailed (.commandFailure opcode status)))
        else some (.ok (event.parameters.drop 4))
    else if event.eventCode = eventCommandStatus then
      match requireLen event.parameters 4 "command status" with
      | .error error => some (.error error)
      | .ok _ =>
        let status := event.parameters.getD 0 0
        if le16At event.parameters 2 = opcode ∧ status ≠ 0 then
          some (.error (.withSource .openFailed (.commandFailure opcode status)))
        else none
    else none
  | _ => none

/-- Receive until the command in progress has ended. -/
def awaitComplete (opcode : UInt16) :
    List (Except Error (Option Packet)) →
      Except Error Bytes × List (Except Error (Option Packet))
  | [] => (.error (.new .openFailed), [])
  | .error error :: answers => (.error error, answers)
  | .ok none :: answers => (.error (.new .openFailed), answers)
  | .ok (some packet) :: answers =>
    match commandAnswer opcode packet with
    | some result => (result, answers)
    | none => awaitComplete opcode answers

/-- Send a command and wait for its completion; the answer is its return parameters. -/
def sendComplete (command : CommandPacket) : Exec HciIo Error Bytes := do
  HciIo.send (.command command)
  fun io =>
    let (result, answers) := awaitComplete command.opcode io.answers
    (result, { io with answers := answers })

/-- Build a command, send it and wait for its completion. -/
def complete (opcode : UInt16) (parameters : Bytes) : Exec HciIo Error Bytes := do
  sendComplete (← Exec.lift (command opcode parameters))

def parseVersion (parameters : Bytes) : Except Error ControllerVersion := do
  requireLen parameters 8 "local version"
  pure { hciVersion := parameters.getD 0 0, hciSubversion := le16At parameters 1,
         lmpVersion := parameters.getD 3 0, companyIdentifier := le16At parameters 4,
         lmpSubversion := le16At parameters 6 }

def identityCommands (config : SessionConfig) : Except Error (List CommandPacket) := do
  let name := config.localName.toUTF8.toList
  let localName := name ++ List.replicate (248 - name.length) 0
  pure
    [← command hciWriteLocalName localName,
     ← command hciWriteClassOfDevice ((toLe32 config.classOfDevice).take 3),
     ← command hciWriteSimplePairingMode [1],
     ← command hciWriteExtendedInquiryResponse (0 :: config.extendedInquiryResponse),
     ← command hciWriteDefaultLinkPolicySettings (toLe16 defaultLinkPolicySettings),
     ← command hciWriteScanEnable [0]]

structure InitializedController where
  localAddress : BluetoothAddress
  version : ControllerVersion
  aclPacketLength : UInt16
  aclPacketCount : UInt16

/-- The address at a position, which must be there. -/
def addressAt (parameters : Bytes) (offset : ℕ) : Except Error BluetoothAddress :=
  if h : offset + 6 ≤ parameters.length then
    .ok (.fromLeBytes ((parameters.drop offset).take 6)
      (by rw [List.length_take, List.length_drop]; omega) .pub)
  else .error (protocolError "Bluetooth address")

def initializeController (config : SessionConfig) : Exec HciIo Error InitializedController := do
  let _ ← complete hciReset []
  let supportedCommands ← complete hciReadLocalSupportedCommands []
  Exec.lift (requireLen supportedCommands 64 "supported commands")
  let version ← Exec.lift (parseVersion (← complete hciReadLocalVersionInformation []))
  let extendedFeatures ← complete hciReadLocalExtendedFeatures [0]
  Exec.lift (requireLen extendedFeatures 10 "extended features")
  if extendedFeatures.getD 0 0 ≠ 0 ∨
      extendedFeatures.getD (2 + 4) 0 &&& brEdrNotSupportedMask ≠ 0 then
    Exec.fail (.new .unsupportedController)
  let _ ← complete hciSetEventMask eventMask
  let _ ← complete hciLeSetEventMask
    (if version.hciVersion ≤ 6 then legacyLeEventMask else leEventMask)
  let buffer ← complete hciReadBufferSize []
  Exec.lift (requireLen buffer 7 "buffer size")
  let aclPacketLength := le16At buffer 0
  let aclPacketCount := le16At buffer 3
  if aclPacketLength = 0 ∨ aclPacketCount = 0 then Exec.fail (.new .unsupportedController)
  let address ← complete hciReadBdAddr []
  Exec.lift (requireLen address 6 "local address")
  let localAddress ← Exec.lift (addressAt address 0)
  if localAddress.asLeBytes = List.replicate 6 0 then
    Exec.fail (.new .invalidControllerIdentity)
  Exec.forEach (fun command => do let _ ← sendComplete command)
    (← Exec.lift (identityCommands config))
  pure { localAddress := localAddress, version := version, aclPacketLength := aclPacketLength,
         aclPacketCount := aclPacketCount }

/-! ### Events -/

/-- The entries of a completed-packets event, of four bytes each. -/
def completedPacketEvents : Bytes → Except Error (List ClassicEvent)
  | [] => .error (protocolError "completed packets")
  | count :: entries => do
    requireLen entries (count.toNat * 4) "completed packets"
    pure ((chunks 4 entries).map fun entry =>
      .numberOfCompletedPackets (le16At entry 0) (le16At entry 2))

/-- The event that names one peer, with its parameters of a fixed length. -/
def peerEvent (parameters : Bytes) (length : ℕ) (field : String)
    (event : BluetoothAddress → ClassicEvent) : Except Error (List ClassicEvent) := do
  requireLen parameters length field
  pure [event (← addressAt parameters 0)]

def decodeLinkKeyNotification (parameters : Bytes) : Except Error (List ClassicEvent) :=
  if h : parameters.length = 23 then do
    let peer ← addressAt parameters 0
    pure [.linkKeyNotification peer ((parameters.drop 6).take 16) (parameters.getD 22 0)
      (by rw [List.length_take, List.length_drop]; omega)]
  else do
    requireLen parameters 23 "link key notification"
    pure []

/-- The events of the host that an HCI event stands for. -/
def decodeClassicEvent (event : EventPacket) : Except Error (List ClassicEvent) :=
  let parameters := event.parameters
  let code := event.eventCode
  if code = eventConnectionRequest then
    peerEvent parameters 10 "connection request" .connectionRequest
  else if code = eventConnectionComplete then do
    requireLen parameters 11 "connection complete"
    pure [.connectionComplete (parameters.getD 0 0) (le16At parameters 1)
      (← addressAt parameters 3)]
  else if code = eventLinkKeyRequest then
    peerEvent parameters 6 "link key request" .linkKeyRequest
  else if code = eventLinkKeyNotification then decodeLinkKeyNotification parameters
  else if code = eventIoCapabilityRequest then
    peerEvent parameters 6 "IO capability request" .ioCapabilityRequest
  else if code = eventUserConfirmationRequest then
    peerEvent parameters 10 "user confirmation request" .userConfirmationRequest
  else if code = eventAuthenticationComplete then do
    requireLen parameters 3 "authentication complete"
    pure [.authenticationComplete (parameters.getD 0 0) (le16At parameters 1)]
  else if code = eventEncryptionChange then do
    requireLen parameters 4 "encryption change"
    pure [.encryptionChange (parameters.getD 0 0) (le16At parameters 1)
      (parameters.getD 3 0 ≠ 0)]
  else if code = eventNumberOfCompletedPackets then completedPacketEvents parameters
  else if code = eventDisconnectionComplete then do
    requireLen parameters 4 "disconnection complete"
    pure (if parameters.getD 0 0 = 0 then
      [.disconnectionComplete (le16At parameters 1) (parameters.getD 3 0)] else [])
  else pure []

end ClassicHid

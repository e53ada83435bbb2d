import ClassicHid.Hidp
import ClassicHid.Sdp.Service

/-!
# The HID service

What the session runs on its L2CAP channels: the SDP server with the service record of the
device, and the bridge between HIDP messages and the events of the backend.

## Main definitions

* `HidSdpChannel`: the SDP server of one channel
* `buildHidServiceRecord`: the service record of the device
* `HidpBridge`: HIDP on the control and the interrupt channel
-/

namespace ClassicHid

open Foundation

/-- A HID channel. -/
inductive Channel
  | control
  | interrupt
  deriving DecidableEq, Repr

def sdpPsm : UInt32 := 0x0001

def hidControlPsm : UInt32 := 0x0011

def hidInterruptPsm : UInt32 := 0x0013

def hidServiceRecordHandle : UInt32 := 0x00010001

/-- SDP policy fields of a HID service record. -/
structure HidSdpPolicy where
  serviceName : String
  serviceDescription : Option String
  providerName : Option String
  deviceReleaseNumber : Option UInt16
  bluetoothProfileVersion : UInt16
  parserVersion : UInt16
  deviceSubclass : UInt8
  countryCode : UInt8
  virtualCable : Bool
  reconnectInitiate : Bool
  remoteWake : Option Bool
  profileVersion : UInt16
  supervisionTimeout : UInt16
  normallyConnectable : Bool
  bootDevice : Bool
  ssrHostMaxLatency : UInt16
  ssrHostMinTimeout : UInt16
  deriving DecidableEq, Repr

structure HidServiceConfig where
  reportDescriptor : Bytes
  sdpPolicy : HidSdpPolicy
  deriving DecidableEq, Repr

/-! ### The service record -/

/-- The text of a string in UTF-8. -/
def textElement (text : String) : DataElement := .textString text.toUTF8.toList

def uuid16 (value : UInt16) : DataElement := .uuid (.fromU16 value)

/-- An attribute that is there only when its value is. -/
def optionalAttribute {α : Type} (id : UInt16) (value : Option α) (element : α → DataElement) :
    List ServiceAttribute :=
  value.elim [] fun value => [⟨id, element value⟩]

def buildHidServiceRecord (configuration : HidServiceConfig) : List ServiceAttribute :=
  let policy := configuration.sdpPolicy
  let l2cap := uuid16 0x0100
  let hidp := uuid16 0x0011
  [⟨0x0000, .unsignedInteger32 hidServiceRecordHandle⟩,
   ⟨0x0001, .sequence [uuid16 0x1124]⟩,
   ⟨0x0004, .sequence [.sequence [l2cap, .unsignedInteger16 0x0011], .sequence [hidp]]⟩,
   ⟨0x0005, .sequence [uuid16 0x1002]⟩,
   ⟨0x0006, .sequence [.unsignedInteger16 0x656E, .unsignedInteger16 0x006A,
     .unsignedInteger16 0x0100]⟩,
   ⟨0x0100, textElement policy.serviceName⟩] ++
  optionalAttribute 0x0101 policy.serviceDescription textElement ++
  optionalAttribute 0x0102 policy.providerName textElement ++
  [⟨0x0009, .sequence [.sequence [uuid16 0x1124,
     .unsignedInteger16 policy.bluetoothProfileVersion]]⟩,
   ⟨0x000D, .sequence [.sequence [.sequence [l2cap, .unsignedInteger16 0x0013],
     .sequence [hidp]]]⟩] ++
  optionalAttribute 0x0200 policy.deviceReleaseNumber DataElement.unsignedInteger16 ++
  [⟨0x0201, .unsignedInteger16 policy.parserVersion⟩,
   ⟨0x0202, .unsignedInteger8 policy.deviceSubclass⟩,
   ⟨0x0203, .unsignedInteger8 policy.countryCode⟩,
   ⟨0x0204, .boolean policy.virtualCable⟩,
   ⟨0x0205, .boolean policy.reconnectInitiate⟩,
   ⟨0x0206, .sequence [.sequence [.unsignedInteger8 0x22,
     .textString configuration.reportDescriptor]]⟩,
   ⟨0x0207, .sequence [.sequence [.unsignedInteger16 0x0409, .unsignedInteger16 0x0100]]⟩] ++
  optionalAttribute 0x020A policy.remoteWake DataElement.boolean ++
  [⟨0x020B, .unsignedInteger16 policy.profileVersion⟩,
   ⟨0x020C, .unsignedInteger16 policy.supervisionTimeout⟩,
   ⟨0x020D, .boolean policy.normallyConnectable⟩,
   ⟨0x020E, .boolean policy.bootDevice⟩,
   ⟨0x020F, .unsignedInteger16 policy.ssrHostMaxLatency⟩,
   ⟨0x0210, .unsignedInteger16 policy.ssrHostMinTimeout⟩]

/-! ### SDP -/

structure HidSdpChannel where
  server : SdpServer

/-- A PDU that is exactly as long as it declares. -/
def parseCompletePdu (sdu : Bytes) : Option SdpPdu :=
  match slice sdu 3 2 with
  | some [l₁, l₀] =>
    if sdu.length ≠ 5 + (fromBe16 l₁ l₀).toNat then none else (SdpPdu.fromBytes sdu).toOption
  | _ => none

namespace HidSdpChannel

def new (configuration : HidServiceConfig) (peerMtu : UInt16) : HidSdpChannel :=
  { server := (SdpServer.new peerMtu).addService hidServiceRecordHandle
      (buildHidServiceRecord configuration) }

/-- The answer to one SDU; none when it is too short to carry a transaction identifier. -/
def handleSdu (sdu : Bytes) (channel : HidSdpChannel) : Option Bytes × HidSdpChannel :=
  match slice sdu 1 2 with
  | some [t₁, t₀] =>
    match parseCompletePdu sdu with
    | some request =>
      let (response, server) := channel.server.handleRequest request
      (response.toBytes.toOption, { server := server })
    | none =>
      ((SdpPdu.errorResponse (fromBe16 t₁ t₀) invalidRequestSyntax).toBytes.toOption, channel)
  | _ => (none, channel)

/-- An answer leaves the MTU of the channel. -/
theorem mtu_handleSdu (sdu : Bytes) (channel : HidSdpChannel) :
    (channel.handleSdu sdu).2.server.mtu = channel.server.mtu := by
  unfold handleSdu
  split
  · split
    · exact SdpServer.mtu_handleRequest _ _
    · rfl
  · rfl

end HidSdpChannel

/-! ### HIDP -/

inductive HidpBridgeEvent
  | output (channel : Channel) (payload : Bytes)
  | controlResponse (response : Bytes)
  | suspend
  | resume
  | virtualCableUnplug
  | unsupported (channel : Channel)
  deriving DecidableEq, Repr

inductive HidpBridgeError
  | malformed (channel : Channel)
  | encodeFailed (channel : Channel)
  | peerMtuExceeded (channel : Channel) (encodedLen peerMtu : ℕ)
  deriving DecidableEq, Repr

/-- A delegate that supports no request. -/
structure UnsupportedDelegate where
  deriving DecidableEq, Repr

instance : DeviceDelegate UnsupportedDelegate where

structure HidpBridge where
  runtime : DeviceRuntime UnsupportedDelegate
  controlPeerMtu : ℕ
  interruptPeerMtu : ℕ

def checkPeerMtu (channel : Channel) (encoded : Bytes) (peerMtu : ℕ) :
    Except HidpBridgeError Bytes :=
  if encoded.length > peerMtu then .error (.peerMtuExceeded channel encoded.length peerMtu)
  else .ok encoded

namespace HidpBridge

def new (controlPeerMtu interruptPeerMtu : ℕ) : HidpBridge :=
  { runtime := .new {} controlPeerMtu, controlPeerMtu := controlPeerMtu,
    interruptPeerMtu := interruptPeerMtu }

def encodeControl (bridge : HidpBridge) (message : Message) : Except HidpBridgeError Bytes :=
  match message.toBytes with
  | .ok encoded => checkPeerMtu .control encoded bridge.controlPeerMtu
  | .error _ => .error (.encodeFailed .control)

def encodeInput (bridge : HidpBridge) (payload : Bytes) : Except HidpBridgeError Bytes :=
  match (deviceData payload).toBytes with
  | .ok encoded => checkPeerMtu .interrupt encoded bridge.interruptPeerMtu
  | .error _ => .error (.encodeFailed .interrupt)

/-- The MTU of one channel. The runtime keeps the one it was built with. -/
def setPeerMtu (channel : Channel) (peerMtu : ℕ) (bridge : HidpBridge) : HidpBridge :=
  match channel with
  | .control => { bridge with controlPeerMtu := peerMtu }
  | .interrupt => { bridge with interruptPeerMtu := peerMtu }

def invalidParameterResponse (bridge : HidpBridge) : Except HidpBridgeError Bytes :=
  bridge.encodeControl (.handshake Handshake.errInvalidParameter)

def translateEvent (bridge : HidpBridge) (channel : Channel) :
    DeviceEvent → Except HidpBridgeError HidpBridgeEvent
  | .sendControl message => do pure (.controlResponse (← bridge.encodeControl message))
  | .controlData reportType data | .interruptData reportType data =>
    pure (if reportType = ReportType.outputReport then .output channel data
      else .unsupported channel)
  | .suspend => pure .suspend
  | .exitSuspend => pure .resume
  | .virtualCableUnplug => pure .virtualCableUnplug
  | .unsupported _ => pure (.unsupported channel)

/-- One message from the host. -/
def handle (channel : Channel) (bytes : Bytes) :
    Exec HidpBridge HidpBridgeError (List HidpBridgeEvent) := do
  let events ← match channel with
    | .control =>
      Exec.mapError (fun _ => .malformed channel)
        (Exec.zoom runtime (fun runtime bridge => { bridge with runtime := runtime })
          (DeviceRuntime.handleControl bytes))
    | .interrupt =>
      Exec.lift (match DeviceRuntime.handleInterrupt bytes with
        | .ok event => .ok [event]
        | .error _ => .error (.malformed channel))
  let bridge ← Exec.get
  Exec.lift (events.mapM (bridge.translateEvent channel))

/-- The MTU that is kept for a channel. -/
def peerMtu (bridge : HidpBridge) : Channel → ℕ
  | .control => bridge.controlPeerMtu
  | .interrupt => bridge.interruptPeerMtu

theorem peerMtu_setPeerMtu (bridge : HidpBridge) (channel channel' : Channel) (mtu : ℕ) :
    (bridge.setPeerMtu channel mtu).peerMtu channel' =
      if channel' = channel then mtu else bridge.peerMtu channel' := by
  cases channel <;> cases channel' <;> rfl

/-- A message leaves the MTUs. -/
theorem peerMtu_handle (channel channel' : Channel) (bytes : Bytes) (bridge : HidpBridge) :
    (handle channel bytes bridge).2.peerMtu channel' = bridge.peerMtu channel' := by
  have hkeeps : Exec.Keeps (fun b : HidpBridge => b.peerMtu channel' = bridge.peerMtu channel')
      (handle channel bytes) := by
    unfold handle
    cases channel with
    | control =>
      refine Exec.Keeps.bind (fun b hb => ?_) fun _ =>
        Exec.Keeps.bind Exec.keeps_get fun _ => Exec.keeps_lift _
      cases channel' <;> exact hb
    | interrupt =>
      exact Exec.Keeps.bind (Exec.keeps_lift _) fun _ =>
        Exec.Keeps.bind Exec.keeps_get fun _ => Exec.keeps_lift _
  exact hkeeps bridge rfl

end HidpBridge

end ClassicHid

import ClassicHid.Foundation.Exec
import ClassicHid.Foundation.Bytes

/-!
# The HID protocol

The messages of HIDP and the device side that answers them through a delegate.

## Main definitions

* `Message`: a HIDP message, with `Message.toBytes` and `Message.fromBytes`
* `DeviceDelegate D`: the requests a device may implement; each is unsupported by default
* `DeviceRuntime.handleControl`, `DeviceRuntime.handleInterrupt`: one message from the host
-/

namespace ClassicHid

open Foundation

/-- A one-byte field whose unassigned values are kept. -/
abbrev OpenByte := UInt8

def ReportType.otherReport : OpenByte := 0x00

def ReportType.inputReport : OpenByte := 0x01

def ReportType.outputReport : OpenByte := 0x02

def Handshake.successful : OpenByte := 0x00

def Handshake.errInvalidReportId : OpenByte := 0x02

def Handshake.errUnsupportedRequest : OpenByte := 0x03

def Handshake.errInvalidParameter : OpenByte := 0x04

def Handshake.errUnknown : OpenByte := 0x0E

def ControlCommand.suspend : OpenByte := 0x03

def ControlCommand.exitSuspend : OpenByte := 0x04

def ControlCommand.virtualCableUnplug : OpenByte := 0x05

def GetSetReturn.reportIdNotFound : OpenByte := 0x01

def GetSetReturn.errUnsupportedRequest : OpenByte := 0x02

def GetSetReturn.errInvalidParameter : OpenByte := 0x04

def GetSetReturn.success : OpenByte := 0xFF

/-- Errors of the HIDP codec. -/
inductive HidpError
  | truncated (field : String)
  | invalid (field : String)
  | trailingBytes (count : ℕ)
  deriving DecidableEq, Repr

/-- A HIDP message. -/
inductive Message
  | handshake (result : OpenByte)
  | control (command : OpenByte)
  | getReport (reportType : OpenByte) (reportId : UInt8) (bufferSize : Option UInt16)
  | setReport (reportType : OpenByte) (data : Bytes)
  | getProtocol
  | setProtocol (mode : OpenByte)
  | data (reportType : OpenByte) (data : Bytes)
  | unknown (messageType : OpenByte) (parameter : UInt8) (data : Bytes)
  deriving DecidableEq, Repr

namespace Message

def messageType : Message → OpenByte
  | handshake _ => 0x00
  | control _ => 0x01
  | getReport .. => 0x04
  | setReport .. => 0x05
  | getProtocol => 0x06
  | setProtocol _ => 0x07
  | data .. => 0x0A
  | unknown messageType .. => messageType

/-- The low half of the header byte. -/
def parameter : Message → UInt8
  | handshake result => result
  | control command => command
  | getReport reportType _ bufferSize =>
    if bufferSize.isSome then 0x08 ||| reportType else reportType
  | setReport reportType _ | data reportType _ => reportType
  | getProtocol => 0
  | setProtocol mode => mode
  | unknown _ parameter _ => parameter

/-- The bytes after the header byte. -/
def body : Message → Bytes
  | getReport _ reportId bufferSize => reportId :: bufferSize.elim [] toLe16
  | setReport _ body | data _ body | unknown _ _ body => body
  | _ => []

def toBytes (message : Message) : Except HidpError Bytes :=
  if message.messageType > 0x0F ∨ message.parameter > 0x0F then
    .error (.invalid "HIDP header field")
  else .ok (((message.messageType <<< 4) ||| message.parameter) :: message.body)

/-- A message without data. -/
def exactEmpty (body : Bytes) (message : Message) : Except HidpError Message :=
  if body.isEmpty then .ok message else .error (.trailingBytes body.length)

/-- A request for a report: its identifier, and the buffer size when the parameter announces
one. -/
def readGetReport (parameter : UInt8) : Bytes → Except HidpError Message
  | [] => .error (.truncated "HIDP report ID")
  | reportId :: rest =>
    if parameter &&& 0x08 ≠ 0 then
      match rest with
      | [lo, hi] => .ok (.getReport (parameter &&& 3) reportId (some (fromLe16 lo hi)))
      | _ :: _ :: extra => .error (.trailingBytes extra.length)
      | _ => .error (.truncated "HIDP report buffer size")
    else
      match rest with
      | [] => .ok (.getReport (parameter &&& 3) reportId none)
      | extra => .error (.trailingBytes extra.length)

def fromBytes : Bytes → Except HidpError Message
  | [] => .error (.truncated "HIDP header")
  | header :: body =>
    let messageType := header >>> 4
    let parameter := header &&& 0x0F
    match messageType with
    | 0x00 => exactEmpty body (.handshake parameter)
    | 0x01 => exactEmpty body (.control parameter)
    | 0x04 => readGetReport parameter body
    | 0x05 => .ok (.setReport (parameter &&& 3) body)
    | 0x06 => exactEmpty body .getProtocol
    | 0x07 => exactEmpty body (.setProtocol (parameter &&& 1))
    | 0x0A => .ok (.data (parameter &&& 3) body)
    | _ => .ok (.unknown messageType parameter body)

end Message

/-- The answer of a delegate. -/
structure GetSetStatus where
  data : Bytes
  status : OpenByte
  deriving DecidableEq, Repr

def GetSetStatus.unsupported : GetSetStatus :=
  { data := [], status := GetSetReturn.errUnsupportedRequest }

/-- The requests a device may implement. Each returns its answer and the delegate after it. -/
class DeviceDelegate (D : Type) where
  getReport : UInt8 → OpenByte → Option UInt16 → D → GetSetStatus × D :=
    fun _ _ _ d => (.unsupported, d)
  setReport : UInt8 → OpenByte → ℕ → Bytes → D → GetSetStatus × D :=
    fun _ _ _ _ d => (.unsupported, d)
  getProtocol : D → GetSetStatus × D := fun d => (.unsupported, d)
  setProtocol : OpenByte → D → GetSetStatus × D := fun _ d => (.unsupported, d)

inductive DeviceEvent
  | sendControl (message : Message)
  | controlData (reportType : OpenByte) (data : Bytes)
  | interruptData (reportType : OpenByte) (data : Bytes)
  | suspend
  | exitSuspend
  | virtualCableUnplug
  | unsupported (message : Message)
  deriving DecidableEq, Repr

structure DeviceRuntime (D : Type) where
  delegate : D
  controlPeerMtu : ℕ

namespace DeviceRuntime

variable {D : Type} [DeviceDelegate D]

def new (delegate : D) (controlPeerMtu : ℕ) : DeviceRuntime D :=
  { delegate := delegate, controlPeerMtu := controlPeerMtu }

/-- The answer to a request for a report. -/
def reportResponse (controlPeerMtu : ℕ) (reportType : OpenByte) (reportId : UInt8)
    (result : GetSetStatus) : Message :=
  if result.status = GetSetReturn.success then
    if result.data.length + 1 < controlPeerMtu then .data reportType (reportId :: result.data)
    else .handshake Handshake.errInvalidParameter
  else if result.status = GetSetReturn.reportIdNotFound then
    .handshake Handshake.errInvalidReportId
  else if result.status = GetSetReturn.errInvalidParameter then
    .handshake Handshake.errInvalidParameter
  else if result.status = GetSetReturn.errUnsupportedRequest then
    .handshake Handshake.errUnsupportedRequest
  else .handshake Handshake.errUnknown

/-- The answer to the setting of a report. -/
def setReportHandshake (result : GetSetStatus) : OpenByte :=
  if result.status = GetSetReturn.success then Handshake.successful
  else if result.status = GetSetReturn.errInvalidParameter then Handshake.errInvalidParameter
  else if result.status = GetSetReturn.reportIdNotFound then Handshake.errInvalidReportId
  else Handshake.errUnsupportedRequest

/-- What a control command asks for. -/
def controlEvent (command : OpenByte) : DeviceEvent :=
  if command = ControlCommand.suspend then .suspend
  else if command = ControlCommand.exitSuspend then .exitSuspend
  else if command = ControlCommand.virtualCableUnplug then .virtualCableUnplug
  else .unsupported (.control command)

def handleControl (bytes : Bytes) : Exec (DeviceRuntime D) HidpError (List DeviceEvent) := do
  let message ← Exec.lift (Message.fromBytes bytes)
  let runtime ← Exec.get
  match message with
  | .getReport reportType reportId bufferSize =>
    let (result, delegate) :=
      DeviceDelegate.getReport reportId reportType bufferSize runtime.delegate
    Exec.modify fun runtime => { runtime with delegate := delegate }
    pure [.sendControl (reportResponse runtime.controlPeerMtu reportType reportId result)]
  | .setReport reportType data =>
    match data with
    | [] => Exec.fail (.truncated "HIDP set-report ID")
    | reportId :: report =>
      let (result, delegate) :=
        DeviceDelegate.setReport reportId reportType (report.length + 1) report runtime.delegate
      Exec.modify fun runtime => { runtime with delegate := delegate }
      pure [.sendControl (.handshake (setReportHandshake result))]
  | .getProtocol =>
    let (result, delegate) := DeviceDelegate.getProtocol runtime.delegate
    Exec.modify fun runtime => { runtime with delegate := delegate }
    pure [.sendControl (if result.status = GetSetReturn.success then
      .data ReportType.otherReport result.data else .handshake Handshake.errUnsupportedRequest)]
  | .setProtocol mode =>
    let (result, delegate) := DeviceDelegate.setProtocol mode runtime.delegate
    Exec.modify fun runtime => { runtime with delegate := delegate }
    pure [.sendControl (.handshake (if result.status = GetSetReturn.success then
      Handshake.successful else Handshake.errUnsupportedRequest))]
  | .data reportType data => pure [.controlData reportType data]
  | .control command => pure [controlEvent command]
  | message =>
    pure [.unsupported message, .sendControl (.handshake Handshake.errUnsupportedRequest)]

def handleInterrupt (bytes : Bytes) : Except HidpError DeviceEvent := do
  match ← Message.fromBytes bytes with
  | .data reportType data => pure (.interruptData reportType data)
  | message => pure (.unsupported message)

end DeviceRuntime

/-- An input report of the device. -/
def deviceData (data : Bytes) : Message := .data ReportType.inputReport data

end ClassicHid

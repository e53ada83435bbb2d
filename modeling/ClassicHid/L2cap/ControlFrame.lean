import ClassicHid.L2cap.Frame

/-!
# L2CAP signaling frames

The signaling (control) frames with their wire codes, and the local values returned to an
information request.

## Main definitions

* `ControlFrame`: the typed frames and the fallback for other codes
* `ControlFrame.toBytes`, `ControlFrame.fromBytes`: the wire form
* `InformationCapabilities`: the answers to information requests
-/

namespace ClassicHid

open Foundation

/-- A signaling frame. Typed variants carry decoded fields; `generic` preserves any other
code. -/
inductive ControlFrame
  | commandReject (identifier : UInt8) (reason : UInt16) (data : Bytes)
  | connectionRequest (identifier : UInt8) (psm : UInt32) (sourceCid : UInt16)
  | connectionResponse (identifier : UInt8) (destinationCid sourceCid result status : UInt16)
  | configureRequest (identifier : UInt8) (destinationCid flags : UInt16) (options : Bytes)
  | configureResponse (identifier : UInt8) (sourceCid flags result : UInt16) (options : Bytes)
  | disconnectionRequest (identifier : UInt8) (destinationCid sourceCid : UInt16)
  | disconnectionResponse (identifier : UInt8) (destinationCid sourceCid : UInt16)
  | echoRequest (identifier : UInt8) (data : Bytes)
  | echoResponse (identifier : UInt8) (data : Bytes)
  | informationRequest (identifier : UInt8) (infoType : UInt16)
  | informationResponse (identifier : UInt8) (infoType result : UInt16) (data : Bytes)
  | connectionParameterUpdateRequest (identifier : UInt8)
      (intervalMin intervalMax latency timeout : UInt16)
  | connectionParameterUpdateResponse (identifier : UInt8) (result : UInt16)
  | leCreditBasedConnectionRequest (identifier : UInt8)
      (lePsm sourceCid mtu mps initialCredits : UInt16)
  | leCreditBasedConnectionResponse (identifier : UInt8)
      (destinationCid mtu mps initialCredits result : UInt16)
  | leFlowControlCredit (identifier : UInt8) (cid credits : UInt16)
  | creditBasedConnectionRequest (identifier : UInt8) (spsm mtu mps initialCredits : UInt16)
      (sourceCid : List UInt16)
  | creditBasedConnectionResponse (identifier : UInt8) (mtu mps initialCredits result : UInt16)
      (destinationCid : List UInt16)
  | creditBasedReconfigureRequest (identifier : UInt8) (mtu mps : UInt16)
      (destinationCid : List UInt16)
  | creditBasedReconfigureResponse (identifier : UInt8) (result : UInt16)
  | generic (code identifier : UInt8) (payload : Bytes)
  deriving DecidableEq, Repr

namespace ControlFrame

/-- The signaling command code. -/
def code : ControlFrame → UInt8
  | commandReject .. => 0x01
  | connectionRequest .. => 0x02
  | connectionResponse .. => 0x03
  | configureRequest .. => 0x04
  | configureResponse .. => 0x05
  | disconnectionRequest .. => 0x06
  | disconnectionResponse .. => 0x07
  | echoRequest .. => 0x08
  | echoResponse .. => 0x09
  | informationRequest .. => 0x0A
  | informationResponse .. => 0x0B
  | connectionParameterUpdateRequest .. => 0x12
  | connectionParameterUpdateResponse .. => 0x13
  | leCreditBasedConnectionRequest .. => 0x14
  | leCreditBasedConnectionResponse .. => 0x15
  | leFlowControlCredit .. => 0x16
  | creditBasedConnectionRequest .. => 0x17
  | creditBasedConnectionResponse .. => 0x18
  | creditBasedReconfigureRequest .. => 0x19
  | creditBasedReconfigureResponse .. => 0x1A
  | generic code _ _ => code

def identifier : ControlFrame → UInt8
  | commandReject id .. | connectionRequest id .. | connectionResponse id ..
  | configureRequest id .. | configureResponse id .. | disconnectionRequest id ..
  | disconnectionResponse id .. | echoRequest id .. | echoResponse id ..
  | informationRequest id .. | informationResponse id ..
  | connectionParameterUpdateRequest id .. | connectionParameterUpdateResponse id ..
  | leCreditBasedConnectionRequest id .. | leCreditBasedConnectionResponse id ..
  | leFlowControlCredit id .. | creditBasedConnectionRequest id ..
  | creditBasedConnectionResponse id .. | creditBasedReconfigureRequest id ..
  | creditBasedReconfigureResponse id .. => id
  | generic _ id _ => id

/-- The bytes after the four-byte header. -/
def payload : ControlFrame → Bytes
  | commandReject _ reason data => toLe16 reason ++ data
  | connectionRequest _ psm sourceCid => serializePsm psm ++ toLe16 sourceCid
  | connectionResponse _ destinationCid sourceCid result status =>
    toLe16 destinationCid ++ toLe16 sourceCid ++ toLe16 result ++ toLe16 status
  | configureRequest _ destinationCid flags options =>
    toLe16 destinationCid ++ toLe16 flags ++ options
  | configureResponse _ sourceCid flags result options =>
    toLe16 sourceCid ++ toLe16 flags ++ toLe16 result ++ options
  | disconnectionRequest _ destinationCid sourceCid
  | disconnectionResponse _ destinationCid sourceCid => toLe16 destinationCid ++ toLe16 sourceCid
  | echoRequest _ data | echoResponse _ data => data
  | informationRequest _ infoType => toLe16 infoType
  | informationResponse _ infoType result data => toLe16 infoType ++ toLe16 result ++ data
  | connectionParameterUpdateRequest _ intervalMin intervalMax latency timeout =>
    toLe16 intervalMin ++ toLe16 intervalMax ++ toLe16 latency ++ toLe16 timeout
  | connectionParameterUpdateResponse _ result => toLe16 result
  | leCreditBasedConnectionRequest _ lePsm sourceCid mtu mps initialCredits =>
    toLe16 lePsm ++ toLe16 sourceCid ++ toLe16 mtu ++ toLe16 mps ++ toLe16 initialCredits
  | leCreditBasedConnectionResponse _ destinationCid mtu mps initialCredits result =>
    toLe16 destinationCid ++ toLe16 mtu ++ toLe16 mps ++ toLe16 initialCredits ++ toLe16 result
  | leFlowControlCredit _ cid credits => toLe16 cid ++ toLe16 credits
  | creditBasedConnectionRequest _ spsm mtu mps initialCredits sourceCid =>
    toLe16 spsm ++ toLe16 mtu ++ toLe16 mps ++ toLe16 initialCredits ++ sourceCid.flatMap toLe16
  | creditBasedConnectionResponse _ mtu mps initialCredits result destinationCid =>
    toLe16 mtu ++ toLe16 mps ++ toLe16 initialCredits ++ toLe16 result ++
      destinationCid.flatMap toLe16
  | creditBasedReconfigureRequest _ mtu mps destinationCid =>
    toLe16 mtu ++ toLe16 mps ++ destinationCid.flatMap toLe16
  | creditBasedReconfigureResponse _ result => toLe16 result
  | generic _ _ payload => payload

/-- The full signaling frame: code, identifier, length and payload. -/
def toBytes (frame : ControlFrame) : Bytes :=
  [frame.code, frame.identifier] ++ toLe16 (UInt16.ofNat frame.payload.length) ++ frame.payload

end ControlFrame

/-- Fail when a payload has fewer than `n` bytes. -/
def need (payload : Bytes) (n : ℕ) : Except L2capError Unit :=
  if payload.length < n then
    .error (.invalidPacket
      s!"control frame payload too short: need {n}, have {payload.length}")
  else .ok ()

/-- The 16-bit integers of a byte string of even length. -/
def le16Pairs : Bytes → List UInt16
  | lo :: hi :: rest => fromLe16 lo hi :: le16Pairs rest
  | _ => []

def readCidList (data : Bytes) : Except L2capError (List UInt16) :=
  if data.length % 2 ≠ 0 then .error (.invalidPacket "CID list has an odd byte length")
  else .ok (le16Pairs data)

/-- A connection request: the PSM field, then the source CID. -/
def ControlFrame.parseConnectionRequest (identifier : UInt8) (payload : Bytes) :
    Except L2capError ControlFrame := do
  let (offset, psm) ← parsePsm payload 0
  if offset + 2 > payload.length then
    throw (.invalidPacket "truncated Connection_Request")
  pure (.connectionRequest identifier psm (le16At payload offset))

/-- The frame of a code, read from its payload. -/
def ControlFrame.parse (code identifier : UInt8) (payload : Bytes) :
    Except L2capError ControlFrame :=
  match code with
  | 0x01 => do
    need payload 2
    pure (.commandReject identifier (le16At payload 0) (payload.drop 2))
  | 0x02 => parseConnectionRequest identifier payload
  | 0x03 => do
    need payload 8
    pure (.connectionResponse identifier (le16At payload 0) (le16At payload 2) (le16At payload 4)
      (le16At payload 6))
  | 0x04 => do
    need payload 4
    pure (.configureRequest identifier (le16At payload 0) (le16At payload 2) (payload.drop 4))
  | 0x05 => do
    need payload 6
    pure (.configureResponse identifier (le16At payload 0) (le16At payload 2) (le16At payload 4)
      (payload.drop 6))
  | 0x06 => do
    need payload 4
    pure (.disconnectionRequest identifier (le16At payload 0) (le16At payload 2))
  | 0x07 => do
    need payload 4
    pure (.disconnectionResponse identifier (le16At payload 0) (le16At payload 2))
  | 0x08 => pure (.echoRequest identifier payload)
  | 0x09 => pure (.echoResponse identifier payload)
  | 0x0A => do
    need payload 2
    pure (.informationRequest identifier (le16At payload 0))
  | 0x0B => do
    need payload 4
    pure (.informationResponse identifier (le16At payload 0) (le16At payload 2) (payload.drop 4))
  | 0x12 => do
    need payload 8
    pure (.connectionParameterUpdateRequest identifier (le16At payload 0) (le16At payload 2)
      (le16At payload 4) (le16At payload 6))
  | 0x13 => do
    need payload 2
    pure (.connectionParameterUpdateResponse identifier (le16At payload 0))
  | 0x14 => do
    need payload 10
    pure (.leCreditBasedConnectionRequest identifier (le16At payload 0) (le16At payload 2)
      (le16At payload 4) (le16At payload 6) (le16At payload 8))
  | 0x15 => do
    need payload 10
    pure (.leCreditBasedConnectionResponse identifier (le16At payload 0) (le16At payload 2)
      (le16At payload 4) (le16At payload 6) (le16At payload 8))
  | 0x16 => do
    need payload 4
    pure (.leFlowControlCredit identifier (le16At payload 0) (le16At payload 2))
  | 0x17 => do
    need payload 8
    let cids ← readCidList (payload.drop 8)
    pure (.creditBasedConnectionRequest identifier (le16At payload 0) (le16At payload 2)
      (le16At payload 4) (le16At payload 6) cids)
  | 0x18 => do
    need payload 8
    let cids ← readCidList (payload.drop 8)
    pure (.creditBasedConnectionResponse identifier (le16At payload 0) (le16At payload 2)
      (le16At payload 4) (le16At payload 6) cids)
  | 0x19 => do
    need payload 4
    let cids ← readCidList (payload.drop 4)
    pure (.creditBasedReconfigureRequest identifier (le16At payload 0) (le16At payload 2) cids)
  | 0x1A => do
    need payload 2
    pure (.creditBasedReconfigureResponse identifier (le16At payload 0))
  | _ => pure (.generic code identifier payload)

/-- A signaling frame from its wire bytes. Bytes after the declared length are ignored. -/
def ControlFrame.fromBytes (pdu : Bytes) : Except L2capError ControlFrame :=
  if pdu.length < 4 then .error (.invalidPacket "not enough data for control frame")
  else
    let length := (le16At pdu 2).toNat
    let «end» := min (4 + length) pdu.length
    parse (pdu.getD 0 0) (pdu.getD 1 0) ((pdu.take «end»).drop 4)

/-! ### Information requests -/

/-- Local values returned to a peer's information request. -/
structure InformationCapabilities where
  connectionlessMtu : UInt16 := 1024
  extendedFeatures : UInt32 := 0
  fixedChannels : UInt64 := 2
  deriving DecidableEq, Repr

/-- A peer's completed information response. -/
structure InformationResponse where
  identifier : UInt8
  infoType : UInt16
  result : UInt16
  data : Bytes
  deriving DecidableEq, Repr

/-- The answer to an information request: the value of a known type, or "not supported". -/
def InformationCapabilities.response (information : InformationCapabilities)
    (identifier : UInt8) (infoType : UInt16) : ControlFrame :=
  match infoType with
  | 0x0001 => .informationResponse identifier infoType 0 (toLe16 information.connectionlessMtu)
  | 0x0002 => .informationResponse identifier infoType 0 (toLe32 information.extendedFeatures)
  | 0x0003 => .informationResponse identifier infoType 0 (toLe64 information.fixedChannels)
  | _ => .informationResponse identifier infoType 1 []

end ClassicHid

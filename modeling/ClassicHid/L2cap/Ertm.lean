import ClassicHid.Foundation.Exec
import ClassicHid.L2cap.Frame

/-!
# Enhanced Retransmission Mode

The control field of an ERTM frame and the engine that segments, numbers, acknowledges and
retransmits the SDUs of one channel.

## Main definitions

* `EnhancedControlField`: the two bytes in front of every ERTM frame
* `ErtmConfig`: the negotiated parameters, with `ErtmConfig.validate`
* `ErtmEngine`: the state of one end, with `ErtmEngine.sendSdu`, `ErtmEngine.receiveFrame`,
  `ErtmEngine.setReceiverBusy` and `ErtmEngine.tick`
-/

namespace ClassicHid

open Foundation

/-- Sequence numbers are taken modulo this. -/
def ertmSequenceModulus : UInt8 := 64

/-- How a frame contributes to an SDU. -/
inductive SegmentationAndReassembly
  | unsegmented
  | start
  | «end»
  | continuation
  deriving DecidableEq, Repr

def SegmentationAndReassembly.toByte : SegmentationAndReassembly → UInt8
  | unsegmented => 0
  | start => 1
  | «end» => 2
  | continuation => 3

def SegmentationAndReassembly.ofByte (value : UInt8) :
    Except L2capError SegmentationAndReassembly :=
  match value with
  | 0 => .ok unsegmented
  | 1 => .ok start
  | 2 => .ok «end»
  | 3 => .ok continuation
  | _ => .error (.invalidPacket "invalid ERTM SAR value")

inductive SupervisoryFunction
  | receiverReady
  | reject
  | receiverNotReady
  | selectiveReject
  deriving DecidableEq, Repr

def SupervisoryFunction.toByte : SupervisoryFunction → UInt8
  | receiverReady => 0
  | reject => 1
  | receiverNotReady => 2
  | selectiveReject => 3

def SupervisoryFunction.ofByte (value : UInt8) : Except L2capError SupervisoryFunction :=
  match value with
  | 0 => .ok receiverReady
  | 1 => .ok reject
  | 2 => .ok receiverNotReady
  | 3 => .ok selectiveReject
  | _ => .error (.invalidPacket "invalid ERTM supervisory function")

inductive EnhancedControlField
  | information (txSeq : UInt8) (finalBit : Bool) (reqSeq : UInt8)
      (sar : SegmentationAndReassembly)
  | supervisory (function : SupervisoryFunction) (poll finalBit : Bool) (reqSeq : UInt8)
  deriving DecidableEq, Repr

namespace EnhancedControlField

def fromBytes (data : Bytes) : Except L2capError EnhancedControlField :=
  match data with
  | b₀ :: b₁ :: _ =>
    if b₀ &&& 1 = 0 then do
      let sar ← SegmentationAndReassembly.ofByte (b₁ >>> 6)
      pure (.information ((b₀ >>> 1) &&& 0x3f) (b₀ &&& 0x80 ≠ 0) (b₁ &&& 0x3f) sar)
    else do
      let function ← SupervisoryFunction.ofByte ((b₀ >>> 2) &&& 3)
      pure (.supervisory function (b₀ &&& 0x10 ≠ 0) (b₀ &&& 0x80 ≠ 0) (b₁ &&& 0x3f))
  | _ => .error (.invalidPacket "truncated ERTM control field")

/-- A sequence number within its range. -/
def validateSeq (name : String) (value : UInt8) : Except L2capError UInt8 :=
  if value < ertmSequenceModulus then .ok value
  else .error (.invalidPacket s!"ERTM {name} sequence number out of range")

def toBytes : EnhancedControlField → Except L2capError Bytes
  | information txSeq finalBit reqSeq sar => do
    let txSeq ← validateSeq "transmit" txSeq
    let reqSeq ← validateSeq "request" reqSeq
    pure [(txSeq <<< 1) ||| (finalBit.toUInt8 <<< 7), reqSeq ||| (sar.toByte <<< 6)]
  | supervisory function poll finalBit reqSeq => do
    let reqSeq ← validateSeq "request" reqSeq
    pure [(1 : UInt8) ||| (function.toByte <<< 2) ||| (poll.toUInt8 <<< 4) |||
      (finalBit.toUInt8 <<< 7), reqSeq]

def reqSeq : EnhancedControlField → UInt8
  | information _ _ reqSeq _ => reqSeq
  | supervisory _ _ _ reqSeq => reqSeq

end EnhancedControlField

/-- The negotiated parameters of a channel. A retransmission limit of zero means unlimited. -/
structure ErtmConfig where
  localMtu : UInt16
  peerMtu : UInt16
  localMps : UInt16
  peerMps : UInt16
  txWindowSize : UInt8
  maxRetransmissions : UInt8
  retransmissionTimeoutTicks : UInt32
  deriving DecidableEq, Repr

def ErtmConfig.validate (config : ErtmConfig) : Except L2capError ErtmConfig :=
  if config.localMtu = 0 ∨ config.peerMtu = 0 then
    .error (.invalidPacket "ERTM MTU cannot be zero")
  else if config.localMps = 0 ∨ config.peerMps = 0 then
    .error (.invalidPacket "ERTM MPS cannot be zero")
  else if ¬ (1 ≤ config.txWindowSize ∧ config.txWindowSize < ertmSequenceModulus) then
    .error (.invalidPacket "ERTM transmit window must be between 1 and 63")
  else if config.retransmissionTimeoutTicks = 0 then
    .error (.invalidPacket "ERTM retransmission timeout cannot be zero")
  else .ok config

/-- A numbered information frame. -/
structure PendingFrame where
  payload : Bytes
  txSeq : UInt8
  sar : SegmentationAndReassembly
  sduLength : Option UInt16
  deriving DecidableEq, Repr

def PendingFrame.encode (frame : PendingFrame) (reqSeq : UInt8) (finalBit : Bool) :
    Except L2capError Bytes := do
  let control ← (EnhancedControlField.information frame.txSeq finalBit reqSeq frame.sar).toBytes
  pure (control ++ (frame.sduLength.elim [] toLe16) ++ frame.payload)

/-- A frame in the transmit window, and how often it was sent. The source counts in 16 bits and
does not check the increment; here the count is exact. -/
structure TransmittedFrame where
  frame : PendingFrame
  transmissions : ℕ
  deriving DecidableEq, Repr

structure ErtmEngine where
  config : ErtmConfig
  pending : List PendingFrame := []
  txWindow : List TransmittedFrame := []
  outbound : List Bytes := []
  received : List Bytes := []
  nextTxSeq : UInt8 := 0
  lastAckedTxSeq : UInt8 := 0
  expectedTxSeq : UInt8 := 0
  lastAckedRxSeq : UInt8 := 0
  remoteBusy : Bool := false
  localBusy : Bool := false
  inputSdu : Bytes := []
  inputSduLength : Option ℕ := none
  now : ℕ := 0
  retransmissionDeadline : Option ℕ := none
  failed : Bool := false
  deriving DecidableEq, Repr

/-- Addition of 64-bit ticks that stops at the largest value. -/
def saturatingAdd64 (a b : ℕ) : ℕ := min (a + b) (2 ^ 64 - 1)

def sequenceAdd (sequence delta : UInt8) : UInt8 := (sequence + delta) % ertmSequenceModulus

def sequenceDistance (first last : UInt8) : UInt8 :=
  (last + ertmSequenceModulus - first) % ertmSequenceModulus

def retransmissionLimitReached (max : UInt8) (frame : TransmittedFrame) : Bool :=
  max ≠ 0 && frame.transmissions - 1 ≥ max.toNat

def retransmissionLimitError (txSeq : UInt8) : L2capError :=
  .invalidPacket s!"maximum retransmissions exceeded for ERTM sequence {txSeq.toNat}"

namespace ErtmEngine

/-- An update of an engine. -/
abbrev Update (α : Type) := Exec ErtmEngine L2capError α

def new (config : ErtmConfig) : Except L2capError ErtmEngine := do
  let config ← config.validate
  pure { config := config }

def ensureActive : Update Unit := do
  if (← Exec.gets failed) then Exec.fail (.invalidPacket "ERTM engine has failed") else pure ()

def takeTxSeq : Update UInt8 :=
  Exec.update fun engine =>
    (engine.nextTxSeq, { engine with nextTxSeq := sequenceAdd engine.nextTxSeq 1 })

def refreshRetransmissionDeadline : Update Unit :=
  Exec.modify fun engine => { engine with
    retransmissionDeadline :=
      if engine.txWindow.isEmpty then none
      else some (saturatingAdd64 engine.now engine.config.retransmissionTimeoutTicks.toNat) }

def resetInput : Update Unit :=
  Exec.modify fun engine => { engine with inputSdu := [], inputSduLength := none }

/-- Put a frame on the outbound queue; whatever is sent acknowledges what was received. -/
def pushOutbound (encoded : Bytes) : Update Unit :=
  Exec.modify fun engine => { engine with
    outbound := engine.outbound ++ [encoded], lastAckedRxSeq := engine.expectedTxSeq }

def sendSupervisory (function : SupervisoryFunction) (poll finalBit : Bool) : Update Unit := do
  let reqSeq ← Exec.gets expectedTxSeq
  let encoded ← Exec.lift (EnhancedControlField.supervisory function poll finalBit reqSeq).toBytes
  pushOutbound encoded

/-- Move pending frames into the transmit window while there is room. Each round takes one
pending frame, so the number of pending frames bounds the rounds. -/
def processOutputLoop : ℕ → Update Unit
  | 0 => pure ()
  | rounds + 1 => do
    let engine ← Exec.get
    if engine.txWindow.length < engine.config.txWindowSize.toNat then
      match engine.pending with
      | [] => pure ()
      | frame :: pending => do
        Exec.modify fun engine => { engine with pending := pending }
        let encoded ← Exec.lift (frame.encode engine.expectedTxSeq false)
        Exec.modify fun engine => { engine with
          txWindow := engine.txWindow ++ [{ frame := frame, transmissions := 1 }] }
        pushOutbound encoded
        processOutputLoop rounds
    else pure ()

def processOutput : Update Unit := do
  if (← Exec.gets remoteBusy) then pure () else
    processOutputLoop (← Exec.gets (·.pending.length))
    refreshRetransmissionDeadline

/-- Send every frame of the window again; `sent` holds the frames already sent. -/
def retransmitFrames (sent : List TransmittedFrame) : List TransmittedFrame → Update Unit
  | [] => pure ()
  | frame :: rest => do
    let again := { frame with transmissions := frame.transmissions + 1 }
    Exec.modify fun engine => { engine with txWindow := sent ++ again :: rest }
    let encoded ← Exec.lift (frame.frame.encode (← Exec.gets expectedTxSeq) false)
    pushOutbound encoded
    retransmitFrames (sent ++ [again]) rest

/-- Give up on a frame that was sent too often. -/
def failOn (txSeq : UInt8) : Update Unit := do
  Exec.modify fun engine => { engine with failed := true }
  Exec.fail (retransmissionLimitError txSeq)

def retransmitAll : Update Unit := do
  let engine ← Exec.get
  if engine.remoteBusy then pure () else
    match engine.txWindow.find? (retransmissionLimitReached engine.config.maxRetransmissions) with
    | some frame => failOn frame.frame.txSeq
    | none => do
      retransmitFrames [] engine.txWindow
      refreshRetransmissionDeadline

def retransmitOne (txSeq : UInt8) : Update Unit := do
  let engine ← Exec.get
  if engine.remoteBusy then pure () else
    match engine.txWindow.findIdx? (·.frame.txSeq = txSeq) with
    | none => Exec.fail (.invalidPacket
        s!"selective reject requested unknown ERTM sequence {txSeq.toNat}")
    | some index =>
      match engine.txWindow[index]? with
      | none => pure ()
      | some frame =>
        if retransmissionLimitReached engine.config.maxRetransmissions frame then
          failOn frame.frame.txSeq
        else do
          Exec.modify fun engine => { engine with
            txWindow := engine.txWindow.set index
              { frame with transmissions := frame.transmissions + 1 } }
          let encoded ← Exec.lift (frame.frame.encode engine.expectedTxSeq false)
          pushOutbound encoded
          refreshRetransmissionDeadline

/-- Drop the frames acknowledged by `newSeq`; the answer says whether there were any. -/
def acknowledge (newSeq : UInt8) : Update Bool := do
  if newSeq ≥ ertmSequenceModulus then
    Exec.fail (.invalidPacket "ERTM acknowledgment sequence out of range")
  else
    let engine ← Exec.get
    let count := (sequenceDistance engine.lastAckedTxSeq newSeq).toNat
    if count > engine.txWindow.length then
      Exec.fail (.invalidPacket
        s!"ERTM acknowledged {count} frames with only {engine.txWindow.length} outstanding")
    else
      Exec.modify fun engine => { engine with txWindow := engine.txWindow.drop count }
      if count ≠ 0 then
        Exec.modify fun engine => { engine with lastAckedTxSeq := newSeq }
        refreshRetransmissionDeadline
      pure (count ≠ 0)

/-- A segmented SDU must not be complete before its last frame. -/
def checkPartialLength : Update Unit := do
  let engine ← Exec.get
  if engine.inputSduLength.any (engine.inputSdu.length ≥ ·) then
    resetInput
    Exec.fail (.invalidPacket "ERTM segmented SDU reached its length before an end frame")
  else pure ()

/-- Whether part of an SDU has arrived. -/
def inputStarted (engine : ErtmEngine) : Bool :=
  !engine.inputSdu.isEmpty || engine.inputSduLength.isSome

def extendInput (payload : Bytes) : Update Unit :=
  Exec.modify fun engine => { engine with inputSdu := engine.inputSdu ++ payload }

def deliver (sdu : Bytes) : Update Unit :=
  Exec.modify fun engine => { engine with received := engine.received ++ [sdu] }

/-- Reassembly of the payload of an information frame. -/
def acceptInformation (sar : SegmentationAndReassembly) (payload : Bytes) : Update Unit := do
  let engine ← Exec.get
  match sar with
  | .unsegmented =>
    if engine.inputStarted then
      resetInput
      Exec.fail (.invalidPacket "unsegmented frame interrupted an ERTM SDU")
    else if payload.length > engine.config.localMtu.toNat then
      Exec.fail (.invalidPacket "ERTM SDU exceeds local MTU")
    else deliver payload
  | .start =>
    if payload.length < 2 then
      Exec.fail (.invalidPacket "ERTM start frame is missing SDU length")
    else if engine.inputStarted then
      resetInput
      Exec.fail (.invalidPacket "ERTM start frame interrupted an SDU")
    else
      let length := (le16At payload 0).toNat
      if length > engine.config.localMtu.toNat then
        Exec.fail (.invalidPacket "ERTM SDU exceeds local MTU")
      else
        Exec.modify fun engine => { engine with inputSduLength := some length }
        extendInput (payload.drop 2)
        checkPartialLength
  | .continuation =>
    if engine.inputSduLength.isNone then
      Exec.fail (.invalidPacket "ERTM continuation without start")
    else
      extendInput payload
      checkPartialLength
  | .end =>
    match engine.inputSduLength with
    | none => Exec.fail (.invalidPacket "ERTM end without start")
    | some length =>
      extendInput payload
      if engine.inputSdu.length + payload.length ≠ length then
        resetInput
        Exec.fail (.invalidPacket "ERTM SDU length mismatch")
      else
        deliver (engine.inputSdu ++ payload)
        resetInput

/-- Number and queue the segments of an SDU longer than the peer's MPS. -/
def queueSegments (sdu : Bytes) (mps : ℕ) : List (Bytes × ℕ) → Update Unit
  | [] => pure ()
  | (chunk, index) :: rest => do
    let sar : SegmentationAndReassembly :=
      if index = 0 then .start
      else if index * mps + chunk.length = sdu.length then .end
      else .continuation
    let txSeq ← takeTxSeq
    Exec.modify fun engine => { engine with
      pending := engine.pending ++ [{
        payload := chunk, txSeq := txSeq, sar := sar,
        sduLength := if sar = .start then some (UInt16.ofNat sdu.length) else none }] }
    queueSegments sdu mps rest

def sendSdu (sdu : Bytes) : Update Unit := do
  ensureActive
  let config ← Exec.gets config
  if sdu.length > config.peerMtu.toNat then
    Exec.fail (.invalidPacket s!"SDU exceeds peer MTU {config.peerMtu.toNat}")
  else
    let mps := config.peerMps.toNat
    if sdu.length ≤ mps then
      let txSeq ← takeTxSeq
      Exec.modify fun engine => { engine with
        pending := engine.pending ++
          [{ payload := sdu, txSeq := txSeq, sar := .unsegmented, sduLength := none }] }
    else if sdu.length > 65535 then
      Exec.fail (.invalidPacket "ERTM SDU length exceeds 16 bits")
    else queueSegments sdu mps (chunks mps sdu).zipIdx
    processOutput

/-- An information frame: reassemble it when it is the next one, otherwise ask for it again. -/
def receiveInformation (txSeq : UInt8) (finalBit : Bool) (sar : SegmentationAndReassembly)
    (payload : Bytes) : Update Unit := do
  let engine ← Exec.get
  if engine.localBusy then sendSupervisory .receiverNotReady false finalBit
  else if txSeq ≠ engine.expectedTxSeq then sendSupervisory .reject false finalBit
  else
    -- The sequence number advances before the payload is judged.
    Exec.modify fun engine => { engine with expectedTxSeq := sequenceAdd engine.expectedTxSeq 1 }
    acceptInformation sar payload
    processOutput
    let engine ← Exec.get
    if engine.lastAckedRxSeq ≠ engine.expectedTxSeq then
      sendSupervisory .receiverReady false finalBit
    else pure ()

def receiveSupervisory (function : SupervisoryFunction) (poll finalBit : Bool) (reqSeq : UInt8)
    (acked : Bool) : Update Unit := do
  Exec.modify fun engine => { engine with remoteBusy := function = .receiverNotReady }
  match function with
  | .reject => retransmitAll
  | .selectiveReject => retransmitOne reqSeq
  | .receiverReady | .receiverNotReady => do
    if finalBit && !acked && !(← Exec.gets (·.txWindow.isEmpty)) then retransmitAll else pure ()
  if poll then
    sendSupervisory
      (if (← Exec.gets localBusy) then .receiverNotReady else .receiverReady) false true
  processOutput

def receiveFrame (frame : Bytes) : Update Unit := do
  ensureActive
  let control ← Exec.lift (EnhancedControlField.fromBytes frame)
  let acked ← acknowledge control.reqSeq
  match control with
  | .information txSeq finalBit _ sar => receiveInformation txSeq finalBit sar (frame.drop 2)
  | .supervisory function poll finalBit reqSeq =>
    receiveSupervisory function poll finalBit reqSeq acked

def setReceiverBusy (busy : Bool) : Update Unit := do
  ensureActive
  if (← Exec.gets localBusy) ≠ busy then
    Exec.modify fun engine => { engine with localBusy := busy }
    sendSupervisory (if busy then .receiverNotReady else .receiverReady) false false
  else pure ()

def tick (ticks : UInt32) : Update Unit := do
  ensureActive
  Exec.modify fun engine => { engine with now := saturatingAdd64 engine.now ticks.toNat }
  let engine ← Exec.get
  if engine.retransmissionDeadline.any (engine.now ≥ ·) && !engine.txWindow.isEmpty then
    retransmitAll
  else pure ()

/-- The next frame to send. -/
def pollOutbound (engine : ErtmEngine) : Option Bytes × ErtmEngine :=
  match engine.outbound with
  | [] => (none, engine)
  | frame :: outbound => (some frame, { engine with outbound := outbound })

/-- The frames to send. -/
def drainOutbound (engine : ErtmEngine) : List Bytes × ErtmEngine :=
  (engine.outbound, { engine with outbound := [] })

/-- The next delivered SDU. -/
def popReceived (engine : ErtmEngine) : Option Bytes × ErtmEngine :=
  match engine.received with
  | [] => (none, engine)
  | sdu :: received => (some sdu, { engine with received := received })

/-- Take the outbound frames and the delivered SDUs. -/
def drain (engine : ErtmEngine) : (List Bytes × List Bytes) × ErtmEngine :=
  ((engine.outbound, engine.received), { engine with outbound := [], received := [] })

end ErtmEngine

end ClassicHid

import ClassicHid.L2cap.ErtmEffect

/-!
# What an operation of an engine does

Each operation acknowledges some frames, numbers some new ones, and sends frames of the window
that acknowledge what is expected after the operation.

## Main definitions

* `Segment`, `segments`: the frames of an SDU before they are numbered

## Main results

* `ErtmEngine.sendSdu_cases`, `ErtmEngine.receiveInformation_cases`,
  `ErtmEngine.receiveSupervisory_cases`, `ErtmEngine.receiveFrame_cases`: the outcomes of sending
  and receiving
* `ErtmEngine.tick_cases`, `ErtmEngine.setReceiverBusy_cases`: time and flow control
-/

namespace ClassicHid

open Foundation

/-! ### Segments -/

/-- A frame without its number. -/
structure Segment where
  payload : Bytes
  sar : SegmentationAndReassembly
  sduLength : Option UInt16
  deriving DecidableEq, Repr

/-- The segment of a chunk of an SDU. -/
def segmentOf (sdu : Bytes) (mps : ℕ) (entry : Bytes × ℕ) : Segment :=
  let sar : SegmentationAndReassembly :=
    if entry.2 = 0 then .start
    else if entry.2 * mps + entry.1.length = sdu.length then .end
    else .continuation
  { payload := entry.1, sar := sar,
    sduLength := if sar = .start then some (UInt16.ofNat sdu.length) else none }

/-- The segments of an SDU. -/
def segments (mps : ℕ) (sdu : Bytes) : List Segment :=
  if sdu.length ≤ mps then [{ payload := sdu, sar := .unsegmented, sduLength := none }]
  else (chunks mps sdu).zipIdx.map (segmentOf sdu mps)

/-- The frames of segments, numbered from `next` on. -/
def numberFrom (next : UInt8) : List Segment → List PendingFrame
  | [] => []
  | segment :: rest =>
    { payload := segment.payload, txSeq := next, sar := segment.sar,
      sduLength := segment.sduLength } :: numberFrom (sequenceAdd next 1) rest

/-- The number after `n` numbers from `next` on. -/
def advance (next : UInt8) : ℕ → UInt8
  | 0 => next
  | n + 1 => advance (sequenceAdd next 1) n

@[simp] theorem length_numberFrom (next : UInt8) (l : List Segment) :
    (numberFrom next l).length = l.length := by
  induction l generalizing next with
  | nil => rfl
  | cons segment l ih => rw [numberFrom, List.length_cons, ih, List.length_cons]

theorem toNat_advance (next : UInt8) (h : next.toNat < 64) (n : ℕ) :
    (advance next n).toNat = (next.toNat + n) % 64 := by
  induction n generalizing next with
  | zero => rw [advance, Nat.add_zero, Nat.mod_eq_of_lt h]
  | succ n ih =>
    rw [advance, ih _ (by rw [toNat_sequenceAdd]; omega), toNat_sequenceAdd]
    omega

/-- The frames are numbered one after the other. -/
theorem txSeq_numberFrom {next : UInt8} (h : next.toNat < 64) {l : List Segment} {i : ℕ}
    {frame : PendingFrame} (hframe : (numberFrom next l)[i]? = some frame) :
    frame.txSeq.toNat = (next.toNat + i) % 64 := by
  induction l generalizing next i with
  | nil => cases hframe
  | cons segment l ih =>
    rw [numberFrom] at hframe
    cases i with
    | zero =>
      cases hframe
      rw [Nat.add_zero, Nat.mod_eq_of_lt h]
    | succ i =>
      rw [ih (by rw [toNat_sequenceAdd]; omega) hframe, toNat_sequenceAdd]
      omega

namespace ErtmEngine

variable {e e' : ErtmEngine}

/-- The engine after segments were numbered. -/
def numbered (l : List Segment) (e : ErtmEngine) : ErtmEngine :=
  { e with pending := e.pending ++ numberFrom e.nextTxSeq l,
           nextTxSeq := advance e.nextTxSeq l.length }

theorem queueSegments_eq (sdu : Bytes) (mps : ℕ) (l : List (Bytes × ℕ)) :
    queueSegments sdu mps l e = (.ok (), numbered (l.map (segmentOf sdu mps)) e) := by
  induction l generalizing e with
  | nil => simp [queueSegments, numbered, numberFrom, advance]
  | cons entry l ih =>
    obtain ⟨chunk, index⟩ := entry
    rw [queueSegments]
    simp only [takeTxSeq, Exec.update_bind, Exec.modify_bind]
    rw [ih]
    simp [numbered, numberFrom, advance, segmentOf]

theorem numbered_inRange (hrange : InRange e) (hnext : e.nextTxSeq.toNat < 64) (l : List Segment) :
    InRange (numbered l e) := by
  refine ⟨?_, hrange.expected⟩
  intro frame hmem
  rw [unacked, numbered, ← List.append_assoc, List.mem_append] at hmem
  rcases hmem with hmem | hmem
  · exact hrange.frames frame hmem
  · obtain ⟨i, hi⟩ := List.getElem?_of_mem hmem
    rw [txSeq_numberFrom hnext hi]
    exact Nat.mod_lt _ (by decide)

/-- **Sending an SDU**: it is refused without a change, or its segments are numbered before what
fits the window is sent. -/
theorem sendSdu_eq (sdu : Bytes) :
    (∃ error, sendSdu sdu e = (.error error, e)) ∨
      e.failed = false ∧ sdu.length ≤ e.config.peerMtu.toNat ∧
        sendSdu sdu e = processOutput (numbered (segments e.config.peerMps.toNat sdu) e) := by
  rcases hfailed : e.failed with _ | _
  rotate_left
  · refine .inl ⟨.invalidPacket "ERTM engine has failed", ?_⟩
    simp only [sendSdu, ensureActive, Exec.bind_apply, Exec.gets_apply, hfailed, if_true,
      Exec.fail_apply]
  have hactive : ensureActive e = (.ok (), e) := by
    simp only [ensureActive, Exec.gets_bind, hfailed]
    rfl
  by_cases hlong : sdu.length > e.config.peerMtu.toNat
  · refine .inl ⟨.invalidPacket s!"SDU exceeds peer MTU {e.config.peerMtu.toNat}", ?_⟩
    simp only [sendSdu, Exec.bind_ok hactive, Exec.gets_bind, hlong, if_true]
    rfl
  have hshort : ¬ sdu.length > 65535 := by
    have := e.config.peerMtu.toNat_lt
    omega
  refine .inr ⟨rfl, Nat.not_lt.mp hlong, ?_⟩
  simp only [sendSdu, Exec.bind_ok hactive, Exec.gets_bind, hlong, if_false, hshort]
  by_cases hmps : sdu.length ≤ e.config.peerMps.toNat
  · simp only [hmps, if_true, takeTxSeq, Exec.update_bind, Exec.modify_bind, segments, numbered,
      numberFrom, advance, List.length_singleton]
  · simp only [hmps, if_false, segments]
    exact Exec.bind_ok (queueSegments_eq sdu _ _)

/-- What an SDU that is not refused sends. -/
theorem sendSdu_cases (hrange : InRange e) (hnext : e.nextTxSeq.toNat < 64) (sdu : Bytes) :
    (∃ error, sendSdu sdu e = (.error error, e)) ∨
      ∃ sent e', sendSdu sdu e = (.ok (), e') ∧ e.failed = false ∧
        sdu.length ≤ e.config.peerMtu.toNat ∧
        Sends e.expectedTxSeq sent (numbered (segments e.config.peerMps.toNat sdu) e) e' ∧
        e'.failed = false ∧ (Timed e → Timed e') := by
  rcases sendSdu_eq (e := e) sdu with hrefused | ⟨hfailed, hlength, hrun⟩
  · exact .inl hrefused
  · obtain ⟨sent, e', houtput, hsends, hfailed', htimed⟩ := processOutput_sends
      (numbered_inRange hrange hnext (segments e.config.peerMps.toNat sdu))
    exact .inr ⟨sent, e', hrun.trans houtput, hfailed, hlength, hsends, hfailed'.trans hfailed,
      htimed⟩

/-! ### Receiving -/

theorem receiverNotReady_ne :
    SupervisoryFunction.receiverNotReady ≠ SupervisoryFunction.selectiveReject := nofun

theorem reject_ne : SupervisoryFunction.reject ≠ SupervisoryFunction.selectiveReject := nofun

theorem receiverReady_ne :
    SupervisoryFunction.receiverReady ≠ SupervisoryFunction.selectiveReject := nofun

theorem readiness_ne (busy : Bool) :
    (if busy then SupervisoryFunction.receiverNotReady else .receiverReady) ≠ .selectiveReject := by
  cases busy <;> nofun

theorem Receives.inRange (h : Receives e e') (hrange : InRange e) : InRange e' := by
  obtain ⟨_, _, _, rfl⟩ := h
  exact ⟨hrange.frames, hrange.expected⟩

/-- The engine expects the next number. -/
def expecting (e : ErtmEngine) : ErtmEngine :=
  { e with expectedTxSeq := sequenceAdd e.expectedTxSeq 1 }

theorem expecting_inRange (hrange : InRange e) : InRange (expecting e) := by
  refine ⟨hrange.frames, ?_⟩
  rw [expecting, toNat_sequenceAdd]
  exact Nat.mod_lt _ (by decide)

/-- The next information frame, when the engine already expects the one behind it. -/
def takeInformation (finalBit : Bool) (sar : SegmentationAndReassembly) (payload : Bytes) :
    Update Unit := do
  acceptInformation sar payload
  processOutput
  let engine ← Exec.get
  if engine.lastAckedRxSeq ≠ engine.expectedTxSeq then
    sendSupervisory .receiverReady false finalBit
  else pure ()

theorem receiveInformation_next (hbusy : e.localBusy = false) {txSeq : UInt8}
    (hnext : txSeq = e.expectedTxSeq) (finalBit : Bool) (sar : SegmentationAndReassembly)
    (payload : Bytes) : receiveInformation txSeq finalBit sar payload e =
      takeInformation finalBit sar payload (expecting e) := by
  simp only [receiveInformation, Exec.get_bind, hbusy, Bool.false_eq_true, if_false, hnext, ne_eq,
    not_true]
  rfl

theorem receiveInformation_other (hbusy : e.localBusy = false) {txSeq : UInt8}
    (hother : txSeq ≠ e.expectedTxSeq) (finalBit : Bool) (sar : SegmentationAndReassembly)
    (payload : Bytes) : receiveInformation txSeq finalBit sar payload e =
      sendSupervisory .reject false finalBit e := by
  simp only [receiveInformation, Exec.get_bind, hbusy, ne_eq, hother, not_false_eq_true, if_true]
  rfl

/-- **An information frame** that is not the next one, or comes while the receiver is busy, is
answered; the next one is reassembled first. -/
theorem receiveInformation_cases (hrange : InRange e) (hinput : InputBounded e) (txSeq : UInt8)
    (finalBit : Bool) (sar : SegmentationAndReassembly) (payload : Bytes) :
    (e.localBusy = true ∨ txSeq ≠ e.expectedTxSeq) ∧
        Attempts (receiveInformation txSeq finalBit sar payload) e ∨
      (e.localBusy = false ∧ txSeq = e.expectedTxSeq) ∧
        ∃ e₁, Receives (expecting e) e₁ ∧ InputBounded e₁ ∧
        (acceptInformation sar payload (expecting e)).2 = e₁ ∧
        ((∃ error, (acceptInformation sar payload (expecting e)).1 = .error error ∧
            receiveInformation txSeq finalBit sar payload e = (.error error, e₁)) ∨
          (acceptInformation sar payload (expecting e)).1 = .ok () ∧ ∃ sent e',
            receiveInformation txSeq finalBit sar payload e = (.ok (), e') ∧
            Sends e₁.expectedTxSeq sent e₁ e' ∧ e'.failed = e₁.failed ∧ (Timed e₁ → Timed e')) := by
  by_cases hbusy : e.localBusy = true
  · refine .inl ⟨.inl hbusy, ?_⟩
    refine Attempts.of_apply_eq ?_ (sendSupervisory_attempts hrange
      receiverNotReady_ne false finalBit)
    simp only [receiveInformation, Exec.get_bind, hbusy, if_true]
  have hbusy : e.localBusy = false := Bool.eq_false_iff.mpr hbusy
  by_cases hnext : txSeq = e.expectedTxSeq
  swap
  · refine .inl ⟨.inr hnext, ?_⟩
    exact Attempts.of_apply_eq (receiveInformation_other hbusy hnext finalBit sar payload)
      (sendSupervisory_attempts hrange reject_ne false finalBit)
  have hexpecting : InputBounded (expecting e) := ⟨hinput.started, hinput.idle, hinput.delivered⟩
  obtain ⟨hreceives, hbounded⟩ := acceptInformation_bounded hexpecting sar payload
  have hrange₁ := hreceives.inRange (expecting_inRange hrange)
  refine .inr ⟨⟨hbusy, hnext⟩, (acceptInformation sar payload (expecting e)).2, hreceives, hbounded,
    rfl, ?_⟩
  rw [receiveInformation_next hbusy hnext, takeInformation]
  rcases haccept : acceptInformation sar payload (expecting e) with ⟨error | _, e₁⟩
  · refine .inl ⟨error, rfl, ?_⟩
    rw [Exec.bind_error haccept]
  · rw [haccept] at hrange₁
    refine .inr ⟨rfl, ?_⟩
    obtain ⟨sent, e₂, hrun, hsends, hfailed, htimed⟩ := processOutput_sends hrange₁
    rw [Exec.bind_ok haccept, Exec.bind_ok hrun, Exec.get_bind]
    have hrange₂ := hsends.inRange hrange₁
    split
    · have hlast := sendSupervisory_sends hrange₂ receiverReady_ne false finalBit
      rw [hsends.expected] at hlast
      rw [sendSupervisory_eq hrange₂] at hlast ⊢
      exact ⟨_, _, rfl, hsends.trans hlast, hfailed, htimed⟩
    · exact ⟨sent, e₂, rfl, hsends, hfailed, htimed⟩

/-- A poll is answered. -/
def answerPoll (poll : Bool) : Update Unit := do
  if poll then
    sendSupervisory
      (if (← Exec.gets localBusy) then .receiverNotReady else .receiverReady) false true
  processOutput

theorem answerPoll_attempts (hrange : InRange e) (poll : Bool) : Attempts (answerPoll poll) e := by
  cases poll with
  | false => exact processOutput_attempts hrange
  | true =>
    have hpoll : answerPoll true e = (do
        sendSupervisory (if e.localBusy then .receiverNotReady else .receiverReady) false true
        processOutput : Update Unit) e := rfl
    refine Attempts.of_apply_eq hpoll ?_
    exact Attempts.bind (sendSupervisory_attempts hrange (readiness_ne e.localBusy) false true)
      (fun e' hrange' => processOutput_attempts hrange') hrange

/-- What a supervisory frame asks to be sent again. -/
def resend (function : SupervisoryFunction) (finalBit : Bool) (reqSeq : UInt8) (acked : Bool) :
    Update Unit :=
  match function with
  | .reject => retransmitAll
  | .selectiveReject => retransmitOne reqSeq
  | .receiverReady | .receiverNotReady => do
    if finalBit && !acked && !(← Exec.gets (·.txWindow.isEmpty)) then retransmitAll else pure ()

theorem receiveSupervisory_eq (function : SupervisoryFunction) (poll finalBit : Bool)
    (reqSeq : UInt8) (acked : Bool) :
    receiveSupervisory function poll finalBit reqSeq acked e =
      (resend function finalBit reqSeq acked >>= fun _ => answerPoll poll)
        { e with remoteBusy := function = .receiverNotReady } := by
  cases function with
  | reject | selectiveReject => rfl
  | receiverReady | receiverNotReady =>
    -- The condition is a closed one as soon as it is known whether the window is empty.
    obtain ⟨_, _, window, _, _, _, _, _, _, _, _, _, _, _, _, _⟩ := e
    cases finalBit <;> cases acked <;> cases window <;> rfl

theorem resend_attempts (hrange : InRange e) {function : SupervisoryFunction}
    (hfunction : function ≠ .selectiveReject) (finalBit : Bool) (reqSeq : UInt8) (acked : Bool) :
    Attempts (resend function finalBit reqSeq acked) e := by
  have hready : Attempts (do
      if finalBit && !acked && !(← Exec.gets (·.txWindow.isEmpty)) then retransmitAll
      else pure ()) e := by
    have hread : (do
        if finalBit && !acked && !(← Exec.gets (·.txWindow.isEmpty)) then retransmitAll
        else pure () : Update Unit) e =
          (if finalBit && !acked && !e.txWindow.isEmpty then retransmitAll else pure ()) e := rfl
    refine Attempts.of_apply_eq hread ?_
    split
    · exact retransmitAll_attempts hrange
    · exact pure_attempts
  cases function with
  | reject => exact retransmitAll_attempts hrange
  | selectiveReject => exact absurd rfl hfunction
  | receiverReady => exact hready
  | receiverNotReady => exact hready

/-- **A supervisory frame**: frames are sent again, and a poll is answered. Only a selective reject
can ask for a frame that is not there. -/
theorem receiveSupervisory_cases (hrange : InRange e) (function : SupervisoryFunction)
    (poll finalBit : Bool) (reqSeq : UInt8) (acked : Bool) :
    Attempts (receiveSupervisory function poll finalBit reqSeq acked) e ∨
      function = .selectiveReject ∧ ∃ error,
        receiveSupervisory function poll finalBit reqSeq acked e =
          (.error error, { e with remoteBusy := function = .receiverNotReady }) := by
  have hrange' : InRange { e with remoteBusy := function = .receiverNotReady } :=
    ⟨hrange.frames, hrange.expected⟩
  have hbind (h : Attempts (resend function finalBit reqSeq acked)
      { e with remoteBusy := function = .receiverNotReady }) :
      Attempts (receiveSupervisory function poll finalBit reqSeq acked) e := by
    refine Attempts.of_same (receiveSupervisory_eq function poll finalBit reqSeq acked)
      (.of_eq rfl rfl rfl rfl rfl rfl rfl rfl rfl rfl) id rfl ?_
    exact h.bind (fun e' hrange => answerPoll_attempts hrange poll) hrange'
  by_cases hfunction : function = .selectiveReject
  · rcases retransmitOne_attempts hrange' reqSeq with hone | ⟨error, hone⟩
    · exact .inl (hbind (by rw [hfunction]; rw [hfunction] at hone; exact hone))
    · refine .inr ⟨hfunction, error, ?_⟩
      rw [receiveSupervisory_eq]
      apply Exec.bind_error
      rw [hfunction] at hone ⊢
      exact hone
  · exact .inl (hbind (resend_attempts hrange' hfunction finalBit reqSeq acked))

theorem fromBytes_reqSeq_lt {frame : Bytes} {control : EnhancedControlField}
    (h : EnhancedControlField.fromBytes frame = .ok control) : control.reqSeq.toNat < 64 := by
  have hmask (b : UInt8) : (b &&& 0x3f).toNat < 64 := by
    rw [UInt8.toNat_and]
    exact Nat.and_lt_two_pow b.toNat (n := 6) (by decide)
  unfold EnhancedControlField.fromBytes at h
  split at h
  · split at h
    · obtain ⟨sar, _, h⟩ := except_bind_eq_ok.mp h
      cases h
      exact hmask _
    · obtain ⟨function, _, h⟩ := except_bind_eq_ok.mp h
      cases h
      exact hmask _
  · cases h

theorem ensureActive_cases :
    (e.failed = true ∧ ∃ error, ensureActive e = (.error error, e)) ∨
      e.failed = false ∧ ensureActive e = (.ok (), e) := by
  rcases hfailed : e.failed with _ | _
  · refine .inr ⟨rfl, ?_⟩
    simp only [ensureActive, Exec.gets_bind, hfailed]
    rfl
  · refine .inl ⟨rfl, .invalidPacket "ERTM engine has failed", ?_⟩
    simp only [ensureActive, Exec.gets_bind, hfailed]
    rfl

/-- What a frame does after it was acknowledged what it acknowledges. -/
def receiveControl (frame : Bytes) (control : EnhancedControlField) (acked : Bool) : Update Unit :=
  match control with
  | .information txSeq finalBit _ sar => receiveInformation txSeq finalBit sar (frame.drop 2)
  | .supervisory function poll finalBit reqSeq =>
    receiveSupervisory function poll finalBit reqSeq acked

/-- **A frame** is refused without a change, or its acknowledgement is taken and its content
received. -/
theorem receiveFrame_cases (hlast : e.lastAckedTxSeq.toNat < 64) (frame : Bytes) :
    ((e.failed = true ∨ (∃ error, EnhancedControlField.fromBytes frame = .error error) ∨
        ∃ control, EnhancedControlField.fromBytes frame = .ok control ∧
          e.txWindow.length < (control.reqSeq.toNat + 64 - e.lastAckedTxSeq.toNat) % 64) ∧
      ∃ error, receiveFrame frame e = (.error error, e)) ∨
    e.failed = false ∧ ∃ control acked e₁, EnhancedControlField.fromBytes frame = .ok control ∧
      Acknowledges ((control.reqSeq.toNat + 64 - e.lastAckedTxSeq.toNat) % 64) e e₁ ∧
      receiveFrame frame e = receiveControl frame control acked e₁ := by
  rcases ensureActive_cases (e := e) with ⟨hfailed, error, hactive⟩ | ⟨hfailed, hactive⟩
  · exact .inl ⟨.inl hfailed, error, by rw [receiveFrame, Exec.bind_error hactive]⟩
  rcases hcontrol : EnhancedControlField.fromBytes frame with error | control
  · refine .inl ⟨.inr (.inl ⟨error, rfl⟩), error, ?_⟩
    rw [receiveFrame, Exec.bind_ok hactive, hcontrol, Exec.lift_error_bind]
  rcases acknowledge_cases (fromBytes_reqSeq_lt hcontrol) hlast with
    ⟨hlong, error, hack⟩ | ⟨acked, e₁, hack, hacknowledges⟩
  · refine .inl ⟨.inr (.inr ⟨control, rfl, hlong⟩), error, ?_⟩
    rw [receiveFrame, Exec.bind_ok hactive, hcontrol, Exec.lift_ok_bind, Exec.bind_error hack]
  · refine .inr ⟨hfailed, control, acked, e₁, rfl, hacknowledges, ?_⟩
    rw [receiveFrame, Exec.bind_ok hactive, hcontrol, Exec.lift_ok_bind, Exec.bind_ok hack]
    cases control <;> rfl

/-! ### Time and flow control -/

/-- **The clock**: when the deadline has passed, everything is sent again. -/
theorem tick_cases (hrange : InRange e) (ticks : UInt32) :
    (∃ error, tick ticks e = (.error error, e)) ∨ e.failed = false ∧ Attempts (tick ticks) e := by
  rcases ensureActive_cases (e := e) with ⟨_, error, hactive⟩ | ⟨hfailed, hactive⟩
  · exact .inl ⟨error, by rw [tick, Exec.bind_error hactive]⟩
  refine .inr ⟨hfailed, ?_⟩
  have hsame : Sends e.expectedTxSeq [] e { e with now := saturatingAdd64 e.now ticks.toNat } :=
    .of_eq rfl rfl rfl rfl rfl rfl rfl rfl rfl rfl
  have htick : tick ticks e = (do
      let engine ← Exec.get
      if engine.retransmissionDeadline.any (engine.now ≥ ·) && !engine.txWindow.isEmpty then
        retransmitAll
      else pure () : Update Unit) { e with now := saturatingAdd64 e.now ticks.toNat } := by
    rw [tick, Exec.bind_ok hactive]
    rfl
  refine Attempts.of_same htick hsame id rfl (Attempts.of_apply_eq (Exec.get_bind _ _) ?_)
  split
  · exact retransmitAll_attempts (hsame.inRange hrange)
  · exact pure_attempts

/-- **Flow control**: a change is announced. -/
theorem setReceiverBusy_cases (hrange : InRange e) (busy : Bool) :
    (∃ error, setReceiverBusy busy e = (.error error, e)) ∨
      e.failed = false ∧ Attempts (setReceiverBusy busy) e := by
  rcases ensureActive_cases (e := e) with ⟨_, error, hactive⟩ | ⟨hfailed, hactive⟩
  · exact .inl ⟨error, by rw [setReceiverBusy, Exec.bind_error hactive]⟩
  refine .inr ⟨hfailed, ?_⟩
  by_cases hbusy : e.localBusy = busy
  · refine Attempts.of_apply_eq ?_ pure_attempts
    rw [setReceiverBusy, Exec.bind_ok hactive]
    simp only [Exec.gets_bind, hbusy, ne_eq, not_true, if_false]
  · have hsame : Sends e.expectedTxSeq [] e { e with localBusy := busy } :=
      .of_eq rfl rfl rfl rfl rfl rfl rfl rfl rfl rfl
    refine Attempts.of_same ?_ hsame id rfl
      (sendSupervisory_attempts (hsame.inRange hrange) (readiness_ne busy) false false)
    rw [setReceiverBusy, Exec.bind_ok hactive]
    simp only [Exec.gets_bind, hbusy, ne_eq, not_false_eq_true, if_true, Exec.modify_bind]

end ErtmEngine

end ClassicHid

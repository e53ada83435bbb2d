import ClassicHid.L2cap.Segmentation
import ClassicHid.L2cap.ErtmInvariant

/-!
# What an engine takes from its peer

An engine moves past the number of the next information frame before it looks at the payload. When
reassembly then refuses the payload, the frame is acknowledged all the same by whatever the engine
sends afterwards, and its bytes are lost. While no payload is refused, the bytes of the
acknowledged frames are exactly what the engine delivered and what it holds of the SDU to come.

## Main definitions

* `ErtmEngine.RefusesPayload`: when reassembly refuses a payload
* `ErtmEngine.Refuses`: the next information frame has such a payload
* `Intake`: an engine with the contents of the frames it moved past and the SDUs it delivered

## Main results

* `ErtmEngine.acceptInformation_refused`, `ErtmEngine.acceptInformation_taken`: reassembly
* `ErtmEngine.receiveFrame_intake`: what a frame does to the input of an engine
* `Intake.refused_unacknowledged_iff`: when a frame that is refused is not acknowledged
-/

namespace ClassicHid

open Foundation

namespace ErtmEngine

variable {e e' e₁ : ErtmEngine} {payload frame : Bytes} {sar : SegmentationAndReassembly}

/-- Reassembly refuses the payload: it interrupts an SDU or comes without one, it is longer than
the local MTU, it has no length, or it does not fit the length that was announced. -/
def RefusesPayload (e : ErtmEngine) (payload : Bytes) : SegmentationAndReassembly → Prop
  | .unsegmented => e.inputStarted = true ∨ e.config.localMtu.toNat < payload.length
  | .start =>
    payload.length < 2 ∨ e.inputStarted = true ∨
      e.config.localMtu.toNat < (le16At payload 0).toNat ∨
      (le16At payload 0).toNat ≤ payload.length - 2
  | .continuation => ∀ length, e.inputSduLength = some length →
      length ≤ e.inputSdu.length + payload.length
  | .end => ∀ length, e.inputSduLength = some length →
      e.inputSdu.length + payload.length ≠ length

/-- The bytes of an SDU in a payload. -/
def content (payload : Bytes) : SegmentationAndReassembly → Bytes
  | .start => payload.drop 2
  | _ => payload

/-- The next information frame of an engine that takes it: the engine moves past its number. -/
def IsNext (e : ErtmEngine) (frame : Bytes) (sar : SegmentationAndReassembly) : Prop :=
  e.failed = false ∧ e.localBusy = false ∧ ∃ finalBit reqSeq,
    EnhancedControlField.fromBytes frame =
      .ok (.information e.expectedTxSeq finalBit reqSeq sar) ∧
    (sequenceDistance e.lastAckedTxSeq reqSeq).toNat ≤ e.txWindow.length

/-- The next information frame has a payload that reassembly refuses. -/
def Refuses (e : ErtmEngine) (frame : Bytes) : Prop :=
  ∃ sar, IsNext e frame sar ∧ RefusesPayload e (frame.drop 2) sar

/-! ### Reassembly -/

theorem not_inputStarted (h : ¬ e.inputStarted = true) :
    e.inputSdu = [] ∧ e.inputSduLength = none := by
  rw [inputStarted, Bool.or_eq_true, not_or] at h
  obtain ⟨hinput, hlength⟩ := h
  constructor
  · simpa using hinput
  · simpa using hlength

/-- A partial SDU that is complete too early is dropped. -/
theorem checkPartialLength_error {length : ℕ} (hlength : e.inputSduLength = some length)
    (hlong : length ≤ e.inputSdu.length) :
    ∃ error e', checkPartialLength e = (.error error, e') := by
  have hdrop : (e.inputSduLength.any (e.inputSdu.length ≥ ·)) = true := by
    rw [hlength]
    simpa using hlong
  rw [checkPartialLength, Exec.get_bind, if_pos hdrop]
  exact ⟨_, _, rfl⟩

/-- **A payload that is refused** fails. -/
theorem acceptInformation_refused (h : RefusesPayload e payload sar) :
    ∃ error e', acceptInformation sar payload e = (.error error, e') := by
  cases sar with
  | unsegmented =>
    rw [acceptInformation, Exec.get_bind]
    dsimp only
    split
    · exact ⟨_, _, rfl⟩
    · rename_i hidle
      rw [if_pos (h.resolve_left hidle)]
      exact ⟨_, _, rfl⟩
  | start =>
    rw [acceptInformation, Exec.get_bind]
    dsimp only
    split
    · exact ⟨_, _, rfl⟩
    split
    · exact ⟨_, _, rfl⟩
    rename_i hshort hidle
    split
    · exact ⟨_, _, rfl⟩
    rename_i hmtu
    have hlong := ((h.resolve_left hshort).resolve_left hidle).resolve_left hmtu
    rw [extendInput, Exec.modify_bind, Exec.modify_bind]
    apply checkPartialLength_error rfl
    rw [List.length_append, List.length_drop]
    exact Nat.le_trans hlong (Nat.le_add_left _ _)
  | continuation =>
    rw [acceptInformation, Exec.get_bind]
    dsimp only
    split
    · exact ⟨_, _, rfl⟩
    · rename_i hstarted
      obtain ⟨length, hlength⟩ := Option.ne_none_iff_exists'.mp (by simpa using hstarted)
      rw [extendInput, Exec.modify_bind]
      refine checkPartialLength_error (e := { e with inputSdu := e.inputSdu ++ payload }) hlength ?_
      rw [List.length_append]
      exact h length hlength
  | «end» =>
    rw [acceptInformation, Exec.get_bind]
    dsimp only
    rcases hlength : e.inputSduLength with _ | length
    · exact ⟨_, _, rfl⟩
    · dsimp only
      rw [extendInput, Exec.modify_bind, if_pos (h length hlength)]
      exact ⟨_, _, rfl⟩

/-- The bytes that arrived are delivered or held. -/
def Gains (bytes : Bytes) (e e' : ErtmEngine) : Prop :=
  ∃ new, e'.received = e.received ++ new ∧ new.flatten ++ e'.inputSdu = e.inputSdu ++ bytes

/-- **A payload that is not refused** is delivered or held. -/
theorem acceptInformation_taken (h : ¬ RefusesPayload e payload sar) :
    ∃ e', acceptInformation sar payload e = (.ok (), e') ∧ Gains (content payload sar) e e' := by
  cases sar with
  | unsegmented =>
    obtain ⟨hidle, hmtu⟩ := not_or.mp h
    obtain ⟨hinput, _⟩ := not_inputStarted hidle
    rw [acceptInformation, Exec.get_bind]
    dsimp only
    rw [if_neg hidle, if_neg hmtu]
    refine ⟨_, rfl, [payload], rfl, ?_⟩
    dsimp only
    rw [hinput, List.flatten_singleton, List.append_nil]
    rfl
  | start =>
    obtain ⟨hlength, h⟩ := not_or.mp h
    obtain ⟨hidle, h⟩ := not_or.mp h
    obtain ⟨hmtu, hshort⟩ := not_or.mp h
    obtain ⟨hinput, _⟩ := not_inputStarted hidle
    rw [acceptInformation, Exec.get_bind]
    dsimp only
    rw [if_neg hlength, if_neg hidle, if_neg hmtu, extendInput, Exec.modify_bind, Exec.modify_bind]
    refine ⟨_, checkPartialLength_eq rfl ?_, [], (List.append_nil _).symm, rfl⟩
    dsimp only
    rw [hinput, List.nil_append, List.length_drop]
    exact Nat.not_le.mp hshort
  | continuation =>
    obtain ⟨length, h⟩ := not_forall.mp h
    obtain ⟨hlength, hshort⟩ := Classical.not_imp.mp h
    have hstarted : e.inputSduLength.isNone ≠ true := by
      rw [hlength]
      exact Bool.false_ne_true
    rw [acceptInformation, Exec.get_bind]
    dsimp only
    rw [if_neg hstarted, extendInput, Exec.modify_bind]
    refine ⟨_, checkPartialLength_eq hlength ?_, [], (List.append_nil _).symm, rfl⟩
    dsimp only
    rw [List.length_append]
    exact Nat.not_le.mp hshort
  | «end» =>
    obtain ⟨length, h⟩ := not_forall.mp h
    obtain ⟨hlength, hcomplete⟩ := Classical.not_imp.mp h
    rw [acceptInformation, Exec.get_bind]
    simp only [hlength, extendInput, Exec.modify_bind, if_neg hcomplete]
    refine ⟨_, rfl, [e.inputSdu ++ payload], rfl, ?_⟩
    rw [List.flatten_singleton]
    exact List.append_nil _

/-! ### Frames -/

/-- The engine took nothing from its peer. -/
structure SameInput (e e' : ErtmEngine) : Prop where
  expected : e'.expectedTxSeq = e.expectedTxSeq
  inputSdu : e'.inputSdu = e.inputSdu
  received : e'.received = e.received

theorem SameInput.trans {e'' : ErtmEngine} (h : SameInput e e') (h' : SameInput e' e'') :
    SameInput e e'' where
  expected := h'.expected.trans h.expected
  inputSdu := h'.inputSdu.trans h.inputSdu
  received := h'.received.trans h.received

theorem Sends.sameInput {reqSeq : UInt8} {sent : List Outgoing} (h : Sends reqSeq sent e e') :
    SameInput e e' :=
  ⟨h.expected, h.inputSdu, h.received⟩

theorem Acknowledges.sameInput {count : ℕ} (h : Acknowledges count e e') : SameInput e e' :=
  ⟨h.expected, h.inputSdu, h.received⟩

theorem Attempts.sameInput {m : Update Unit} (h : Attempts m e) : SameInput e (m e).2 := by
  obtain ⟨sent, e', hsends, _, ⟨hrun, _⟩ | ⟨error, hrun, _⟩⟩ := h
  · rw [hrun]
    exact hsends.sameInput
  · rw [hrun]
    exact hsends.sameInput

/-- What a payload is judged by. -/
theorem refusesPayload_congr (hconfig : e'.config = e.config) (hinput : e'.inputSdu = e.inputSdu)
    (hlength : e'.inputSduLength = e.inputSduLength) :
    RefusesPayload e' payload sar ↔ RefusesPayload e payload sar := by
  have hstarted : e'.inputStarted = e.inputStarted := by
    rw [inputStarted, inputStarted, hinput, hlength]
  cases sar <;> simp only [RefusesPayload, hstarted, hconfig, hinput, hlength]

/-- The engine takes a frame exactly when it receives it as the next one. -/
theorem isNext_iff (hnumbered : Numbered e) :
    IsNext e frame sar ↔ e.failed = false ∧ e.localBusy = false ∧ ∃ finalBit reqSeq,
      EnhancedControlField.fromBytes frame =
        .ok (.information e.expectedTxSeq finalBit reqSeq sar) ∧
      (reqSeq.toNat + 64 - e.lastAckedTxSeq.toNat) % 64 ≤ e.txWindow.length := by
  constructor
  · rintro ⟨hfailed, hbusy, finalBit, reqSeq, hcontrol, hlength⟩
    have hreq : reqSeq.toNat < 64 := fromBytes_reqSeq_lt hcontrol
    rw [toNat_sequenceDistance hnumbered.lastAcked hreq] at hlength
    exact ⟨hfailed, hbusy, finalBit, reqSeq, hcontrol, hlength⟩
  · rintro ⟨hfailed, hbusy, finalBit, reqSeq, hcontrol, hlength⟩
    have hreq : reqSeq.toNat < 64 := fromBytes_reqSeq_lt hcontrol
    rw [← toNat_sequenceDistance hnumbered.lastAcked hreq] at hlength
    exact ⟨hfailed, hbusy, finalBit, reqSeq, hcontrol, hlength⟩

/-- **What a frame does to the input.** The engine moves past the number of a frame it takes; the
call fails when the payload is refused, and otherwise the bytes are delivered or held. Any other
frame leaves the input as it is. -/
theorem receiveFrame_intake (hnumbered : Numbered e) (hinput : InputBounded e) (frame : Bytes) :
    (∃ sar, IsNext e frame sar ∧
        (receiveFrame frame e).2.expectedTxSeq = sequenceAdd e.expectedTxSeq 1 ∧
        (RefusesPayload e (frame.drop 2) sar ∧
            (∃ error, (receiveFrame frame e).1 = .error error) ∨
          ¬ RefusesPayload e (frame.drop 2) sar ∧ (receiveFrame frame e).1 = .ok () ∧
            Gains (content (frame.drop 2) sar) e (receiveFrame frame e).2)) ∨
      (∀ sar, ¬ IsNext e frame sar) ∧ SameInput e (receiveFrame frame e).2 := by
  rcases receiveFrame_cases hnumbered.lastAcked frame with
    ⟨hrefused, error, hrun⟩ | ⟨hfailed, control, acked, e₁, hcontrol, hacks, hrun⟩
  · -- The frame is refused before its content matters.
    refine .inr ⟨?_, by rw [hrun]; exact ⟨rfl, rfl, rfl⟩⟩
    intro sar htakes
    obtain ⟨hactive, _, finalBit, reqSeq, hcontrol, hlength⟩ := (isNext_iff hnumbered).mp htakes
    rcases hrefused with hfailed | ⟨error, herror⟩ | ⟨control, hcontrol', hlong⟩
    · cases hactive.symm.trans hfailed
    · cases hcontrol.symm.trans herror
    · cases hcontrol.symm.trans hcontrol'
      exact absurd hlong (Nat.not_lt.mpr hlength)
  · have hrange₁ := hacks.inRange hnumbered.inRange
    have hinput₁ := hacks.inputBounded hinput
    rw [hrun]
    cases control with
    | information txSeq finalBit reqSeq sar =>
      rw [receiveControl]
      rcases receiveInformation_cases hrange₁ hinput₁ txSeq finalBit sar (frame.drop 2) with
        ⟨hother, hattempts⟩ | ⟨⟨hbusy, rfl⟩, e₂, hreceives, _, haccepts, hend⟩
      · refine .inr ⟨?_, hacks.sameInput.trans hattempts.sameInput⟩
        intro sar' htakes
        obtain ⟨_, hbusy, finalBit', reqSeq', hcontrol', _⟩ := htakes
        cases hcontrol.symm.trans hcontrol'
        rw [hacks.localBusy, hbusy, hacks.expected] at hother
        rcases hother with hother | hother
        · cases hother
        · exact hother rfl
      · have htakes : IsNext e frame sar := by
          rw [isNext_iff hnumbered]
          refine ⟨hfailed, by rw [← hacks.localBusy, hbusy], finalBit, reqSeq, ?_,
            hacks.outstanding⟩
          rw [hcontrol, hacks.expected]
        have hexpected : e₂.expectedTxSeq = sequenceAdd e.expectedTxSeq 1 := by
          obtain ⟨_, _, _, rfl⟩ := hreceives
          rw [← hacks.expected]
          rfl
        refine .inl ⟨sar, htakes, ?_, ?_⟩
        · rcases hend with ⟨error, _, hrun'⟩ | ⟨_, sent, e', hrun', hsends, _⟩
          · rw [hrun']
            exact hexpected
          · rw [hrun']
            exact hsends.expected.trans hexpected
        · have hsame : RefusesPayload (expecting e₁) (frame.drop 2) sar ↔
              RefusesPayload e (frame.drop 2) sar :=
            refusesPayload_congr hacks.config hacks.inputSdu hacks.inputLength
          by_cases hrefuses : RefusesPayload e (frame.drop 2) sar
          · obtain ⟨error, _, hfails⟩ := acceptInformation_refused (hsame.mpr hrefuses)
            refine .inl ⟨hrefuses, ?_⟩
            rcases hend with ⟨error, _, hrun'⟩ | ⟨hok, _⟩
            · exact ⟨error, by rw [hrun']⟩
            · rw [hfails] at hok
              cases hok
          · obtain ⟨e₃, hok, new, hreceived, hbytes⟩ :=
              acceptInformation_taken (mt hsame.mp hrefuses)
            refine .inr ⟨hrefuses, ?_⟩
            rcases hend with ⟨error, hfails, _⟩ | ⟨_, sent, e', hrun', hsends, _⟩
            · rw [hok] at hfails
              cases hfails
            · rw [hok] at haccepts
              subst haccepts
              rw [hrun']
              refine ⟨rfl, new, ?_, ?_⟩
              · rw [hsends.received, hreceived, ← hacks.received]
                rfl
              · rw [hsends.inputSdu, hbytes, ← hacks.inputSdu]
                rfl
    | supervisory function poll finalBit reqSeq =>
      rw [receiveControl]
      refine .inr ⟨?_, hacks.sameInput.trans ?_⟩
      · rintro sar ⟨_, _, _, _, hcontrol', _⟩
        cases hcontrol.symm.trans hcontrol'
      · rcases receiveSupervisory_cases hrange₁ function poll finalBit reqSeq acked with
          hattempts | ⟨_, error, hrun'⟩
        · exact hattempts.sameInput
        · rw [hrun']
          exact ⟨rfl, rfl, rfl⟩

theorem sequenceAdd_ne (sequence : UInt8) : sequenceAdd sequence 1 ≠ sequence := by
  intro heq
  have hnat := toNat_sequenceAdd sequence
  rw [heq] at hnat
  omega

/-- **Which frames are acknowledged though they are refused.** -/
theorem receiveFrame_unacknowledged_iff (hnumbered : Numbered e) (hinput : InputBounded e)
    (frame : Bytes) :
    (∀ error, (receiveFrame frame e).1 = .error error →
      (receiveFrame frame e).2.expectedTxSeq = e.expectedTxSeq) ↔ ¬ Refuses e frame := by
  rcases receiveFrame_intake hnumbered hinput frame with
    ⟨sar, htakes, hnext, ⟨hrefuses, error, hfails⟩ | ⟨hrefuses, hok, _⟩⟩ | ⟨hother, hsame⟩
  · constructor
    · intro h
      exact absurd (hnext.symm.trans (h error hfails)) (sequenceAdd_ne _)
    · intro h
      exact absurd ⟨sar, htakes, hrefuses⟩ h
  · constructor
    · rintro _ ⟨sar', htakes', hrefuses'⟩
      obtain ⟨_, _, _, _, hcontrol, _⟩ := htakes
      obtain ⟨_, _, _, _, hcontrol', _⟩ := htakes'
      cases hcontrol.symm.trans hcontrol'
      exact hrefuses hrefuses'
    · intro _ error hfails
      rw [hok] at hfails
      cases hfails
  · constructor
    · rintro _ ⟨sar, htakes, _⟩
      exact hother sar htakes
    · intro _ _ _
      exact hsame.expected

/-! ### Operations -/

/-- Every operation keeps the numbering and the input sound. -/
theorem apply_sound (hnumbered : Numbered e) (hinput : InputBounded e) (op : EngineOp) :
    Numbered (e.apply op) ∧ InputBounded (e.apply op) := by
  rcases hop : op.isPoll with _ | _
  · obtain ⟨⟨_, _, _, hadvances⟩, _, hinput'⟩ := apply_moves hnumbered hinput hop
    exact ⟨hadvances.numbered hnumbered, hinput'⟩
  · obtain ⟨outbound, received, happly, _, hmem⟩ := e.apply_poll hop
    rw [happly]
    exact ⟨⟨hnumbered.lastAcked, hnumbered.frames, hnumbered.next, hnumbered.expected⟩,
      hinput.started, hinput.idle, fun sdu hsdu => hinput.delivered sdu (hmem sdu hsdu)⟩

/-- Only a frame changes the input; taking an SDU delivers nothing. -/
theorem apply_other (hnumbered : Numbered e) {op : EngineOp}
    (hop : ∀ frame, op ≠ .receiveFrame frame) :
    (e.apply op).expectedTxSeq = e.expectedTxSeq ∧ (e.apply op).inputSdu = e.inputSdu ∧
      (e.apply op).received.drop e.received.length = [] := by
  have hsame {e' : ErtmEngine} (h : SameInput e e') :
      e'.expectedTxSeq = e.expectedTxSeq ∧ e'.inputSdu = e.inputSdu ∧
        e'.received.drop e.received.length = [] := by
    refine ⟨h.expected, h.inputSdu, ?_⟩
    rw [h.received, List.drop_length]
  have hrefl : SameInput e e := ⟨rfl, rfl, rfl⟩
  cases op with
  | sendSdu sdu =>
    apply hsame
    rw [apply]
    rcases sendSdu_cases hnumbered.inRange hnumbered.next_lt sdu with
      ⟨error, hrun⟩ | ⟨sent, e', hrun, _, _, hsends, _⟩
    · rw [hrun]
      exact hrefl
    · rw [hrun]
      exact ⟨hsends.expected, hsends.inputSdu, hsends.received⟩
  | receiveFrame frame => exact absurd rfl (hop frame)
  | tick ticks =>
    apply hsame
    rw [apply]
    rcases tick_cases hnumbered.inRange ticks with ⟨error, hrun⟩ | ⟨_, hattempts⟩
    · rw [hrun]
      exact hrefl
    · exact hattempts.sameInput
  | setReceiverBusy busy =>
    apply hsame
    rw [apply]
    rcases setReceiverBusy_cases hnumbered.inRange busy with ⟨error, hrun⟩ | ⟨_, hattempts⟩
    · rw [hrun]
      exact hrefl
    · exact hattempts.sameInput
  | pollOutbound =>
    apply hsame
    rw [apply, pollOutbound]
    split
    · exact hrefl
    · exact ⟨rfl, rfl, rfl⟩
  | drainOutbound => exact hsame ⟨rfl, rfl, rfl⟩
  | popReceived =>
    rw [apply, popReceived]
    split
    · exact hsame hrefl
    · rename_i hreceived
      refine ⟨rfl, rfl, ?_⟩
      rw [hreceived]
      exact List.drop_eq_nil_of_le (Nat.le_succ _)

/-- **What is sent** acknowledges what the engine expects. -/
theorem apply_acknowledges (hnumbered : Numbered e) (hinput : InputBounded e) (op : EngineOp) :
    ∀ frame ∈ (e.apply op).outbound.drop e.outbound.length, ∃ control,
      EnhancedControlField.fromBytes frame = .ok control ∧
        control.reqSeq = (e.apply op).expectedTxSeq := by
  intro frame hmem
  rcases hop : op.isPoll with _ | _
  · obtain ⟨⟨_, _, sent, hadvances⟩, _, _⟩ := apply_moves hnumbered hinput hop
    have hnumbered' := hadvances.numbered hnumbered
    rw [hadvances.outbound, List.drop_left, List.mem_map] at hmem
    obtain ⟨out, hout, rfl⟩ := hmem
    cases out with
    | information index pending =>
      obtain ⟨_, hpending⟩ := hadvances.frame index pending hout
      have htx := hnumbered'.inRange.frames pending (List.mem_of_getElem? hpending)
      exact ⟨_, PendingFrame.fromBytes_bytes htx hadvances.expected, rfl⟩
    | supervisory function poll finalBit =>
      exact ⟨_, function.fromBytes_bytes poll finalBit hadvances.expected, rfl⟩
  · obtain ⟨outbound, received, happly, hlength, _⟩ := e.apply_poll hop
    rw [happly, List.drop_eq_nil_of_le hlength] at hmem
    cases hmem

end ErtmEngine

/-! ### Runs -/

/-- An engine with what it took from its peer: the content of each information frame whose number
it moved past, and each SDU that it delivered. -/
structure Intake where
  engine : ErtmEngine
  taken : List Bytes := []
  delivered : List Bytes := []

namespace Intake

/-- The bytes of an SDU in an information frame. -/
def contentOf (frame : Bytes) : Bytes :=
  match EnhancedControlField.fromBytes frame with
  | .ok (.information _ _ _ sar) => ErtmEngine.content (frame.drop 2) sar
  | _ => []

/-- The content of the frame that was received, when the engine moved past its number. -/
def takenBy (before after : ErtmEngine) : EngineOp → List Bytes
  | .receiveFrame frame =>
    if after.expectedTxSeq = before.expectedTxSeq then [] else [contentOf frame]
  | _ => []

/-- One operation: what is taken and what is delivered is recorded. -/
def step (op : EngineOp) (intake : Intake) : Intake :=
  let engine := intake.engine.apply op
  { engine := engine
    taken := intake.taken ++ takenBy intake.engine engine op
    delivered := intake.delivered ++ engine.received.drop intake.engine.received.length }

def run (ops : List EngineOp) (intake : Intake) : Intake :=
  ops.foldl (fun intake op => intake.step op) intake

/-- No frame arrives with a payload that is refused. -/
def NoneRefused : List EngineOp → ErtmEngine → Prop
  | [], _ => True
  | op :: ops, engine =>
    (∀ frame, op = .receiveFrame frame → ¬ engine.Refuses frame) ∧
      NoneRefused ops (engine.apply op)

/-- The engine expects the number behind the frames it took. -/
structure Sound (intake : Intake) : Prop where
  numbered : intake.engine.Numbered
  input : intake.engine.InputBounded
  taken : intake.engine.expectedTxSeq.toNat = intake.taken.length % 64

/-- The bytes of the frames that were taken are delivered or held. -/
def Kept (intake : Intake) : Prop :=
  intake.taken.flatten = intake.delivered.flatten ++ intake.engine.inputSdu

variable {intake : Intake}

/-- **What an operation takes**: the content of the next information frame, which is delivered or
held unless it is refused, or nothing. -/
theorem takenBy_cases {e : ErtmEngine} (hnumbered : e.Numbered) (hinput : e.InputBounded)
    (op : EngineOp) :
    (∃ frame bytes, op = .receiveFrame frame ∧ takenBy e (e.apply op) op = [bytes] ∧
        (e.apply op).expectedTxSeq = sequenceAdd e.expectedTxSeq 1 ∧
        (e.Refuses frame ∨ ErtmEngine.Gains bytes e (e.apply op))) ∨
      takenBy e (e.apply op) op = [] ∧ (e.apply op).expectedTxSeq = e.expectedTxSeq ∧
        (e.apply op).inputSdu = e.inputSdu ∧
        (e.apply op).received.drop e.received.length = [] := by
  by_cases hop : ∃ frame, op = .receiveFrame frame
  · obtain ⟨frame, rfl⟩ := hop
    rcases ErtmEngine.receiveFrame_intake hnumbered hinput frame with
      ⟨sar, htakes, hnext, hend⟩ | ⟨_, hsame⟩
    · have hne : (e.apply (.receiveFrame frame)).expectedTxSeq ≠ e.expectedTxSeq := by
        rw [ErtmEngine.apply, hnext]
        exact ErtmEngine.sequenceAdd_ne _
      refine .inl ⟨frame, ErtmEngine.content (frame.drop 2) sar, rfl, ?_, hnext, ?_⟩
      · obtain ⟨_, _, _, _, hcontrol, _⟩ := htakes
        rw [takenBy, if_neg hne, contentOf, hcontrol]
      · rcases hend with ⟨hrefuses, _⟩ | ⟨_, _, hgains⟩
        · exact .inl ⟨sar, htakes, hrefuses⟩
        · exact .inr hgains
    · refine .inr ⟨if_pos hsame.expected, hsame.expected, hsame.inputSdu, ?_⟩
      rw [ErtmEngine.apply, hsame.received, List.drop_length]
  · have hop : ∀ frame, op ≠ .receiveFrame frame := fun frame heq => hop ⟨frame, heq⟩
    refine .inr ⟨?_, ErtmEngine.apply_other hnumbered hop⟩
    cases op with
    | receiveFrame frame => exact absurd rfl (hop frame)
    | _ => rfl

/-- Every operation counts what it takes. -/
theorem Sound.step (h : Sound intake) (op : EngineOp) : Sound (intake.step op) := by
  obtain ⟨hnumbered, hinput⟩ := ErtmEngine.apply_sound h.numbered h.input op
  refine ⟨hnumbered, hinput, ?_⟩
  rw [Intake.step]
  dsimp only
  rw [List.length_append]
  rcases takenBy_cases h.numbered h.input op with
    ⟨frame, bytes, _, htaken, hnext, _⟩ | ⟨htaken, hsame, _⟩
  · rw [htaken, hnext, toNat_sequenceAdd, h.taken, List.length_singleton]
    omega
  · rw [htaken, hsame, h.taken]
    rfl

/-- An operation that refuses no payload keeps the bytes. -/
theorem Kept.step (h : Kept intake) (hsound : Sound intake) {op : EngineOp}
    (hop : ∀ frame, op = .receiveFrame frame → ¬ intake.engine.Refuses frame) :
    Kept (intake.step op) := by
  rw [Kept] at h
  rw [Kept, Intake.step]
  dsimp only
  rw [List.flatten_append, List.flatten_append, h]
  rcases takenBy_cases hsound.numbered hsound.input op with
    ⟨frame, bytes, heq, htaken, _, hrefuses | ⟨new, hreceived, hbytes⟩⟩ |
      ⟨htaken, _, hinput, hdrop⟩
  · exact absurd hrefuses (hop frame heq)
  · rw [htaken, hreceived, List.drop_left, List.flatten_singleton, List.append_assoc,
      List.append_assoc, hbytes]
  · rw [htaken, hinput, hdrop, List.flatten_nil, List.append_nil, List.append_nil]

/-- What was taken is counted after any operations. -/
theorem Sound.run (h : Sound intake) (ops : List EngineOp) : Sound (intake.run ops) := by
  induction ops generalizing intake with
  | nil => exact h
  | cons op ops ih => exact ih (h.step op)

/-- The bytes are kept as long as no payload is refused. -/
theorem Kept.run (h : Kept intake) (hsound : Sound intake) {ops : List EngineOp}
    (hops : NoneRefused ops intake.engine) : Kept (intake.run ops) := by
  induction ops generalizing intake with
  | nil => exact h
  | cons op ops ih =>
    obtain ⟨hop, hops⟩ := hops
    exact ih (h.step hsound hop) (hsound.step op) hops

/-- **Refused frames and acknowledgement.** After any operations on an engine with a valid
configuration, a frame that fails leaves the expected number unchanged exactly when it is not the
next information frame with a payload that is refused. Whatever is sent acknowledges the frames
taken so far; and in a run in which no payload is refused, the bytes of those frames are what was
delivered and what is held of the next SDU, so that none of them was discarded. -/
theorem refused_unacknowledged_iff {config : ErtmConfig} {engine : ErtmEngine}
    (hnew : ErtmEngine.new config = .ok engine) (ops : List EngineOp) :
    let last := run ops { engine := engine }
    (∀ frame, (∀ error, (ErtmEngine.receiveFrame frame last.engine).1 = .error error →
        (ErtmEngine.receiveFrame frame last.engine).2.expectedTxSeq = last.engine.expectedTxSeq) ↔
      ¬ last.engine.Refuses frame) ∧
    (∀ op, ∀ frame ∈ (last.engine.apply op).outbound.drop last.engine.outbound.length,
      ∃ control, EnhancedControlField.fromBytes frame = .ok control ∧
        control.reqSeq.toNat = (last.step op).taken.length % 64) ∧
    (NoneRefused ops engine →
      last.taken.flatten = last.delivered.flatten ++ last.engine.inputSdu) := by
  obtain ⟨rfl, _⟩ := ErtmEngine.new_eq_ok hnew
  have hfirst := EngineHistory.sound_new config
  have hsound : Sound { engine := { config := config } } :=
    ⟨hfirst.numbered, hfirst.input, rfl⟩
  have hlast := hsound.run ops
  refine ⟨?_, ?_, ?_⟩
  · exact ErtmEngine.receiveFrame_unacknowledged_iff hlast.numbered hlast.input
  · intro op frame hmem
    obtain ⟨control, hcontrol, hreq⟩ :=
      ErtmEngine.apply_acknowledges hlast.numbered hlast.input op frame hmem
    refine ⟨control, hcontrol, ?_⟩
    rw [hreq]
    exact (hlast.step op).taken
  · have hkept : Kept { engine := { config := config } } := rfl
    exact hkept.run hsound

/-- An SDU in one frame, then one in two frames. -/
theorem refused_unacknowledged_iff_segments :
    let config : ErtmConfig := {
      localMtu := 48, peerMtu := 48, localMps := 4, peerMps := 4, txWindowSize := 2,
      maxRetransmissions := 1, retransmissionTimeoutTicks := 10 }
    let last := run [.receiveFrame [0x00, 0x00, 7], .receiveFrame [0x02, 0x40, 3, 0, 1],
      .receiveFrame [0x04, 0x80, 2, 3]] { engine := { config := config } }
    last.delivered = [[7], [1, 2, 3]] ∧ last.taken.flatten = [7, 1, 2, 3] ∧
      ∀ frame, (∀ error, (ErtmEngine.receiveFrame frame last.engine).1 = .error error →
        (ErtmEngine.receiveFrame frame last.engine).2.expectedTxSeq = last.engine.expectedTxSeq) ↔
      ¬ last.engine.Refuses frame := by
  intro config last
  have hnew : ErtmEngine.new config = .ok { config := config } := rfl
  refine ⟨?_, ?_, (refused_unacknowledged_iff hnew _).1⟩
  · decide +kernel
  · decide +kernel

/-- A new engine is sent the middle of an SDU that never started. The frame is refused and nothing
of it is held, but the answer to the next poll acknowledges it. -/
theorem continuation_without_start_acknowledged :
    let config : ErtmConfig := {
      localMtu := 48, peerMtu := 48, localMps := 4, peerMps := 4, txWindowSize := 2,
      maxRetransmissions := 1, retransmissionTimeoutTicks := 10 }
    let engine : ErtmEngine := { config := config }
    let refused := ErtmEngine.receiveFrame [0x00, 0xc0, 9] engine
    let polled := ErtmEngine.receiveFrame [0x11, 0x00] refused.2
    ErtmEngine.new config = .ok engine ∧
      refused.1 = .error (.invalidPacket "ERTM continuation without start") ∧
      refused.2.received = [] ∧ refused.2.inputSdu = [] ∧
      engine.expectedTxSeq = 0 ∧ refused.2.expectedTxSeq = 1 ∧
      polled.1 = .ok () ∧ polled.2.outbound = [[0x81, 0x01]] ∧
      EnhancedControlField.fromBytes [0x81, 0x01] =
        .ok (.supervisory .receiverReady false true 1) :=
  ⟨rfl, rfl, rfl, rfl, rfl, rfl, rfl, rfl, rfl⟩

end Intake

end ClassicHid

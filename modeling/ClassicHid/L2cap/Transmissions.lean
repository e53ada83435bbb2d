import ClassicHid.L2cap.ErtmQuiet

/-!
# How often a frame is counted

An engine counts how often it sent each frame of its window, in 16 bits. A frame received or a tick
of the clock counts each frame at most once more. The retransmission limit keeps the counters
small; without a limit, a peer that keeps rejecting the same frame drives its counter past any
bound.

## Main definitions

* `ErtmEngine.Counted n`: no frame of the window was sent more than `n` times
* `EngineOp.mayResend`: the operations that may send frames of the window again
* `Stuck`: an engine without a limit whose first frame was sent a given number of times

## Main results

* `ErtmEngine.retransmitAll_counted`, `ErtmEngine.retransmitOne_counted`,
  `ErtmEngine.receiveFrame_counted`: what is counted
* `Stuck.reject`: a rejected frame is counted once more
* `transmissions_fit_iff`: when the counters fit 16 bits
-/

namespace ClassicHid

open Foundation

namespace ErtmEngine

variable {n : ℕ} {e : ErtmEngine}

/-- No frame of the window was sent more than `n` times. -/
def Counted (n : ℕ) (engine : ErtmEngine) : Prop :=
  ∀ entry ∈ engine.txWindow, entry.transmissions ≤ n

theorem Counted.mono {m : ℕ} (h : Counted n e) (hle : n ≤ m) : Counted m e :=
  fun entry hmem => Nat.le_trans (h entry hmem) hle

/-- An update that leaves the window leaves the counters. -/
theorem counted_of_window {α : Type} {m : Update α} (h : ∀ e, (m e).2.txWindow = e.txWindow) :
    Exec.Keeps (Counted n) m := by
  intro e he
  rw [Counted, h e]
  exact he

/-! ### Sending -/

theorem sendSupervisory_counted (function : SupervisoryFunction) (poll finalBit : Bool) :
    Exec.Keeps (Counted n) (sendSupervisory function poll finalBit) := by
  refine Exec.Keeps.bind (Exec.keeps_gets _) fun reqSeq => ?_
  refine Exec.Keeps.bind (Exec.keeps_lift _) fun encoded => ?_
  exact counted_of_window fun _ => rfl

/-- A frame that enters the window was sent once. -/
theorem processOutputLoop_counted (hn : 1 ≤ n) (rounds : ℕ) :
    Exec.Keeps (Counted n) (processOutputLoop rounds) := by
  induction rounds with
  | zero => exact Exec.keeps_pure ()
  | succ rounds ih =>
    intro e he
    rw [processOutputLoop, Exec.get_bind]
    split
    · rcases e.pending with _ | ⟨frame, pending⟩
      · exact he
      · have hjoins : Exec.Keeps (Counted n) (Exec.modify fun engine => { engine with
            txWindow := engine.txWindow ++ [{ frame := frame, transmissions := 1 }] } :
              Update Unit) := by
          intro e he entry hmem
          rcases List.mem_append.mp hmem with hmem | hmem
          · exact he entry hmem
          · rw [List.mem_singleton.mp hmem]
            exact hn
        refine Exec.Keeps.bind (counted_of_window fun _ => rfl) (fun _ => ?_) e he
        refine Exec.Keeps.bind (Exec.keeps_lift _) fun encoded => ?_
        refine Exec.Keeps.bind hjoins fun _ => ?_
        exact Exec.Keeps.bind (counted_of_window fun _ => rfl) fun _ => ih
    · exact he

theorem processOutput_counted (hn : 1 ≤ n) : Exec.Keeps (Counted n) processOutput := by
  refine Exec.Keeps.bind (Exec.keeps_gets _) fun busy => ?_
  cases busy with
  | true => exact Exec.keeps_pure ()
  | false =>
    refine Exec.Keeps.bind (Exec.keeps_gets _) fun rounds => ?_
    exact Exec.Keeps.bind (processOutputLoop_counted hn rounds) fun _ =>
      counted_of_window fun _ => rfl

/-- The frames behind those that were sent again keep their counters until it is their turn. -/
theorem retransmitFrames_counted {done rest : List TransmittedFrame}
    (hdone : ∀ entry ∈ done, entry.transmissions ≤ n + 1)
    (hrest : ∀ entry ∈ rest, entry.transmissions ≤ n) :
    Exec.Keeps (Counted (n + 1)) (retransmitFrames done rest) := by
  induction rest generalizing done with
  | nil => exact Exec.keeps_pure ()
  | cons entry rest ih =>
    have hentry : entry.transmissions + 1 ≤ n + 1 := Nat.succ_le_succ (hrest entry (by simp))
    have hrest' : ∀ entry ∈ rest, entry.transmissions ≤ n :=
      fun entry hmem => hrest entry (List.mem_cons_of_mem _ hmem)
    have hcounts : Exec.Keeps (Counted (n + 1)) (Exec.modify fun engine => { engine with
        txWindow := done ++ { entry with transmissions := entry.transmissions + 1 } :: rest } :
          Update Unit) := by
      intro e he other hmem
      rcases List.mem_append.mp hmem with hmem | hmem
      · exact hdone other hmem
      rcases List.mem_cons.mp hmem with rfl | hmem
      · exact hentry
      · exact Nat.le_succ_of_le (hrest' other hmem)
    refine Exec.Keeps.bind hcounts fun _ => ?_
    refine Exec.Keeps.bind (Exec.keeps_gets _) fun reqSeq => ?_
    refine Exec.Keeps.bind (Exec.keeps_lift _) fun encoded => ?_
    refine Exec.Keeps.bind (counted_of_window fun _ => rfl) fun _ => ih ?_ hrest'
    intro other hmem
    rcases List.mem_append.mp hmem with hmem | hmem
    · exact hdone other hmem
    · rw [List.mem_singleton.mp hmem]
      exact hentry

/-- **Sending everything again** counts each frame once more. -/
theorem retransmitAll_counted :
    Exec.Sat (Counted n) retransmitAll fun _ => Counted (n + 1) := by
  intro e he
  rw [retransmitAll, Exec.get_bind]
  split
  · exact he.mono (Nat.le_succ n)
  rcases e.txWindow.find? (retransmissionLimitReached e.config.maxRetransmissions) with _ | entry
  swap
  · exact he.mono (Nat.le_succ n)
  · refine Exec.Keeps.bind (retransmitFrames_counted (List.forall_mem_nil _) he) (fun _ => ?_) e
      (he.mono (Nat.le_succ n))
    exact counted_of_window fun _ => rfl

/-- **Sending one frame again** counts that frame once more. -/
theorem retransmitOne_counted (txSeq : UInt8) :
    Exec.Sat (Counted n) (retransmitOne txSeq) fun _ => Counted (n + 1) := by
  intro e he
  have hlater := he.mono (Nat.le_succ n)
  rw [retransmitOne, Exec.get_bind]
  split
  · exact hlater
  rcases hfind : e.txWindow.findIdx? (fun entry => decide (entry.frame.txSeq = txSeq)) with
    _ | index
  · simp only [hfind]
    exact hlater
  rcases hentry : e.txWindow[index]? with _ | entry
  · simp only [hfind, hentry]
    exact hlater
  simp only [hfind, hentry]
  split
  · exact hlater
  · have hcounts : Exec.Keeps (Counted (n + 1)) (Exec.modify fun engine => { engine with
        txWindow := engine.txWindow.set index
          { entry with transmissions := entry.transmissions + 1 } } : Update Unit) := by
      intro e' he' other hmem
      rcases List.mem_or_eq_of_mem_set hmem with hmem | rfl
      · exact he' other hmem
      · exact Nat.succ_le_succ (he entry (List.mem_of_getElem? hentry))
    refine Exec.Keeps.bind hcounts (fun _ => ?_) e hlater
    refine Exec.Keeps.bind (Exec.keeps_lift _) fun encoded => ?_
    exact Exec.Keeps.bind (counted_of_window fun _ => rfl) fun _ => counted_of_window fun _ => rfl

/-! ### Receiving -/

theorem ensureActive_counted : Exec.Keeps (Counted n) ensureActive := by
  refine Exec.Keeps.bind (Exec.keeps_gets _) fun failed => ?_
  cases failed with
  | true => exact Exec.keeps_fail _
  | false => exact Exec.keeps_pure ()

/-- Frames that leave the window are no longer counted. -/
theorem acknowledge_counted (newSeq : UInt8) : Exec.Keeps (Counted n) (acknowledge newSeq) := by
  intro e he
  rw [acknowledge]
  split
  · exact he
  rw [Exec.get_bind]
  dsimp only
  split
  · exact he
  · have hdrop : Counted n { e with
        txWindow := e.txWindow.drop (sequenceDistance e.lastAckedTxSeq newSeq).toNat } :=
      fun entry hmem => he entry (List.mem_of_mem_drop hmem)
    split
    · exact hdrop
    · exact hdrop

theorem acceptInformation_window (sar : SegmentationAndReassembly) (payload : Bytes) :
    (acceptInformation sar payload e).2.txWindow = e.txWindow := by
  have hcheck (e : ErtmEngine) : (checkPartialLength e).2.txWindow = e.txWindow := by
    rw [checkPartialLength, Exec.get_bind]
    split <;> rfl
  cases sar with
  | unsegmented =>
    rw [acceptInformation, Exec.get_bind]
    dsimp only
    split
    · rfl
    · split <;> rfl
  | start =>
    rw [acceptInformation, Exec.get_bind]
    dsimp only
    split
    · rfl
    split
    · rfl
    split
    · rfl
    · exact hcheck _
  | continuation =>
    rw [acceptInformation, Exec.get_bind]
    dsimp only
    split
    · rfl
    · exact hcheck _
  | «end» =>
    rw [acceptInformation, Exec.get_bind]
    rcases e.inputSduLength with _ | length
    · rfl
    · dsimp only
      rw [extendInput, Exec.modify_bind]
      split <;> rfl

theorem receiveInformation_counted (hn : 1 ≤ n) (txSeq : UInt8) (finalBit : Bool)
    (sar : SegmentationAndReassembly) (payload : Bytes) :
    Exec.Keeps (Counted n) (receiveInformation txSeq finalBit sar payload) := by
  intro e he
  rw [receiveInformation, Exec.get_bind]
  split
  · exact sendSupervisory_counted _ _ _ e he
  split
  · exact sendSupervisory_counted _ _ _ e he
  · refine Exec.Keeps.bind (counted_of_window fun _ => rfl) (fun _ => ?_) e he
    refine Exec.Keeps.bind (counted_of_window fun e => acceptInformation_window sar payload)
      fun _ => ?_
    refine Exec.Keeps.bind (processOutput_counted hn) fun _ => ?_
    intro e he
    rw [Exec.get_bind]
    split
    · exact sendSupervisory_counted _ _ _ e he
    · exact he

/-- What is sent again is counted once, whatever follows. -/
theorem resend_counted (function : SupervisoryFunction) (finalBit : Bool) (reqSeq : UInt8)
    (acked : Bool) :
    Exec.Sat (Counted n) (resend function finalBit reqSeq acked) fun _ => Counted (n + 1) := by
  have hready : Exec.Sat (Counted n) (do
      if finalBit && !acked && !(← Exec.gets (·.txWindow.isEmpty)) then retransmitAll
      else pure () : Update Unit) fun _ => Counted (n + 1) := by
    refine Exec.Sat.bind (Exec.keeps_gets _) (fun empty => ?_) fun _ e he => he.mono (Nat.le_succ n)
    split
    · exact retransmitAll_counted
    · exact fun e he => he.mono (Nat.le_succ n)
  cases function with
  | reject => exact retransmitAll_counted
  | selectiveReject => exact retransmitOne_counted reqSeq
  | receiverReady => exact hready
  | receiverNotReady => exact hready

theorem receiveSupervisory_counted (hn : 1 ≤ n) (function : SupervisoryFunction)
    (poll finalBit : Bool) (reqSeq : UInt8) (acked : Bool) :
    Exec.Sat (Counted n) (receiveSupervisory function poll finalBit reqSeq acked)
      fun _ => Counted (n + 1) := by
  intro e he
  rw [receiveSupervisory_eq]
  have hpoll : Exec.Keeps (Counted (n + 1)) (answerPoll poll) := by
    have houtput := processOutput_counted (Nat.le_succ_of_le hn)
    cases poll with
    | false => exact houtput
    | true =>
      refine Exec.Keeps.bind (Exec.keeps_gets _) fun busy => ?_
      exact Exec.Keeps.bind (sendSupervisory_counted _ _ _) fun _ => houtput
  exact Exec.Sat.bind (resend_counted function finalBit reqSeq acked) (fun _ => hpoll)
    (fun _ _ => id) { e with remoteBusy := function = .receiverNotReady } he

/-- **A frame** counts each frame of the window at most once more. -/
theorem receiveFrame_counted (hn : 1 ≤ n) (frame : Bytes) :
    Exec.Sat (Counted n) (receiveFrame frame) fun _ => Counted (n + 1) := by
  have hlater (e : ErtmEngine) (he : Counted n e) : Counted (n + 1) e := he.mono (Nat.le_succ n)
  refine Exec.Sat.bind ensureActive_counted (fun _ => ?_) fun _ => hlater
  refine Exec.Sat.bind (Exec.keeps_lift _) (fun control => ?_) fun _ => hlater
  refine Exec.Sat.bind (acknowledge_counted _) (fun acked => ?_) fun _ => hlater
  cases control with
  | information txSeq finalBit reqSeq sar =>
    exact fun e he => hlater _ (receiveInformation_counted hn _ _ _ _ e he)
  | supervisory function poll finalBit reqSeq =>
    exact receiveSupervisory_counted hn function poll finalBit reqSeq acked

theorem tick_counted (ticks : UInt32) :
    Exec.Sat (Counted n) (tick ticks) fun _ => Counted (n + 1) := by
  have hlater (e : ErtmEngine) (he : Counted n e) : Counted (n + 1) e := he.mono (Nat.le_succ n)
  refine Exec.Sat.bind ensureActive_counted (fun _ => ?_) fun _ => hlater
  refine Exec.Sat.bind (counted_of_window (n := n) fun _ => rfl) (fun _ => ?_) fun _ => hlater
  intro e he
  rw [Exec.get_bind]
  split
  · exact retransmitAll_counted e he
  · exact hlater e he

theorem sendSdu_counted (hn : 1 ≤ n) (sdu : Bytes) : Exec.Keeps (Counted n) (sendSdu sdu) := by
  intro e he
  rcases sendSdu_eq (e := e) sdu with ⟨error, hrun⟩ | ⟨_, _, hrun⟩
  · rw [hrun]
    exact he
  · rw [hrun]
    exact processOutput_counted hn _ he

theorem setReceiverBusy_counted (busy : Bool) :
    Exec.Keeps (Counted n) (setReceiverBusy busy) := by
  refine Exec.Keeps.bind ensureActive_counted fun _ => ?_
  refine Exec.Keeps.bind (Exec.keeps_gets _) fun current => ?_
  split
  · exact Exec.Keeps.bind (counted_of_window fun _ => rfl) fun _ => sendSupervisory_counted _ _ _
  · exact Exec.keeps_pure ()

/-! ### Without a limit -/

/-- The only pending frame is sent when there is room for it. -/
theorem processOutput_single (hbusy : e.remoteBusy = false) {frame : PendingFrame}
    (hpending : e.pending = [frame]) (hsize : e.txWindow.length < e.config.txWindowSize.toNat)
    (hframe : frame.txSeq.toNat < 64) (hexpected : e.expectedTxSeq.toNat < 64) :
    processOutput e = (.ok (), (refreshRetransmissionDeadline (transmitted frame [] e)).2) := by
  have hloop : processOutputLoop 1 e = (.ok (), transmitted frame [] e) := by
    rw [processOutputLoop, Exec.get_bind, if_pos hsize]
    simp only [hpending, Exec.modify_bind, PendingFrame.encode_eq hframe hexpected,
      Exec.lift_ok_bind, Exec.bind_ok (pushOutbound_eq _)]
    rfl
  rw [processOutput, Exec.gets_bind, hbusy, if_neg Bool.false_ne_true, Exec.gets_bind, hpending]
  exact Exec.bind_ok hloop

/-- The first frame of a new engine is sent. -/
theorem sendSdu_first {config : ErtmConfig} {sdu : Bytes}
    (hmtu : sdu.length ≤ config.peerMtu.toNat) (hmps : sdu.length ≤ config.peerMps.toNat)
    (hwindow : 0 < config.txWindowSize.toNat) :
    ∃ e frame, sendSdu sdu { config := config } = (.ok (), e) ∧ Quiet e ∧ e.lastAckedTxSeq = 0 ∧
      e.txWindow = [{ frame := frame, transmissions := 1 }] := by
  let frame : PendingFrame :=
    { payload := sdu, txSeq := 0, sar := .unsegmented, sduLength := none }
  let first : ErtmEngine := { config := config, pending := [frame], nextTxSeq := sequenceAdd 0 1 }
  have hsend : sendSdu sdu { config := config } = processOutput first := by
    have hactive : ensureActive { config := config } = (.ok (), { config := config }) := rfl
    rw [sendSdu, Exec.bind_ok hactive, Exec.gets_bind, if_neg (Nat.not_lt.mpr hmtu)]
    dsimp only
    rw [if_pos hmps]
    rfl
  have houtput := processOutput_single (e := first) rfl rfl hwindow (Nat.zero_lt_succ _)
    (Nat.zero_lt_succ _)
  exact ⟨_, frame, hsend.trans houtput, ⟨rfl, rfl, rfl⟩, rfl, rfl⟩

/-- A frame that rejects the first outstanding frame and acknowledges nothing. -/
def rejectFirst : Bytes := [0x05, 0x00]

theorem fromBytes_rejectFirst : EnhancedControlField.fromBytes rejectFirst =
    .ok (.supervisory .reject false false 0) := rfl

/-- **A reject**, without a limit: the first frame is counted once more. -/
theorem receiveFrame_rejectFirst (hnumbered : Numbered e)
    (hunlimited : e.config.maxRetransmissions = 0) (hquiet : Quiet e)
    (hlast : e.lastAckedTxSeq = 0) (hwindow : e.txWindow ≠ []) :
    let last := (receiveFrame rejectFirst e).2
    Quiet last ∧ last.lastAckedTxSeq = 0 ∧ last.txWindow ≠ [] ∧
      last.transmissionsAt 0 = e.transmissionsAt 0 + 1 := by
  have hcount : ((0 : UInt8).toNat + 64 - e.lastAckedTxSeq.toNat) % 64 = 0 := by
    rw [hlast]
    rfl
  rcases receiveFrame_cases hnumbered.lastAcked rejectFirst with
    ⟨hrefused, _⟩ | ⟨_, control, acked, e₁, hcontrol, hacks, hrun⟩
  · rw [fromBytes_rejectFirst] at hrefused
    rcases hrefused with hfailed | ⟨error, herror⟩ | ⟨control, hcontrol, hlong⟩
    · cases hquiet.failed.symm.trans hfailed
    · cases herror
    · cases hcontrol
      rw [EnhancedControlField.reqSeq, hcount] at hlong
      exact absurd hlong (Nat.not_lt_zero _)
  · cases fromBytes_rejectFirst.symm.trans hcontrol
    rw [EnhancedControlField.reqSeq, hcount] at hacks
    have hrange₁ := hacks.inRange hnumbered.inRange
    have hquiet₁ : Quiet e₁ := by
      refine ⟨?_, ?_, ?_⟩
      · rw [hacks.failed, hquiet.failed]
      · rw [hacks.remoteBusy, hquiet.remoteBusy]
      · rw [hacks.localBusy, hquiet.localBusy]
    have hlimit : ∀ entry ∈ e₁.txWindow,
        retransmissionLimitReached e₁.config.maxRetransmissions entry = false := by
      intro entry _
      rw [hacks.config, hunlimited]
      rfl
    obtain ⟨sent, hsends, hplaces, _, hquiet'⟩ :=
      receiveReject_again hrange₁ hquiet₁ 0 acked hlimit
    have hpos : 0 < e₁.txWindow.length := by
      rw [hacks.window, List.drop_zero]
      exact List.length_pos_iff.mpr hwindow
    have hpos' := Nat.lt_of_lt_of_le hpos hsends.window
    rw [hrun, receiveControl]
    refine ⟨hquiet', ?_, List.length_pos_iff.mp hpos', ?_⟩
    · rw [hsends.lastAcked]
      apply UInt8.toNat_inj.mp
      rw [hacks.lastAcked, hlast]
      rfl
    · rw [hsends.count, Outgoing.countP_isAt, hplaces, List.count_range_1', if_pos (by omega),
        hacks.transmissionsAt]

end ErtmEngine

/-- Whether an operation may send frames of the window again. -/
def EngineOp.mayResend : EngineOp → Bool
  | .receiveFrame _ | .tick _ => true
  | _ => false

/-- An operation that sends nothing again counts nothing more. -/
theorem ErtmEngine.apply_kept {n : ℕ} {e : ErtmEngine} (hn : 1 ≤ n) (h : Counted n e)
    {op : EngineOp} (hop : op.mayResend = false) : Counted n (e.apply op) := by
  rcases hpoll : op.isPoll with _ | _
  · cases op with
    | sendSdu sdu => exact sendSdu_counted hn sdu e h
    | setReceiverBusy busy => exact setReceiverBusy_counted busy e h
    | receiveFrame | tick => cases hop
    | _ => cases hpoll
  · obtain ⟨outbound, received, happly, _⟩ := e.apply_poll hpoll
    rw [happly]
    exact h

/-- Any other operation counts each frame at most once more. -/
theorem ErtmEngine.apply_counted {n : ℕ} {e : ErtmEngine} (hn : 1 ≤ n) (h : Counted n e)
    {op : EngineOp} (hop : op.mayResend = true) : Counted (n + 1) (e.apply op) := by
  cases op with
  | receiveFrame frame => exact receiveFrame_counted hn frame e h
  | tick ticks => exact tick_counted ticks e h
  | _ => cases hop

/-- **A run** counts each frame at most once for each frame received and each tick. -/
theorem EngineHistory.run_counted {n : ℕ} (hn : 1 ≤ n) {history : EngineHistory}
    (h : history.engine.Counted n) (ops : List EngineOp) :
    (run ops history).engine.Counted (n + ops.countP (·.mayResend)) := by
  induction ops generalizing n history with
  | nil => exact h
  | cons op ops ih =>
    rw [List.countP_cons]
    rcases hop : op.mayResend with _ | _
    · have hstep : (history.step op).engine.Counted n := ErtmEngine.apply_kept hn h hop
      exact ih hn hstep
    · have hstep : (history.step op).engine.Counted (n + 1) := ErtmEngine.apply_counted hn h hop
      rw [if_pos rfl, Nat.add_comm _ 1, ← Nat.add_assoc]
      exact ih (Nat.le_succ_of_le hn) hstep

/-- An engine without a limit whose first frame was sent `n` times. -/
structure Stuck (config : ErtmConfig) (n : ℕ) (history : EngineHistory) : Prop where
  sound : history.Sound config
  quiet : history.engine.Quiet
  lastAcked : history.engine.lastAckedTxSeq = 0
  window : history.engine.txWindow ≠ []
  transmissions : history.engine.transmissionsAt 0 = n

namespace Stuck

variable {config : ErtmConfig} {n : ℕ} {history : EngineHistory}

/-- **A rejected frame** is counted once more. -/
theorem reject (hconfig : config.txWindowSize.toNat < 64)
    (hunlimited : config.maxRetransmissions = 0) (h : Stuck config n history) :
    Stuck config (n + 1) (history.step (.receiveFrame ErtmEngine.rejectFirst)) := by
  have hsound := h.sound.step hconfig (.receiveFrame ErtmEngine.rejectFirst)
  obtain ⟨hquiet, hlast, hwindow, hcount⟩ := ErtmEngine.receiveFrame_rejectFirst h.sound.numbered
    (by rw [h.sound.unchanged, hunlimited]) h.quiet h.lastAcked h.window
  refine ⟨hsound, hquiet, hlast, hwindow, ?_⟩
  rw [← h.transmissions]
  exact hcount

/-- Rejects are counted without end. -/
theorem rejects (hconfig : config.txWindowSize.toNat < 64)
    (hunlimited : config.maxRetransmissions = 0) (h : Stuck config n history) (k : ℕ) :
    Stuck config (n + k)
      (history.run (List.replicate k (.receiveFrame ErtmEngine.rejectFirst))) := by
  induction k generalizing n history with
  | zero => exact h
  | succ k ih =>
    have hstep := ih (h.reject hconfig hunlimited)
    rw [Nat.add_assoc, Nat.add_comm 1] at hstep
    exact hstep

/-- An SDU is sent. -/
theorem initial (hconfig : config.txWindowSize.toNat < 64) {sdu : Bytes}
    (hmtu : sdu.length ≤ config.peerMtu.toNat) (hmps : sdu.length ≤ config.peerMps.toNat)
    (hwindow : 0 < config.txWindowSize.toNat) :
    Stuck config 1 (EngineHistory.step (.sendSdu sdu) { engine := { config := config } }) := by
  obtain ⟨e, frame, hrun, hquiet, hlast, hone⟩ := ErtmEngine.sendSdu_first hmtu hmps hwindow
  have hengine : (EngineHistory.step (.sendSdu sdu)
      { engine := { config := config } }).engine = e := by
    rw [EngineHistory.step]
    dsimp only
    rw [ErtmEngine.apply, hrun]
  refine ⟨(EngineHistory.sound_new config).step hconfig _, ?_, ?_, ?_, ?_⟩
  · rwa [hengine]
  · rwa [hengine]
  · rw [hengine, hone]
    exact List.cons_ne_nil _ _
  · rw [hengine, ErtmEngine.transmissionsAt, hone]
    rfl

/-- The frame is still in the window. -/
theorem exists_entry (h : Stuck config n history) :
    ∃ entry ∈ history.engine.txWindow, entry.transmissions = n := by
  obtain ⟨entry, rest, hwindow⟩ := List.exists_cons_of_ne_nil h.window
  have hcount := h.transmissions
  rw [ErtmEngine.transmissionsAt, hwindow] at hcount
  exact ⟨entry, by rw [hwindow]; exact List.mem_cons_self, hcount⟩

end Stuck

/-- One byte is sent, and then its frame is rejected `k` times. -/
def rejectedOps (k : ℕ) : List EngineOp :=
  .sendSdu [0] :: List.replicate k (.receiveFrame ErtmEngine.rejectFirst)

/-- **Without a limit** a frame is counted each time it is rejected. -/
theorem rejectedOps_counted {config : ErtmConfig} (hconfig : config.txWindowSize.toNat < 64)
    (hmtu : 0 < config.peerMtu.toNat) (hmps : 0 < config.peerMps.toNat)
    (hwindow : 0 < config.txWindowSize.toNat) (hunlimited : config.maxRetransmissions = 0) (k : ℕ) :
    ∃ entry ∈ (EngineHistory.run (rejectedOps k)
        { engine := { config := config } }).engine.txWindow,
      entry.transmissions = 1 + k := by
  have hfirst : Stuck config 1 (EngineHistory.step (.sendSdu [0])
      { engine := { config := config } }) := Stuck.initial hconfig hmtu hmps hwindow
  exact (hfirst.rejects hconfig hunlimited k).exists_entry

/-- A valid configuration leaves room for a frame, and its peer takes SDUs of one byte. -/
theorem ErtmConfig.validate_pos {config config' : ErtmConfig}
    (h : config.validate = .ok config') :
    0 < config.txWindowSize.toNat ∧ 0 < config.peerMtu.toNat := by
  unfold validate at h
  split at h
  · cases h
  rename_i hmtu
  split at h
  · cases h
  split at h
  · cases h
  rename_i hwindow
  constructor
  · exact UInt8.le_iff_toNat_le.mp (not_not.mp hwindow).1
  · apply Nat.pos_of_ne_zero
    intro hzero
    exact (not_or.mp hmtu).2 (UInt16.toNat_inj.mp hzero)

/-- **The counters and 16 bits.** After any operations on an engine with a valid configuration the
counter of each frame of the window fits 16 bits exactly when the configuration sets a limit; an
operation counts after it dropped what was acknowledged, so no counter was larger on the way.
Without a limit it still fits in every run with fewer than 65535 frames received and ticks. -/
theorem transmissions_fit_iff {config : ErtmConfig} {engine : ErtmEngine}
    (hnew : ErtmEngine.new config = .ok engine) :
    ((∀ ops, ∀ entry ∈ (EngineHistory.run ops { engine := engine }).engine.txWindow,
        entry.transmissions ≤ 65535) ↔ config.maxRetransmissions ≠ 0) ∧
    ∀ ops : List EngineOp, ops.countP (·.mayResend) < 65535 →
      ∀ entry ∈ (EngineHistory.run ops { engine := engine }).engine.txWindow,
        entry.transmissions ≤ 65535 := by
  obtain ⟨_, hvalid, _⟩ := except_bind_eq_ok.mp hnew
  obtain ⟨hwindow, hmtu⟩ := ErtmConfig.validate_pos hvalid
  have hmps := ErtmEngine.peerMps_ne_zero hnew
  obtain ⟨rfl, hconfig⟩ := ErtmEngine.new_eq_ok hnew
  refine ⟨⟨?_, ?_⟩, ?_⟩
  · intro hfit hunlimited
    -- A frame is rejected until its counter is full, and once more.
    obtain ⟨entry, hmem, hcount⟩ := rejectedOps_counted hconfig hmtu (Nat.pos_of_ne_zero hmps)
      hwindow hunlimited 65535
    have hle := hfit (rejectedOps 65535) entry hmem
    omega
  · intro hlimit ops entry hmem
    have hsound := (EngineHistory.sound_new config).run hconfig ops
    obtain ⟨index, hindex⟩ := List.getElem?_of_mem hmem
    have hlimited := hsound.limited (by rw [hsound.unchanged]; exact hlimit) index
    rw [ErtmEngine.transmissionsAt, hindex, hsound.unchanged, Option.elim_some] at hlimited
    have := config.maxRetransmissions.toNat_lt
    omega
  · intro ops hops entry hmem
    have hempty : ErtmEngine.Counted 1 { config := config } := List.forall_mem_nil _
    have hcount := EngineHistory.run_counted (Nat.le_refl 1) hempty ops entry hmem
    omega

/-- An engine that gives up after one retransmission. -/
theorem transmissions_fit_iff_limited :
    let config : ErtmConfig := {
      localMtu := 2048, peerMtu := 2048, localMps := 1010, peerMps := 1010, txWindowSize := 63,
      maxRetransmissions := 1, retransmissionTimeoutTicks := 2000 }
    ∀ ops, ∀ entry ∈ (EngineHistory.run ops { engine := { config := config } }).engine.txWindow,
      entry.transmissions ≤ 65535 := by
  intro config
  have hnew : ErtmEngine.new config = .ok { config := config } := rfl
  exact (transmissions_fit_iff hnew).1.mpr (by decide)

/-- The default configuration has no limit: a frame that is rejected 65535 times is counted 65536
times. -/
theorem default_counter_overflows :
    let config : ErtmConfig := {
      localMtu := 2048, peerMtu := 2048, localMps := 1010, peerMps := 1010, txWindowSize := 63,
      maxRetransmissions := 0, retransmissionTimeoutTicks := 2000 }
    ErtmEngine.new config = .ok { config := config } ∧
      ∃ entry ∈ (EngineHistory.run (rejectedOps 65535)
          { engine := { config := config } }).engine.txWindow,
        entry.transmissions = 65536 := by
  intro config
  refine ⟨rfl, ?_⟩
  exact rejectedOps_counted (by decide) (by decide) (by decide) (by decide) rfl 65535

end ClassicHid

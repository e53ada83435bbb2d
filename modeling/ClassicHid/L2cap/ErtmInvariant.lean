import ClassicHid.L2cap.ErtmOperations

/-!
# The invariant of an engine

Whatever frames arrive and whatever the caller does, the window and the numbering of an engine stay
sound, the timer runs exactly when something is outstanding, nothing longer than the local MTU is
delivered, and no frame is sent more often than the limit allows.

## Main definitions

* `EngineOp`, `ErtmEngine.apply`: the operations of an engine
* `EngineHistory`: an engine with the number of each information frame it put on its outbound queue
* `EngineHistory.Sound`: the invariant

## Main results

* `ErtmEngine.sendSdu_advances`, `ErtmEngine.apply_settles`: what an operation does to the frames
  that are outstanding
* `EngineHistory.Sound.run`: the invariant holds after any operations
* `EngineHistory.engine_invariant`: what it says of an engine with a valid configuration
-/

namespace ClassicHid

open Foundation

/-- An operation on an engine. -/
inductive EngineOp
  | sendSdu (sdu : Bytes)
  | receiveFrame (frame : Bytes)
  | tick (ticks : UInt32)
  | setReceiverBusy (busy : Bool)
  | pollOutbound
  | drainOutbound
  | popReceived

/-- Whether an operation only takes something out of a queue. -/
def EngineOp.isPoll : EngineOp → Bool
  | .pollOutbound | .drainOutbound | .popReceived => true
  | _ => false

namespace ErtmEngine

/-- The engine after an operation, whether it returned or failed. -/
def apply (op : EngineOp) (engine : ErtmEngine) : ErtmEngine :=
  match op with
  | .sendSdu sdu => (sendSdu sdu engine).2
  | .receiveFrame frame => (receiveFrame frame engine).2
  | .tick ticks => (tick ticks engine).2
  | .setReceiverBusy busy => (setReceiverBusy busy engine).2
  | .pollOutbound => engine.pollOutbound.2
  | .drainOutbound => engine.drainOutbound.2
  | .popReceived => engine.popReceived.2

/-- The frames that were not acknowledged are numbered one after the other. -/
structure Numbered (engine : ErtmEngine) : Prop where
  lastAcked : engine.lastAckedTxSeq.toNat < 64
  frames : ∀ i frame, engine.unacked[i]? = some frame →
    frame.txSeq.toNat = (engine.lastAckedTxSeq.toNat + i) % 64
  next : engine.nextTxSeq.toNat = (engine.lastAckedTxSeq.toNat + engine.unacked.length) % 64
  expected : engine.expectedTxSeq.toNat < 64

variable {e e' e₁ : ErtmEngine}

theorem Numbered.inRange (h : Numbered e) : InRange e where
  frames frame hmem := by
    obtain ⟨i, hi⟩ := List.getElem?_of_mem hmem
    rw [h.frames i frame hi]
    exact Nat.mod_lt _ (by decide)
  expected := h.expected

theorem Numbered.next_lt (h : Numbered e) : e.nextTxSeq.toNat < 64 := by
  rw [h.next]
  exact Nat.mod_lt _ (by decide)

/-- What an operation does to the frames that are outstanding: `acked` leave, `added` join, and
`sent` are put on the outbound queue. -/
structure Advances (acked : ℕ) (added : List PendingFrame) (sent : List Outgoing)
    (e e' : ErtmEngine) : Prop where
  config : e'.config = e.config
  outstanding : acked ≤ e.txWindow.length
  unacked : e'.unacked = e.unacked.drop acked ++ added
  lastAcked : e'.lastAckedTxSeq.toNat = (e.lastAckedTxSeq.toNat + acked) % 64
  number : ∀ i frame, added[i]? = some frame → frame.txSeq.toNat = (e.nextTxSeq.toNat + i) % 64
  next : e'.nextTxSeq.toNat = (e.nextTxSeq.toNat + added.length) % 64
  window : e.txWindow.length ≤ acked + e'.txWindow.length
  size : e.txWindow.length ≤ e.config.txWindowSize.toNat →
    e'.txWindow.length ≤ e.config.txWindowSize.toNat
  outbound : e'.outbound = e.outbound ++ sent.map (·.bytes e'.expectedTxSeq)
  frame : ∀ index frame, .information index frame ∈ sent →
    index < e'.txWindow.length ∧ e'.unacked[index]? = some frame
  supervisory : ∀ function poll finalBit, .supervisory function poll finalBit ∈ sent →
    function ≠ .selectiveReject
  count : ∀ index, e'.transmissionsAt index =
    e.transmissionsAt (acked + index) + sent.countP (·.isAt index)
  limited : Limited e → Limited e'
  expected : e'.expectedTxSeq.toNat < 64

/-- The numbering is kept. -/
theorem Advances.numbered {acked : ℕ} {added : List PendingFrame} {sent : List Outgoing}
    (h : Advances acked added sent e e') (hnumbered : Numbered e) : Numbered e' where
  lastAcked := by
    rw [h.lastAcked]
    exact Nat.mod_lt _ (by decide)
  frames i frame hframe := by
    rw [h.unacked] at hframe
    rw [h.lastAcked]
    rcases Nat.lt_or_ge i (e.unacked.drop acked).length with hi | hi
    · rw [List.getElem?_append_left hi, List.getElem?_drop] at hframe
      rw [hnumbered.frames _ _ hframe]
      omega
    · rw [List.getElem?_append_right hi] at hframe
      rw [h.number _ _ hframe, hnumbered.next]
      have hlength : acked ≤ e.unacked.length := by
        rw [ErtmEngine.unacked, List.length_append, List.length_map]
        have := h.outstanding
        omega
      rw [List.length_drop] at hi ⊢
      omega
  next := by
    have hlength : acked ≤ e.unacked.length := by
      rw [ErtmEngine.unacked, List.length_append, List.length_map]
      have := h.outstanding
      omega
    rw [h.next, h.lastAcked, h.unacked, hnumbered.next, List.length_append, List.length_drop]
    omega
  expected := h.expected

/-- Two engines that agree in all that sending concerns. -/
structure SameSender (e e' : ErtmEngine) : Prop where
  config : e'.config = e.config
  window : e'.txWindow = e.txWindow
  pending : e'.pending = e.pending
  lastAcked : e'.lastAckedTxSeq = e.lastAckedTxSeq
  next : e'.nextTxSeq = e.nextTxSeq
  outbound : e'.outbound = e.outbound

theorem SameSender.refl (e : ErtmEngine) : SameSender e e := ⟨rfl, rfl, rfl, rfl, rfl, rfl⟩

theorem Receives.sameSender (h : Receives (expecting e) e') : SameSender e e' := by
  obtain ⟨_, _, _, rfl⟩ := h
  exact ⟨rfl, rfl, rfl, rfl, rfl, rfl⟩

theorem acknowledges_zero (hlast : e.lastAckedTxSeq.toNat < 64) : Acknowledges 0 e e :=
  ⟨rfl, rfl, rfl, Nat.zero_le _, (Nat.mod_eq_of_lt hlast).symm, rfl, rfl, rfl, rfl, rfl, rfl, rfl,
    rfl, rfl, id⟩

/-- An acknowledgement, then anything that sending does not concern, then what is sent. -/
theorem Advances.of_acknowledges {acked : ℕ} {sent : List Outgoing} {e₂ : ErtmEngine}
    (hnumbered : Numbered e) (hacks : Acknowledges acked e e₁) (hsame : SameSender e₁ e₂)
    (hexpected : e₂.expectedTxSeq.toNat < 64) (hsends : Sends e₂.expectedTxSeq sent e₂ e') :
    Advances acked [] sent e e' where
  config := by rw [hsends.config, hsame.config, hacks.config]
  outstanding := hacks.outstanding
  unacked := by
    rw [hsends.unacked, List.append_nil, ← hacks.unacked, ErtmEngine.unacked, ErtmEngine.unacked,
      hsame.window, hsame.pending]
  lastAcked := by rw [hsends.lastAcked, hsame.lastAcked, hacks.lastAcked]
  number := nofun
  next := by
    rw [hsends.next, hsame.next, hacks.next, List.length_nil, Nat.add_zero,
      Nat.mod_eq_of_lt hnumbered.next_lt]
  window := by
    have h₁ := hsends.window
    rw [hsame.window, hacks.window, List.length_drop] at h₁
    omega
  size hsize := by
    have h₁ := hsends.size
    rw [hsame.window, hsame.config, hacks.window, hacks.config, List.length_drop] at h₁
    exact h₁ (by omega)
  outbound := by rw [hsends.outbound, hsame.outbound, hacks.outbound, hsends.expected]
  frame := hsends.frame
  supervisory := hsends.supervisory
  count index := by
    rw [hsends.count, ← hacks.transmissionsAt, ErtmEngine.transmissionsAt,
      ErtmEngine.transmissionsAt, hsame.window]
  limited hlimited := by
    apply hsends.limited
    intro hmax index
    rw [hsame.config, hacks.config] at hmax ⊢
    have hindex := hlimited hmax (acked + index)
    rw [← hacks.transmissionsAt] at hindex
    rwa [ErtmEngine.transmissionsAt, hsame.window]
  expected := by
    rw [hsends.expected]
    exact hexpected

/-- New frames, then what is sent. -/
theorem Advances.of_numbered {l : List Segment} {sent : List Outgoing} (hnumbered : Numbered e)
    (hsends : Sends e.expectedTxSeq sent (ErtmEngine.numbered l e) e') :
    Advances 0 (numberFrom e.nextTxSeq l) sent e e' where
  config := hsends.config
  outstanding := Nat.zero_le _
  unacked := by
    rw [hsends.unacked, ErtmEngine.unacked, ErtmEngine.numbered, ← List.append_assoc]
    rfl
  lastAcked := by
    rw [hsends.lastAcked]
    exact (Nat.mod_eq_of_lt hnumbered.lastAcked).symm
  number i frame hframe := txSeq_numberFrom hnumbered.next_lt hframe
  next := by
    rw [hsends.next, length_numberFrom]
    exact toNat_advance _ hnumbered.next_lt _
  window := by
    have h₁ := hsends.window
    rw [Nat.zero_add]
    exact h₁
  size := hsends.size
  outbound := by
    rw [hsends.outbound, hsends.expected]
    rfl
  frame := hsends.frame
  supervisory := hsends.supervisory
  count index := by
    rw [hsends.count, Nat.zero_add]
    rfl
  limited := hsends.limited
  expected := by
    rw [hsends.expected]
    exact hnumbered.expected

/-- An operation that changed nothing. -/
theorem Advances.refl (hnumbered : Numbered e) : Advances 0 [] [] e e :=
  .of_acknowledges hnumbered (acknowledges_zero hnumbered.lastAcked) (.refl e) hnumbered.expected
    (.refl e)

/-- What an operation leaves: the frames advance, the timer and the input stay sound. -/
def Moves (e e' : ErtmEngine) : Prop :=
  (∃ acked added sent, Advances acked added sent e e') ∧ (Timed e → Timed e') ∧ InputBounded e'

/-- The same, when no frame joins. -/
def Settles (e e' : ErtmEngine) : Prop :=
  (∃ acked sent, Advances acked [] sent e e') ∧ (Timed e → Timed e') ∧ InputBounded e'

theorem Settles.refl (hnumbered : Numbered e) (hinput : InputBounded e) : Settles e e :=
  ⟨⟨0, [], .refl hnumbered⟩, id, hinput⟩

theorem Settles.moves (h : Settles e e') : Moves e e' := by
  obtain ⟨⟨acked, sent, hadvances⟩, hrest⟩ := h
  exact ⟨⟨acked, [], sent, hadvances⟩, hrest⟩

theorem Sends.inputBounded {reqSeq : UInt8} {sent : List Outgoing} (h : Sends reqSeq sent e e')
    (hinput : InputBounded e) : InputBounded e' where
  started := by
    rw [h.inputLength, h.inputSdu, h.config]
    exact hinput.started
  idle := by
    rw [h.inputLength, h.inputSdu]
    exact hinput.idle
  delivered := by
    rw [h.received, h.config]
    exact hinput.delivered

theorem Acknowledges.inputBounded {acked : ℕ} (h : Acknowledges acked e e')
    (hinput : InputBounded e) : InputBounded e' where
  started := by
    rw [h.inputLength, h.inputSdu, h.config]
    exact hinput.started
  idle := by
    rw [h.inputLength, h.inputSdu]
    exact hinput.idle
  delivered := by
    rw [h.received, h.config]
    exact hinput.delivered

/-- An attempt to send after an acknowledgement. -/
theorem Attempts.settles {acked : ℕ} {m : Update Unit} (hnumbered : Numbered e)
    (hinput : InputBounded e) (hacks : Acknowledges acked e e₁) (h : Attempts m e₁) :
    Settles e (m e₁).2 := by
  obtain ⟨sent, e', hsends, htimed, hend⟩ := h
  have hstate : (m e₁).2 = e' := by
    rcases hend with ⟨hrun, _⟩ | ⟨error, hrun, _⟩ <;> rw [hrun]
  rw [hstate]
  refine ⟨⟨acked, sent, ?_⟩, htimed ∘ hacks.timed,
    hsends.inputBounded (hacks.inputBounded hinput)⟩
  refine .of_acknowledges hnumbered hacks (.refl e₁) ?_ hsends
  rw [hacks.expected]
  exact hnumbered.expected

theorem receiveControl_settles {acked : ℕ} (hnumbered : Numbered e) (hinput : InputBounded e)
    (hacks : Acknowledges acked e e₁) (frame : Bytes) (control : EnhancedControlField)
    (any : Bool) : Settles e (receiveControl frame control any e₁).2 := by
  have hrange₁ := hacks.inRange hnumbered.inRange
  have hinput₁ := hacks.inputBounded hinput
  cases control with
  | information txSeq finalBit reqSeq sar =>
    rw [receiveControl]
    rcases receiveInformation_cases hrange₁ hinput₁ txSeq finalBit sar (frame.drop 2) with
      ⟨_, hattempts⟩ | ⟨_, e₂, hreceives, hbounded, _, hend⟩
    · exact hattempts.settles hnumbered hinput hacks
    have hexpected : e₂.expectedTxSeq.toNat < 64 :=
      (hreceives.inRange (expecting_inRange hrange₁)).expected
    have htimed : Timed e₁ → Timed e₂ := by
      obtain ⟨_, _, _, rfl⟩ := hreceives
      exact id
    rcases hend with ⟨error, _, hrun⟩ | ⟨_, sent, e', hrun, hsends, _, htimed'⟩
    · rw [hrun]
      exact ⟨⟨acked, [], .of_acknowledges hnumbered hacks hreceives.sameSender hexpected
        (.refl e₂)⟩, htimed ∘ hacks.timed, hbounded⟩
    · rw [hrun]
      exact ⟨⟨acked, sent, .of_acknowledges hnumbered hacks hreceives.sameSender hexpected
        hsends⟩, htimed' ∘ htimed ∘ hacks.timed, hsends.inputBounded hbounded⟩
  | supervisory function poll finalBit reqSeq =>
    rw [receiveControl]
    rcases receiveSupervisory_cases hrange₁ function poll finalBit reqSeq any with
      hattempts | ⟨_, error, hrun⟩
    · exact hattempts.settles hnumbered hinput hacks
    · rw [hrun]
      refine ⟨⟨acked, [], .of_acknowledges hnumbered hacks (.refl e₁) hrange₁.expected
        (.of_eq rfl rfl rfl rfl rfl rfl rfl rfl rfl rfl)⟩, hacks.timed, ?_⟩
      exact ⟨hinput₁.started, hinput₁.idle, hinput₁.delivered⟩

/-- An SDU is refused without a change, or its frames join. -/
theorem sendSdu_advances (hnumbered : Numbered e) (hinput : InputBounded e) (sdu : Bytes) :
    e.apply (.sendSdu sdu) = e ∨
      e.failed = false ∧ sdu.length ≤ e.config.peerMtu.toNat ∧
        (∃ sent, Advances 0 (numberFrom e.nextTxSeq (segments e.config.peerMps.toNat sdu)) sent e
          (e.apply (.sendSdu sdu))) ∧
        (Timed e → Timed (e.apply (.sendSdu sdu))) ∧ InputBounded (e.apply (.sendSdu sdu)) := by
  rw [apply]
  rcases sendSdu_cases hnumbered.inRange hnumbered.next_lt sdu with
    ⟨error, hrun⟩ | ⟨sent, e', hrun, hactive, hlength, hsends, _, htimed⟩
  · rw [hrun]
    exact .inl rfl
  · rw [hrun]
    refine .inr ⟨hactive, hlength, ⟨sent, .of_numbered hnumbered hsends⟩, htimed,
      hsends.inputBounded ?_⟩
    exact ⟨hinput.started, hinput.idle, hinput.delivered⟩

/-- Every other operation leaves the numbered frames, unless it only takes something out of a
queue. -/
theorem apply_settles (hnumbered : Numbered e) (hinput : InputBounded e) {op : EngineOp}
    (hop : op.isPoll = false) (hsend : ∀ sdu, op ≠ .sendSdu sdu) : Settles e (e.apply op) := by
  have hrange := hnumbered.inRange
  have hzero := acknowledges_zero hnumbered.lastAcked
  cases op with
  | sendSdu sdu => exact absurd rfl (hsend sdu)
  | receiveFrame frame =>
    rw [apply]
    rcases receiveFrame_cases hnumbered.lastAcked frame with
      ⟨_, error, hrun⟩ | ⟨_, control, any, e₁, _, hacks, hrun⟩
    · rw [hrun]
      exact .refl hnumbered hinput
    · rw [hrun]
      exact receiveControl_settles hnumbered hinput hacks frame control any
  | tick ticks =>
    rw [apply]
    rcases tick_cases hrange ticks with ⟨error, hrun⟩ | ⟨_, hattempts⟩
    · rw [hrun]
      exact .refl hnumbered hinput
    · exact hattempts.settles hnumbered hinput hzero
  | setReceiverBusy busy =>
    rw [apply]
    rcases setReceiverBusy_cases hrange busy with ⟨error, hrun⟩ | ⟨_, hattempts⟩
    · rw [hrun]
      exact .refl hnumbered hinput
    · exact hattempts.settles hnumbered hinput hzero
  | _ => cases hop

/-- **What an operation does**, unless it only takes something out of a queue. -/
theorem apply_moves (hnumbered : Numbered e) (hinput : InputBounded e) {op : EngineOp}
    (hop : op.isPoll = false) : Moves e (e.apply op) := by
  by_cases hsend : ∃ sdu, op = .sendSdu sdu
  · obtain ⟨sdu, rfl⟩ := hsend
    rcases sendSdu_advances hnumbered hinput sdu with hsame | ⟨_, _, ⟨sent, hadvances⟩, hrest⟩
    · rw [hsame]
      exact (Settles.refl hnumbered hinput).moves
    · exact ⟨⟨0, _, sent, hadvances⟩, hrest⟩
  · exact (apply_settles hnumbered hinput hop fun sdu heq => hsend ⟨sdu, heq⟩).moves

end ErtmEngine

/-! ### Histories -/

/-- An engine with what it has sent. The information frames are counted from the first one that was
ever numbered: `acked` of them were acknowledged, and `sent` holds the number of each one that was
put on the outbound queue. -/
structure EngineHistory where
  engine : ErtmEngine
  acked : ℕ := 0
  sent : List ℕ := []

namespace EngineHistory

/-- The number of an information frame of the window, when `acked` frames were acknowledged. -/
def frameNumber (engine : ErtmEngine) (acked : ℕ) (frame : Bytes) : Option ℕ :=
  match EnhancedControlField.fromBytes frame with
  | .ok (.information txSeq _ _ _) =>
    some (acked + (sequenceDistance engine.lastAckedTxSeq txSeq).toNat)
  | _ => none

/-- The numbers of the information frames among `frames`. -/
def frameNumbers (engine : ErtmEngine) (acked : ℕ) (frames : List Bytes) : List ℕ :=
  frames.filterMap (frameNumber engine acked)

/-- One operation: the acknowledged frames are counted, and what joins the outbound queue is
recorded. -/
def step (op : EngineOp) (history : EngineHistory) : EngineHistory :=
  let engine := history.engine.apply op
  let acked := history.acked +
    (sequenceDistance history.engine.lastAckedTxSeq engine.lastAckedTxSeq).toNat
  { engine := engine, acked := acked,
    sent := history.sent ++
      frameNumbers engine acked (engine.outbound.drop history.engine.outbound.length) }

def run (ops : List EngineOp) (history : EngineHistory) : EngineHistory :=
  ops.foldl (fun history op => history.step op) history

/-- **The invariant** of an engine and what it has sent. -/
structure Sound (config : ErtmConfig) (history : EngineHistory) : Prop where
  unchanged : history.engine.config = config
  window : history.engine.txWindow.length ≤ config.txWindowSize.toNat
  numbered : history.engine.Numbered
  timed : history.engine.Timed
  input : history.engine.InputBounded
  limited : history.engine.Limited
  current : ∀ i, history.sent.count (history.acked + i) = history.engine.transmissionsAt i
  bounded : config.maxRetransmissions ≠ 0 →
    ∀ n, history.sent.count n ≤ 1 + config.maxRetransmissions.toNat

variable {config : ErtmConfig} {history : EngineHistory}

/-- The numbers of the frames that an operation sent are their places behind the acknowledged
ones. -/
theorem frameNumbers_sent {engine : ErtmEngine} (hnumbered : engine.Numbered)
    (hwindow : engine.txWindow.length < 64) {sent : List Outgoing}
    (hsent : ∀ index frame, .information index frame ∈ sent →
      index < engine.txWindow.length ∧ engine.unacked[index]? = some frame) (acked i : ℕ) :
    (frameNumbers engine acked (sent.map (·.bytes engine.expectedTxSeq))).count (acked + i) =
      sent.countP (·.isAt i) ∧
    ∀ n < acked,
      (frameNumbers engine acked (sent.map (·.bytes engine.expectedTxSeq))).count n = 0 := by
  induction sent with
  | nil => exact ⟨rfl, fun _ _ => rfl⟩
  | cons out sent ih =>
    obtain ⟨hcount, hbelow⟩ := ih fun index frame hmem => hsent index frame (by simp [hmem])
    rw [List.map_cons, frameNumbers, List.filterMap_cons]
    rw [frameNumbers] at hcount hbelow
    cases out with
    | supervisory function poll finalBit =>
      have hhead : frameNumber engine acked (Outgoing.bytes engine.expectedTxSeq
          (.supervisory function poll finalBit)) = none := by
        rw [frameNumber, Outgoing.bytes, function.fromBytes_bytes poll finalBit hnumbered.expected]
      rw [hhead]
      refine ⟨?_, hbelow⟩
      rw [hcount, List.countP_cons]
      rfl
    | information index frame =>
      obtain ⟨hindex, hframe⟩ := hsent index frame (by simp)
      have htx := hnumbered.frames index frame hframe
      have htx' : frame.txSeq.toNat < 64 := by
        rw [htx]
        exact Nat.mod_lt _ (by decide)
      have hdistance : (sequenceDistance engine.lastAckedTxSeq frame.txSeq).toNat = index := by
        have := hnumbered.lastAcked
        rw [toNat_sequenceDistance hnumbered.lastAcked htx', htx]
        omega
      have hhead : frameNumber engine acked (Outgoing.bytes engine.expectedTxSeq
          (.information index frame)) = some (acked + index) := by
        rw [frameNumber, Outgoing.bytes, PendingFrame.fromBytes_bytes htx' hnumbered.expected]
        dsimp only
        rw [hdistance]
      rw [hhead]
      constructor
      · rw [List.count_cons, hcount, List.countP_cons, Outgoing.isAt]
        simp
      · intro n hn
        rw [List.count_cons, hbelow n hn, Nat.zero_add, if_neg]
        simp only [beq_iff_eq]
        omega

/-- The number of frames that an operation acknowledged can be read off the engine. -/
theorem distance_lastAcked {e e' : ErtmEngine} {acked : ℕ} {added : List PendingFrame}
    {sent : List Outgoing} (hnumbered : e.Numbered) (hsize : e.txWindow.length < 64)
    (h : ErtmEngine.Advances acked added sent e e') :
    (sequenceDistance e.lastAckedTxSeq e'.lastAckedTxSeq).toNat = acked := by
  have hlast := hnumbered.lastAcked
  have hacked := h.outstanding
  rw [toNat_sequenceDistance hlast (h.numbered hnumbered).lastAcked, h.lastAcked]
  omega

/-- An operation that advances the engine keeps the invariant. -/
theorem Sound.step_advances (hconfig : config.txWindowSize.toNat < 64) (h : Sound config history)
    {op : EngineOp} (hop : op.isPoll = false) : Sound config (history.step op) := by
  obtain ⟨⟨acked, added, sent, hadv⟩, htimed, hinput⟩ :=
    ErtmEngine.apply_moves h.numbered h.input hop
  have hnumbered := hadv.numbered h.numbered
  have hsize := hadv.size (by rw [h.unchanged]; exact h.window)
  rw [h.unchanged] at hsize
  have hdistance := distance_lastAcked h.numbered (Nat.lt_of_le_of_lt h.window hconfig) hadv
  have hnew := frameNumbers_sent hnumbered (Nat.lt_of_le_of_lt hsize hconfig) hadv.frame
    (history.acked + acked)
  have hstep : history.step op = {
      engine := history.engine.apply op
      acked := history.acked + acked
      sent := history.sent ++ frameNumbers (history.engine.apply op) (history.acked + acked)
        (sent.map (·.bytes (history.engine.apply op).expectedTxSeq)) } := by
    rw [step, hdistance, hadv.outbound, List.drop_left]
  have hcurrent (i : ℕ) : (history.step op).sent.count ((history.step op).acked + i) =
      (history.step op).engine.transmissionsAt i := by
    rw [hstep]
    dsimp only
    rw [List.count_append, (hnew i).1, hadv.count, ← h.current, Nat.add_assoc]
  have hlimited := hadv.limited h.limited
  have hunchanged : (history.engine.apply op).config = config := hadv.config.trans h.unchanged
  refine ⟨?_, ?_, ?_, ?_, ?_, ?_, hcurrent, ?_⟩
  · rw [hstep]; exact hunchanged
  · rw [hstep]; exact hsize
  · rw [hstep]; exact hnumbered
  · rw [hstep]; exact htimed h.timed
  · rw [hstep]; exact hinput
  · rw [hstep]; exact hlimited
  · intro hmax n
    rcases Nat.lt_or_ge n (history.acked + acked) with hn | hn
    · -- A frame that was acknowledged is not sent again.
      rw [hstep]
      dsimp only
      rw [List.count_append, (hnew 0).2 n hn, Nat.add_zero]
      exact h.bounded hmax n
    · obtain ⟨i, rfl⟩ := Nat.exists_eq_add_of_le hn
      have hcount := hcurrent i
      rw [hstep] at hcount ⊢
      dsimp only at hcount ⊢
      rw [hcount, ← hunchanged]
      exact hlimited (by rw [hunchanged]; exact hmax) i

end EngineHistory

/-- An operation that takes something out of a queue. -/
theorem ErtmEngine.apply_poll (e : ErtmEngine) {op : EngineOp} (hop : op.isPoll = true) :
    ∃ outbound received, e.apply op = { e with outbound := outbound, received := received } ∧
      outbound.length ≤ e.outbound.length ∧ ∀ sdu ∈ received, sdu ∈ e.received := by
  cases op with
  | pollOutbound =>
    rw [apply, pollOutbound]
    split
    · exact ⟨_, _, rfl, Nat.le_refl _, fun _ => id⟩
    · rename_i hout
      refine ⟨_, _, rfl, ?_, fun _ => id⟩
      rw [hout, List.length_cons]
      omega
  | drainOutbound => exact ⟨[], _, rfl, Nat.zero_le _, fun _ => id⟩
  | popReceived =>
    rw [apply, popReceived]
    split
    · exact ⟨_, _, rfl, Nat.le_refl _, fun _ => id⟩
    · rename_i hreceived
      refine ⟨_, _, rfl, Nat.le_refl _, ?_⟩
      intro sdu hmem
      rw [hreceived]
      exact List.mem_cons_of_mem _ hmem
  | _ => cases hop

namespace EngineHistory

/-- An operation that takes something out of a queue keeps the invariant. -/
theorem Sound.step_poll (h : Sound config history) {op : EngineOp} (hop : op.isPoll = true) :
    Sound config (history.step op) := by
  obtain ⟨outbound, received, happly, hlength, hmem⟩ := history.engine.apply_poll hop
  have hlast := h.numbered.lastAcked
  have hdistance : (sequenceDistance history.engine.lastAckedTxSeq
      history.engine.lastAckedTxSeq).toNat = 0 := by
    rw [toNat_sequenceDistance hlast hlast]
    omega
  have hstep : history.step op = { history with
      engine := { history.engine with outbound := outbound, received := received } } := by
    rw [step, happly]
    dsimp only
    rw [hdistance, List.drop_eq_nil_of_le hlength]
    simp [frameNumbers]
  rw [hstep]
  refine ⟨h.unchanged, h.window, ?_, h.timed, ?_, h.limited, h.current, h.bounded⟩
  · exact ⟨h.numbered.lastAcked, h.numbered.frames, h.numbered.next, h.numbered.expected⟩
  · exact ⟨h.input.started, h.input.idle, fun sdu hsdu => h.input.delivered sdu (hmem sdu hsdu)⟩

/-- Every operation keeps the invariant. -/
theorem Sound.step (hconfig : config.txWindowSize.toNat < 64) (h : Sound config history)
    (op : EngineOp) : Sound config (history.step op) := by
  rcases hop : op.isPoll with _ | _
  · exact h.step_advances hconfig hop
  · exact h.step_poll hop

/-- The invariant holds after any operations. -/
theorem Sound.run (hconfig : config.txWindowSize.toNat < 64) (h : Sound config history)
    (ops : List EngineOp) : Sound config (history.run ops) := by
  induction ops generalizing history with
  | nil => exact h
  | cons op ops ih => exact ih (h.step hconfig op)

end EngineHistory

/-- A valid configuration is kept; its window is smaller than the modulus, and its frames are not
empty. -/
theorem ErtmConfig.validate_eq_ok {config config' : ErtmConfig}
    (h : config.validate = .ok config') :
    config' = config ∧ config.txWindowSize.toNat < 64 ∧ config.peerMps.toNat ≠ 0 := by
  unfold ErtmConfig.validate at h
  split at h
  · cases h
  split at h
  · cases h
  rename_i hmps
  split at h
  · cases h
  rename_i hwindow
  split at h
  · cases h
  · cases h
    have hwindow := (not_not.mp hwindow).2
    rw [UInt8.lt_iff_toNat_lt] at hwindow
    refine ⟨rfl, hwindow, ?_⟩
    intro hzero
    exact (not_or.mp hmps).2 (UInt16.toNat_inj.mp hzero)

theorem ErtmEngine.new_eq_ok {config : ErtmConfig} {engine : ErtmEngine}
    (h : ErtmEngine.new config = .ok engine) :
    engine = { config := config } ∧ config.txWindowSize.toNat < 64 := by
  obtain ⟨config', hvalid, h⟩ := except_bind_eq_ok.mp h
  cases h
  obtain ⟨rfl, hwindow, _⟩ := ErtmConfig.validate_eq_ok hvalid
  exact ⟨rfl, hwindow⟩

theorem ErtmEngine.peerMps_ne_zero {config : ErtmConfig} {engine : ErtmEngine}
    (h : ErtmEngine.new config = .ok engine) : config.peerMps.toNat ≠ 0 := by
  obtain ⟨config', hvalid, _⟩ := except_bind_eq_ok.mp h
  exact (ErtmConfig.validate_eq_ok hvalid).2.2

namespace EngineHistory

/-- A new engine satisfies the invariant. -/
theorem sound_new (config : ErtmConfig) : Sound config { engine := { config := config } } where
  unchanged := rfl
  window := Nat.zero_le _
  numbered := ⟨Nat.zero_lt_succ _, nofun, rfl, Nat.zero_lt_succ _⟩
  timed := by simp [ErtmEngine.Timed]
  input := ⟨nofun, fun _ => rfl, nofun⟩
  limited := by
    intro _ index
    exact Nat.zero_le _
  current i := rfl
  bounded _ _ := Nat.zero_le _

/-- **The engine under arbitrary frames.** Whatever a peer sends to an engine with a valid
configuration and whatever its owner asks of it, in any order: the window is no larger than
negotiated, the frames that were not acknowledged are numbered one after the other from the last
acknowledged number to the next one, the timer runs exactly while the window is not empty, a
partial SDU is shorter than announced and the announced length is within the local MTU, as is
everything that was delivered, and no information frame was put on the outbound queue more often
than the limit allows. -/
theorem engine_invariant {engine : ErtmEngine} (hnew : ErtmEngine.new config = .ok engine)
    (ops : List EngineOp) :
    let last := run ops { engine := engine }
    last.engine.txWindow.length ≤ config.txWindowSize.toNat ∧
    (∀ i frame, (last.engine.txWindow.map (·.frame) ++ last.engine.pending)[i]? = some frame →
      frame.txSeq.toNat = (last.engine.lastAckedTxSeq.toNat + i) % 64) ∧
    last.engine.nextTxSeq.toNat = (last.engine.lastAckedTxSeq.toNat +
      (last.engine.txWindow.map (·.frame) ++ last.engine.pending).length) % 64 ∧
    (last.engine.retransmissionDeadline.isSome = true ↔ last.engine.txWindow ≠ []) ∧
    (∀ length, last.engine.inputSduLength = some length →
      last.engine.inputSdu.length < length ∧ length ≤ config.localMtu.toNat) ∧
    (last.engine.inputSduLength = none → last.engine.inputSdu = []) ∧
    (∀ sdu ∈ last.engine.received, sdu.length ≤ config.localMtu.toNat) ∧
    (config.maxRetransmissions ≠ 0 →
      ∀ number, last.sent.count number ≤ 1 + config.maxRetransmissions.toNat) := by
  obtain ⟨rfl, hconfig⟩ := ErtmEngine.new_eq_ok hnew
  have h := (sound_new config).run hconfig ops
  refine ⟨h.window, h.numbered.frames, h.numbered.next, h.timed, ?_, h.input.idle, ?_, h.bounded⟩
  · intro length hlength
    obtain ⟨hshort, hmtu⟩ := h.input.started length hlength
    rw [h.unchanged] at hmtu
    exact ⟨hshort, hmtu⟩
  · intro sdu hmem
    have hsdu := h.input.delivered sdu hmem
    rwa [h.unchanged] at hsdu

/-- A frame that is lost and sent again until the limit is reached. -/
theorem engine_invariant_lossy :
    let config : ErtmConfig := {
      localMtu := 48, peerMtu := 48, localMps := 4, peerMps := 4, txWindowSize := 2,
      maxRetransmissions := 1, retransmissionTimeoutTicks := 10 }
    let last := run [.sendSdu [1, 2, 3, 4, 5], .tick 10, .tick 10] { engine := { config := config } }
    last.sent = [0, 1, 0, 1] ∧ last.engine.failed = true ∧
      ∀ number, last.sent.count number ≤ 2 := by
  intro config last
  refine ⟨by decide +kernel, by decide +kernel, ?_⟩
  have hnew : ErtmEngine.new config = .ok { config := config } := rfl
  exact (engine_invariant hnew _).2.2.2.2.2.2.2 (by decide)

end EngineHistory

end ClassicHid

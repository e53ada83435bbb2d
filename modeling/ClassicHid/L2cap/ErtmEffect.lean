import Mathlib.Data.List.Count
import ClassicHid.L2cap.ErtmFrames

/-!
# What an engine sends

Everything an engine puts on its outbound queue is a supervisory frame or a frame of its transmit
window, and it acknowledges what the engine expects next. Sending never changes what is numbered,
what is acknowledged or what was received.

## Main definitions

* `ErtmEngine.unacked`: the numbered frames that were not acknowledged, in order
* `Outgoing`: a frame an engine sends, with its place in the window
* `ErtmEngine.Sends reqSeq sent e e'`: what sending these frames changes

## Main results

* `ErtmEngine.processOutput_sends`, `ErtmEngine.retransmitAll_attempts`,
  `ErtmEngine.retransmitOne_attempts`, `ErtmEngine.sendSupervisory_sends`: what each of these sends
* `ErtmEngine.acknowledge_cases`, `ErtmEngine.acceptInformation_bounded`: acknowledgement and
  reassembly
-/

namespace ClassicHid

open Foundation

/-- A frame that is sent: the frame at a place of the transmit window, or a supervisory frame. -/
inductive Outgoing
  | information (index : ℕ) (frame : PendingFrame)
  | supervisory (function : SupervisoryFunction) (poll finalBit : Bool)

namespace Outgoing

def bytes (reqSeq : UInt8) : Outgoing → Bytes
  | information _ frame => frame.bytes reqSeq
  | supervisory function poll finalBit => function.bytes poll finalBit reqSeq

/-- The place of the frame in the window. -/
def place : Outgoing → Option ℕ
  | information index _ => some index
  | supervisory .. => none

/-- Whether this is the frame at the given place. -/
def isAt (index : ℕ) : Outgoing → Bool
  | information i _ => i = index
  | supervisory .. => false

end Outgoing

namespace ErtmEngine

/-- The numbered frames that were not acknowledged, in order. -/
def unacked (engine : ErtmEngine) : List PendingFrame :=
  engine.txWindow.map (·.frame) ++ engine.pending

/-- How often the frame at a place of the window was sent. -/
def transmissionsAt (engine : ErtmEngine) (index : ℕ) : ℕ :=
  engine.txWindow[index]?.elim 0 (·.transmissions)

/-- No frame was sent more often than the limit allows. -/
def Limited (engine : ErtmEngine) : Prop :=
  engine.config.maxRetransmissions ≠ 0 → ∀ index,
    engine.transmissionsAt index ≤ 1 + engine.config.maxRetransmissions.toNat

/-- The retransmission timer runs exactly while a frame is in the window. -/
def Timed (engine : ErtmEngine) : Prop :=
  engine.retransmissionDeadline.isSome = true ↔ engine.txWindow ≠ []

/-- Every sequence number is in range. -/
structure InRange (engine : ErtmEngine) : Prop where
  frames : ∀ frame ∈ engine.unacked, frame.txSeq.toNat < 64
  expected : engine.expectedTxSeq.toNat < 64

/-- What sending changes: frames move from the pending ones to the window, and each frame that is
put on the outbound queue is counted. -/
structure Sends (reqSeq : UInt8) (sent : List Outgoing) (e e' : ErtmEngine) : Prop where
  config : e'.config = e.config
  unacked : e'.unacked = e.unacked
  lastAcked : e'.lastAckedTxSeq = e.lastAckedTxSeq
  next : e'.nextTxSeq = e.nextTxSeq
  expected : e'.expectedTxSeq = e.expectedTxSeq
  inputSdu : e'.inputSdu = e.inputSdu
  inputLength : e'.inputSduLength = e.inputSduLength
  received : e'.received = e.received
  window : e.txWindow.length ≤ e'.txWindow.length
  size : e.txWindow.length ≤ e.config.txWindowSize.toNat →
    e'.txWindow.length ≤ e.config.txWindowSize.toNat
  outbound : e'.outbound = e.outbound ++ sent.map (·.bytes reqSeq)
  frame : ∀ index frame, .information index frame ∈ sent →
    index < e'.txWindow.length ∧ e'.unacked[index]? = some frame
  supervisory : ∀ function poll finalBit, .supervisory function poll finalBit ∈ sent →
    function ≠ .selectiveReject
  count : ∀ index, e'.transmissionsAt index =
    e.transmissionsAt index + sent.countP (·.isAt index)
  limited : Limited e → Limited e'

namespace Sends

variable {reqSeq : UInt8} {sent sent' : List Outgoing} {e e' e'' : ErtmEngine}

/-- Nothing that sending concerns changes. -/
theorem of_eq (hconfig : e'.config = e.config) (hwindow : e'.txWindow = e.txWindow)
    (hpending : e'.pending = e.pending) (hlast : e'.lastAckedTxSeq = e.lastAckedTxSeq)
    (hnext : e'.nextTxSeq = e.nextTxSeq) (hexpected : e'.expectedTxSeq = e.expectedTxSeq)
    (hinput : e'.inputSdu = e.inputSdu) (hlength : e'.inputSduLength = e.inputSduLength)
    (hreceived : e'.received = e.received) (houtbound : e'.outbound = e.outbound) :
    Sends reqSeq [] e e' where
  config := hconfig
  unacked := by rw [ErtmEngine.unacked, hwindow, hpending]; rfl
  lastAcked := hlast
  next := hnext
  expected := hexpected
  inputSdu := hinput
  inputLength := hlength
  received := hreceived
  window := Nat.le_of_eq (by rw [hwindow])
  size := by rw [hwindow]; exact id
  outbound := by rw [houtbound, List.map_nil, List.append_nil]
  frame := nofun
  supervisory := nofun
  count index := by simp [transmissionsAt, hwindow]
  limited h := by
    intro hmax index
    rw [hconfig] at hmax ⊢
    rw [transmissionsAt, hwindow]
    exact h hmax index

theorem refl (e : ErtmEngine) : Sends reqSeq [] e e :=
  of_eq rfl rfl rfl rfl rfl rfl rfl rfl rfl rfl

theorem trans (h : Sends reqSeq sent e e') (h' : Sends reqSeq sent' e' e'') :
    Sends reqSeq (sent ++ sent') e e'' where
  config := h'.config.trans h.config
  unacked := h'.unacked.trans h.unacked
  lastAcked := h'.lastAcked.trans h.lastAcked
  next := h'.next.trans h.next
  expected := h'.expected.trans h.expected
  inputSdu := h'.inputSdu.trans h.inputSdu
  inputLength := h'.inputLength.trans h.inputLength
  received := h'.received.trans h.received
  window := Nat.le_trans h.window h'.window
  size hsize := by
    have := h'.size (by rw [h.config]; exact h.size hsize)
    rwa [h.config] at this
  outbound := by rw [h'.outbound, h.outbound, List.map_append, List.append_assoc]
  frame index frame hmem := by
    rcases List.mem_append.mp hmem with hmem | hmem
    · obtain ⟨hindex, hframe⟩ := h.frame index frame hmem
      exact ⟨Nat.lt_of_lt_of_le hindex h'.window, by rw [h'.unacked]; exact hframe⟩
    · exact h'.frame index frame hmem
  supervisory function poll finalBit hmem := by
    rcases List.mem_append.mp hmem with hmem | hmem
    · exact h.supervisory function poll finalBit hmem
    · exact h'.supervisory function poll finalBit hmem
  count index := by
    rw [h'.count, h.count, List.countP_append]
    omega
  limited hlimited := h'.limited (h.limited hlimited)

theorem inRange (h : Sends reqSeq sent e e') (hrange : InRange e) : InRange e' where
  frames := by rw [h.unacked]; exact hrange.frames
  expected := by rw [h.expected]; exact hrange.expected

end Sends

/-! ### One frame -/

variable {e : ErtmEngine}

theorem sendSupervisory_eq (hrange : InRange e) (function : SupervisoryFunction)
    (poll finalBit : Bool) :
    sendSupervisory function poll finalBit e =
      (.ok (), { e with
        outbound := e.outbound ++ [function.bytes poll finalBit e.expectedTxSeq]
        lastAckedRxSeq := e.expectedTxSeq }) := by
  rw [sendSupervisory, Exec.gets_bind, EnhancedControlField.supervisory_toBytes hrange.expected,
    Exec.lift_ok_bind]
  rfl

/-- A supervisory frame. -/
theorem sendSupervisory_sends (hrange : InRange e) {function : SupervisoryFunction}
    (hfunction : function ≠ .selectiveReject) (poll finalBit : Bool) :
    Sends e.expectedTxSeq [.supervisory function poll finalBit] e
      (sendSupervisory function poll finalBit e).2 := by
  rw [sendSupervisory_eq hrange]
  refine ⟨rfl, rfl, rfl, rfl, rfl, rfl, rfl, rfl, Nat.le_refl _, id, rfl, ?_, ?_, fun _ => rfl, id⟩
  · intro index frame hmem
    cases List.mem_singleton.mp hmem
  · intro _ _ _ hmem
    cases List.mem_singleton.mp hmem
    exact hfunction

/-- The engine after the first pending frame was sent. -/
def transmitted (frame : PendingFrame) (pending : List PendingFrame) (e : ErtmEngine) :
    ErtmEngine :=
  { e with
    pending := pending
    txWindow := e.txWindow ++ [{ frame := frame, transmissions := 1 }]
    outbound := e.outbound ++ [frame.bytes e.expectedTxSeq]
    lastAckedRxSeq := e.expectedTxSeq }

/-- A frame sent for the first time. -/
theorem transmitted_sends {frame : PendingFrame} {pending : List PendingFrame}
    (hpending : e.pending = frame :: pending)
    (hsize : e.txWindow.length < e.config.txWindowSize.toNat) :
    Sends e.expectedTxSeq [.information e.txWindow.length frame] e (transmitted frame pending e) := by
  have hunacked : (transmitted frame pending e).unacked = e.unacked := by
    simp [transmitted, ErtmEngine.unacked, hpending]
  have hcount (index : ℕ) : (transmitted frame pending e).transmissionsAt index =
      e.transmissionsAt index +
        [Outgoing.information e.txWindow.length frame].countP (·.isAt index) := by
    simp only [transmissionsAt, transmitted, List.countP_singleton, Outgoing.isAt]
    rcases Nat.lt_trichotomy index e.txWindow.length with hlt | rfl | hgt
    · rw [List.getElem?_append_left hlt]
      simp [Nat.ne_of_gt hlt]
    · simp
    · rw [List.getElem?_eq_none (by simp; omega), List.getElem?_eq_none (by omega)]
      simp [Nat.ne_of_lt hgt]
  refine ⟨rfl, hunacked, rfl, rfl, rfl, rfl, rfl, rfl, ?_, ?_, rfl, ?_, ?_, hcount, ?_⟩
  · simp [transmitted]
  · intro _
    simp only [transmitted, List.length_append, List.length_singleton]
    omega
  · intro index frame' hmem
    cases List.mem_singleton.mp hmem
    rw [hunacked]
    simp [transmitted, ErtmEngine.unacked, hpending]
  · intro _ _ _ hmem
    cases List.mem_singleton.mp hmem
  · intro hlimited hmax index
    have hmax : e.config.maxRetransmissions ≠ 0 := hmax
    have hold := hlimited hmax index
    have hbeyond : index = e.txWindow.length → e.transmissionsAt index = 0 := by
      rintro rfl
      simp [transmissionsAt]
    change _ ≤ 1 + e.config.maxRetransmissions.toNat
    rw [hcount index, List.countP_singleton]
    simp only [Outgoing.isAt, decide_eq_true_eq]
    split
    · rename_i heq
      rw [hbeyond heq.symm]
      omega
    · omega

/-- The engine after the frame at `index` was sent again. -/
def retransmitted (index : ℕ) (entry : TransmittedFrame) (e : ErtmEngine) : ErtmEngine :=
  { e with
    txWindow := e.txWindow.set index { entry with transmissions := entry.transmissions + 1 }
    outbound := e.outbound ++ [entry.frame.bytes e.expectedTxSeq]
    lastAckedRxSeq := e.expectedTxSeq }

/-- A frame sent again. -/
theorem retransmitted_sends {index : ℕ} {entry : TransmittedFrame}
    (hentry : e.txWindow[index]? = some entry)
    (hlimit : retransmissionLimitReached e.config.maxRetransmissions entry = false) :
    Sends e.expectedTxSeq [.information index entry.frame] e (retransmitted index entry e) := by
  obtain ⟨hindex, hget⟩ := List.getElem?_eq_some_iff.mp hentry
  have hframes : (e.txWindow.set index { entry with transmissions := entry.transmissions + 1 }).map
      (·.frame) = e.txWindow.map (·.frame) := by
    rw [List.map_set]
    apply List.ext_getElem?
    intro i
    rw [List.getElem?_set]
    split
    · rename_i heq
      subst heq
      simp [hindex, hget]
    · rfl
  have hunacked : (retransmitted index entry e).unacked = e.unacked := by
    rw [ErtmEngine.unacked, retransmitted, hframes]
    rfl
  have hcount (i : ℕ) : (retransmitted index entry e).transmissionsAt i =
      e.transmissionsAt i + [Outgoing.information index entry.frame].countP (·.isAt i) := by
    simp only [transmissionsAt, retransmitted, List.countP_singleton, Outgoing.isAt,
      List.getElem?_set, decide_eq_true_eq]
    by_cases heq : index = i
    · subst heq
      simp [hindex, hget]
    · simp [heq]
  refine ⟨rfl, hunacked, rfl, rfl, rfl, rfl, rfl, rfl, ?_, ?_, rfl, ?_, ?_, hcount, ?_⟩
  · simp [retransmitted]
  · simp [retransmitted]
  · intro i frame hmem
    cases List.mem_singleton.mp hmem
    rw [hunacked, ErtmEngine.unacked, List.getElem?_append_left (by simpa using hindex)]
    simp [retransmitted, hindex, hget]
  · intro _ _ _ hmem
    cases List.mem_singleton.mp hmem
  · intro hlimited hmax i
    have hmax : e.config.maxRetransmissions ≠ 0 := hmax
    have hold := hlimited hmax i
    change _ ≤ 1 + e.config.maxRetransmissions.toNat
    rw [hcount i, List.countP_singleton]
    simp only [Outgoing.isAt, decide_eq_true_eq]
    split
    · rename_i heq
      subst heq
      simp only [retransmissionLimitReached, hmax, ne_eq, not_false_eq_true, decide_true,
        Bool.true_and, decide_eq_false_iff_not] at hlimit
      simp only [transmissionsAt, hentry, Option.elim_some]
      omega
    · omega

/-! ### The functions that send -/

theorem pushOutbound_eq (encoded : Bytes) :
    pushOutbound encoded e = (.ok (), { e with
      outbound := e.outbound ++ [encoded], lastAckedRxSeq := e.expectedTxSeq }) := rfl

theorem refresh_timed (e : ErtmEngine) : Timed (refreshRetransmissionDeadline e).2 := by
  simp only [Timed, refreshRetransmissionDeadline, Exec.modify_apply]
  split <;> simp_all

/-- What sending pending frames changes: new frames enter the window one after the other. -/
structure Transmits (sent : List Outgoing) (e e' : ErtmEngine) : Prop where
  sends : Sends e.expectedTxSeq sent e e'
  places : sent.map (·.place) =
    (List.range' e.txWindow.length (e'.txWindow.length - e.txWindow.length)).map some
  failed : e'.failed = e.failed
  remoteBusy : e'.remoteBusy = e.remoteBusy
  localBusy : e'.localBusy = e.localBusy

theorem Transmits.refl (e : ErtmEngine) : Transmits [] e e :=
  ⟨.refl e, by simp, rfl, rfl, rfl⟩

theorem processOutputLoop_transmits (n : ℕ) (hrange : InRange e) :
    ∃ sent e', processOutputLoop n e = (.ok (), e') ∧ Transmits sent e e' := by
  induction n generalizing e with
  | zero => exact ⟨[], e, rfl, .refl e⟩
  | succ n ih =>
    rw [processOutputLoop, Exec.get_bind]
    split
    · rename_i hsize
      rcases hpending : e.pending with _ | ⟨frame, pending⟩
      · exact ⟨[], e, rfl, .refl e⟩
      · have hframe : frame.txSeq.toNat < 64 := by
          apply hrange.frames
          simp [unacked, hpending]
        have hfirst := transmitted_sends hpending hsize
        obtain ⟨sent, e', hrun, htransmits⟩ := ih (hfirst.inRange hrange)
        refine ⟨_, e', ?_, hfirst.trans htransmits.sends, ?_, htransmits.failed,
          htransmits.remoteBusy, htransmits.localBusy⟩
        · simp only [Exec.modify_bind, PendingFrame.encode_eq hframe hrange.expected,
            Exec.lift_ok_bind, Exec.bind_ok (pushOutbound_eq _)]
          exact hrun
        · have hlength : (transmitted frame pending e).txWindow.length =
              e.txWindow.length + 1 := by
            simp [transmitted]
          have hgrows := htransmits.sends.window
          rw [hlength] at hgrows
          rw [List.map_append, htransmits.places, hlength,
            show e'.txWindow.length - e.txWindow.length =
              e'.txWindow.length - (e.txWindow.length + 1) + 1 by omega, List.range'_succ]
          rfl
    · exact ⟨[], e, rfl, .refl e⟩

/-- **Sending what is pending**, to a peer that is not busy. -/
theorem processOutput_transmits (hrange : InRange e) (hbusy : e.remoteBusy = false) :
    ∃ sent e', processOutput e = (.ok (), e') ∧ Transmits sent e e' ∧ Timed e' := by
  obtain ⟨sent, e', hrun, htransmits⟩ := processOutputLoop_transmits e.pending.length hrange
  have hrefresh : Sends e.expectedTxSeq [] e' (refreshRetransmissionDeadline e').2 :=
    .of_eq rfl rfl rfl rfl rfl rfl rfl rfl rfl rfl
  refine ⟨sent, (refreshRetransmissionDeadline e').2, ?_, ⟨?_, htransmits.places, htransmits.failed,
    htransmits.remoteBusy, htransmits.localBusy⟩, refresh_timed e'⟩
  · rw [processOutput, Exec.gets_bind, hbusy]
    rw [if_neg (by decide), Exec.gets_bind, Exec.bind_ok hrun]
    rfl
  · have hsends := htransmits.sends.trans hrefresh
    rwa [List.append_nil] at hsends

theorem processOutput_busy (hbusy : e.remoteBusy = true) : processOutput e = (.ok (), e) := by
  rw [processOutput, Exec.gets_bind, hbusy]
  rfl

/-- **Sending what is pending.** -/
theorem processOutput_sends (hrange : InRange e) :
    ∃ sent e', processOutput e = (.ok (), e') ∧ Sends e.expectedTxSeq sent e e' ∧
      e'.failed = e.failed ∧ (Timed e → Timed e') := by
  rcases hbusy : e.remoteBusy with _ | _
  · obtain ⟨sent, e', hrun, htransmits, htimed⟩ := processOutput_transmits hrange hbusy
    exact ⟨sent, e', hrun, htransmits.sends, htransmits.failed, fun _ => htimed⟩
  · exact ⟨[], e, processOutput_busy hbusy, .refl e, rfl, id⟩

/-- What sending the frames of the window from a place on again changes. -/
structure Resends (place count : ℕ) (sent : List Outgoing) (e e' : ErtmEngine) : Prop where
  sends : Sends e.expectedTxSeq sent e e'
  places : sent.map (·.place) = (List.range' place count).map some
  window : e'.txWindow.length = e.txWindow.length
  failed : e'.failed = e.failed
  remoteBusy : e'.remoteBusy = e.remoteBusy
  localBusy : e'.localBusy = e.localBusy

theorem retransmitFrames_resends (rest done : List TransmittedFrame)
    (hwindow : e.txWindow = done ++ rest)
    (hlimit : ∀ entry ∈ rest, retransmissionLimitReached e.config.maxRetransmissions entry = false)
    (hrange : InRange e) :
    ∃ sent e', retransmitFrames done rest e = (.ok (), e') ∧
      Resends done.length rest.length sent e e' := by
  induction rest generalizing done e with
  | nil => exact ⟨[], e, rfl, .refl e, rfl, rfl, rfl, rfl, rfl⟩
  | cons entry rest ih =>
    have hentry : e.txWindow[done.length]? = some entry := by simp [hwindow]
    have hframe : entry.frame.txSeq.toNat < 64 := by
      apply hrange.frames
      simp [unacked, hwindow]
    have hfirst := retransmitted_sends hentry (hlimit entry (by simp))
    have hnext : (retransmitted done.length entry e).txWindow =
        done ++ [{ entry with transmissions := entry.transmissions + 1 }] ++ rest := by
      simp [retransmitted, hwindow]
    obtain ⟨sent, e', hrun, hresends⟩ := ih _ hnext
      (fun entry hmem => hlimit entry (by simp [hmem])) (hfirst.inRange hrange)
    refine ⟨_, e', ?_, hfirst.trans hresends.sends, ?_, ?_, hresends.failed, hresends.remoteBusy,
      hresends.localBusy⟩
    · have hset : done ++ { entry with transmissions := entry.transmissions + 1 } :: rest =
          e.txWindow.set done.length { entry with transmissions := entry.transmissions + 1 } := by
        simp [hwindow]
      rw [retransmitFrames]
      simp only [Exec.modify_bind, Exec.gets_bind, PendingFrame.encode_eq hframe hrange.expected,
        Exec.lift_ok_bind, Exec.bind_ok (pushOutbound_eq _), hset]
      exact hrun
    · rw [List.map_append, hresends.places, List.length_append, List.length_singleton,
        List.length_cons, List.range'_succ]
      rfl
    · rw [hresends.window]
      simp [retransmitted]

/-- **Sending everything again**, when no frame was sent too often. -/
theorem retransmitAll_resends (hrange : InRange e) (hbusy : e.remoteBusy = false)
    (hlimit : ∀ entry ∈ e.txWindow,
      retransmissionLimitReached e.config.maxRetransmissions entry = false) :
    ∃ sent e', retransmitAll e = (.ok (), e') ∧ Resends 0 e.txWindow.length sent e e' ∧
      Timed e' := by
  obtain ⟨sent, e', hrun, hresends⟩ := retransmitFrames_resends e.txWindow [] rfl hlimit hrange
  have hrefresh : Sends e.expectedTxSeq [] e' (refreshRetransmissionDeadline e').2 :=
    .of_eq rfl rfl rfl rfl rfl rfl rfl rfl rfl rfl
  have hsends := hresends.sends.trans hrefresh
  rw [List.append_nil] at hsends
  have hfind : e.txWindow.find? (retransmissionLimitReached e.config.maxRetransmissions) = none := by
    rw [List.find?_eq_none]
    intro entry hmem
    rw [hlimit entry hmem]
    exact Bool.false_ne_true
  refine ⟨sent, (refreshRetransmissionDeadline e').2, ?_, ⟨hsends, hresends.places, hresends.window,
    hresends.failed, hresends.remoteBusy, hresends.localBusy⟩, refresh_timed e'⟩
  rw [retransmitAll, Exec.get_bind, hbusy]
  simp only [Bool.false_eq_true, if_false, hfind]
  rw [Exec.bind_ok hrun]
  rfl

/-- The engine gave up on a frame of its window that was sent too often. -/
def GaveUp (engine : ErtmEngine) : Prop :=
  engine.failed = true ∧ ∃ entry ∈ engine.txWindow,
    retransmissionLimitReached engine.config.maxRetransmissions entry = true

/-- An attempt to send: it sent, or the engine gave up. -/
def Attempts (m : Update Unit) (e : ErtmEngine) : Prop :=
  ∃ sent e', Sends e.expectedTxSeq sent e e' ∧ (Timed e → Timed e') ∧
    (m e = (.ok (), e') ∧ e'.failed = e.failed ∨ ∃ error, m e = (.error error, e') ∧ GaveUp e')

theorem failOn_attempts {entry : TransmittedFrame} (hentry : entry ∈ e.txWindow)
    (hlimit : retransmissionLimitReached e.config.maxRetransmissions entry = true) :
    Attempts (failOn entry.frame.txSeq) e :=
  ⟨[], { e with failed := true }, .of_eq rfl rfl rfl rfl rfl rfl rfl rfl rfl rfl, id,
    .inr ⟨_, rfl, rfl, entry, hentry, hlimit⟩⟩

/-- **Sending everything again.** -/
theorem retransmitAll_attempts (hrange : InRange e) : Attempts retransmitAll e := by
  unfold Attempts
  rcases hbusy : e.remoteBusy with _ | _
  rotate_left
  · refine ⟨[], e, .refl e, id, .inl ⟨?_, rfl⟩⟩
    rw [retransmitAll, Exec.get_bind, hbusy]
    rfl
  rcases hfind : e.txWindow.find? (retransmissionLimitReached e.config.maxRetransmissions) with
    _ | entry
  · obtain ⟨sent, e', hrun, hresends, htimed⟩ := retransmitAll_resends hrange hbusy
      (fun entry hmem => by simpa using List.find?_eq_none.mp hfind entry hmem)
    exact ⟨sent, e', hresends.sends, fun _ => htimed, .inl ⟨hrun, hresends.failed⟩⟩
  · have hrun : retransmitAll e = failOn entry.frame.txSeq e := by
      rw [retransmitAll, Exec.get_bind, hbusy]
      simp only [Bool.false_eq_true, if_false, hfind]
    rw [hrun]
    exact failOn_attempts (List.mem_of_find?_eq_some hfind) (List.find?_some hfind)

theorem Attempts.of_apply_eq {m m' : Update Unit} (h : m e = m' e) (h' : Attempts m' e) :
    Attempts m e := by
  unfold Attempts
  rw [h]
  exact h'

theorem pure_attempts : Attempts (pure ()) e := ⟨[], e, .refl e, id, .inl ⟨rfl, rfl⟩⟩

/-- Sending one frame of the window again. -/
theorem retransmitEntry_attempts (hrange : InRange e) {index : ℕ} {entry : TransmittedFrame}
    (hentry : e.txWindow[index]? = some entry)
    (hlimit : retransmissionLimitReached e.config.maxRetransmissions entry = false) :
    Attempts (do
      Exec.modify fun engine => { engine with
        txWindow := engine.txWindow.set index
          { entry with transmissions := entry.transmissions + 1 } }
      let encoded ← Exec.lift (entry.frame.encode e.expectedTxSeq false)
      pushOutbound encoded
      refreshRetransmissionDeadline) e := by
  have hframe : entry.frame.txSeq.toNat < 64 := by
    apply hrange.frames
    rw [unacked, List.mem_append]
    exact .inl (List.mem_map.mpr ⟨entry, List.mem_of_getElem? hentry, rfl⟩)
  have hrefresh : Sends e.expectedTxSeq [] (retransmitted index entry e)
      (refreshRetransmissionDeadline (retransmitted index entry e)).2 :=
    .of_eq rfl rfl rfl rfl rfl rfl rfl rfl rfl rfl
  refine ⟨_, _, (retransmitted_sends hentry hlimit).trans hrefresh, fun _ => refresh_timed _,
    .inl ⟨?_, rfl⟩⟩
  simp only [Exec.modify_bind, PendingFrame.encode_eq hframe hrange.expected, Exec.lift_ok_bind,
    Exec.bind_ok (pushOutbound_eq _)]
  rfl

/-- **Sending one frame again**, unless it is not there. -/
theorem retransmitOne_attempts (hrange : InRange e) (txSeq : UInt8) :
    Attempts (retransmitOne txSeq) e ∨ ∃ error, retransmitOne txSeq e = (.error error, e) := by
  by_cases hbusy : e.remoteBusy = true
  · refine .inl (Attempts.of_apply_eq ?_ pure_attempts)
    simp only [retransmitOne, Exec.get_bind, hbusy, if_true]
  rcases hfind : e.txWindow.findIdx? (fun entry => decide (entry.frame.txSeq = txSeq)) with _ | index
  · refine .inr ⟨.invalidPacket
      s!"selective reject requested unknown ERTM sequence {txSeq.toNat}", ?_⟩
    simp only [retransmitOne, Exec.get_bind, hbusy, hfind]
    rfl
  rcases hentry : e.txWindow[index]? with _ | entry
  · refine .inl (Attempts.of_apply_eq ?_ pure_attempts)
    simp only [retransmitOne, Exec.get_bind, hbusy, hfind, hentry]
    rfl
  rcases hlimit : retransmissionLimitReached e.config.maxRetransmissions entry with _ | _
  · refine .inl (Attempts.of_apply_eq ?_ (retransmitEntry_attempts hrange hentry hlimit))
    simp only [retransmitOne, Exec.get_bind, hbusy, hfind, hentry, hlimit]
    rfl
  · refine .inl (Attempts.of_apply_eq ?_ (failOn_attempts (List.mem_of_getElem? hentry) hlimit))
    simp only [retransmitOne, Exec.get_bind, hbusy, hfind, hentry, hlimit]
    rfl

/-- A second part after an attempt. -/
theorem Attempts.bind {m : Update Unit} {f : Unit → Update Unit} (h : Attempts m e)
    (hf : ∀ e', InRange e' → Attempts (f ()) e') (hrange : InRange e) : Attempts (m >>= f) e := by
  obtain ⟨sent, e', hsends, htimed, ⟨hrun, hfailed⟩ | ⟨error, hrun, hgave⟩⟩ := h
  · obtain ⟨sent', e'', hsends', htimed', hrest⟩ := hf e' (hsends.inRange hrange)
    rw [hsends.expected] at hsends'
    refine ⟨sent ++ sent', e'', hsends.trans hsends', htimed' ∘ htimed, ?_⟩
    rw [Exec.bind_ok hrun]
    rcases hrest with ⟨hrun', hfailed'⟩ | ⟨error, hrun', hgave⟩
    · exact .inl ⟨hrun', hfailed'.trans hfailed⟩
    · exact .inr ⟨error, hrun', hgave⟩
  · exact ⟨sent, e', hsends, htimed, .inr ⟨error, Exec.bind_error hrun, hgave⟩⟩

/-- An attempt after a change that sending does not concern. -/
theorem Attempts.of_same {m m' : Update Unit} {e₁ : ErtmEngine} (h : m e = m' e₁)
    (hsame : Sends e.expectedTxSeq [] e e₁) (htimed : Timed e → Timed e₁)
    (hfailed : e₁.failed = e.failed) (h' : Attempts m' e₁) : Attempts m e := by
  obtain ⟨sent, e', hsends, htimed', hend⟩ := h'
  rw [hsame.expected] at hsends
  unfold Attempts
  rw [h]
  refine ⟨[] ++ sent, e', hsame.trans hsends, htimed' ∘ htimed, ?_⟩
  rw [← hfailed]
  exact hend

theorem processOutput_attempts (hrange : InRange e) : Attempts processOutput e := by
  obtain ⟨sent, e', hrun, hsends, hfailed, htimed⟩ := processOutput_sends hrange
  exact ⟨sent, e', hsends, htimed, .inl ⟨hrun, hfailed⟩⟩

theorem sendSupervisory_attempts (hrange : InRange e) {function : SupervisoryFunction}
    (hfunction : function ≠ .selectiveReject) (poll finalBit : Bool) :
    Attempts (sendSupervisory function poll finalBit) e := by
  have hsends := sendSupervisory_sends hrange hfunction poll finalBit
  rw [sendSupervisory_eq hrange] at hsends
  exact ⟨_, _, hsends, id, .inl ⟨sendSupervisory_eq hrange .., rfl⟩⟩

/-! ### Acknowledgement -/

/-- What an acknowledgement of `count` frames changes. -/
structure Acknowledges (count : ℕ) (e e' : ErtmEngine) : Prop where
  config : e'.config = e.config
  window : e'.txWindow = e.txWindow.drop count
  pending : e'.pending = e.pending
  outstanding : count ≤ e.txWindow.length
  lastAcked : e'.lastAckedTxSeq.toNat = (e.lastAckedTxSeq.toNat + count) % 64
  next : e'.nextTxSeq = e.nextTxSeq
  expected : e'.expectedTxSeq = e.expectedTxSeq
  inputSdu : e'.inputSdu = e.inputSdu
  inputLength : e'.inputSduLength = e.inputSduLength
  received : e'.received = e.received
  outbound : e'.outbound = e.outbound
  failed : e'.failed = e.failed
  localBusy : e'.localBusy = e.localBusy
  remoteBusy : e'.remoteBusy = e.remoteBusy
  timed : Timed e → Timed e'

theorem Acknowledges.unacked {count : ℕ} {e' : ErtmEngine} (h : Acknowledges count e e') :
    e'.unacked = e.unacked.drop count := by
  rw [ErtmEngine.unacked, ErtmEngine.unacked, h.window, h.pending, List.map_drop,
    List.drop_append_of_le_length (by simpa using h.outstanding)]

theorem Acknowledges.transmissionsAt {count : ℕ} {e' : ErtmEngine} (h : Acknowledges count e e')
    (index : ℕ) : e'.transmissionsAt index = e.transmissionsAt (count + index) := by
  rw [ErtmEngine.transmissionsAt, ErtmEngine.transmissionsAt, h.window, List.getElem?_drop]

theorem Acknowledges.inRange {count : ℕ} {e' : ErtmEngine} (h : Acknowledges count e e')
    (hrange : InRange e) : InRange e' where
  frames frame hmem := by
    rw [h.unacked] at hmem
    exact hrange.frames frame (List.mem_of_mem_drop hmem)
  expected := by rw [h.expected]; exact hrange.expected

/-- **Acknowledgement**: the frames up to the acknowledged one leave the window, unless there are
not that many. -/
theorem acknowledge_cases {newSeq : UInt8} (hseq : newSeq.toNat < 64)
    (hlast : e.lastAckedTxSeq.toNat < 64) :
    (e.txWindow.length < (newSeq.toNat + 64 - e.lastAckedTxSeq.toNat) % 64 ∧
        ∃ error, acknowledge newSeq e = (.error error, e)) ∨
      ∃ acked e', acknowledge newSeq e = (.ok acked, e') ∧
        Acknowledges ((newSeq.toNat + 64 - e.lastAckedTxSeq.toNat) % 64) e e' := by
  have hrange : ¬ newSeq ≥ ertmSequenceModulus := by
    rw [ge_iff_le, UInt8.le_iff_toNat_le]
    exact Nat.not_le.mpr hseq
  have hcount := toNat_sequenceDistance hlast hseq
  by_cases hlong : e.txWindow.length < (newSeq.toNat + 64 - e.lastAckedTxSeq.toNat) % 64
  · refine .inl ⟨hlong, ?_⟩
    rw [acknowledge, if_neg hrange, Exec.get_bind, hcount]
    simp only [gt_iff_lt, hlong, if_true]
    exact ⟨_, rfl⟩
  · refine .inr ?_
    rw [acknowledge, if_neg hrange, Exec.get_bind, hcount]
    simp only [gt_iff_lt, hlong, if_false, Exec.modify_bind]
    by_cases hzero : (newSeq.toNat + 64 - e.lastAckedTxSeq.toNat) % 64 = 0
    · simp only [hzero, ne_eq, not_true, if_false]
      refine ⟨_, _, rfl, rfl, rfl, rfl, Nat.zero_le _, ?_, rfl, rfl, rfl, rfl, rfl, rfl, rfl, rfl,
        rfl, id⟩
      rw [Nat.add_zero, Nat.mod_eq_of_lt hlast]
    · simp only [hzero, ne_eq, not_false_eq_true, if_true]
      refine ⟨_, _, rfl, rfl, rfl, rfl, Nat.not_lt.mp hlong, ?_, rfl, rfl, rfl, rfl, rfl, rfl, rfl,
        rfl, rfl, fun _ => refresh_timed _⟩
      change newSeq.toNat = _
      omega

/-! ### Reassembly -/

/-- What was received so far is within the local MTU. -/
structure InputBounded (engine : ErtmEngine) : Prop where
  started : ∀ length, engine.inputSduLength = some length →
    engine.inputSdu.length < length ∧ length ≤ engine.config.localMtu.toNat
  idle : engine.inputSduLength = none → engine.inputSdu = []
  delivered : ∀ sdu ∈ engine.received, sdu.length ≤ engine.config.localMtu.toNat

/-- Two engines that differ only in what was received. -/
def Receives (e e' : ErtmEngine) : Prop :=
  ∃ inputSdu inputSduLength received, e' =
    { e with inputSdu := inputSdu, inputSduLength := inputSduLength, received := received }

theorem InputBounded.reset {received : List Bytes}
    (h : ∀ sdu ∈ received, sdu.length ≤ e.config.localMtu.toNat) :
    InputBounded { e with inputSdu := [], inputSduLength := none, received := received } :=
  ⟨nofun, fun _ => rfl, h⟩

/-- A partial SDU is kept while it is too short. -/
theorem checkPartialLength_bounded
    (hdelivered : ∀ sdu ∈ e.received, sdu.length ≤ e.config.localMtu.toNat) {length : ℕ}
    (hlength : e.inputSduLength = some length) (hmtu : length ≤ e.config.localMtu.toNat) :
    Receives e (checkPartialLength e).2 ∧ InputBounded (checkPartialLength e).2 := by
  rw [checkPartialLength, Exec.get_bind]
  split
  · exact ⟨⟨[], none, _, rfl⟩, .reset hdelivered⟩
  · rename_i hshort
    have hshort : e.inputSdu.length < length := by
      rw [hlength] at hshort
      simpa using hshort
    refine ⟨⟨_, _, _, rfl⟩, ?_, ?_, hdelivered⟩
    · intro length' hlength'
      cases hlength.symm.trans hlength'
      exact ⟨hshort, hmtu⟩
    · intro hnone
      cases hlength.symm.trans hnone

/-- **Reassembly** changes only what was received, and keeps it within the local MTU. -/
theorem acceptInformation_bounded (h : InputBounded e) (sar : SegmentationAndReassembly)
    (payload : Bytes) :
    Receives e (acceptInformation sar payload e).2 ∧
      InputBounded (acceptInformation sar payload e).2 := by
  have hsame : Receives e e := ⟨_, _, _, rfl⟩
  have hreset : Receives e { e with inputSdu := [], inputSduLength := none } := ⟨_, _, _, rfl⟩
  have hnew (sdu : Bytes) (hsdu : sdu.length ≤ e.config.localMtu.toNat) :
      ∀ sdu' ∈ e.received ++ [sdu], sdu'.length ≤ e.config.localMtu.toNat := by
    intro sdu' hmem
    rcases List.mem_append.mp hmem with hmem | hmem
    · exact h.delivered sdu' hmem
    · rw [List.mem_singleton.mp hmem]
      exact hsdu
  cases sar with
  | unsegmented =>
    rw [acceptInformation, Exec.get_bind]
    dsimp only
    split
    · exact ⟨hreset, .reset h.delivered⟩
    split
    · exact ⟨hsame, h⟩
    · rename_i hlength
      exact ⟨⟨_, _, _, rfl⟩, h.started, h.idle, hnew payload (Nat.not_lt.mp hlength)⟩
  | start =>
    rw [acceptInformation, Exec.get_bind]
    dsimp only
    split
    · exact ⟨hsame, h⟩
    split
    · exact ⟨hreset, .reset h.delivered⟩
    split
    · exact ⟨hsame, h⟩
    · rename_i hmtu
      have hcheck := checkPartialLength_bounded
        (e := { e with
          inputSduLength := some (le16At payload 0).toNat
          inputSdu := e.inputSdu ++ payload.drop 2 }) h.delivered rfl (Nat.not_lt.mp hmtu)
      obtain ⟨⟨i, l, r, hreceives⟩, hbounded⟩ := hcheck
      exact ⟨⟨i, l, r, hreceives⟩, hbounded⟩
  | continuation =>
    rw [acceptInformation, Exec.get_bind]
    dsimp only
    split
    · exact ⟨hsame, h⟩
    · rename_i hstarted
      obtain ⟨length, hlength⟩ := Option.ne_none_iff_exists'.mp (by simpa using hstarted)
      obtain ⟨⟨i, l, r, hreceives⟩, hbounded⟩ := checkPartialLength_bounded
        (e := { e with inputSdu := e.inputSdu ++ payload }) h.delivered hlength
        (h.started length hlength).2
      exact ⟨⟨i, l, r, hreceives⟩, hbounded⟩
  | «end» =>
    rw [acceptInformation, Exec.get_bind]
    dsimp only
    rcases hlength : e.inputSduLength with _ | length
    · exact ⟨hsame, h⟩
    · dsimp only
      rw [extendInput, Exec.modify_bind]
      split
      · exact ⟨⟨_, _, _, rfl⟩, .reset h.delivered⟩
      · rename_i hcomplete
        refine ⟨⟨_, _, _, rfl⟩, .reset (hnew _ ?_)⟩
        rw [List.length_append, not_not.mp hcomplete]
        exact (h.started length hlength).2

end ErtmEngine

end ClassicHid

import ClassicHid.L2cap.ErtmLink
import ClassicHid.L2cap.Segmentation

/-!
# Reliable delivery

What an engine delivers is the beginning of what the other one accepted, whatever the link loses
and in whatever order the engines act. An engine refuses a frame of the other one only when it has
given up.

## Main definitions

* `ErtmHistory`: two engines with the SDUs that were accepted and delivered
* `ErtmHistory.Reliable`: the invariant

## Main results

* `ErtmHistory.Reliable.receive`: the oldest frame is delivered
* `ErtmHistory.Reliable.step`: every step keeps the invariant
* `ErtmHistory.reliable_delivery`: delivery in order, without loss or duplicates
-/

namespace ClassicHid

open Foundation

/-- A frame without its number. -/
def PendingFrame.segment (frame : PendingFrame) : Segment :=
  { payload := frame.payload, sar := frame.sar, sduLength := frame.sduLength }

theorem segment_numberFrom (next : UInt8) (l : List Segment) :
    (numberFrom next l).map PendingFrame.segment = l := by
  induction l generalizing next with
  | nil => rfl
  | cons segment l ih => rw [numberFrom, List.map_cons, ih]; rfl

namespace ErtmEngine

variable {e e' e₁ : ErtmEngine} {acked : ℕ} {m : Update Unit}

/-- What an attempt to send leaves: it receives nothing, and it fails only when it gives up. -/
structure Answers (acked : ℕ) (sent : List Outgoing) (result : Except L2capError Unit)
    (e e' : ErtmEngine) : Prop where
  advances : Advances acked [] sent e e'
  input : InputBounded e'
  expected : e'.expectedTxSeq = e.expectedTxSeq
  inputSdu : e'.inputSdu = e.inputSdu
  inputLength : e'.inputSduLength = e.inputSduLength
  received : e'.received = e.received
  error : ∀ error, result = .error error → GaveUp e'
  gaveUp : (e.failed = true → GaveUp e) → e'.failed = true → GaveUp e'

/-- An attempt to send after an acknowledgement. -/
theorem Attempts.answers (hnumbered : Numbered e) (hinput : InputBounded e)
    (hactive : e.failed = false) (hacks : Acknowledges acked e e₁) (h : Attempts m e₁) :
    ∃ sent, Answers acked sent (m e₁).1 e (m e₁).2 := by
  obtain ⟨sent, e', hsends, _, hend⟩ := h
  have hrange : e₁.expectedTxSeq.toNat < 64 := by
    rw [hacks.expected]
    exact hnumbered.expected
  refine ⟨sent, ?_⟩
  have hstate : (m e₁).2 = e' := by
    rcases hend with ⟨hrun, _⟩ | ⟨error, hrun, _⟩ <;> rw [hrun]
  rw [hstate]
  constructor
  · exact .of_acknowledges hnumbered hacks (.refl e₁) hrange hsends
  · exact hsends.inputBounded (hacks.inputBounded hinput)
  · rw [hsends.expected, hacks.expected]
  · rw [hsends.inputSdu, hacks.inputSdu]
  · rw [hsends.inputLength, hacks.inputLength]
  · rw [hsends.received, hacks.received]
  · intro error herror
    rcases hend with ⟨hrun, _⟩ | ⟨_, _, hgave⟩
    · rw [hrun] at herror
      cases herror
    · exact hgave
  · intro _ hfailed'
    rcases hend with ⟨_, hfailed⟩ | ⟨_, _, hgave⟩
    · rw [hfailed, hacks.failed, hactive] at hfailed'
      cases hfailed'
    · exact hgave

/-- Nothing happens. -/
theorem Answers.refl (hnumbered : Numbered e) (hinput : InputBounded e) :
    Answers 0 [] (.ok ()) e e :=
  ⟨.refl hnumbered, hinput, rfl, rfl, rfl, rfl, nofun, id⟩

theorem tick_answers (hnumbered : Numbered e) (hinput : InputBounded e) (ticks : UInt32) :
    ∃ sent result, Answers 0 sent result e (e.apply (.tick ticks)) := by
  rw [apply]
  rcases tick_cases hnumbered.inRange ticks with
    ⟨error, hrun⟩ | ⟨hactive, hattempts⟩
  · rw [hrun]
    exact ⟨[], _, .refl hnumbered hinput⟩
  · obtain ⟨sent, hanswers⟩ :=
      hattempts.answers hnumbered hinput hactive (acknowledges_zero hnumbered.lastAcked)
    exact ⟨sent, _, hanswers⟩

theorem setReceiverBusy_answers (hnumbered : Numbered e) (hinput : InputBounded e) (busy : Bool) :
    ∃ sent result, Answers 0 sent result e (e.apply (.setReceiverBusy busy)) := by
  rw [apply]
  rcases setReceiverBusy_cases hnumbered.inRange busy with
    ⟨error, hrun⟩ | ⟨hactive, hattempts⟩
  · rw [hrun]
    exact ⟨[], _, .refl hnumbered hinput⟩
  · obtain ⟨sent, hanswers⟩ :=
      hattempts.answers hnumbered hinput hactive (acknowledges_zero hnumbered.lastAcked)
    exact ⟨sent, _, hanswers⟩

end ErtmEngine

/-! ### What was accepted and delivered -/

/-- Two engines over a link, with the SDUs that each accepted from its owner and those that it
delivered to it. -/
structure ErtmHistory where
  link : ErtmLink
  accepted : Side → List Bytes := fun _ => []
  delivered : Side → List Bytes := fun _ => []

namespace ErtmHistory

def step (op : ErtmLinkOp) (h : ErtmHistory) : ErtmHistory where
  link := h.link.step op
  accepted :=
    match op with
    | .sendSdu side sdu =>
      match ErtmEngine.sendSdu sdu (h.link.engine side) with
      | (.ok _, _) => Function.update h.accepted side (h.accepted side ++ [sdu])
      | (.error _, _) => h.accepted
    | _ => h.accepted
  delivered :=
    match op with
    | .deliver side => Function.update h.delivered side (h.delivered side ++
        ((h.link.step op).engine side).received.drop (h.link.engine side).received.length)
    | _ => h.delivered

def run (ops : List ErtmLinkOp) (h : ErtmHistory) : ErtmHistory :=
  ops.foldl (fun h op => h.step op) h

/-- The segments of `side` that its peer has not taken. -/
def coming (g : ErtmGhost) (side : Side) : List Segment :=
  ((g.log side).drop (g.taken side)).map PendingFrame.segment

/-- **The invariant**: in each direction, the SDUs that were not delivered are held or on their
way. -/
structure Reliable (config : Side → ErtmConfig) (h : ErtmHistory) (g : ErtmGhost) : Prop where
  sound : h.link.Sound config g
  gaveUp : ∀ side, (h.link.engine side).failed = true → (h.link.engine side).GaveUp
  reassembly : ∀ side, Reassembly (config side).peerMps.toNat (coming g side) (h.accepted side)
    (h.delivered side.other) (h.link.engine side.other).inputSdu
    (h.link.engine side.other).inputSduLength
  fits : ∀ side, ∀ sdu ∈ h.accepted side, sdu.length ≤ (config side).peerMtu.toNat

variable {config : Side → ErtmConfig} {h : ErtmHistory} {g : ErtmGhost} {side : Side}
  {e' : ErtmEngine} {acked taken : ℕ} {added : List PendingFrame} {sent : List Outgoing}
  {incoming : List Flight} {inFlight : List Bytes} {accepted delivered : List Bytes}

/-- **One engine acts**, with what it accepted and delivered after it. -/
theorem Reliable.advance (hr : Reliable config h g)
    (hsound : ErtmLink.Sound config
      { engine := Function.update h.link.engine side e'
        inFlight := Function.update h.link.inFlight side inFlight }
      (g.advance side acked added sent taken incoming))
    (hgaveUp : e'.failed = true → e'.GaveUp)
    (hout : Reassembly (config side).peerMps.toNat
      (((g.log side ++ added).drop (g.taken side)).map PendingFrame.segment) accepted
      (h.delivered side.other) (h.link.engine side.other).inputSdu
      (h.link.engine side.other).inputSduLength)
    (hin : Reassembly (config side.other).peerMps.toNat
      (((g.log side.other).drop taken).map PendingFrame.segment) (h.accepted side.other)
      delivered e'.inputSdu e'.inputSduLength)
    (hfits : ∀ sdu ∈ accepted, sdu.length ≤ (config side).peerMtu.toNat) :
    Reliable config
      { link := {
          engine := Function.update h.link.engine side e'
          inFlight := Function.update h.link.inFlight side inFlight }
        accepted := Function.update h.accepted side accepted
        delivered := Function.update h.delivered side delivered }
      (g.advance side acked added sent taken incoming) := by
  have hne := Side.other_ne side
  constructor
  · exact hsound
  · refine ErtmLink.forall_side side ?_ ?_
    · simpa only [Function.update_self] using hgaveUp
    · simpa only [Function.update_of_ne hne] using hr.gaveUp side.other
  · refine ErtmLink.forall_side side ?_ ?_
    · simpa only [coming, ErtmGhost.advance, Function.update_self, Function.update_of_ne hne,
        Function.update_of_ne hne.symm] using hout
    · simpa only [coming, ErtmGhost.advance, Function.update_self, Function.update_of_ne hne,
        Side.other_other] using hin
  · refine ErtmLink.forall_side side ?_ ?_
    · simpa only [Function.update_self] using hfits
    · simpa only [Function.update_of_ne hne] using hr.fits side.other

/-- **An operation that takes no frame from the link and receives nothing.** -/
theorem Reliable.act (hr : Reliable config h g)
    (hadvances : ErtmEngine.Advances 0 added sent (h.link.engine side) e')
    (hinput : e'.InputBounded) (hexpected : e'.expectedTxSeq = (h.link.engine side).expectedTxSeq)
    (hsdu : e'.inputSdu = (h.link.engine side).inputSdu)
    (hlength : e'.inputSduLength = (h.link.engine side).inputSduLength)
    (hgaveUp : e'.failed = true → e'.GaveUp)
    (hout : Reassembly (config side).peerMps.toNat
      (((g.log side ++ added).drop (g.taken side)).map PendingFrame.segment) accepted
      (h.delivered side.other) (h.link.engine side.other).inputSdu
      (h.link.engine side.other).inputSduLength)
    (hfits : ∀ sdu ∈ accepted, sdu.length ≤ (config side).peerMtu.toNat) :
    ∃ g', Reliable config
      { h with
        link := h.link.setEngine side e'
        accepted := Function.update h.accepted side accepted } g' := by
  have hsound := hr.sound.act hadvances hinput hexpected
  have hin := hr.reassembly side.other
  rw [Side.other_other, ← hsdu, ← hlength] at hin
  rw [ErtmLink.setEngine, ← Function.update_eq_self side h.link.inFlight] at hsound
  have hkept := hr.advance hsound hgaveUp hout hin hfits
  rw [Function.update_eq_self, Function.update_eq_self] at hkept
  exact ⟨_, hkept⟩

theorem Reliable.answers (hr : Reliable config h g) {result : Except L2capError Unit}
    (hanswers : ErtmEngine.Answers 0 sent result (h.link.engine side) e') :
    ∃ g', Reliable config { h with link := h.link.setEngine side e' } g' := by
  have hout := hr.reassembly side
  rw [coming, ← List.append_nil (g.log side)] at hout
  obtain ⟨g', hkept⟩ := hr.act hanswers.advances hanswers.input hanswers.expected
    hanswers.inputSdu hanswers.inputLength (hanswers.gaveUp (hr.gaveUp side)) hout (hr.fits side)
  rw [Function.update_eq_self] at hkept
  exact ⟨g', hkept⟩

/-- **An SDU is accepted or refused.** -/
theorem Reliable.sendSdu (hr : Reliable config h g) (hmps : ∀ side, (config side).peerMps.toNat ≠ 0)
    (side : Side) (sdu : Bytes) : ∃ g', Reliable config (h.step (.sendSdu side sdu)) g' := by
  have hnumbered := hr.sound.numbered side
  have hunchanged := hr.sound.unchanged side
  rcases ErtmEngine.sendSdu_cases hnumbered.inRange hnumbered.next_lt sdu with
    ⟨error, hrun⟩ | ⟨sent, e', hrun, hactive, hlength, hsends, hfailed, _⟩
  · have hstep : h.step (.sendSdu side sdu) = h := by
      rw [step, ErtmLink.step, ErtmEngine.apply, hrun, ErtmLink.setEngine, Function.update_eq_self]
    rw [hstep]
    exact ⟨g, hr⟩
  · have hstep : h.step (.sendSdu side sdu) = { h with
        link := h.link.setEngine side e'
        accepted := Function.update h.accepted side (h.accepted side ++ [sdu]) } := by
      rw [step, ErtmLink.step, ErtmEngine.apply, hrun]
    have hadvances := ErtmEngine.Advances.of_numbered hnumbered hsends
    have hinput : e'.InputBounded := by
      have hinput := hr.sound.input side
      exact hsends.inputBounded ⟨hinput.started, hinput.idle, hinput.delivered⟩
    have htaken : g.taken side ≤ (g.log side).length := by
      have hdirection := hr.sound.direction side
      have hsent := hdirection.window.expected_le
      have hwindow := congrArg List.length hdirection.unacked
      rw [ErtmEngine.unacked, List.length_append, List.length_map, List.length_drop] at hwindow
      have hbase := hdirection.base_le
      omega
    rw [hstep]
    refine hr.act hadvances hinput hsends.expected hsends.inputSdu hsends.inputLength ?_ ?_ ?_
    · intro hgave
      rw [hfailed] at hgave
      cases hgave
    · rw [List.drop_append_of_le_length htaken, List.map_append, segment_numberFrom, hunchanged]
      exact (hr.reassembly side).send (hmps side) sdu
    · intro sdu' hmem
      rcases List.mem_append.mp hmem with hmem | hmem
      · exact hr.fits side sdu' hmem
      · rw [List.mem_singleton.mp hmem, ← hunchanged]
        exact hlength

/-- A delivered SDU is taken by the owner. -/
theorem Reliable.popReceived (hr : Reliable config h g) (side : Side) :
    ∃ g', Reliable config (h.step (.popReceived side)) g' := by
  have hnumbered := hr.sound.numbered side
  have hinput := hr.sound.input side
  have hout := hr.reassembly side
  rw [coming, ← List.append_nil (g.log side)] at hout
  obtain ⟨received, happly, hmem⟩ := (h.link.engine side).apply_popReceived
  have hstep : h.step (.popReceived side) = { h with
      link := h.link.setEngine side { h.link.engine side with received := received } } := by
    rw [← happly]
    rfl
  obtain ⟨g', hkept⟩ := hr.act (ErtmEngine.advances_received hnumbered received)
    ⟨hinput.started, hinput.idle, fun sdu hsdu => hinput.delivered sdu (hmem sdu hsdu)⟩ rfl rfl rfl
    (hr.gaveUp side) hout (hr.fits side)
  rw [Function.update_eq_self] at hkept
  rw [hstep]
  exact ⟨g', hkept⟩

/-- A frame that is put on the wire. -/
theorem Reliable.transmit (hr : Reliable config h g) (side : Side) :
    Reliable config (h.step (.transmit side)) g := by
  have hsound := hr.sound.transmit side
  have hne := Side.other_ne side
  have hstep : h.step (.transmit side) = { h with link := h.link.step (.transmit side) } := rfl
  rw [hstep]
  refine ⟨hsound, ?_, ?_, hr.fits⟩
  · rw [ErtmLink.step]
    split
    · exact hr.gaveUp
    refine ErtmLink.forall_side side ?_ ?_
    · simp only [Function.update_self]
      exact hr.gaveUp side
    · simpa only [Function.update_of_ne hne] using hr.gaveUp side.other
  · rw [ErtmLink.step]
    split
    · exact hr.reassembly
    refine ErtmLink.forall_side side ?_ ?_
    · simpa only [Function.update_of_ne hne] using hr.reassembly side
    · have hin := hr.reassembly side.other
      rw [Side.other_other] at hin
      simpa only [Side.other_other, Function.update_self] using hin

/-- **Frames are lost.** -/
theorem Reliable.lose (hr : Reliable config h g) (hincoming : incoming.Sublist (g.path side.other))
    (hbytes : inFlight ++ (h.link.engine side.other).outbound = incoming.map Flight.bytes) :
    ∃ g', Reliable config { h with
      link := { h.link with inFlight := Function.update h.link.inFlight side inFlight } } g' := by
  have hsound := hr.sound.lose hincoming hbytes
  have hout := hr.reassembly side
  have hin := hr.reassembly side.other
  rw [coming, ← List.append_nil (g.log side)] at hout
  rw [coming, Side.other_other] at hin
  have hkept := hr.advance (by rwa [Function.update_eq_self side h.link.engine])
    (hr.gaveUp side) hout hin (hr.fits side)
  rw [Function.update_eq_self, Function.update_eq_self, Function.update_eq_self] at hkept
  exact ⟨_, hkept⟩

/-- What a frame that is delivered leaves: `taken` frames of the peer are taken after it, and `new`
SDUs are delivered. -/
structure Reception (config : Side → ErtmConfig) (h : ErtmHistory) (g : ErtmGhost) (side : Side)
    (acked taken : ℕ) (sent : List Outgoing) (new : List Bytes) (incoming : List Flight)
    (result : Except L2capError Unit) (e' : ErtmEngine) : Prop where
  advances : ErtmEngine.Advances acked [] sent (h.link.engine side) e'
  input : e'.InputBounded
  expected : e'.expectedTxSeq.toNat = taken % 64
  window : SlidingWindow (config side.other).txWindowSize.toNat (g.base side.other) taken
    (g.base side.other + (h.link.engine side.other).txWindow.length)
    (incoming.filterMap Flight.number) ((g.path side).map Flight.ack)
  received : e'.received = (h.link.engine side).received ++ new
  reassembly : Reassembly (config side.other).peerMps.toNat
    (((g.log side.other).drop taken).map PendingFrame.segment) (h.accepted side.other)
    (h.delivered side ++ new) e'.inputSdu e'.inputSduLength
  gaveUp : e'.failed = true → e'.GaveUp
  error : ∀ error, result = .error error → e'.GaveUp

/-- A frame that is answered without being taken. -/
theorem Reliable.receives_of_answers (hr : Reliable config h g) {flight : Flight}
    {path : List Flight} (hpath : g.path side.other = flight :: path)
    {result : Except L2capError Unit}
    (hanswers : ErtmEngine.Answers acked sent result (h.link.engine side) e') :
    Reception config h g side acked (g.taken side.other) sent [] path result e' where
  advances := hanswers.advances
  input := hanswers.input
  expected := by
    have hin := (hr.sound.direction side.other).expected
    rwa [Side.other_other, ← hanswers.expected] at hin
  window := by
    have hin := (hr.sound.direction side.other).window
    rw [Side.other_other, hr.sound.unchanged, hpath] at hin
    exact hin.lose_data ((List.sublist_cons_self flight path).filterMap Flight.number)
  received := by rw [hanswers.received, List.append_nil]
  reassembly := by
    have hin := hr.reassembly side.other
    rw [Side.other_other, ← hanswers.inputSdu, ← hanswers.inputLength] at hin
    rwa [List.append_nil]
  gaveUp := hanswers.gaveUp (hr.gaveUp side)
  error := hanswers.error

/-- **The next frame is taken**: its segment is received. -/
theorem Reliable.take (hr : Reliable config h g)
    (hsize : (config side.other).txWindowSize.toNat < 64)
    (hmps : (config side.other).peerMps.toNat ≠ 0)
    (hmtu : (config side.other).peerMtu.toNat ≤ (config side).localMtu.toNat)
    (hactive : (h.link.engine side).failed = false) {n ack : ℕ} {frame : PendingFrame}
    {path : List Flight}
    (hpath : g.path side.other = { out := .information n frame, ack := ack } :: path)
    {e₁ : ErtmEngine} (hacks : ErtmEngine.Acknowledges acked (h.link.engine side) e₁)
    (hbusy : e₁.localBusy = false) (hnext : frame.txSeq = e₁.expectedTxSeq) (finalBit : Bool) :
    ∃ taken sent new e', ErtmEngine.receiveInformation frame.txSeq finalBit frame.sar
        (frame.sduLength.elim [] toLe16 ++ frame.payload) e₁ = (.ok (), e') ∧
      Reception config h g side acked taken sent new path (.ok ()) e' := by
  have hnumbered := hr.sound.numbered side
  have hin := hr.sound.direction side.other
  have hreassembly := hr.reassembly side.other
  rw [Side.other_other] at hin hreassembly
  have hrange₁ := hacks.inRange hnumbered.inRange
  -- The frame that looks like the next one is the next one.
  have hframe : (g.log side.other)[n]? = some frame := by
    refine hin.content n frame ack ?_
    rw [hpath]
    exact List.mem_cons_self
  have hwindow := hin.window
  rw [hr.sound.unchanged, hpath] at hwindow
  have htx := hin.txSeq n frame hframe
  rw [hnext, hacks.expected, hin.expected] at htx
  have hn : n = g.taken side.other :=
    hwindow.eq_of_mod_eq hsize List.mem_cons_self htx.symm
  subst hn
  obtain ⟨hlt, hget⟩ := List.getElem?_eq_some_iff.mp hframe
  rw [coming, List.drop_eq_getElem_cons hlt, hget, List.map_cons] at hreassembly
  have hsdu₁ : (ErtmEngine.expecting e₁).inputSdu = (h.link.engine side).inputSdu := hacks.inputSdu
  have hlength₁ : (ErtmEngine.expecting e₁).inputSduLength = (h.link.engine side).inputSduLength :=
    hacks.inputLength
  rw [← hsdu₁, ← hlength₁] at hreassembly
  have hfits : ∀ sdu ∈ h.accepted side.other,
      sdu.length ≤ (ErtmEngine.expecting e₁).config.localMtu.toNat := by
    intro sdu hmem
    have hsdu := hr.fits side.other sdu hmem
    have hconfig : (ErtmEngine.expecting e₁).config = config side :=
      hacks.config.trans (hr.sound.unchanged side)
    rw [hconfig]
    exact Nat.le_trans hsdu hmtu
  obtain ⟨e₂, new, haccept, hreceived, hreassembly⟩ := hreassembly.take hmps hfits
  rcases ErtmEngine.receiveInformation_cases hrange₁ (hacks.inputBounded (hr.sound.input side))
    frame.txSeq finalBit frame.sar (frame.sduLength.elim [] toLe16 ++ frame.payload) with
    ⟨hother | hother, _⟩ | ⟨_, e₃, hreceives, hbounded, hstate, hend⟩
  · rw [hbusy] at hother
    cases hother
  · exact absurd hnext hother
  have hsame : (ErtmEngine.acceptInformation frame.sar
      (frame.sduLength.elim [] toLe16 ++ frame.payload) (ErtmEngine.expecting e₁)) =
      (.ok (), e₂) := haccept
  rw [hsame] at hstate hend
  dsimp only at hstate
  subst hstate
  rcases hend with ⟨error, herror, _⟩ | ⟨_, sent, e', hrun, hsends, hfailed, _⟩
  · cases herror
  have hexpected₂ : e₂.expectedTxSeq.toNat = (g.taken side.other + 1) % 64 := by
    obtain ⟨_, _, _, heq⟩ := hreceives
    rw [heq]
    change (sequenceAdd e₁.expectedTxSeq 1).toNat = _
    rw [toNat_sequenceAdd, hacks.expected, hin.expected]
    omega
  have hrange₂ : e₂.expectedTxSeq.toNat < 64 := by
    rw [hexpected₂]
    exact Nat.mod_lt _ (by decide)
  refine ⟨g.taken side.other + 1, sent, new, e', hrun, ?_⟩
  constructor
  · exact .of_acknowledges hnumbered hacks hreceives.sameSender hrange₂ hsends
  · exact hsends.inputBounded hbounded
  · rw [hsends.expected, hexpected₂]
  · exact hwindow.receive
  · rw [hsends.received, hreceived]
    congr 1
    exact hacks.received
  · rw [hsends.inputSdu, hsends.inputLength]
    exact hreassembly
  · intro hgave
    obtain ⟨_, _, _, heq⟩ := hreceives
    rw [hfailed, heq] at hgave
    have hfailed₁ : e₁.failed = true := hgave
    rw [hacks.failed, hactive] at hfailed₁
    cases hfailed₁
  · exact nofun

/-- **The oldest frame is delivered** to an engine that did not give up. -/
theorem Reliable.receive (hr : Reliable config h g)
    (hsize : ∀ side, (config side).txWindowSize.toNat < 64)
    (hmps : ∀ side, (config side).peerMps.toNat ≠ 0)
    (hmtu : ∀ side, (config side).peerMtu.toNat ≤ (config side.other).localMtu.toNat)
    (hactive : (h.link.engine side).failed = false) {flight : Flight} {path : List Flight}
    (hpath : g.path side.other = flight :: path) :
    ∃ acked taken sent new,
      SlidingWindow (config side).txWindowSize.toNat (g.base side + acked) (g.taken side)
        (g.base side + (h.link.engine side).txWindow.length)
        ((g.path side).filterMap Flight.number) (path.map Flight.ack) ∧
      Reception config h g side acked taken sent new path
        (ErtmEngine.receiveFrame flight.bytes (h.link.engine side)).1
        (ErtmEngine.receiveFrame flight.bytes (h.link.engine side)).2 := by
  have hnumbered := hr.sound.numbered side
  have hinput := hr.sound.input side
  obtain ⟨acked, any, e₁, _, hacks, hrun, hwindow⟩ :=
    hr.sound.receive (hsize side) hpath hactive
  have hrange₁ := hacks.inRange hnumbered.inRange
  have hinput₁ := hacks.inputBounded hinput
  rw [hrun]
  obtain ⟨out, ack⟩ := flight
  cases out with
  | supervisory function poll finalBit =>
    have hfunction : function ≠ .selectiveReject :=
      (hr.sound.direction side.other).supervisory function poll finalBit ack (by simp [hpath])
    rcases ErtmEngine.receiveSupervisory_cases hrange₁ function poll finalBit
      (UInt8.ofNat (ack % 64)) any with hattempts | ⟨hselective, _⟩
    · obtain ⟨sent, hanswers⟩ := hattempts.answers hnumbered hinput hactive hacks
      exact ⟨acked, _, sent, [], hwindow, hr.receives_of_answers hpath hanswers⟩
    · exact absurd hselective hfunction
  | information n frame =>
    have hdrop : (Flight.bytes { out := .information n frame, ack := ack }).drop 2 =
        frame.sduLength.elim [] toLe16 ++ frame.payload := frame.drop_bytes _
    rw [Flight.control, ErtmEngine.receiveControl, hdrop]
    rcases ErtmEngine.receiveInformation_cases hrange₁ hinput₁ frame.txSeq false frame.sar
      (frame.sduLength.elim [] toLe16 ++ frame.payload) with ⟨_, hattempts⟩ |
      ⟨⟨hbusy, hnext⟩, _⟩
    · obtain ⟨sent, hanswers⟩ := hattempts.answers hnumbered hinput hactive hacks
      exact ⟨acked, _, sent, [], hwindow, hr.receives_of_answers hpath hanswers⟩
    · have hmtu' := hmtu side.other
      rw [Side.other_other] at hmtu'
      obtain ⟨taken, sent, new, e', hrun', hreception⟩ := hr.take (hsize side.other)
        (hmps side.other) hmtu' hactive hpath hacks hbusy hnext false
      rw [hrun']
      exact ⟨acked, taken, sent, new, hwindow, hreception⟩

/-- An engine that gave up refuses every frame. -/
theorem receiveFrame_failed {e : ErtmEngine} (hfailed : e.failed = true) (frame : Bytes) :
    ∃ error, ErtmEngine.receiveFrame frame e = (.error error, e) := by
  rcases ErtmEngine.ensureActive_cases (e := e) with ⟨_, error, hactive⟩ | ⟨hactive, _⟩
  · exact ⟨error, by rw [ErtmEngine.receiveFrame, Exec.bind_error hactive]⟩
  · rw [hfailed] at hactive
    cases hactive

theorem step_deliver {frame : Bytes} (hinFlight : h.link.inFlight side = frame :: inFlight) :
    h.step (.deliver side) =
      { link := {
          engine := Function.update h.link.engine side
            (ErtmEngine.receiveFrame frame (h.link.engine side)).2
          inFlight := Function.update h.link.inFlight side inFlight }
        accepted := h.accepted
        delivered := Function.update h.delivered side (h.delivered side ++
          (ErtmEngine.receiveFrame frame (h.link.engine side)).2.received.drop
            (h.link.engine side).received.length) } := by
  have hlink : h.link.step (.deliver side) = {
      engine := Function.update h.link.engine side
        (ErtmEngine.receiveFrame frame (h.link.engine side)).2
      inFlight := Function.update h.link.inFlight side inFlight } := by
    rw [ErtmLink.step]
    simp only [hinFlight]
    rfl
  rw [step, hlink]
  simp only [Function.update_self]

/-- **A frame is delivered.** -/
theorem Reliable.deliver (hr : Reliable config h g)
    (hsize : ∀ side, (config side).txWindowSize.toNat < 64)
    (hmps : ∀ side, (config side).peerMps.toNat ≠ 0)
    (hmtu : ∀ side, (config side).peerMtu.toNat ≤ (config side.other).localMtu.toNat)
    (side : Side) : ∃ g', Reliable config (h.step (.deliver side)) g' := by
  rcases hinFlight : h.link.inFlight side with _ | ⟨frame, inFlight⟩
  · have hlink : h.link.step (.deliver side) = h.link := by
      rw [ErtmLink.step, hinFlight]
    have hstep : h.step (.deliver side) = h := by
      rw [step, hlink, List.drop_length, List.append_nil, Function.update_eq_self]
    rw [hstep]
    exact ⟨g, hr⟩
  obtain ⟨flight, path, hpath, rfl, hbytes⟩ := hr.sound.head hinFlight
  rw [step_deliver hinFlight]
  rcases hfailed : (h.link.engine side).failed with _ | _
  · obtain ⟨acked, taken, sent, new, hacks, hreception⟩ := hr.receive hsize hmps hmtu hfailed hpath
    have hincoming : path.Sublist (g.path side.other) := by
      rw [hpath]
      exact List.sublist_cons_self flight path
    have hsound := hr.sound.advance hreception.advances hreception.input hincoming hbytes
      hreception.expected hacks hreception.window
    have hout := hr.reassembly side
    rw [coming, ← List.append_nil (g.log side)] at hout
    have hkept := hr.advance hsound hreception.gaveUp hout hreception.reassembly (hr.fits side)
    rw [Function.update_eq_self side h.accepted] at hkept
    rw [hreception.received, List.drop_left]
    exact ⟨_, hkept⟩
  · obtain ⟨error, hrun⟩ := receiveFrame_failed hfailed flight.bytes
    rw [hrun, List.drop_length, List.append_nil, Function.update_eq_self, Function.update_eq_self]
    refine hr.lose ?_ hbytes
    rw [hpath]
    exact List.sublist_cons_self flight path

/-- **Every step keeps the invariant.** -/
theorem Reliable.step (hr : Reliable config h g)
    (hsize : ∀ side, (config side).txWindowSize.toNat < 64)
    (hmps : ∀ side, (config side).peerMps.toNat ≠ 0)
    (hmtu : ∀ side, (config side).peerMtu.toNat ≤ (config side.other).localMtu.toNat)
    (op : ErtmLinkOp) : ∃ g', Reliable config (h.step op) g' := by
  cases op with
  | sendSdu side sdu => exact hr.sendSdu hmps side sdu
  | tick side ticks =>
    obtain ⟨sent, result, hanswers⟩ :=
      ErtmEngine.tick_answers (hr.sound.numbered side) (hr.sound.input side) ticks
    exact hr.answers hanswers
  | setReceiverBusy side busy =>
    obtain ⟨sent, result, hanswers⟩ :=
      ErtmEngine.setReceiverBusy_answers (hr.sound.numbered side) (hr.sound.input side) busy
    exact hr.answers hanswers
  | popReceived side => exact hr.popReceived side
  | transmit side => exact ⟨g, hr.transmit side⟩
  | deliver side => exact hr.deliver hsize hmps hmtu side
  | drop side index =>
    rcases Nat.lt_or_ge index (h.link.inFlight side).length with hindex | hindex
    · have hbytes := (hr.sound.direction side.other).bytes
      rw [Side.other_other] at hbytes
      refine hr.lose (List.eraseIdx_sublist (g.path side.other) index) ?_
      rw [← List.eraseIdx_append_of_lt_length hindex, hbytes, List.eraseIdx_map]
    · have hstep : h.step (.drop side index) = h := by
        have hlink := h.link.step_drop_of_le hindex
        have hsame : h.step (.drop side index) = { h with link := h.link.step (.drop side index) } :=
          rfl
        rw [hsame, hlink]
      rw [hstep]
      exact ⟨g, hr⟩

theorem reliable_new (config : Side → ErtmConfig) :
    Reliable config { link := ErtmLink.new config } {} where
  sound := ErtmLink.sound_new config
  gaveUp _ := nofun
  reassembly _ := Reassembly.initial _
  fits _ := nofun

theorem Reliable.run (hr : Reliable config h g)
    (hsize : ∀ side, (config side).txWindowSize.toNat < 64)
    (hmps : ∀ side, (config side).peerMps.toNat ≠ 0)
    (hmtu : ∀ side, (config side).peerMtu.toNat ≤ (config side.other).localMtu.toNat)
    (ops : List ErtmLinkOp) : ∃ g', Reliable config (h.run ops) g' := by
  induction ops generalizing h g with
  | nil => exact ⟨g, hr⟩
  | cons op ops ih =>
    obtain ⟨g', hr'⟩ := hr.step hsize hmps hmtu op
    exact ih hr'

/-- **Reliable delivery.** Two engines with valid configurations, neither of which may send longer
SDUs than the other one takes, over a link that may lose any frames: after any operations, the SDUs
that each has delivered are the first ones that the other has accepted, and it refuses the next
frame on the link only when it has given up on a frame that was sent too often. -/
theorem reliable_delivery {config : Side → ErtmConfig} {engine : Side → ErtmEngine}
    (hnew : ∀ side, ErtmEngine.new (config side) = .ok (engine side))
    (hmtu : ∀ side, (config side).peerMtu ≤ (config side.other).localMtu)
    (ops : List ErtmLinkOp) (side : Side) :
    let last := run ops { link := { engine := engine } }
    last.delivered side.other <+: last.accepted side ∧
    ∀ frame inFlight, last.link.inFlight side = frame :: inFlight → ∀ error,
      (ErtmEngine.receiveFrame frame (last.link.engine side)).1 = .error error →
      (ErtmEngine.receiveFrame frame (last.link.engine side)).2.GaveUp := by
  have hsize (side : Side) : (config side).txWindowSize.toNat < 64 :=
    (ErtmEngine.new_eq_ok (hnew side)).2
  have hmps (side : Side) : (config side).peerMps.toNat ≠ 0 :=
    ErtmEngine.peerMps_ne_zero (hnew side)
  have hmtu (side : Side) : (config side).peerMtu.toNat ≤ (config side.other).localMtu.toNat :=
    UInt16.le_iff_toNat_le.mp (hmtu side)
  have hstart : ({ link := { engine := engine } } : ErtmHistory) =
      { link := ErtmLink.new config } := by
    have hengine : engine = fun side => { config := config side } := by
      funext side
      exact (ErtmEngine.new_eq_ok (hnew side)).1
    rw [hengine]
    rfl
  intro last
  obtain ⟨g, hr⟩ : ∃ g, Reliable config last g := by
    have hrun := (reliable_new config).run hsize hmps hmtu ops
    rwa [← hstart] at hrun
  refine ⟨(hr.reassembly side).isPrefix, ?_⟩
  intro frame inFlight hinFlight error herror
  obtain ⟨flight, path, hpath, rfl, _⟩ := hr.sound.head hinFlight
  rcases hfailed : (last.link.engine side).failed with _ | _
  · obtain ⟨_, _, _, _, _, hreception⟩ := hr.receive hsize hmps hmtu hfailed hpath
    exact hreception.error error herror
  · obtain ⟨_, hrun⟩ := receiveFrame_failed hfailed flight.bytes
    rw [hrun]
    exact hr.gaveUp side hfailed

/-- The first frame of an SDU is lost and sent again, and the SDU arrives once. The sender gives up
on it when the acknowledgement comes too late. -/
theorem reliable_delivery_lossy :
    let config : ErtmConfig := {
      localMtu := 48, peerMtu := 48, localMps := 4, peerMps := 4, txWindowSize := 2,
      maxRetransmissions := 1, retransmissionTimeoutTicks := 10 }
    let ops : List ErtmLinkOp := [.sendSdu .a [1, 2, 3, 4, 5], .transmit .a, .transmit .a,
      .drop .b 0, .deliver .b, .transmit .b, .deliver .a, .transmit .a, .transmit .a,
      .deliver .b, .deliver .b, .sendSdu .a [6], .tick .a 10, .transmit .b]
    let last := run ops { link := { engine := fun _ => { config := config } } }
    last.delivered .b = [[1, 2, 3, 4, 5]] ∧ last.accepted .a = [[1, 2, 3, 4, 5], [6]] ∧
      last.delivered .b <+: last.accepted .a ∧ last.link.inFlight .a = [[1, 1]] ∧
      (ErtmEngine.receiveFrame [1, 1] (last.link.engine .a)).2.GaveUp := by
  intro config ops last
  have hnew : ErtmEngine.new config = .ok { config := config } := rfl
  have hmtu : config.peerMtu ≤ config.localMtu := UInt16.le_refl _
  have hinFlight : last.link.inFlight .a = [[1, 1]] := by decide +kernel
  have hfailed : (last.link.engine .a).failed = true := by decide +kernel
  obtain ⟨error, hrun⟩ := receiveFrame_failed hfailed [1, 1]
  have herror : (ErtmEngine.receiveFrame [1, 1] (last.link.engine .a)).1 = .error error := by
    rw [hrun]
  refine ⟨by decide +kernel, by decide +kernel, ?_, hinFlight, ?_⟩
  · exact (reliable_delivery (fun _ => hnew) (fun _ => hmtu) ops .a).1
  · exact (reliable_delivery (fun _ => hnew) (fun _ => hmtu) ops .a).2 _ _ hinFlight _ herror

end ErtmHistory

end ClassicHid

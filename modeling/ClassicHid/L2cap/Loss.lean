import ClassicHid.L2cap.ErtmLink
import ClassicHid.L2cap.ErtmQuiet

/-!
# One lost frame

Two engines that are never busy and whose timers never run, over a link that loses one frame. Every
frame behind the lost one is answered with a reject of its own, and every reject makes the sender
send its whole window again, which counts against the limit of each frame of it. When a reject
finds no more than two frames outstanding, it is the only one, and what the sender sends again is
what is missing. Otherwise the frames that are sent again are answered with rejects in their turn.

## Main definitions

* `Intact`, `Missing`: a direction with every frame on its way, and one with a frame lost
* `ErtmLink.Steady`: the invariant of both directions
* `ErtmLink.rejects`: how many frames each reject of a run finds outstanding

## Main results

* `Intact.lose`, `Missing.receive`, `Missing.repair`: a loss, what follows it, and its repair
* `ErtmLink.Steady.step`, `ErtmLink.Steady.drop`: every step keeps the invariant
* `ErtmLink.one_loss_survived`: no engine gives up
* `ErtmLink.one_loss_fatal`: with three frames outstanding, one does
-/

namespace ClassicHid

open Foundation

namespace ErtmEngine

variable {e e' : ErtmEngine} {acked : ℕ} {added : List PendingFrame} {sent : List Outgoing}

/-- Every frame of the window was sent once. -/
def SentOnce (e : ErtmEngine) : Prop :=
  ∀ index < e.txWindow.length, e.transmissionsAt index = 1

/-- A frame that was sent no more often than the limit does not reach it. -/
theorem limit_of_le {max : UInt8} {entry : TransmittedFrame}
    (h : max ≠ 0 → entry.transmissions ≤ max.toNat) :
    retransmissionLimitReached max entry = false := by
  by_cases hmax : max = 0
  · simp [retransmissionLimitReached, hmax]
  · have hle := h hmax
    have hpos : max.toNat ≠ 0 := fun hzero => hmax (UInt8.toNat_inj.mp hzero)
    simp only [retransmissionLimitReached, ne_eq, hmax, not_false_eq_true, decide_true,
      Bool.true_and, ge_iff_le, decide_eq_false_iff_not]
    omega

theorem transmissions_of_mem {entry : TransmittedFrame} (hmem : entry ∈ e.txWindow) :
    ∃ index < e.txWindow.length, e.transmissionsAt index = entry.transmissions := by
  obtain ⟨index, hindex, rfl⟩ := List.getElem_of_mem hmem
  refine ⟨index, hindex, ?_⟩
  rw [transmissionsAt, List.getElem?_eq_getElem hindex, Option.elim_some]

/-- No limit is reached by frames that were sent once. -/
theorem SentOnce.limit (h : SentOnce e) {entry : TransmittedFrame} (hmem : entry ∈ e.txWindow) :
    retransmissionLimitReached e.config.maxRetransmissions entry = false := by
  obtain ⟨index, hindex, htransmissions⟩ := transmissions_of_mem hmem
  refine limit_of_le fun hmax => ?_
  rw [← htransmissions, h index hindex]
  exact Nat.pos_of_ne_zero fun hzero => hmax (UInt8.toNat_inj.mp hzero)

theorem transmissionsAt_of_le {index : ℕ} (hindex : e.txWindow.length ≤ index) :
    e.transmissionsAt index = 0 := by
  rw [transmissionsAt, List.getElem?_eq_none hindex, Option.elim_none]

/-- How often the frames of a range of places are sent. -/
theorem countP_range {first count index : ℕ} (hplaces : sent.filterMap Outgoing.place =
    List.range' first count) :
    sent.countP (·.isAt index) = if first ≤ index ∧ index < first + count then 1 else 0 := by
  rw [Outgoing.countP_isAt, hplaces, (List.nodup_range' ..).count]
  simp only [List.mem_range'_1]

/-- New frames are sent once. -/
theorem SentOnce.advance (h : SentOnce e) (hadvances : Advances acked added sent e e')
    (hplaces : sent.filterMap Outgoing.place = List.range' (e.txWindow.length - acked)
      (e'.txWindow.length - (e.txWindow.length - acked))) : SentOnce e' := by
  intro index hindex
  have hacked := hadvances.outstanding
  rw [hadvances.count, countP_range hplaces]
  rcases Nat.lt_or_ge index (e.txWindow.length - acked) with hlt | hge
  · rw [h _ (by omega), if_neg (by omega)]
  · rw [transmissionsAt_of_le (by omega), if_pos (by omega)]

/-- New frames are not sent again. -/
theorem transmissions_fresh {k : ℕ} (hhit : ∀ index, e.transmissionsAt index ≤ 1 + k)
    (hadvances : Advances acked added sent e e')
    (hplaces : sent.filterMap Outgoing.place = List.range' (e.txWindow.length - acked)
      (e'.txWindow.length - (e.txWindow.length - acked))) (index : ℕ) :
    e'.transmissionsAt index ≤ 1 + k := by
  have hacked := hadvances.outstanding
  rw [hadvances.count, countP_range hplaces]
  rcases Nat.lt_or_ge index (e.txWindow.length - acked) with hlt | hge
  · rw [if_neg (by omega)]
    exact hhit (acked + index)
  · rw [transmissionsAt_of_le (by omega)]
    split <;> omega

/-- Frames that are sent again are sent once more. -/
theorem transmissions_again {k k' : ℕ} (hhit : ∀ index, e.transmissionsAt index ≤ 1 + k)
    (hadvances : Advances acked added sent e e')
    (hplaces : sent.filterMap Outgoing.place = List.range' 0 e'.txWindow.length)
    (hmore : acked < e.txWindow.length → k + 1 ≤ k') (index : ℕ) :
    e'.transmissionsAt index ≤ 1 + k' := by
  rw [hadvances.count, countP_range hplaces]
  have hold := hhit (acked + index)
  by_cases hlt : acked < e.txWindow.length
  · have := hmore hlt
    split <;> omega
  · rw [transmissionsAt_of_le (by omega)]
    split <;> omega

end ErtmEngine

/-! ### One direction -/

variable {taken sent sent' n : ℕ} {flight : Flight} {path back back' more : List Flight}

/-- Every frame is on its way, once and in order, and none is asked for. -/
structure Intact (taken sent : ℕ) (path back : List Flight) : Prop where
  order : InOrder taken sent (path.filterMap Flight.number)
  unasked : ∀ flight ∈ back, flight.out.asks = false

/-- A frame is missing, and every frame that was received in its place asked for it. -/
structure Missing (taken sent : ℕ) (path back : List Flight) : Prop where
  gap : ∃ lost next, Gap taken sent (path.filterMap Flight.number)
    (back.countP (·.out.asks)) lost next
  asked : ∀ flight ∈ back, flight.out.asks = true → flight.ack = taken

theorem Intact.send (h : Intact taken sent path back) (htaken : taken ≤ sent)
    (hsent : sent ≤ sent') (hmore : more.filterMap Flight.number = List.range' sent (sent' - sent))
    (hback : back'.Sublist back) : Intact taken sent' (path ++ more) back' where
  order := by
    rw [List.filterMap_append, hmore]
    exact h.order.send htaken hsent
  unasked flight hmem := h.unasked flight (hback.subset hmem)

theorem Missing.send (h : Missing taken sent path back) (hsent : sent ≤ sent')
    (hmore : more.filterMap Flight.number = List.range' sent (sent' - sent))
    (hback : back'.Sublist back)
    (hcount : back'.countP (·.out.asks) = back.countP (·.out.asks)) :
    Missing taken sent' (path ++ more) back' where
  gap := by
    obtain ⟨lost, next, hgap⟩ := h.gap
    refine ⟨lost, next, ?_⟩
    rw [List.filterMap_append, hmore, hcount]
    exact hgap.send hsent
  asked flight hmem := h.asked flight (hback.subset hmem)

/-- Frames that do not ask for any are sent back. -/
theorem Intact.answer (h : Intact taken sent path back)
    (hmore : ∀ flight ∈ more, flight.out.asks = false) : Intact taken sent path (back ++ more) where
  order := h.order
  unasked flight hmem := (List.mem_append.mp hmem).elim (h.unasked flight) (hmore flight)

theorem Missing.answer (h : Missing taken sent path back)
    (hmore : ∀ flight ∈ more, flight.out.asks = false) :
    Missing taken sent path (back ++ more) where
  gap := by
    obtain ⟨lost, next, hgap⟩ := h.gap
    refine ⟨lost, next, ?_⟩
    have hzero : more.countP (·.out.asks) = 0 := by
      rw [List.countP_eq_zero]
      intro flight hmem
      rw [hmore flight hmem]
      exact Bool.false_ne_true
    rwa [List.countP_append, hzero, Nat.add_zero]
  asked flight hmem hasks := by
    rcases List.mem_append.mp hmem with hmem | hmem
    · exact h.asked flight hmem hasks
    · rw [hmore flight hmem] at hasks
      cases hasks

/-- A frame without a number leaves the path. -/
theorem filterMap_skip (hnumber : flight.number = none) :
    (flight :: path).filterMap Flight.number = path.filterMap Flight.number :=
  List.filterMap_cons_none hnumber

/-- A frame is received: it is the next one. -/
theorem Intact.receive (h : Intact taken sent (flight :: path) back)
    (hnumber : flight.number = some n) : n = taken ∧ Intact (taken + 1) sent path back := by
  have horder := h.order
  rw [List.filterMap_cons_some hnumber] at horder
  obtain ⟨hn, horder⟩ := horder.receive
  exact ⟨hn, horder, h.unasked⟩

/-- **A frame is lost.** -/
theorem Intact.lose (h : Intact taken sent path back) {index : ℕ} (hindex : index < path.length) :
    Intact taken sent (path.eraseIdx index) back ∨
      Missing taken sent (path.eraseIdx index) back := by
  have hsplit : path = path.take index ++ path[index] :: path.drop (index + 1) := by
    rw [← List.drop_eq_getElem_cons hindex, List.take_append_drop]
  rw [List.eraseIdx_eq_take_drop_succ]
  have hnumbers := congrArg (List.filterMap Flight.number) hsplit
  rcases hnumber : path[index].number with _ | n
  · refine .inl ⟨?_, h.unasked⟩
    rw [List.filterMap_append, filterMap_skip hnumber, ← List.filterMap_append] at hnumbers
    rw [← hnumbers]
    exact h.order
  · rw [List.filterMap_append, List.filterMap_cons_some hnumber] at hnumbers
    have hlost := h.order.lose (i := ((path.take index).filterMap Flight.number).length)
      (by rw [hnumbers, List.length_append, List.length_cons]; omega)
    have hzero : back.countP (·.out.asks) = 0 := by
      rw [List.countP_eq_zero]
      intro flight hmem
      rw [h.unasked flight hmem]
      exact Bool.false_ne_true
    rw [hnumbers, List.eraseIdx_append_of_length_le (Nat.le_refl _), Nat.sub_self,
      List.eraseIdx_cons_zero, ← List.filterMap_append, ← hzero] at hlost
    refine .inr ⟨⟨_, _, hlost⟩, ?_⟩
    intro flight hmem hasks
    rw [h.unasked flight hmem] at hasks
    cases hasks

/-- **What follows a loss**: the frames before the lost one are received, and each of those behind
it asks for it. -/
theorem Missing.receive (h : Missing taken sent (flight :: path) back)
    (hnumber : flight.number = some n) :
    n = taken ∧ Missing (taken + 1) sent path back ∨
      n ≠ taken ∧ ∀ answer : Flight, answer.out.asks = true → answer.ack = taken →
        Missing taken sent path (back ++ [answer]) := by
  obtain ⟨lost, next, hgap⟩ := h.gap
  rw [List.filterMap_cons_some hnumber] at hgap
  rcases hgap.receive with ⟨hn, hzero, hgap⟩ | ⟨hn, _, hgap⟩
  · refine .inl ⟨hn, ⟨lost, next, hgap⟩, ?_⟩
    intro flight hmem hasks
    exact absurd hasks (List.countP_eq_zero.mp hzero flight hmem)
  · refine .inr ⟨hn, fun answer hasks hack => ⟨⟨lost, next + 1, ?_⟩, ?_⟩⟩
    · rw [List.countP_append, List.countP_singleton, if_pos hasks]
      exact hgap
    · intro flight hmem hasks'
      rcases List.mem_append.mp hmem with hmem | hmem
      · exact h.asked flight hmem hasks'
      · rw [List.mem_singleton.mp hmem]
        exact hack

/-- **The repair**: the lost frame is asked for, and no more than two are outstanding. -/
theorem Missing.repair (h : Missing taken sent path (flight :: back))
    (hasks : flight.out.asks = true) (hfew : sent ≤ taken + 2) (hsent : sent ≤ sent')
    (hmore : more.filterMap Flight.number = List.range' taken (sent' - taken)) :
    Intact taken sent' (path ++ more) back := by
  obtain ⟨lost, next, hgap⟩ := h.gap
  rw [List.countP_cons, if_pos hasks] at hgap
  have hle : taken ≤ sent :=
    Nat.le_trans hgap.expected_le (Nat.le_trans (Nat.le_of_lt hgap.lost_lt) hgap.next_le)
  obtain ⟨hzero, _, horder⟩ := hgap.repair hfew
  constructor
  · have hlater := horder.send hle hsent
    rwa [List.append_assoc, range'_append_range' hle hsent, ← hmore, ← List.filterMap_append]
      at hlater
  · intro flight hmem
    exact Bool.eq_false_iff.mpr (List.countP_eq_zero.mp hzero flight hmem)

/-! ### Both directions -/

/-- The numbers of new frames. -/
theorem numbers_fresh {e e' : ErtmEngine} {acked : ℕ} {frames : List Outgoing} (base taken : ℕ)
    (hacked : acked ≤ e.txWindow.length)
    (hplaces : frames.filterMap Outgoing.place = List.range' (e.txWindow.length - acked)
      (e'.txWindow.length - (e.txWindow.length - acked))) :
    (flights (base + acked) taken frames).filterMap Flight.number =
      List.range' (base + e.txWindow.length)
        (base + acked + e'.txWindow.length - (base + e.txWindow.length)) := by
  rw [numbers_flights, hplaces, List.map_add_range']
  congr 1 <;> omega

theorem plain_flights {base : ℕ} {frames : List Outgoing} (hplain : ∀ out ∈ frames, out.Plain) :
    ∀ flight ∈ flights base taken frames, flight.out.Plain := by
  intro flight hmem
  obtain ⟨out, hout, rfl⟩ := List.mem_map.mp hmem
  have := hplain out hout
  cases out <;> exact this

theorem unasked_flights {base : ℕ} {frames : List Outgoing}
    (hplain : ∀ out ∈ frames, out.asks = false) :
    ∀ flight ∈ flights base taken frames, flight.out.asks = false := by
  intro flight hmem
  obtain ⟨out, hout, rfl⟩ := List.mem_map.mp hmem
  have := hplain out hout
  cases out <;> exact this

/-- The order of a direction: a loss leaves a frame missing. Nothing is said of a direction that is
exempt. -/
def Ordered (exempt : Prop) (lossy : Bool) (e : ErtmEngine) (base taken : ℕ)
    (path back : List Flight) : Prop :=
  Intact taken (base + e.txWindow.length) path back ∨
    lossy = true ∧ (exempt ∨ Missing taken (base + e.txWindow.length) path back ∧ e.SentOnce)

section Ordered

variable {exempt : Prop} {lossy : Bool} {e e' : ErtmEngine} {base acked t : ℕ}
  {added : List PendingFrame} {frames : List Outgoing}

/-- The sender sends new frames, perhaps after it took an acknowledgement. -/
theorem Ordered.send (h : Ordered exempt lossy e base taken path back)
    (htaken : taken ≤ base + e.txWindow.length)
    (hadvances : ErtmEngine.Advances acked added frames e e')
    (hplaces : frames.filterMap Outgoing.place = List.range' (e.txWindow.length - acked)
      (e'.txWindow.length - (e.txWindow.length - acked)))
    (hback : back'.Sublist back)
    (hcount : back'.countP (·.out.asks) = back.countP (·.out.asks)) :
    Ordered exempt lossy e' (base + acked) taken (path ++ flights (base + acked) t frames) back' := by
  have hmore := numbers_fresh base t hadvances.outstanding hplaces
  have hsent : base + e.txWindow.length ≤ base + acked + e'.txWindow.length := by
    have := hadvances.window
    omega
  rcases h with hintact | ⟨hlossy, hexempt | ⟨hmissing, honce⟩⟩
  · exact .inl (hintact.send htaken hsent hmore hback)
  · exact .inr ⟨hlossy, .inl hexempt⟩
  · exact .inr ⟨hlossy, .inr ⟨hmissing.send hsent hmore hback hcount,
      honce.advance hadvances hplaces⟩⟩

/-- Frames that ask for none are sent back. -/
theorem Ordered.answer (h : Ordered exempt lossy e base taken path back)
    (hmore : ∀ flight ∈ more, flight.out.asks = false) :
    Ordered exempt lossy e base taken path (back ++ more) := by
  rcases h with hintact | ⟨hlossy, hexempt | ⟨hmissing, honce⟩⟩
  · exact .inl (hintact.answer hmore)
  · exact .inr ⟨hlossy, .inl hexempt⟩
  · exact .inr ⟨hlossy, .inr ⟨hmissing.answer hmore, honce⟩⟩

/-- A frame without a number is received. -/
theorem Ordered.skip (h : Ordered exempt lossy e base taken (flight :: path) back)
    (hnumber : flight.number = none) : Ordered exempt lossy e base taken path back := by
  rcases h with hintact | ⟨hlossy, hexempt | ⟨hmissing, honce⟩⟩
  · refine .inl ⟨?_, hintact.unasked⟩
    rw [← filterMap_skip hnumber]
    exact hintact.order
  · exact .inr ⟨hlossy, .inl hexempt⟩
  · refine .inr ⟨hlossy, .inr ⟨⟨?_, hmissing.asked⟩, honce⟩⟩
    rw [← filterMap_skip hnumber]
    exact hmissing.gap

/-- The next frame is received. -/
theorem Ordered.receive (h : Ordered exempt lossy e base taken (flight :: path) back)
    (hnumber : flight.number = some taken) :
    Ordered exempt lossy e base (taken + 1) path back := by
  rcases h with hintact | ⟨hlossy, hexempt | ⟨hmissing, honce⟩⟩
  · exact .inl (hintact.receive hnumber).2
  · exact .inr ⟨hlossy, .inl hexempt⟩
  · rcases hmissing.receive hnumber with ⟨_, hnext⟩ | ⟨hother, _⟩
    · exact .inr ⟨hlossy, .inr ⟨hnext, honce⟩⟩
    · exact absurd rfl hother

/-- Another frame is received, and answered with a reject. -/
theorem Ordered.reject (h : Ordered exempt lossy e base taken (flight :: path) back)
    (hnumber : flight.number = some n) (hother : n ≠ taken) {answer : Flight}
    (hasks : answer.out.asks = true) (hack : answer.ack = taken) :
    Ordered exempt lossy e base taken path (back ++ [answer]) := by
  rcases h with hintact | ⟨hlossy, hexempt | ⟨hmissing, honce⟩⟩
  · exact absurd (hintact.receive hnumber).1 hother
  · exact .inr ⟨hlossy, .inl hexempt⟩
  · rcases hmissing.receive hnumber with ⟨hnext, _⟩ | ⟨_, hasked⟩
    · exact absurd hnext hother
    · exact .inr ⟨hlossy, .inr ⟨hasked answer hasks hack, honce⟩⟩

/-- **A reject is received**: the whole window is sent again. -/
theorem Ordered.repair (h : Ordered exempt lossy e base taken path (flight :: back))
    (hasks : flight.out.asks = true) (hack : base + acked = flight.ack)
    (hfew : ¬ exempt → e.txWindow.length ≤ acked + 2)
    (hwindow : e.txWindow.length ≤ acked + e'.txWindow.length)
    (hplaces : frames.filterMap Outgoing.place = List.range' 0 e'.txWindow.length) :
    Ordered exempt lossy e' (base + acked) taken (path ++ flights (base + acked) t frames) back := by
  rcases h with hintact | ⟨hlossy, hexempt | ⟨hmissing, honce⟩⟩
  · have hunasked := hintact.unasked flight List.mem_cons_self
    rw [hasks] at hunasked
    cases hunasked
  · exact .inr ⟨hlossy, .inl hexempt⟩
  · by_cases hexempt : exempt
    · exact .inr ⟨hlossy, .inl hexempt⟩
    have htaken := hmissing.asked flight List.mem_cons_self hasks
    have hfew := hfew hexempt
    refine .inl (hmissing.repair hasks (by omega) (by omega) ?_)
    rw [numbers_flights, hplaces, List.map_add_range', Nat.add_zero]
    congr 1 <;> omega

/-- A reject is received only after a loss. -/
theorem Ordered.lossy_of_asks (h : Ordered exempt lossy e base taken path (flight :: back))
    (hasks : flight.out.asks = true) : lossy = true := by
  rcases h with hintact | ⟨hlossy, _⟩
  · have hunasked := hintact.unasked flight List.mem_cons_self
    rw [hasks] at hunasked
    cases hunasked
  · exact hlossy

/-- A reject finds that every frame was sent once. -/
theorem Ordered.sentOnce_of_asks (h : Ordered exempt lossy e base taken path (flight :: back))
    (hasks : flight.out.asks = true) (hexempt : ¬ exempt) : e.SentOnce := by
  rcases h with hintact | ⟨_, hexempt' | ⟨_, honce⟩⟩
  · have hunasked := hintact.unasked flight List.mem_cons_self
    rw [hasks] at hunasked
    cases hunasked
  · exact absurd hexempt' hexempt
  · exact honce

end Ordered

namespace ErtmLink

/-- **The invariant**: neither engine is busy, a frame was sent again no more often than a reject
found any, and in each direction every frame is on its way, or one was lost. -/
structure Steady (config : Side → ErtmConfig) (exempt : Side → Prop) (lossy : Bool)
    (hits : Side → ℕ) (l : ErtmLink) (g : ErtmGhost) : Prop where
  sound : Sound config l g
  quiet : ∀ side, (l.engine side).Quiet
  plain : ∀ side, ∀ flight ∈ g.path side, flight.out.Plain
  hit : ∀ side index, (l.engine side).transmissionsAt index ≤ 1 + hits side
  once : lossy = false → ∀ side, (l.engine side).SentOnce
  ordered : ∀ side, Ordered (exempt side) lossy (l.engine side) (g.base side)
    (g.taken side) (g.path side) (g.path side.other)

variable {config : Side → ErtmConfig} {exempt : Side → Prop} {lossy : Bool}
  {hits hits' : Side → ℕ} {l : ErtmLink} {g : ErtmGhost} {side : Side}
  {e' : ErtmEngine} {acked : ℕ} {added : List PendingFrame} {frames : List Outgoing}
  {incoming : List Flight} {inFlight : List Bytes}

/-- **An operation of one engine.** -/
theorem Steady.advance (h : Steady config exempt lossy hits l g)
    (hsound : Sound config
      { engine := Function.update l.engine side e'
        inFlight := Function.update l.inFlight side inFlight }
      (g.advance side acked added frames taken incoming))
    (hquiet : e'.Quiet) (hplain : ∀ out ∈ frames, out.Plain)
    (hincoming : incoming.Sublist (g.path side.other)) (hhits : ∀ side, hits side ≤ hits' side)
    (hhit : ∀ index, e'.transmissionsAt index ≤ 1 + hits' side)
    (honce : lossy = false → e'.SentOnce)
    (hout : Ordered (exempt side) lossy e' (g.base side + acked) (g.taken side)
      (g.path side ++ flights (g.base side + acked) taken frames) incoming)
    (hin : Ordered (exempt side.other) lossy (l.engine side.other)
      (g.base side.other) taken incoming
      (g.path side ++ flights (g.base side + acked) taken frames)) :
    Steady config exempt lossy hits'
      { engine := Function.update l.engine side e'
        inFlight := Function.update l.inFlight side inFlight }
      (g.advance side acked added frames taken incoming) := by
  have hne := Side.other_ne side
  constructor
  · exact hsound
  · refine forall_side side ?_ ?_
    · simpa only [Function.update_self] using hquiet
    · simpa only [Function.update_of_ne hne] using h.quiet side.other
  · refine forall_side side ?_ ?_
    · simp only [ErtmGhost.advance, Function.update_self]
      intro flight hmem
      exact (List.mem_append.mp hmem).elim (h.plain side flight) (plain_flights hplain flight)
    · simp only [ErtmGhost.advance, Function.update_self, Function.update_of_ne hne]
      exact fun flight hmem => h.plain side.other flight (hincoming.subset hmem)
  · refine forall_side side ?_ ?_
    · simpa only [Function.update_self] using hhit
    · simp only [Function.update_of_ne hne]
      intro index
      exact Nat.le_trans (h.hit side.other index) (Nat.add_le_add_left (hhits side.other) 1)
  · intro hlossy
    refine forall_side side ?_ ?_
    · simpa only [Function.update_self] using honce hlossy
    · simpa only [Function.update_of_ne hne] using h.once hlossy side.other
  · refine forall_side side ?_ ?_
    · simpa only [ErtmGhost.advance, Function.update_self, Function.update_of_ne hne,
        Function.update_of_ne hne.symm] using hout
    · simpa only [ErtmGhost.advance, Function.update_self, Function.update_of_ne hne,
        Side.other_other] using hin

/-- The peer has taken no more frames than were sent. -/
theorem Sound.taken_le (h : Sound config l g) (side : Side) :
    g.taken side ≤ g.base side + (l.engine side).txWindow.length :=
  (h.direction side).window.expected_le

/-- An operation that takes no frame from the link and sends new ones. -/
theorem Steady.act (h : Steady config exempt lossy hits l g)
    (hadvances : ErtmEngine.Advances 0 added frames (l.engine side) e')
    (hinput : e'.InputBounded) (hexpected : e'.expectedTxSeq = (l.engine side).expectedTxSeq)
    (hfresh : ErtmEngine.Fresh frames (l.engine side) e') :
    ∃ g', Steady config exempt lossy hits (l.setEngine side e') g' := by
  have hsound := h.sound.act hadvances hinput hexpected
  have hin := h.ordered side.other
  rw [Side.other_other] at hin
  rw [setEngine, ← Function.update_eq_self side l.inFlight] at hsound
  have hsteady := h.advance hsound hfresh.quiet (fun out hmem => (hfresh.plain out hmem).1)
    (List.Sublist.refl _) (fun _ => Nat.le_refl _)
    (ErtmEngine.transmissions_fresh (h.hit side) hadvances hfresh.places)
    (fun hlossy => (h.once hlossy side).advance hadvances hfresh.places)
    ((h.ordered side).send (h.sound.taken_le side) hadvances hfresh.places (List.Sublist.refl _) rfl)
    (hin.answer (unasked_flights fun out hmem => (hfresh.plain out hmem).2))
  rw [Function.update_eq_self] at hsteady
  exact ⟨_, hsteady⟩

theorem Steady.sendSdu (h : Steady config exempt lossy hits l g) (side : Side) (sdu : Bytes) :
    ∃ g', Steady config exempt lossy hits (l.step (.sendSdu side sdu)) g' := by
  have hmoves : ErtmEngine.Moves (l.engine side) ((l.engine side).apply (.sendSdu sdu)) :=
    ErtmEngine.apply_moves (h.sound.numbered side) (h.sound.input side) rfl
  rw [step]
  rcases ErtmEngine.sendSdu_fresh (h.sound.numbered side) (h.quiet side) sdu with
    hsame | ⟨added, frames, hadvances, hexpected, hfresh⟩
  · rw [ErtmEngine.apply, hsame, setEngine, Function.update_eq_self]
    exact ⟨g, h⟩
  · exact h.act hadvances hmoves.2.2 hexpected hfresh

theorem Steady.popReceived (h : Steady config exempt lossy hits l g) (side : Side) :
    ∃ g', Steady config exempt lossy hits (l.step (.popReceived side)) g' := by
  have hinput := h.sound.input side
  have hquiet := h.quiet side
  obtain ⟨received, happly, hmem⟩ := (l.engine side).apply_popReceived
  rw [step, happly]
  refine h.act (ErtmEngine.advances_received (h.sound.numbered side) received)
    ⟨hinput.started, hinput.idle, fun sdu hsdu => hinput.delivered sdu (hmem sdu hsdu)⟩ rfl
    ⟨?_, (by rintro _ ⟨⟩), hquiet.failed, hquiet.remoteBusy, hquiet.localBusy⟩
  rw [Nat.sub_self]
  rfl

theorem Steady.transmit (h : Steady config exempt lossy hits l g) (side : Side) :
    Steady config exempt lossy hits (l.step (.transmit side)) g := by
  have hsound := h.sound.transmit side
  have hne := Side.other_ne side
  rw [step] at hsound ⊢
  split at hsound
  · exact h
  have hquiet := h.quiet side
  refine ⟨hsound, ?_, h.plain, ?_, ?_, ?_⟩
  · refine forall_side side ?_ ?_
    · simp only [Function.update_self]
      exact ⟨hquiet.failed, hquiet.remoteBusy, hquiet.localBusy⟩
    · simpa only [Function.update_of_ne hne] using h.quiet side.other
  · refine forall_side side ?_ ?_
    · simp only [Function.update_self]
      exact h.hit side
    · simpa only [Function.update_of_ne hne] using h.hit side.other
  · intro hlossy
    refine forall_side side ?_ ?_
    · simp only [Function.update_self]
      exact h.once hlossy side
    · simpa only [Function.update_of_ne hne] using h.once hlossy side.other
  · refine forall_side side ?_ ?_
    · simp only [Function.update_self]
      exact h.ordered side
    · simpa only [Function.update_of_ne hne] using h.ordered side.other

/-- **The loss.** -/
theorem Steady.drop (h : Steady config exempt false hits l g) (side : Side) (index : ℕ) :
    ∃ g', Steady config exempt true hits (l.step (.drop side index)) g' := by
  have hintact (side : Side) : Intact (g.taken side)
      (g.base side + (l.engine side).txWindow.length) (g.path side) (g.path side.other) := by
    rcases h.ordered side with hintact | ⟨hlossy, _⟩
    · exact hintact
    · cases hlossy
  have hlossy : Steady config exempt true hits l g :=
    ⟨h.sound, h.quiet, h.plain, h.hit, (by rintro ⟨⟩), fun side => .inl (hintact side)⟩
  rcases Nat.lt_or_ge index (l.inFlight side).length with hindex | hindex
  swap
  · rw [l.step_drop_of_le hindex]
    exact ⟨g, hlossy⟩
  have hsub := List.eraseIdx_sublist (g.path side.other) index
  have hpath : index < (g.path side.other).length := by
    have hbytes := congrArg List.length (h.sound.direction side.other).bytes
    rw [Side.other_other, List.length_append, List.length_map] at hbytes
    omega
  have hsound := h.sound.drop hindex
  rw [step, ← Function.update_eq_self side l.engine] at hsound
  have hin := hintact side.other
  rw [Side.other_other] at hin
  have hout := hintact side
  have hnone : flights (g.base side + 0) (g.taken side.other) [] = [] := rfl
  have hordered : Ordered (exempt side) true (l.engine side) (g.base side + 0) (g.taken side)
      (g.path side ++ flights (g.base side + 0) (g.taken side.other) [])
      ((g.path side.other).eraseIdx index) := by
    refine .inl ⟨?_, fun flight hmem => hout.unasked flight (hsub.subset hmem)⟩
    rw [hnone, List.append_nil]
    exact hout.order
  have hlost : Ordered (exempt side.other) true (l.engine side.other) (g.base side.other)
      (g.taken side.other) ((g.path side.other).eraseIdx index)
      (g.path side ++ flights (g.base side + 0) (g.taken side.other) []) := by
    rw [hnone, List.append_nil]
    rcases hin.lose hpath with hintact | hmissing
    · exact .inl hintact
    · exact .inr ⟨rfl, .inr ⟨hmissing, h.once rfl side.other⟩⟩
  have hsteady := hlossy.advance hsound (h.quiet side) (by rintro _ ⟨⟩) hsub (fun _ => Nat.le_refl _)
    (h.hit side) (by rintro ⟨⟩) hordered hlost
  rw [Function.update_eq_self] at hsteady
  exact ⟨_, hsteady⟩

/-- How many frames a reject that is delivered to `side` finds outstanding, behind those that it
acknowledges. -/
def rejectFinds (side : Side) (op : ErtmLinkOp) (l : ErtmLink) : Option ℕ :=
  match op with
  | .deliver side' =>
    if side' = side then
      match l.inFlight side with
      | [] => none
      | frame :: _ =>
        match EnhancedControlField.fromBytes frame with
        | .ok (.supervisory .reject _ _ reqSeq) =>
          some ((l.engine side).txWindow.length -
            (sequenceDistance (l.engine side).lastAckedTxSeq reqSeq).toNat)
        | _ => none
    else none
  | _ => none

/-- How many frames each reject of a run that is delivered to `side` finds outstanding. -/
def rejects (side : Side) : List ErtmLinkOp → ErtmLink → List ℕ
  | [], _ => []
  | op :: ops, l => (l.rejectFinds side op).toList ++ rejects side ops (l.step op)

/-- What a frame that is delivered leaves. -/
structure Heard (config : Side → ErtmConfig) (exempt : Side → Prop) (lossy : Bool) (hits : ℕ)
    (l : ErtmLink) (g : ErtmGhost) (side : Side) (acked taken : ℕ) (frames : List Outgoing)
    (incoming : List Flight) (e' : ErtmEngine) : Prop where
  advances : ErtmEngine.Advances acked [] frames (l.engine side) e'
  quiet : e'.Quiet
  plain : ∀ out ∈ frames, out.Plain
  expected : e'.expectedTxSeq.toNat = taken % 64
  window : SlidingWindow (config side.other).txWindowSize.toNat (g.base side.other) taken
    (g.base side.other + (l.engine side.other).txWindow.length)
    (incoming.filterMap Flight.number) ((g.path side).map Flight.ack)
  hit : ∀ index, e'.transmissionsAt index ≤ 1 + hits
  once : lossy = false → e'.SentOnce
  outgoing : Ordered (exempt side) lossy e' (g.base side + acked) (g.taken side)
    (g.path side ++ flights (g.base side + acked) taken frames) incoming
  incoming : Ordered (exempt side.other) lossy (l.engine side.other)
    (g.base side.other) taken incoming (g.path side ++ flights (g.base side + acked) taken frames)

section Heard

variable {e₁ : ErtmEngine} {flight : Flight} {path : List Flight}

/-- What a frame leaves that is not taken, and answered with new frames. -/
theorem Steady.heard_fresh (h : Steady config exempt lossy hits l g)
    (hpath : g.path side.other = flight :: path)
    (hnumber : flight.number = none) (hasks : flight.out.asks = false)
    (hacks : ErtmEngine.Acknowledges acked (l.engine side) e₁)
    (hsends : ErtmEngine.Sends e₁.expectedTxSeq frames e₁ e')
    (hfresh : ErtmEngine.Fresh frames e₁ e') :
    Heard config exempt lossy (hits side) l g side acked (g.taken side.other) frames path e' := by
  have hnumbered := h.sound.numbered side
  have hrange := hacks.inRange hnumbered.inRange
  have hadvances : ErtmEngine.Advances acked [] frames (l.engine side) e' :=
    .of_acknowledges hnumbered hacks (.refl e₁) hrange.expected hsends
  have hplaces := hfresh.places
  rw [hacks.window, List.length_drop] at hplaces
  have hout := h.ordered side
  rw [hpath] at hout
  have hin := h.ordered side.other
  have hdirection := h.sound.direction side.other
  rw [Side.other_other] at hin hdirection
  rw [hpath] at hin
  constructor
  · exact hadvances
  · exact hfresh.quiet
  · exact fun out hmem => (hfresh.plain out hmem).1
  · rw [hsends.expected, hacks.expected]
    exact hdirection.expected
  · have hwindow := hdirection.window
    rw [h.sound.unchanged, hpath, filterMap_skip hnumber] at hwindow
    exact hwindow
  · exact ErtmEngine.transmissions_fresh (h.hit side) hadvances hplaces
  · exact fun hlossy => (h.once hlossy side).advance hadvances hplaces
  · refine hout.send (h.sound.taken_le side) hadvances hplaces (List.sublist_cons_self flight path) ?_
    rw [List.countP_cons, hasks]
    rfl
  · exact (hin.skip hnumber).answer (unasked_flights fun out hmem => (hfresh.plain out hmem).2)

/-- **A reject is delivered.** -/
theorem Steady.heard_reject (h : Steady config exempt lossy hits l g)
    (hpath : g.path side.other = flight :: path)
    (hnumber : flight.number = none) (hasks : flight.out.asks = true)
    (hack : g.base side + acked = flight.ack)
    (hacks : ErtmEngine.Acknowledges acked (l.engine side) e₁) (hquiet : e₁.Quiet)
    (hfew : ¬ exempt side → (l.engine side).txWindow.length ≤ acked + 2)
    (hlimit : exempt side → (config side).maxRetransmissions ≠ 0 →
      acked < (l.engine side).txWindow.length →
      hits side < (config side).maxRetransmissions.toNat)
    {k : ℕ} (hmore : acked < (l.engine side).txWindow.length → hits side + 1 ≤ k)
    (reqSeq : UInt8) (any : Bool) :
    ∃ frames, Heard config exempt lossy k l g side acked (g.taken side.other) frames path
      (ErtmEngine.receiveSupervisory .reject false false reqSeq any e₁).2 := by
  have hnumbered := h.sound.numbered side
  have hrange := hacks.inRange hnumbered.inRange
  have hout := h.ordered side
  rw [hpath] at hout
  have hin := h.ordered side.other
  have hdirection := h.sound.direction side.other
  rw [Side.other_other] at hin hdirection
  rw [hpath] at hin
  have hlimit : ∀ entry ∈ e₁.txWindow,
      retransmissionLimitReached e₁.config.maxRetransmissions entry = false := by
    intro entry hmem
    rw [hacks.window] at hmem
    have hoffset : acked < (l.engine side).txWindow.length := by
      have hpos := List.length_pos_of_mem hmem
      rw [List.length_drop] at hpos
      omega
    rw [hacks.config]
    have hmem := List.mem_of_mem_drop hmem
    by_cases hexempt : exempt side
    · refine ErtmEngine.limit_of_le fun hmax => ?_
      rw [h.sound.unchanged] at hmax ⊢
      obtain ⟨index, _, htransmissions⟩ := ErtmEngine.transmissions_of_mem hmem
      have hhit := h.hit side index
      have hcount := hlimit hexempt hmax hoffset
      omega
    · exact (hout.sentOnce_of_asks hasks hexempt).limit hmem
  obtain ⟨frames, hsends, hplaces, hplain, hquiet'⟩ :=
    ErtmEngine.receiveReject_again hrange hquiet reqSeq any hlimit
  have hadvances := ErtmEngine.Advances.of_acknowledges hnumbered hacks (.refl e₁) hrange.expected
    hsends
  refine ⟨frames, hadvances, hquiet', fun out hmem => (hplain out hmem).1, ?_, ?_, ?_, ?_, ?_, ?_⟩
  · rw [hsends.expected, hacks.expected]
    exact hdirection.expected
  · have hwindow := hdirection.window
    rw [h.sound.unchanged, hpath, filterMap_skip hnumber] at hwindow
    exact hwindow
  · exact ErtmEngine.transmissions_again (h.hit side) hadvances hplaces hmore
  · intro hlossy
    rw [hout.lossy_of_asks hasks] at hlossy
    cases hlossy
  · exact hout.repair hasks hack hfew hadvances.window hplaces
  · exact (hin.skip hnumber).answer (unasked_flights fun out hmem => (hplain out hmem).2)

/-- **The next frame is delivered.** -/
theorem Steady.heard_next (h : Steady config exempt lossy hits l g)
    (hpath : g.path side.other = flight :: path)
    (hnumber : flight.number = some (g.taken side.other)) (hasks : flight.out.asks = false)
    (hacks : ErtmEngine.Acknowledges acked (l.engine side) e₁) {e₂ : ErtmEngine}
    (hreceives : ErtmEngine.Receives (ErtmEngine.expecting e₁) e₂)
    (hsends : ErtmEngine.Sends e₂.expectedTxSeq frames e₂ e')
    (hfresh : ErtmEngine.Fresh frames e₂ e') :
    Heard config exempt lossy (hits side) l g side acked (g.taken side.other + 1) frames path e' := by
  have hnumbered := h.sound.numbered side
  have hdirection := h.sound.direction side.other
  have hout := h.ordered side
  have hin := h.ordered side.other
  rw [Side.other_other] at hin hdirection
  rw [hpath] at hin hout
  have hexpected : e₂.expectedTxSeq.toNat = (g.taken side.other + 1) % 64 := by
    obtain ⟨_, _, _, heq⟩ := hreceives
    rw [heq]
    change (sequenceAdd e₁.expectedTxSeq 1).toNat = _
    rw [toNat_sequenceAdd, hacks.expected, hdirection.expected]
    omega
  have hrange : e₂.expectedTxSeq.toNat < 64 := by
    rw [hexpected]
    exact Nat.mod_lt _ (by decide)
  have hadvances : ErtmEngine.Advances acked [] frames (l.engine side) e' :=
    .of_acknowledges hnumbered hacks hreceives.sameSender hrange hsends
  have hplaces := hfresh.places
  rw [hreceives.sameSender.window, hacks.window, List.length_drop] at hplaces
  constructor
  · exact hadvances
  · exact hfresh.quiet
  · exact fun out hmem => (hfresh.plain out hmem).1
  · rw [hsends.expected, hexpected]
  · have hwindow := hdirection.window
    rw [h.sound.unchanged, hpath, List.filterMap_cons_some hnumber] at hwindow
    exact hwindow.receive
  · exact ErtmEngine.transmissions_fresh (h.hit side) hadvances hplaces
  · exact fun hlossy => (h.once hlossy side).advance hadvances hplaces
  · refine hout.send (h.sound.taken_le side) hadvances hplaces (List.sublist_cons_self flight path) ?_
    rw [List.countP_cons, hasks]
    rfl
  · exact (hin.receive hnumber).answer (unasked_flights fun out hmem => (hfresh.plain out hmem).2)

/-- **Another frame is delivered**, and answered with a reject. -/
theorem Steady.heard_other (h : Steady config exempt lossy hits l g)
    (hpath : g.path side.other = flight :: path)
    (hnumber : flight.number = some n) (hother : n ≠ g.taken side.other)
    (hasks : flight.out.asks = false)
    (hacks : ErtmEngine.Acknowledges acked (l.engine side) e₁) (hquiet : e₁.Quiet) :
    Heard config exempt lossy (hits side) l g side acked (g.taken side.other)
      [.supervisory .reject false false] path
      (ErtmEngine.sendSupervisory .reject false false e₁).2 := by
  have hnumbered := h.sound.numbered side
  have hrange := hacks.inRange hnumbered.inRange
  have hdirection := h.sound.direction side.other
  have hout := h.ordered side
  have hin := h.ordered side.other
  rw [Side.other_other] at hin hdirection
  rw [hpath] at hin hout
  have hsends := ErtmEngine.sendSupervisory_sends hrange ErtmEngine.reject_ne false false
  have hadvances := ErtmEngine.Advances.of_acknowledges hnumbered hacks (.refl e₁) hrange.expected
    hsends
  rw [ErtmEngine.sendSupervisory_eq hrange] at hsends hadvances ⊢
  have hplaces : [Outgoing.supervisory .reject false false].filterMap Outgoing.place =
      List.range' ((l.engine side).txWindow.length - acked)
        (e₁.txWindow.length - ((l.engine side).txWindow.length - acked)) := by
    rw [hacks.window, List.length_drop, Nat.sub_self]
    rfl
  constructor
  · exact hadvances
  · exact ⟨hquiet.failed, hquiet.remoteBusy, hquiet.localBusy⟩
  · intro out hmem
    rw [List.mem_singleton.mp hmem]
    exact ⟨.inr rfl, rfl, rfl⟩
  · exact (congrArg UInt8.toNat hacks.expected).trans hdirection.expected
  · have hwindow := hdirection.window
    rw [h.sound.unchanged, hpath] at hwindow
    exact hwindow.lose_data ((List.sublist_cons_self flight path).filterMap Flight.number)
  · exact ErtmEngine.transmissions_fresh (h.hit side) hadvances hplaces
  · exact fun hlossy => (h.once hlossy side).advance hadvances hplaces
  · refine hout.send (h.sound.taken_le side) hadvances hplaces (List.sublist_cons_self flight path) ?_
    rw [List.countP_cons, hasks]
    rfl
  · exact hin.reject hnumber hother rfl rfl

/-- **The oldest frame is delivered.** -/
theorem Steady.hear (h : Steady config exempt lossy hits l g)
    (hsize : ∀ side, (config side).txWindowSize.toNat < 64)
    (hpath : g.path side.other = flight :: path)
    (hfew : flight.out.asks = true → ¬ exempt side →
      (l.engine side).txWindow.length ≤ flight.ack - g.base side + 2)
    (hlimit : flight.out.asks = true → exempt side → (config side).maxRetransmissions ≠ 0 →
      flight.ack - g.base side < (l.engine side).txWindow.length →
      hits side < (config side).maxRetransmissions.toNat)
    {k : ℕ} (hk : flight.out.asks = false → k = hits side)
    (hmore : flight.out.asks = true →
      flight.ack - g.base side < (l.engine side).txWindow.length → hits side + 1 ≤ k) :
    ∃ acked taken frames,
      SlidingWindow (config side).txWindowSize.toNat (g.base side + acked) (g.taken side)
        (g.base side + (l.engine side).txWindow.length)
        ((g.path side).filterMap Flight.number) (path.map Flight.ack) ∧
      Heard config exempt lossy k l g side acked taken frames path
        (ErtmEngine.receiveFrame flight.bytes (l.engine side)).2 := by
  have hquiet := h.quiet side
  have hnumbered := h.sound.numbered side
  have hdirection := h.sound.direction side.other
  rw [Side.other_other] at hdirection
  obtain ⟨acked, any, e₁, hack, hacks, hrun, hwindow⟩ :=
    h.sound.receive (hsize side) hpath hquiet.failed
  have hrange₁ := hacks.inRange hnumbered.inRange
  have hinput₁ := hacks.inputBounded (h.sound.input side)
  have hquiet₁ : e₁.Quiet := by
    refine ⟨?_, ?_, ?_⟩
    · rw [hacks.failed, hquiet.failed]
    · rw [hacks.remoteBusy, hquiet.remoteBusy]
    · rw [hacks.localBusy, hquiet.localBusy]
  have hplain := h.plain side.other flight (by rw [hpath]; exact List.mem_cons_self)
  have hacked : flight.ack - g.base side = acked := by omega
  rw [hacked] at hfew hlimit hmore
  rw [hrun]
  obtain ⟨out, ack⟩ := flight
  cases out with
  | supervisory function poll finalBit =>
    obtain ⟨rfl | rfl, rfl, rfl⟩ := hplain
    · obtain ⟨frames, hsends, hfresh⟩ := ErtmEngine.receiveReady_fresh hrange₁ hquiet₁
        (UInt8.ofNat (ack % 64)) any
      rw [hk rfl]
      exact ⟨acked, _, frames, hwindow, h.heard_fresh hpath rfl rfl hacks hsends hfresh⟩
    · obtain ⟨frames, hheard⟩ := h.heard_reject hpath rfl rfl hack hacks hquiet₁ (hfew rfl)
        (hlimit rfl) (hmore rfl) (UInt8.ofNat (ack % 64)) any
      exact ⟨acked, _, frames, hwindow, hheard⟩
  | information n frame =>
    have hframe := hdirection.content n frame ack (by rw [hpath]; exact List.mem_cons_self)
    have htx := hdirection.txSeq n frame hframe
    have hdata := hdirection.window
    rw [h.sound.unchanged, hpath] at hdata
    rw [Flight.control, ErtmEngine.receiveControl, hk rfl]
    by_cases hnext : frame.txSeq = e₁.expectedTxSeq
    · have hn : n = g.taken side.other := by
        rw [hnext, hacks.expected, hdirection.expected] at htx
        exact hdata.eq_of_mod_eq (hsize side.other) List.mem_cons_self htx.symm
      subst hn
      obtain ⟨frames, e₂, hreceives, _, hsends, hfresh⟩ := ErtmEngine.receiveInformation_fresh
        hrange₁ hinput₁ hquiet₁ hnext frame.sar
        ((Flight.bytes { out := .information (g.taken side.other) frame, ack := ack }).drop 2)
      exact ⟨acked, _, frames, hwindow, h.heard_next hpath rfl rfl hacks hreceives hsends hfresh⟩
    · have hother : n ≠ g.taken side.other := by
        rintro rfl
        apply hnext
        rw [← UInt8.toNat_inj, htx, hacks.expected, hdirection.expected]
      rw [ErtmEngine.receiveInformation_other hquiet₁.localBusy hnext]
      exact ⟨acked, _, _, hwindow, h.heard_other hpath rfl hother rfl hacks hquiet₁⟩

end Heard

/-- What a frame that is delivered finds outstanding, when it is a reject. -/
theorem Sound.rejectFinds_eq (h : Sound config l g) (hsize : (config side).txWindowSize.toNat < 64)
    {flight : Flight} {path : List Flight} (hpath : g.path side.other = flight :: path)
    (hinFlight : l.inFlight side = flight.bytes :: inFlight) :
    l.rejectFinds side (.deliver side) =
      if flight.out.asks then
        some ((l.engine side).txWindow.length - (flight.ack - g.base side)) else none := by
  have hcontrol : EnhancedControlField.fromBytes flight.bytes = .ok flight.control := by
    refine h.fromBytes_bytes (show flight ∈ g.path side.other from ?_)
    rw [hpath]
    exact List.mem_cons_self
  obtain ⟨hreq, hdistance⟩ := h.distance hsize hpath
  have hcount := toNat_sequenceDistance (h.numbered side).lastAcked hreq
  rw [hdistance] at hcount
  simp only [rejectFinds, if_true, hinFlight, hcontrol]
  obtain ⟨out, ack⟩ := flight
  cases out with
  | information => rfl
  | supervisory function poll finalBit =>
    rw [← hcount]
    cases function <;> rfl

/-- How many rejects found a frame outstanding, after a step. -/
def hitsAfter (hits : Side → ℕ) (op : ErtmLinkOp) (l : ErtmLink) (side : Side) : ℕ :=
  hits side + (l.rejectFinds side op).toList.countP (0 < ·)

/-- What the rejects find that are still to be delivered. -/
structure Spared (config : Side → ErtmConfig) (exempt : Side → Prop) (hits : Side → ℕ)
    (found : Side → List ℕ) : Prop where
  few : ∀ side, ¬ exempt side → ∀ n ∈ found side, n ≤ 2
  limit : ∀ side, exempt side → (config side).maxRetransmissions ≠ 0 →
    hits side + (found side).countP (0 < ·) ≤ (config side).maxRetransmissions.toNat

theorem Steady.mono (h : Steady config exempt lossy hits l g)
    (hhits : ∀ side, hits side ≤ hits' side) : Steady config exempt lossy hits' l g :=
  { h with
    hit := fun side index =>
      Nat.le_trans (h.hit side index) (Nat.add_le_add_left (hhits side) 1) }

theorem le_hitsAfter (op : ErtmLinkOp) (side : Side) : hits side ≤ l.hitsAfter hits op side :=
  Nat.le_add_right _ _

theorem Steady.deliver (h : Steady config exempt lossy hits l g)
    (hsize : ∀ side, (config side).txWindowSize.toNat < 64) (side : Side)
    (hspared : Spared config exempt hits fun side' => (l.rejectFinds side' (.deliver side)).toList) :
    ∃ g', Steady config exempt lossy (l.hitsAfter hits (.deliver side)) (l.step (.deliver side))
      g' := by
  have hmono := h.mono (le_hitsAfter (l := l) (.deliver side))
  rcases hinFlight : l.inFlight side with _ | ⟨frame, inFlight⟩
  · have hstep : l.step (.deliver side) = l := by rw [step, hinFlight]
    rw [hstep]
    exact ⟨g, hmono⟩
  obtain ⟨flight, path, hpath, rfl, hbytes⟩ := h.sound.head hinFlight
  have hfinds := h.sound.rejectFinds_eq (hsize side) hpath hinFlight
  have hincoming : path.Sublist (g.path side.other) := by
    rw [hpath]
    exact List.sublist_cons_self flight path
  have hmoves : ErtmEngine.Moves (l.engine side)
      ((l.engine side).apply (.receiveFrame flight.bytes)) :=
    ErtmEngine.apply_moves (h.sound.numbered side) (h.sound.input side) rfl
  have hfew (hasks : flight.out.asks = true) (hexempt : ¬ exempt side) :
      (l.engine side).txWindow.length ≤ flight.ack - g.base side + 2 := by
    have hle := hspared.few side hexempt
    simp only [hfinds, hasks, if_true, Option.toList_some, List.mem_singleton, forall_eq] at hle
    omega
  have hlimit (hasks : flight.out.asks = true) (hexempt : exempt side)
      (hmax : (config side).maxRetransmissions ≠ 0)
      (hoffset : flight.ack - g.base side < (l.engine side).txWindow.length) :
      hits side < (config side).maxRetransmissions.toNat := by
    have hle := hspared.limit side hexempt hmax
    simp only [hfinds, hasks, if_true, Option.toList_some] at hle
    rw [List.countP_singleton, if_pos (decide_eq_true (Nat.sub_pos_of_lt hoffset))] at hle
    omega
  have hk (hasks : flight.out.asks = false) :
      l.hitsAfter hits (.deliver side) side = hits side := by
    simp [hitsAfter, hfinds, hasks]
  have hmore (hasks : flight.out.asks = true)
      (hoffset : flight.ack - g.base side < (l.engine side).txWindow.length) :
      hits side + 1 ≤ l.hitsAfter hits (.deliver side) side := by
    rw [hitsAfter, hfinds, if_pos hasks, Option.toList_some, List.countP_singleton,
      if_pos (decide_eq_true (Nat.sub_pos_of_lt hoffset))]
  obtain ⟨acked, taken, frames, hacks, hheard⟩ := h.hear hsize hpath hfew hlimit hk hmore
  have hsound := h.sound.advance hheard.advances hmoves.2.2 hincoming hbytes hheard.expected hacks
    hheard.window
  have hstep : l.step (.deliver side) = {
      engine := Function.update l.engine side
        (ErtmEngine.receiveFrame flight.bytes (l.engine side)).2
      inFlight := Function.update l.inFlight side inFlight } := by
    rw [step, hinFlight]
    rfl
  rw [hstep]
  exact ⟨_, h.advance hsound hheard.quiet hheard.plain hincoming
    (le_hitsAfter (l := l) (.deliver side)) hheard.hit hheard.once hheard.outgoing hheard.incoming⟩

/-! ### Runs -/

/-- Neither the clock nor flow control. -/
def isCalm : ErtmLinkOp → Bool
  | .tick .. | .setReceiverBusy .. => false
  | _ => true

def isDrop : ErtmLinkOp → Bool
  | .drop .. => true
  | _ => false

/-- **Every step keeps the invariant**, the loss apart. -/
theorem Steady.step (h : Steady config exempt lossy hits l g)
    (hsize : ∀ side, (config side).txWindowSize.toNat < 64) {op : ErtmLinkOp}
    (hcalm : isCalm op = true) (hdrop : isDrop op = false)
    (hspared : Spared config exempt hits fun side => (l.rejectFinds side op).toList) :
    ∃ g', Steady config exempt lossy (l.hitsAfter hits op) (l.step op) g' := by
  have hmono {l' : ErtmLink} {g' : ErtmGhost} (h' : Steady config exempt lossy hits l' g') :=
    h'.mono (le_hitsAfter (l := l) op)
  cases op with
  | tick => cases hcalm
  | setReceiverBusy => cases hcalm
  | sendSdu side sdu =>
    obtain ⟨g', h'⟩ := h.sendSdu side sdu
    exact ⟨g', hmono h'⟩
  | popReceived side =>
    obtain ⟨g', h'⟩ := h.popReceived side
    exact ⟨g', hmono h'⟩
  | transmit side => exact ⟨g, hmono (h.transmit side)⟩
  | deliver side => exact h.deliver hsize side hspared
  | drop => cases hdrop

/-- What the rejects of a run find, after its first step. -/
theorem Spared.step {op : ErtmLinkOp} {ops : List ErtmLinkOp}
    (h : Spared config exempt hits fun side => l.rejects side (op :: ops)) :
    (Spared config exempt hits fun side => (l.rejectFinds side op).toList) ∧
      Spared config exempt (l.hitsAfter hits op) fun side => (l.step op).rejects side ops := by
  refine ⟨⟨?_, ?_⟩, ?_, ?_⟩
  · intro side hexempt n hmem
    exact h.few side hexempt n (List.mem_append_left _ hmem)
  · intro side hexempt hmax
    have hle := h.limit side hexempt hmax
    rw [rejects, List.countP_append] at hle
    omega
  · intro side hexempt n hmem
    exact h.few side hexempt n (List.mem_append_right _ hmem)
  · intro side hexempt hmax
    have hle := h.limit side hexempt hmax
    rw [rejects, List.countP_append] at hle
    rw [hitsAfter]
    omega

theorem Steady.run (h : Steady config exempt lossy hits l g)
    (hsize : ∀ side, (config side).txWindowSize.toNat < 64) (ops : List ErtmLinkOp)
    (hcalm : ∀ op ∈ ops, isCalm op = true) (hdrop : lossy.toNat + ops.countP isDrop ≤ 1)
    (hspared : Spared config exempt hits fun side => l.rejects side ops) :
    ∃ lossy' hits' g', Steady config exempt lossy' hits' (l.run ops) g' := by
  induction ops generalizing lossy hits l g with
  | nil => exact ⟨lossy, hits, g, h⟩
  | cons op ops ih =>
    have hrest : ∀ op ∈ ops, isCalm op = true := fun op hmem => hcalm op (List.mem_cons_of_mem _ hmem)
    obtain ⟨hfirst, hlater⟩ := hspared.step
    rw [List.countP_cons] at hdrop
    rcases hop : isDrop op with _ | _
    · rw [hop] at hdrop
      obtain ⟨g', h'⟩ := h.step hsize (hcalm op List.mem_cons_self) hop hfirst
      exact ih h' hrest (by simpa using hdrop) hlater
    · rw [hop, if_pos rfl] at hdrop
      cases op with
      | drop side index =>
        cases lossy with
        | true =>
          rw [Bool.toNat_true] at hdrop
          omega
        | false =>
          obtain ⟨g', h'⟩ := h.drop side index
          refine ih (h'.mono (le_hitsAfter (l := l) (.drop side index))) hrest ?_ hlater
          rw [Bool.toNat_true]
          omega
      | _ => cases hop

theorem steady_new (config : Side → ErtmConfig) (exempt : Side → Prop) :
    Steady config exempt false (fun _ => 0) (new config) {} where
  sound := sound_new config
  quiet _ := ⟨rfl, rfl, rfl⟩
  plain _ := nofun
  hit _ _ := Nat.zero_le _
  once _ _ index hindex := absurd hindex (Nat.not_lt_zero index)
  ordered _ := .inl ⟨rfl, nofun⟩

/-- **One lost frame.** Two engines with valid configurations exchange SDUs without ticks or busy
changes, and the link loses at most one frame. An engine does not give up as long as, for each of
them, it has no retransmission limit, or none of the rejects that are delivered to it finds more
than two frames outstanding, or no more of them find any than its limit allows. -/
theorem one_loss_survived {config : Side → ErtmConfig} {engine : Side → ErtmEngine}
    (hnew : ∀ side, ErtmEngine.new (config side) = .ok (engine side)) (ops : List ErtmLinkOp)
    (hcalm : ∀ op ∈ ops, isCalm op = true) (hdrop : ops.countP isDrop ≤ 1)
    (hrejects : ∀ side, (config side).maxRetransmissions = 0 ∨
      (∀ n ∈ rejects side ops { engine := engine }, n ≤ 2) ∨
      (rejects side ops { engine := engine }).countP (0 < ·) ≤
        (config side).maxRetransmissions.toNat) (side : Side) :
    ((run ops { engine := engine }).engine side).failed = false := by
  have hsize (side : Side) : (config side).txWindowSize.toNat < 64 :=
    (ErtmEngine.new_eq_ok (hnew side)).2
  have hstart : ({ engine := engine } : ErtmLink) = new config := by
    have hengine : engine = fun side => { config := config side } := by
      funext side
      exact (ErtmEngine.new_eq_ok (hnew side)).1
    rw [hengine]
    rfl
  rw [hstart] at hrejects ⊢
  have hdrop : false.toNat + ops.countP isDrop ≤ 1 := by
    rw [Bool.toNat_false, Nat.zero_add]
    exact hdrop
  have hspared : Spared config (fun side => ¬ ∀ n ∈ rejects side ops (new config), n ≤ 2)
      (fun _ => 0) fun side => rejects side ops (new config) := by
    refine ⟨fun side hexempt => not_not.mp hexempt, ?_⟩
    intro side hexempt hmax
    rw [Nat.zero_add]
    rcases hrejects side with hzero | hfew | hcount
    · exact absurd hzero hmax
    · exact absurd hfew hexempt
    · exact hcount
  obtain ⟨_, _, _, h⟩ := (steady_new config _).run hsize ops hcalm hdrop hspared
  exact (h.quiet side).failed

/-- Two frames of a window of three, one of which is lost. -/
theorem one_loss_survived_pair :
    let config : ErtmConfig := {
      localMtu := 48, peerMtu := 48, localMps := 48, peerMps := 48, txWindowSize := 3,
      maxRetransmissions := 1, retransmissionTimeoutTicks := 10 }
    let ops : List ErtmLinkOp := [.sendSdu .a [1], .sendSdu .a [2], .transmit .a, .transmit .a,
      .drop .b 0, .deliver .b, .transmit .b, .deliver .a, .transmit .a, .transmit .a, .deliver .b,
      .deliver .b]
    let last := run ops { engine := fun _ => { config := config } }
    (last.engine .b).received = [[1], [2]] ∧ (last.engine .a).failed = false := by
  intro config ops last
  refine ⟨by decide +kernel, ?_⟩
  have hnew : ErtmEngine.new config = .ok { config := config } := rfl
  have hfew (side : Side) : ∀ n ∈ rejects side ops { engine := fun _ => { config := config } },
      n ≤ 2 := by
    cases side <;> decide +kernel
  exact one_loss_survived (fun _ => hnew) ops (by decide +kernel) (by decide +kernel)
    (fun side => .inr (.inl (hfew side))) .a

/-- **Three frames of a window, the first of which is lost**: both frames behind it are answered
with a reject, and the second reject finds that every frame was already sent again as often as the
limit allows. -/
theorem one_loss_fatal :
    let config : ErtmConfig := {
      localMtu := 48, peerMtu := 48, localMps := 48, peerMps := 48, txWindowSize := 3,
      maxRetransmissions := 1, retransmissionTimeoutTicks := 10 }
    let start : ErtmLink := { engine := fun _ => { config := config } }
    let sends : List ErtmLinkOp := [.sendSdu .a [1], .sendSdu .a [2], .sendSdu .a [3],
      .transmit .a, .transmit .a, .transmit .a]
    let ops : List ErtmLinkOp := sends ++ [.drop .b 0, .deliver .b, .deliver .b, .transmit .b,
      .transmit .b, .deliver .a, .deliver .a]
    ErtmEngine.new config = .ok { config := config } ∧
      (∀ op ∈ ops, isCalm op = true) ∧ ops.countP isDrop = 1 ∧
      ((run sends start).inFlight .b)[0]? = some [0, 0, 1] ∧
      EnhancedControlField.fromBytes [0, 0, 1] = .ok (.information 0 false 0 .unsegmented) ∧
      ((run ops start).engine .a).failed = true := by
  intro config start sends ops
  refine ⟨rfl, by decide +kernel, by decide +kernel, by decide +kernel, rfl, by decide +kernel⟩

end ErtmLink

end ClassicHid

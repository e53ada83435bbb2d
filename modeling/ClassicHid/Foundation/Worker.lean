import ClassicHid.Foundation.Exec

/-!
# A worker behind a queue

A worker polls a source on a thread of its own. What it gets it reports through a queue, from which
the owner of the worker takes the reports in order; after each report a notifier is called. The
owner stops the worker through a flag, and waits for its thread. The thread looks at the flag before
each poll, and the poll looks at it again before it reads the source; the flag can be set between
the look and the read, which then still takes place. A thread that sees the flag, or that a failure
has stopped, reports that it has ended; one that panics while foreign code runs reports nothing
more.

The thread and its owner take their steps in any order.

## Main definitions

* `Source`: what is read, with the flag
* `Worker`, `Worker.Move`: the thread, the queue and the owner; a step of one of them
* `Source.polls`, `reports`: a number of polls that nothing overtakes, and their reports
* `Worker.Sound`: what was polled, sent, heard and notified so far

## Main results

* `Worker.sound_run`: after any steps
* `Worker.Sound.taken_isPrefix`: the owner hears the reports of the polls, in order
* `Worker.ends_run`: a worker that is stopped begins at most one more read, and soon ends
-/

namespace Foundation

/-- What a worker reads. The flag stands beside the rest: a read neither looks at it nor sets it. -/
structure Source (σ α ε : Type) where
  read : Exec σ ε (Option α)
  stop : σ → σ
  stopped : σ → Bool
  stopped_stop : ∀ s, stopped (stop s) = true
  stop_eq : ∀ s, stopped s = true → stop s = s
  stopped_read : ∀ s, stopped (read s).2 = stopped s
  read_stop : ∀ s, read (stop s) = ((read s).1, stop (read s).2)

/-- What a worker tells its owner. -/
inductive Report (α ε : Type)
  | item (item : α)
  | failed (error : ε)
  | ended
  deriving DecidableEq, Repr

/-- What its owner hears when it asks. -/
inductive Heard (α ε : Type)
  | report (report : Report α ε)
  | timeout
  | disconnected
  deriving DecidableEq, Repr

variable {σ α ε : Type}

def Report.item? : Report α ε → Option α
  | .item a => some a
  | .failed _ | .ended => none

def Heard.report? : Heard α ε → Option (Report α ε)
  | .report told => some told
  | .timeout | .disconnected => none

/-- Something is heard after which there is nothing to come. -/
def Heard.final : Heard α ε → Bool
  | .report (.item _) | .timeout => false
  | .report (.failed _) | .report .ended | .disconnected => true

namespace Source

variable (source : Source σ α ε)

/-- A poll that nothing overtakes: a read, unless the flag is set. -/
def poll : Exec σ ε (Option α) := fun s =>
  if source.stopped s then (.ok none, s) else source.read s

/-- A poll leaves the flag as it is. -/
theorem stopped_poll (s : σ) : source.stopped (source.poll s).2 = source.stopped s := by
  unfold poll
  split
  · rfl
  · exact source.stopped_read s

theorem poll_eq_read {s : σ} (h : source.stopped s = false) : source.poll s = source.read s := by
  rw [poll, if_neg (by rw [h]; exact Bool.false_ne_true)]

/-- The results of a number of polls, and the source after them. -/
def polls : ℕ → σ → List (Except ε (Option α)) × σ
  | 0, s => ([], s)
  | n + 1, s =>
    ((source.poll s).1 :: (polls n (source.poll s).2).1, (polls n (source.poll s).2).2)

/-- One more poll. -/
theorem polls_succ (n : ℕ) (s : σ) :
    source.polls (n + 1) s =
      ((source.polls n s).1 ++ [(source.poll (source.polls n s).2).1],
        (source.poll (source.polls n s).2).2) := by
  induction n generalizing s with
  | zero => rfl
  | succ n ih =>
    rw [polls, ih (source.poll s).2]
    rfl

theorem stopped_polls (n : ℕ) (s : σ) :
    source.stopped (source.polls n s).2 = source.stopped s := by
  induction n generalizing s with
  | zero => rfl
  | succ n ih =>
    rw [polls, ih, source.stopped_poll]

theorem length_polls (n : ℕ) (s : σ) : (source.polls n s).1.length = n := by
  induction n generalizing s with
  | zero => rfl
  | succ n ih =>
    rw [polls, List.length_cons, ih]

end Source

/-- The report of a poll, if it brought something. -/
def report? : Except ε (Option α) → Option (Report α ε)
  | .ok (some item) => some (.item item)
  | .ok none => none
  | .error error => some (.failed error)

/-- The reports of polls. -/
def reports (results : List (Except ε (Option α))) : List (Report α ε) := results.filterMap report?

theorem reports_concat (results : List (Except ε (Option α))) (result : Except ε (Option α)) :
    reports (results ++ [result]) = reports results ++ (report? result).toList := by
  rw [reports, List.filterMap_append, ← reports]
  rcases result with error | _ | item <;> rfl

/-- What polls that did not fail report are items. -/
theorem reports_ok {results : List (Except ε (Option α))}
    (h : ∀ result ∈ results, result.isOk = true) :
    reports results = (results.filterMap fun result => result.toOption.join).map .item := by
  induction results with
  | nil => rfl
  | cons result results ih =>
    have hresult := h result List.mem_cons_self
    have hrest := ih fun other hother => h other (List.mem_cons_of_mem _ hother)
    rw [reports] at hrest ⊢
    rcases result with error | _ | item
    · cases hresult
    · exact hrest
    · exact congrArg (Report.item item :: ·) hrest

/-- Polls of which only the last one can have failed report items first. -/
theorem reports_shape {results : List (Except ε (Option α))}
    (h : ∀ result ∈ results.dropLast, result.isOk = true) :
    ∃ (items : List α) (tail : List (Report α ε)), reports results = items.map .item ++ tail ∧
      ∀ report ∈ tail, report.item? = none := by
  rcases List.eq_nil_or_concat results with rfl | ⟨first, result, rfl⟩
  · exact ⟨[], [], rfl, by simp⟩
  · rw [List.concat_eq_append, List.dropLast_concat] at h
    rw [List.concat_eq_append, reports_concat, reports_ok h]
    rcases result with error | _ | item
    · exact ⟨_, [.failed error], rfl, by simp [Report.item?]⟩
    · exact ⟨_, [], rfl, by simp⟩
    · exact ⟨_ ++ [item], [], by rw [List.map_append, List.append_nil]; rfl, by simp⟩

/-! ### The worker -/

namespace Worker

/-- Where the thread is: before its own look at the flag, before that of a poll, before the read
that the poll goes on to, with a report before the queue or in the call of the notifier, or at its
end. A panic was in the call for a report, or in a read. -/
inductive Stage (α ε : Type)
  | checking
  | polling
  | reading
  | sending (report : Report α ε)
  | notifying (report : Report α ε)
  | ended
  | panicked (calling : Option (Report α ε))
  deriving DecidableEq, Repr

/-- Where the thread goes on after a report. -/
def Stage.after : Report α ε → Stage α ε
  | .item _ => .checking
  | .failed _ => .sending .ended
  | .ended => .ended

/-- Where it goes on when nobody can receive a report: an item is the last one. -/
def Stage.unheard : Report α ε → Stage α ε
  | .item _ => .sending .ended
  | .failed error => .notifying (.failed error)
  | .ended => .notifying .ended

/-- The thread is at its end. -/
def Stage.finished : Stage α ε → Bool
  | .ended | .panicked _ => true
  | _ => false

/-- The thread is at its end because of a panic. -/
def Stage.hasPanicked : Stage α ε → Bool
  | .panicked _ => true
  | _ => false

/-- What the owner waits for the thread for. -/
inductive Call
  | close
  | release
  deriving DecidableEq, Repr

end Worker

open Worker in
/-- A worker, and what has happened so far: the results of its polls, the reports it sent and those
that nobody could receive, what its owner heard, how often the notifier was called, and whether
the thread had panicked each time the owner closed it. -/
structure Worker (σ α ε : Type) where
  source : σ
  notifies : Bool
  stage : Stage α ε := .checking
  queue : List (Report α ε) := []
  joined : Bool := false
  waiting : Option Call := none
  released : Bool := false
  polled : List (Except ε (Option α)) := []
  sent : List (Report α ε) := []
  lost : List (Report α ε) := []
  heard : List (Heard α ε) := []
  notified : ℕ := 0
  closings : List Bool := []

namespace Worker

/-- The reports that the owner has taken from the queue. -/
def taken (worker : Worker σ α ε) : List (Report α ε) := worker.heard.filterMap Heard.report?

/-- The owner can make a call. -/
def free (worker : Worker σ α ε) : Bool := worker.waiting.isNone && !worker.released

section Moves

variable (source : Source σ α ε)

/-- The read of a poll, and where it leads. The flag was not set when the poll looked at it. -/
def read (worker : Worker σ α ε) : Worker σ α ε :=
  { worker with
    source := (source.read worker.source).2
    polled := worker.polled ++ [(source.read worker.source).1]
    stage := match report? (source.read worker.source).1 with
      | some report => .sending report
      | none => .checking }

/-- A report goes into the queue; without a receiver it is lost. -/
def send (report : Report α ε) (worker : Worker σ α ε) : Worker σ α ε :=
  if worker.released then
    { worker with
      lost := worker.lost ++ [report]
      stage := .unheard report }
  else
    { worker with
      queue := worker.queue ++ [report], sent := worker.sent ++ [report]
      stage := .notifying report }

/-- The next step of the thread. -/
def work (worker : Worker σ α ε) : Worker σ α ε :=
  match worker.stage with
  | .checking =>
    { worker with stage := if source.stopped worker.source then .sending .ended else .polling }
  | .polling =>
    { worker with stage := if source.stopped worker.source then .checking else .reading }
  | .reading => worker.read source
  | .sending report => worker.send report
  | .notifying report =>
    { worker with
      notified := worker.notified + if worker.notifies then 1 else 0
      stage := .after report }
  | .ended | .panicked _ => worker

/-- The code that is read from, or the notifier, panics. -/
def panic (worker : Worker σ α ε) : Worker σ α ε :=
  match worker.stage with
  | .reading => { worker with stage := .panicked none }
  | .notifying report => { worker with stage := .panicked (some report) }
  | _ => worker

/-- What the owner hears next: the first report in the queue, or whether there can still be one. -/
def answer (worker : Worker σ α ε) : Heard α ε :=
  match worker.queue with
  | report :: _ => .report report
  | [] => if worker.stage.finished then .disconnected else .timeout

/-- The owner asks for a report. -/
def receive (worker : Worker σ α ε) : Worker σ α ε :=
  if worker.free then
    { worker with queue := worker.queue.tail, heard := worker.heard ++ [worker.answer] }
  else worker

/-- The receiver goes, and the queue with it. -/
def drop (worker : Worker σ α ε) : Worker σ α ε := { worker with released := true, queue := [] }

/-- The owner sets the flag and waits for the thread, if it has not done so before. -/
def halt (call : Call) (worker : Worker σ α ε) : Worker σ α ε :=
  if worker.free then
    if worker.joined then
      match call with
      | .close => { worker with source := source.stop worker.source,
                                closings := worker.closings ++ [false] }
      | .release => drop { worker with source := source.stop worker.source }
    else { worker with source := source.stop worker.source, waiting := some call }
  else worker

/-- The thread for which the owner waits has ended. -/
def join (worker : Worker σ α ε) : Worker σ α ε :=
  if worker.stage.finished then
    match worker.waiting with
    | none => worker
    | some .close =>
      { worker with
        joined := true, waiting := none
        closings := worker.closings ++ [worker.stage.hasPanicked] }
    | some .release => drop { worker with joined := true, waiting := none }
  else worker

/-- A step of the thread or of the owner. -/
inductive Move
  | work
  | panic
  | receive
  | halt (call : Call)
  | join
  deriving DecidableEq, Repr

/-- A step; one that is not possible changes nothing. -/
def move (worker : Worker σ α ε) : Move → Worker σ α ε
  | .work => worker.work source
  | .panic => worker.panic
  | .receive => worker.receive
  | .halt call => worker.halt source call
  | .join => worker.join

def run (moves : List Move) (worker : Worker σ α ε) : Worker σ α ε :=
  moves.foldl (move source) worker

theorem run_append (first later : List Move) (worker : Worker σ α ε) :
    run source (first ++ later) worker = run source later (run source first worker) :=
  List.foldl_append

end Moves

/-! ### What a run keeps -/

/-- Whether the polls can go on. -/
def Stage.going : Stage α ε → Bool
  | .checking | .polling | .reading | .sending (.item _) | .notifying (.item _) => true
  | _ => false

/-- How the reports that were sent relate to those of the polls. -/
def Stage.Covers (sent polled : List (Report α ε)) : Stage α ε → Prop
  | .checking | .polling | .reading | .sending .ended | .panicked none => sent = polled
  | .sending report => sent ++ [report] = polled
  | .notifying .ended | .panicked (some .ended) | .ended => sent = polled ++ [.ended]
  | .notifying _ | .panicked (some _) => sent = polled

/-- The reports that were sent and whose call of the notifier has begun but not returned. -/
def Stage.unnotified : Stage α ε → ℕ
  | .notifying _ | .panicked (some _) => 1
  | _ => 0

/-- What the owner was told each time it closed the worker: of a panic at most the first time. -/
def Closed (stage : Stage α ε) (closings : List Bool) : Prop :=
  ∃ later, closings = stage.hasPanicked :: List.replicate later false

/-- Everything so far is accounted for. -/
structure Sound (source : Source σ α ε) (start : σ) (worker : Worker σ α ε) : Prop where
  polls : ∃ n, (source.polls n start).1 = worker.polled ∧
    (worker.source = (source.polls n start).2 ∨
      worker.source = source.stop (source.polls n start).2)
  begun : worker.stage = .reading → source.stopped start = false
  going : worker.stage.going = true → ∀ result ∈ worker.polled, result.isOk = true
  failures : ∀ result ∈ worker.polled.dropLast, result.isOk = true
  sent : worker.stage.Covers worker.sent (reports worker.polled)
  lost : worker.lost = []
  queue : worker.released = false → worker.taken ++ worker.queue = worker.sent
  taken : worker.taken <+: worker.sent
  joined : worker.joined = true → worker.stage.finished = true
  released : worker.released = true → worker.stage.finished = true ∧ worker.queue = []
  disconnected : .disconnected ∈ worker.heard →
    worker.stage.finished = true ∧ worker.queue = [] ∧ worker.taken = worker.sent
  last : worker.heard.Pairwise fun first later => first = .disconnected → later = .disconnected
  notified : worker.notifies = true →
    worker.notified + worker.stage.unnotified = worker.sent.length
  waiting : worker.waiting.isSome = true → worker.joined = false
  unclosed : worker.joined = false → worker.closings = []
  closings : worker.joined = true →
    worker.released = true ∧ worker.closings = [] ∨ Closed worker.stage worker.closings

variable {source : Source σ α ε} {start : σ} {worker : Worker σ α ε}

/-- A worker that starts. -/
theorem sound_new (source : Source σ α ε) (start : σ) (notifies : Bool) :
    Sound source start { source := start, notifies := notifies } where
  polls := ⟨0, rfl, .inl rfl⟩
  begun := by simp
  going := by simp
  failures := by simp
  sent := rfl
  lost := rfl
  queue := fun _ => rfl
  taken := List.prefix_refl []
  joined := by simp
  released := by simp
  disconnected := by simp
  last := by simp
  notified := fun _ => rfl
  waiting := by simp
  unclosed := fun _ => rfl
  closings := by simp

/-- A step of a thread that goes on: only the thread's own part has to be looked at. -/
theorem Sound.thread (h : Sound source start worker) (hover : worker.stage.finished = false)
    {after : Worker σ α ε}
    (hpolls : ∃ n, (source.polls n start).1 = after.polled ∧
      (after.source = (source.polls n start).2 ∨
        after.source = source.stop (source.polls n start).2))
    (hbegun : after.stage = .reading → source.stopped start = false)
    (hgoing : after.stage.going = true → ∀ result ∈ after.polled, result.isOk = true)
    (hfailures : ∀ result ∈ after.polled.dropLast, result.isOk = true)
    (hsent : after.stage.Covers after.sent (reports after.polled))
    (hnotified : after.notifies = true →
      after.notified + after.stage.unnotified = after.sent.length)
    (hlost : after.lost = worker.lost) (hheard : after.heard = worker.heard)
    (hqueue : ∃ more, after.queue = worker.queue ++ more ∧ after.sent = worker.sent ++ more)
    (hjoined : after.joined = worker.joined) (hwaiting : after.waiting = worker.waiting)
    (hreleased : after.released = worker.released)
    (hclosings : after.closings = worker.closings) : Sound source start after := by
  obtain ⟨more, hqueue, hmore⟩ := hqueue
  have htaken : after.taken = worker.taken := by rw [Worker.taken, hheard, ← Worker.taken]
  have hnot {P : Prop} (hcontra : worker.stage.finished = true) : P := by
    rw [hover] at hcontra
    cases hcontra
  refine ⟨hpolls, hbegun, hgoing, hfailures, hsent, hlost.trans h.lost, fun hopen => ?_, ?_,
    fun hj => ?_, fun hr => ?_, fun hd => ?_, ?_, hnotified, ?_, fun hj => ?_, fun hj => ?_⟩
  · rw [htaken, hqueue, hmore, ← List.append_assoc, h.queue (hreleased ▸ hopen)]
  · rw [htaken, hmore]
    exact h.taken.trans (List.prefix_append _ _)
  · exact hnot (h.joined (hjoined ▸ hj))
  · exact hnot (h.released (hreleased ▸ hr)).1
  · exact hnot (h.disconnected (hheard ▸ hd)).1
  · rw [hheard]
    exact h.last
  · rw [hwaiting, hjoined]
    exact h.waiting
  · exact hclosings.trans (h.unclosed (hjoined ▸ hj))
  · exact hnot (h.joined (hjoined ▸ hj))

/-- A read adds one poll, also when the flag was set after the poll had looked at it. -/
theorem Sound.polls_read (h : Sound source start worker) (hstage : worker.stage = .reading) :
    ∃ n, (source.polls n start).1 = worker.polled ++ [(source.read worker.source).1] ∧
      ((source.read worker.source).2 = (source.polls n start).2 ∨
        (source.read worker.source).2 = source.stop (source.polls n start).2) := by
  obtain ⟨n, hpolled, hsource⟩ := h.polls
  have hpoll : source.poll (source.polls n start).2 = source.read (source.polls n start).2 :=
    source.poll_eq_read ((source.stopped_polls n start).trans (h.begun hstage))
  refine ⟨n + 1, ?_⟩
  rw [source.polls_succ, hpoll, hpolled]
  rcases hsource with heq | heq <;> rw [heq]
  · exact ⟨rfl, .inl rfl⟩
  · rw [source.read_stop]
    exact ⟨rfl, .inr rfl⟩

theorem Sound.read (h : Sound source start worker) (hstage : worker.stage = .reading) :
    Sound source start (worker.read source) := by
  have hgoing := h.going (by rw [hstage]; rfl)
  have hsent := h.sent
  have hnotified := h.notified
  rw [hstage] at hsent hnotified
  have hover : worker.stage.finished = false := by
    rw [hstage]
    rfl
  have hpolls := h.polls_read hstage
  have hfailures : ∀ result ∈ (worker.polled ++ [(source.read worker.source).1]).dropLast,
      result.isOk = true := by
    rw [List.dropLast_concat]
    exact hgoing
  rw [Worker.read]
  rcases hresult : source.read worker.source with ⟨error | item, after⟩ <;>
    rw [hresult] at hpolls hfailures
  case error =>
    refine h.thread hover hpolls (by simp [report?]) (by simp [report?, Stage.going]) hfailures ?_
      hnotified rfl rfl ⟨[], by simp, by simp⟩ rfl rfl rfl rfl
    simpa [Stage.Covers, reports_concat, report?] using hsent
  case ok =>
    have hok : ∀ result ∈ worker.polled ++ [.ok item], result.isOk = true := by
      intro result hmem
      rcases List.mem_append.mp hmem with hmem | hmem
      · exact hgoing result hmem
      · rw [List.mem_singleton.mp hmem]
        rfl
    rcases item with _ | item
    · refine h.thread hover hpolls (by simp [report?]) (fun _ => hok) hfailures ?_ hnotified rfl rfl
        ⟨[], by simp, by simp⟩ rfl rfl rfl rfl
      simpa [Stage.Covers, reports_concat, report?] using hsent
    · refine h.thread hover hpolls (by simp [report?]) (fun _ => hok) hfailures ?_ hnotified rfl rfl
        ⟨[], by simp, by simp⟩ rfl rfl rfl rfl
      simpa [Stage.Covers, reports_concat, report?] using hsent

/-- A poll that finds the flag not set goes on to read. -/
theorem Sound.look (h : Sound source start worker) (hstage : worker.stage = .polling)
    (hstop : source.stopped worker.source = false) :
    Sound source start { worker with stage := .reading } := by
  have hgoing := h.going
  have hsent := h.sent
  have hnotified := h.notified
  rw [hstage] at hgoing hsent hnotified
  refine h.thread (by rw [hstage]; rfl) h.polls (fun _ => ?_) hgoing h.failures hsent hnotified rfl
    rfl ⟨[], by simp, by simp⟩ rfl rfl rfl rfl
  -- The flag is as it was at the start, or was set by the owner, which it is not.
  obtain ⟨n, -, hsource⟩ := h.polls
  rcases hsource with heq | heq
  · rw [← source.stopped_polls n start, ← heq]
    exact hstop
  · rw [heq, source.stopped_stop] at hstop
    cases hstop

/-- The receiver is there as long as the thread is, so that a report is never lost. -/
theorem Sound.open (h : Sound source start worker) (hover : worker.stage.finished = false) :
    worker.released = false := by
  cases hreleased : worker.released with
  | false => rfl
  | true =>
    rw [(h.released hreleased).1] at hover
    cases hover

theorem Sound.send (h : Sound source start worker) {report : Report α ε}
    (hstage : worker.stage = .sending report) : Sound source start (worker.send report) := by
  have hover : worker.stage.finished = false := by
    rw [hstage]
    rfl
  have hsent := h.sent
  have hgoing := h.going
  have hnotified := h.notified
  rw [hstage] at hsent hgoing hnotified
  rw [Worker.send, if_neg (by rw [h.open hover]; exact Bool.false_ne_true)]
  refine h.thread hover h.polls (by simp) ?_ h.failures ?_ (fun hn => ?_) rfl rfl
    ⟨[report], rfl, rfl⟩ rfl rfl rfl rfl
  · intro hafter
    refine hgoing ?_
    cases report with
    | item => rfl
    | failed => cases hafter
    | ended => cases hafter
  · cases report with
    | item => exact hsent
    | failed => exact hsent
    | ended => exact congrArg (· ++ [Report.ended]) hsent
  · have := hnotified hn
    simp only [Stage.unnotified, List.length_append, List.length_singleton] at this ⊢
    omega

theorem Sound.notify (h : Sound source start worker) {report : Report α ε}
    (hstage : worker.stage = .notifying report) :
    Sound source start { worker with
      notified := worker.notified + if worker.notifies then 1 else 0
      stage := .after report } := by
  have hsent := h.sent
  have hgoing := h.going
  have hnotified := h.notified
  rw [hstage] at hsent hgoing hnotified
  refine h.thread (by rw [hstage]; rfl) h.polls ?_ ?_ h.failures ?_ (fun hn => ?_) rfl rfl
    ⟨[], by simp, by simp⟩ rfl rfl rfl rfl
  · cases report <;> simp [Stage.after]
  · intro hafter
    refine hgoing ?_
    cases report with
    | item => rfl
    | failed => cases hafter
    | ended => cases hafter
  · cases report with
    | item => exact hsent
    | failed => exact hsent
    | ended => exact hsent
  · have hone := hnotified hn
    have hnone : (Stage.after report : Stage α ε).unnotified = 0 := by cases report <;> rfl
    change worker.notified + (if worker.notifies then 1 else 0) +
      (Stage.after report).unnotified = _
    rw [if_pos hn, hnone]
    exact hone

/-- **A step of the thread.** -/
theorem Sound.work (h : Sound source start worker) : Sound source start (worker.work source) := by
  rw [Worker.work]
  rcases hstage : worker.stage with _ | _ | _ | report | report | _ | calling
  case checking =>
    have hsent := h.sent
    have hgoing := h.going
    have hnotified := h.notified
    rw [hstage] at hsent hgoing hnotified
    dsimp only
    split
    · exact h.thread (by rw [hstage]; rfl) h.polls (by simp) (by simp [Stage.going]) h.failures
        hsent hnotified rfl rfl ⟨[], by simp, by simp⟩ rfl rfl rfl rfl
    · exact h.thread (by rw [hstage]; rfl) h.polls (by simp) hgoing h.failures hsent hnotified rfl
        rfl ⟨[], by simp, by simp⟩ rfl rfl rfl rfl
  case polling =>
    dsimp only
    split
    · -- The flag forestalls the read.
      have hsent := h.sent
      have hgoing := h.going
      have hnotified := h.notified
      rw [hstage] at hsent hgoing hnotified
      exact h.thread (by rw [hstage]; rfl) h.polls (by simp) hgoing h.failures hsent hnotified rfl
        rfl ⟨[], by simp, by simp⟩ rfl rfl rfl rfl
    · rename_i hopen
      exact h.look hstage (Bool.eq_false_iff.mpr hopen)
  case reading => exact h.read hstage
  case sending => exact h.send hstage
  case notifying => exact h.notify hstage
  case ended => exact h
  case panicked => exact h

theorem Sound.panic (h : Sound source start worker) : Sound source start worker.panic := by
  have hsent := h.sent
  have hnotified := h.notified
  rw [Worker.panic]
  rcases hstage : worker.stage with _ | _ | _ | report | report | _ | calling <;>
    rw [hstage] at hsent hnotified
  case reading =>
    exact h.thread (by rw [hstage]; rfl) h.polls (by simp) (by simp [Stage.going]) h.failures hsent
      hnotified rfl rfl ⟨[], by simp, by simp⟩ rfl rfl rfl rfl
  case notifying =>
    -- The call in which it panics is the one for the last report.
    have hcovers : (Stage.panicked (some report)).Covers worker.sent (reports worker.polled) := by
      cases report with
      | item => exact hsent
      | failed => exact hsent
      | ended => exact hsent
    exact h.thread (by rw [hstage]; rfl) h.polls (by simp) (by simp [Stage.going]) h.failures
      hcovers hnotified rfl rfl ⟨[], by simp, by simp⟩ rfl rfl rfl rfl
  all_goals exact h

/-- **What the owner hears**: a report that was in the queue, or that there is none. -/
theorem Sound.receive (h : Sound source start worker) : Sound source start worker.receive := by
  rw [Worker.receive]
  split
  case isFalse => exact h
  rename_i hfree
  have hopen : worker.released = false := by
    simp only [free, Bool.and_eq_true, Bool.not_eq_true'] at hfree
    exact hfree.2
  have hqueue := h.queue hopen
  -- Of the whole, only what was heard is to be looked at.
  have hrest (heard : List (Heard α ε)) (queue : List (Report α ε))
      (hsent : heard.filterMap Heard.report? ++ queue = worker.sent)
      (hdisconnected : .disconnected ∈ heard → worker.stage.finished = true ∧ queue = [] ∧
        heard.filterMap Heard.report? = worker.sent)
      (hlast : heard.Pairwise fun first later => first = .disconnected → later = .disconnected) :
      Sound source start { worker with queue := queue, heard := heard } := by
    refine ⟨h.polls, h.begun, h.going, h.failures, h.sent, h.lost, fun _ => hsent, ⟨queue, hsent⟩,
      h.joined, fun hr => ?_, hdisconnected, hlast, h.notified, h.waiting, h.unclosed, h.closings⟩
    rw [show worker.released = true from hr] at hopen
    cases hopen
  have htaken (heard : Heard α ε) :
      (worker.heard ++ [heard]).filterMap Heard.report? =
        worker.taken ++ heard.report?.toList := by
    rw [List.filterMap_append, Worker.taken]
    cases heard <;> rfl
  have hlast (heard : Heard α ε)
      (hsame : .disconnected ∈ worker.heard → heard = .disconnected) :
      (worker.heard ++ [heard]).Pairwise fun first later =>
        first = .disconnected → later = .disconnected := by
    refine List.pairwise_append.mpr ⟨h.last, List.pairwise_singleton _ _, ?_⟩
    rintro first hmem later hlater rfl
    rw [List.mem_singleton.mp hlater]
    exact hsame hmem
  rw [Worker.answer]
  rcases hcase : worker.queue with _ | ⟨report, queue⟩ <;> rw [hcase] at hqueue <;>
    dsimp only [List.tail]
  case nil =>
    rw [List.append_nil] at hqueue
    cases hover : worker.stage.finished with
    | false =>
      have hconnected : .disconnected ∉ worker.heard := by
        intro hmem
        rw [(h.disconnected hmem).1] at hover
        cases hover
      refine hrest _ _ ?_ (fun hmem => ?_) (hlast _ fun hmem => absurd hmem hconnected)
      · simpa [htaken, Heard.report?] using hqueue
      · simp [hconnected] at hmem
    | true =>
      have hall := htaken .disconnected
      rw [Heard.report?, Option.toList_none, List.append_nil, hqueue] at hall
      exact hrest _ _ ((List.append_nil _).trans hall) (fun _ => ⟨hover, rfl, hall⟩)
        (hlast _ fun _ => rfl)
  case cons =>
    have hconnected : .disconnected ∉ worker.heard := by
      intro hmem
      have hnone := (h.disconnected hmem).2.1
      rw [hcase] at hnone
      cases hnone
    refine hrest _ _ ?_ (fun hmem => ?_) (hlast _ fun hmem => absurd hmem hconnected)
    · simpa [htaken, Heard.report?] using hqueue
    · simp [hconnected] at hmem

/-- The flag is set. -/
theorem Sound.stop (h : Sound source start worker) :
    Sound source start { worker with source := source.stop worker.source } := by
  refine ⟨?_, h.begun, h.going, h.failures, h.sent, h.lost, h.queue, h.taken, h.joined, h.released,
    h.disconnected, h.last, h.notified, h.waiting, h.unclosed, h.closings⟩
  obtain ⟨n, hpolled, hsource | hsource⟩ := h.polls
  · exact ⟨n, hpolled, .inr (congrArg source.stop hsource)⟩
  · refine ⟨n, hpolled, .inr ?_⟩
    dsimp only
    rw [source.stop_eq _ (by rw [hsource, source.stopped_stop]), hsource]

/-- The owner waits for a thread that it has not joined, or no longer. -/
theorem Sound.wait (h : Sound source start worker) {waiting : Option Call}
    (hwaiting : waiting.isSome = true → worker.joined = false) :
    Sound source start { worker with waiting := waiting } :=
  ⟨h.polls, h.begun, h.going, h.failures, h.sent, h.lost, h.queue, h.taken, h.joined, h.released,
    h.disconnected, h.last, h.notified, hwaiting, h.unclosed, h.closings⟩

/-- A thread that has ended can be joined, and its receiver be dropped. -/
theorem Sound.drop (h : Sound source start worker) (hover : worker.stage.finished = true)
    (hwaiting : worker.waiting = none) :
    Sound source start { worker with joined := true }.drop := by
  refine ⟨h.polls, h.begun, h.going, h.failures, h.sent, h.lost, by simp [Worker.drop], h.taken,
    fun _ => hover, fun _ => ⟨hover, rfl⟩, fun hmem => ⟨hover, rfl, (h.disconnected hmem).2.2⟩,
    h.last, h.notified, by simp [Worker.drop, hwaiting], by simp [Worker.drop], fun _ => ?_⟩
  cases hjoined : worker.joined with
  | false => exact .inl ⟨rfl, h.unclosed hjoined⟩
  | true => exact (h.closings hjoined).imp_left fun hnone => ⟨rfl, hnone.2⟩

/-- The owner is told of the end of the thread. -/
theorem Sound.close (h : Sound source start worker) (hover : worker.stage.finished = true)
    (hwaiting : worker.waiting = none) {closings : List Bool}
    (hclosings : Closed worker.stage closings) :
    Sound source start { worker with joined := true, closings := closings } :=
  ⟨h.polls, h.begun, h.going, h.failures, h.sent, h.lost, h.queue, h.taken, fun _ => hover,
    h.released, h.disconnected, h.last, h.notified, by simp [hwaiting], by simp,
    fun _ => .inr hclosings⟩

theorem free_iff : worker.free = true ↔ worker.waiting = none ∧ worker.released = false := by
  simp [free]

/-- **The owner stops the worker.** -/
theorem Sound.halt (h : Sound source start worker) (call : Call) :
    Sound source start (worker.halt source call) := by
  unfold Worker.halt
  split
  case isFalse => exact h
  rename_i hfree
  obtain ⟨hwaiting, hopen⟩ := free_iff.mp hfree
  split
  case isFalse =>
    rename_i hjoined
    exact h.stop.wait fun _ => Bool.eq_false_iff.mpr hjoined
  rename_i hjoined
  have hover := h.joined hjoined
  cases call with
  | close =>
    -- The thread was joined when the owner closed it before.
    obtain ⟨later, hlater⟩ : Closed worker.stage worker.closings := by
      refine (h.closings hjoined).resolve_left fun hnone => ?_
      rw [hopen] at hnone
      cases hnone.1
    have hclosed : Closed worker.stage (worker.closings ++ [false]) :=
      ⟨later + 1, by rw [hlater, List.replicate_succ']; rfl⟩
    have hclose := h.stop.close hover hwaiting hclosed
    rw [← hjoined] at hclose
    exact hclose
  | release =>
    have hdrop := h.stop.drop hover hwaiting
    rw [← hjoined] at hdrop
    exact hdrop

/-- **The thread is joined.** -/
theorem Sound.join (h : Sound source start worker) : Sound source start worker.join := by
  unfold Worker.join
  split
  case isFalse => exact h
  rename_i hover
  have hdone : Sound source start { worker with waiting := none } := h.wait (by simp)
  rcases hwaiting : worker.waiting with _ | _ | _
  case none => exact h
  case some.release => exact hdone.drop hover rfl
  case some.close =>
    dsimp only
    rw [h.unclosed (h.waiting (by rw [hwaiting]; rfl))]
    exact hdone.close hover rfl ⟨0, rfl⟩

/-- **One step.** -/
theorem Sound.move (h : Sound source start worker) (m : Move) :
    Sound source start (worker.move source m) := by
  cases m with
  | work => exact h.work
  | panic => exact h.panic
  | receive => exact h.receive
  | halt call => exact h.halt call
  | join => exact h.join

/-- **Any steps**, from the start of the worker on. -/
theorem sound_run (source : Source σ α ε) (start : σ) (notifies : Bool) (moves : List Move) :
    Sound source start (run source moves { source := start, notifies := notifies }) := by
  have hrun (worker : Worker σ α ε) (h : Sound source start worker) :
      Sound source start (run source moves worker) := by
    induction moves generalizing worker with
    | nil => exact h
    | cons m moves ih => exact ih _ (h.move m)
  exact hrun _ (sound_new source start notifies)

/-! ### What follows for the owner -/

/-- Only reports of polls are sent, in order, and last of all that the thread has ended. -/
theorem Sound.sent_isPrefix (h : Sound source start worker) :
    worker.sent <+: reports worker.polled ++ [.ended] := by
  have hsent := h.sent
  rcases hstage : worker.stage with _ | _ | _ | report | report | _ | calling <;>
    rw [hstage] at hsent
  case checking | polling | reading => exact ⟨[.ended], congrArg (· ++ [Report.ended]) hsent⟩
  case sending =>
    -- The report of the last poll is still on its way.
    cases report with
    | item item =>
      rw [show reports worker.polled = worker.sent ++ [.item item] from hsent.symm,
        List.append_assoc]
      exact List.prefix_append _ _
    | failed error =>
      rw [show reports worker.polled = worker.sent ++ [.failed error] from hsent.symm,
        List.append_assoc]
      exact List.prefix_append _ _
    | ended => exact ⟨[.ended], congrArg (· ++ [Report.ended]) hsent⟩
  case notifying =>
    cases report with
    | item => exact ⟨[.ended], congrArg (· ++ [Report.ended]) hsent⟩
    | failed => exact ⟨[.ended], congrArg (· ++ [Report.ended]) hsent⟩
    | ended => exact ⟨[], (List.append_nil _).trans hsent⟩
  case ended => exact ⟨[], (List.append_nil _).trans hsent⟩
  case panicked =>
    rcases calling with _ | item | error | _
    case some.ended => exact ⟨[], (List.append_nil _).trans hsent⟩
    all_goals exact ⟨[.ended], congrArg (· ++ [Report.ended]) hsent⟩

/-- **The owner hears the reports of the polls**, in order, and last of all of the end. -/
theorem Sound.taken_isPrefix (h : Sound source start worker) :
    worker.taken <+: reports worker.polled ++ [.ended] := h.taken.trans h.sent_isPrefix

/-- **After anything but an item** no item is heard. -/
theorem Sound.final (h : Sound source start worker) :
    worker.heard.Pairwise fun first later =>
      first.final = true → later.report?.bind Report.item? = none := by
  have htaken : worker.taken.Pairwise fun first later =>
      first.item? = none → later.item? = none := by
    obtain ⟨items, tail, hreports, htail⟩ := reports_shape h.failures
    have hprefix := h.taken_isPrefix
    rw [hreports, List.append_assoc] at hprefix
    refine List.Pairwise.sublist hprefix.sublist ?_
    refine List.pairwise_append.mpr ⟨?_, ?_, ?_⟩
    · refine List.pairwise_map.mpr (List.pairwise_of_forall fun first later hnone => ?_)
      cases hnone
    · refine List.pairwise_of_forall_mem_list fun first _ later hlater _ => ?_
      rcases List.mem_append.mp hlater with hlater | hlater
      · exact htail later hlater
      · rw [List.mem_singleton.mp hlater]
        rfl
    · intro first hfirst later _ hnone
      obtain ⟨item, -, rfl⟩ := List.mem_map.mp hfirst
      cases hnone
  have hpairs := (List.pairwise_filterMap.mp htaken).and h.last
  refine hpairs.imp ?_
  rintro first later ⟨hreports, hlast⟩ hfinal
  rcases later with report | _ | _
  case report =>
    rcases first with first | _ | _
    case report =>
      refine hreports first rfl report rfl ?_
      cases first with
      | item => cases hfinal
      | failed => rfl
      | ended => rfl
    case timeout => cases hfinal
    case disconnected => cases hlast rfl
  all_goals rfl

/-- An owner that has heard that nothing more can come has heard everything, unless the thread
panicked. -/
theorem Sound.taken_eq (h : Sound source start worker)
    (hdisconnected : .disconnected ∈ worker.heard) (hstage : worker.stage.hasPanicked = false) :
    worker.taken = reports worker.polled ++ [.ended] := by
  obtain ⟨hover, -, htaken⟩ := h.disconnected hdisconnected
  have hsent := h.sent
  rcases hcase : worker.stage with _ | _ | _ | report | report | _ | calling <;>
    rw [hcase] at hover hsent
  case ended => exact htaken.trans hsent
  case panicked =>
    rw [hcase] at hstage
    cases hstage
  all_goals cases hover

/-- A call to close tells of a panic at most once, and only of one that happened. -/
theorem Sound.count_closings (h : Sound source start worker) :
    worker.closings.count true ≤ 1 ∧
      (true ∈ worker.closings → worker.stage.hasPanicked = true) := by
  have hnone (hnil : worker.closings = []) :
      worker.closings.count true ≤ 1 ∧
        (true ∈ worker.closings → worker.stage.hasPanicked = true) := by
    simp [hnil]
  cases hjoined : worker.joined with
  | false => exact hnone (h.unclosed hjoined)
  | true =>
    rcases h.closings hjoined with ⟨-, hnil⟩ | ⟨later, hlater⟩
    · exact hnone hnil
    · rw [hlater]
      refine ⟨?_, fun hmem => ?_⟩
      · rw [List.count_cons, List.count_eq_zero.mpr (by simp)]
        split <;> simp
      · rcases List.mem_cons.mp hmem with heq | hmem
        · exact heq.symm
        · cases (List.mem_replicate.mp hmem).2

/-- No step adds or removes the notifier. -/
theorem notifies_run (moves : List Move) :
    (run source moves worker).notifies = worker.notifies := by
  induction moves generalizing worker with
  | nil => rfl
  | cons m moves ih =>
    have hrest : (run source (m :: moves) worker).notifies = (worker.move source m).notifies := ih
    refine hrest.trans ?_
    cases m with
    | work =>
      change (worker.work source).notifies = _
      rw [Worker.work]
      rcases worker.stage with _ | _ | _ | report | report | _ | calling
      case sending =>
        dsimp only
        unfold Worker.send
        split <;> rfl
      all_goals rfl
    | panic =>
      change worker.panic.notifies = _
      rw [Worker.panic]
      rcases worker.stage with _ | _ | _ | report | report | _ | calling <;> rfl
    | receive =>
      change worker.receive.notifies = _
      unfold Worker.receive
      split <;> rfl
    | halt call =>
      change (worker.halt source call).notifies = _
      unfold Worker.halt
      split
      case isFalse => rfl
      split
      case isFalse => rfl
      cases call <;> rfl
    | join =>
      change worker.join.notifies = _
      unfold Worker.join
      split
      case isFalse => rfl
      split <;> rfl

/-- An owner that has emptied the queue of a thread that looks at the flag has heard everything. -/
theorem Sound.taken_checking (h : Sound source start worker) (hstage : worker.stage = .checking)
    (hqueue : worker.queue = []) : worker.taken = reports worker.polled := by
  have hsent := h.sent
  rw [hstage] at hsent
  have hopen := h.queue (h.open (by rw [hstage]; rfl))
  rw [hqueue, List.append_nil] at hopen
  exact hopen.trans hsent

/-! ### A worker that goes on -/

/-- As long as it goes on, an owner hears nothing but items. -/
theorem Sound.heard_going (h : Sound source start worker) (hgoing : worker.stage.going = true) :
    ∀ heard ∈ worker.heard, heard.final = false := by
  have hover : worker.stage.finished = false := by
    rcases hstage : worker.stage with _ | _ | _ | report | report | _ | calling <;>
      rw [hstage] at hgoing
    case ended => cases hgoing
    case panicked => cases hgoing
    all_goals rfl
  have hsent : worker.sent <+: reports worker.polled := by
    have hcovers := h.sent
    rcases hstage : worker.stage with _ | _ | _ | report | report | _ | calling <;>
      rw [hstage] at hgoing hcovers
    case checking | polling | reading => exact hcovers ▸ List.prefix_refl _
    case sending =>
      cases report with
      | item item => exact ⟨[.item item], hcovers⟩
      | failed => cases hgoing
      | ended => cases hgoing
    case notifying =>
      cases report with
      | item => exact hcovers ▸ List.prefix_refl _
      | failed => cases hgoing
      | ended => cases hgoing
    all_goals cases hgoing
  intro heard hmem
  rcases heard with report | _ | _
  case report =>
    have htaken : report ∈ worker.taken := List.mem_filterMap.mpr ⟨_, hmem, rfl⟩
    have hreport := hsent.subset (h.taken.subset htaken)
    rw [reports_ok (h.going hgoing)] at hreport
    obtain ⟨item, -, rfl⟩ := List.mem_map.mp hreport
    rfl
  case timeout => rfl
  case disconnected =>
    rw [(h.disconnected hmem).1] at hover
    cases hover

/-- A worker that nobody has stopped, whose source satisfies `P`. -/
structure Going (source : Source σ α ε) (P : σ → Prop) (worker : Worker σ α ε) : Prop where
  holds : P worker.source
  stopped : source.stopped worker.source = false
  stage : worker.stage.going = true
  free : worker.free = true

theorem Going.work {P : σ → Prop}
    (hP : ∀ s, P s → (source.poll s).1.isOk = true ∧ P (source.poll s).2)
    (h : Going source P worker) : Going source P (worker.work source) := by
  obtain ⟨hsource, hstop, hgoing, hfree⟩ := h
  rw [Worker.work]
  rcases hstage : worker.stage with _ | _ | _ | report | report | _ | calling <;>
    rw [hstage] at hgoing
  case checking | polling =>
    dsimp only
    rw [if_neg (by rw [hstop]; exact Bool.false_ne_true)]
    exact ⟨hsource, hstop, rfl, hfree⟩
  case reading =>
    obtain ⟨hok, hnext⟩ := hP _ hsource
    rw [source.poll_eq_read hstop] at hok hnext
    refine ⟨hnext, (source.stopped_read _).trans hstop, ?_, hfree⟩
    change Stage.going (match report? (source.read worker.source).1 with
      | some report => .sending report
      | none => .checking) = true
    rcases hread : (source.read worker.source).1 with error | _ | item
    · rw [hread] at hok
      cases hok
    · rfl
    · rfl
  case sending =>
    dsimp only
    rw [Worker.send, if_neg (by rw [(free_iff.mp hfree).2]; exact Bool.false_ne_true)]
    refine ⟨hsource, hstop, ?_, hfree⟩
    cases report with
    | item => rfl
    | failed => cases hgoing
    | ended => cases hgoing
  case notifying =>
    refine ⟨hsource, hstop, ?_, hfree⟩
    cases report with
    | item => rfl
    | failed => cases hgoing
    | ended => cases hgoing
  all_goals cases hgoing

/-- **A worker goes on** as long as it is neither stopped nor panics and its polls do not fail. -/
theorem Going.run {P : σ → Prop}
    (hP : ∀ s, P s → (source.poll s).1.isOk = true ∧ P (source.poll s).2)
    (h : Going source P worker) (moves : List Move)
    (hmoves : ∀ m ∈ moves, m = .work ∨ m = .receive ∨ m = .join) :
    Going source P (run source moves worker) := by
  induction moves generalizing worker with
  | nil => exact h
  | cons m moves ih =>
    refine ih ?_ fun other hother => hmoves other (List.mem_cons_of_mem _ hother)
    rcases hmoves m List.mem_cons_self with rfl | rfl | rfl
    · exact h.work hP
    · change Going source P worker.receive
      rw [Worker.receive, if_pos h.free]
      exact ⟨h.holds, h.stopped, h.stage, h.free⟩
    · change Going source P worker.join
      have hsame : worker.join = worker := by
        unfold Worker.join
        rw [(free_iff.mp h.free).1]
        split <;> rfl
      rw [hsame]
      exact h

/-! ### The end -/

/-- The steps that a thread takes at most once it is stopped. -/
def Stage.remaining : Stage α ε → ℕ
  | .checking => 3
  | .polling => 4
  | .reading => 6
  | .sending (.item _) => 5
  | .notifying (.item _) => 4
  | .sending (.failed _) => 4
  | .notifying (.failed _) => 3
  | .sending .ended => 2
  | .notifying .ended => 1
  | .ended | .panicked _ => 0

theorem Stage.finished_iff (stage : Stage α ε) : stage.finished = true ↔ stage.remaining = 0 := by
  rcases stage with _ | _ | _ | report | report | _ | calling <;> (try cases report) <;>
    simp [finished, remaining]

theorem Stage.remaining_le (stage : Stage α ε) : stage.remaining ≤ 6 := by
  rcases stage with _ | _ | _ | report | report | _ | calling <;> (try cases report) <;>
    simp [remaining]

/-- After a read there is a report or another look at the flag. -/
theorem remaining_read (worker : Worker σ α ε) : (worker.read source).stage.remaining ≤ 5 := by
  change Stage.remaining (match report? (source.read worker.source).1 with
    | some report => .sending report
    | none => .checking) ≤ 5
  rcases (source.read worker.source).1 with error | _ | item <;> simp [report?, Stage.remaining]

theorem stage_read (worker : Worker σ α ε) : (worker.read source).stage ≠ .reading := by
  intro hstage
  have hle : (worker.read source).stage.remaining ≤ 5 := remaining_read worker
  rw [hstage, Stage.remaining] at hle
  omega

/-- What a worker is later: as far as it was, or one read further if its thread was already past
the flag. -/
def OneRead (source : Source σ α ε) (worker later : Worker σ α ε) : Prop :=
  (later.source = worker.source ∧ later.polled = worker.polled ∧
    (later.stage = .reading → worker.stage = .reading)) ∨
  (worker.stage = .reading ∧ later.source = (worker.read source).source ∧
    later.polled = (worker.read source).polled ∧ later.stage ≠ .reading)

theorem OneRead.trans {between later : Worker σ α ε} (h : OneRead source worker between)
    (hlater : OneRead source between later) : OneRead source worker later := by
  rcases h with ⟨hsource, hpolled, hstage⟩ | ⟨hstage, hsource, hpolled, hpast⟩
  · rcases hlater with ⟨hsource', hpolled', hstage'⟩ | ⟨hstage', hsource', hpolled', hpast'⟩
    · exact .inl ⟨hsource'.trans hsource, hpolled'.trans hpolled, hstage ∘ hstage'⟩
    · refine .inr ⟨hstage hstage', hsource'.trans ?_, hpolled'.trans ?_, hpast'⟩
      · rw [Worker.read, Worker.read, hsource]
      · rw [Worker.read, Worker.read, hsource, hpolled]
  · -- There is no second read: the thread comes back to the flag first.
    rcases hlater with ⟨hsource', hpolled', hstage'⟩ | ⟨hstage', -⟩
    · exact .inr ⟨hstage, hsource'.trans hsource, hpolled'.trans hpolled, hpast ∘ hstage'⟩
    · exact absurd hstage' hpast

/-- A step of a thread that is stopped: at most a read that the flag comes too late for, and it is
closer to its end. -/
theorem work_stopped (hstop : source.stopped worker.source = true) :
    OneRead source worker (worker.work source) ∧
      (worker.work source).stage.remaining ≤ worker.stage.remaining - 1 := by
  rw [Worker.work]
  rcases hstage : worker.stage with _ | _ | _ | report | report | _ | calling
  case checking =>
    dsimp only
    rw [if_pos hstop]
    exact ⟨.inl ⟨rfl, rfl, by simp⟩, Nat.le_refl 2⟩
  case polling =>
    dsimp only
    rw [if_pos hstop]
    exact ⟨.inl ⟨rfl, rfl, by simp⟩, Nat.le_refl 3⟩
  case reading =>
    -- The flag came too late for this read.
    exact ⟨.inr ⟨hstage, rfl, rfl, worker.stage_read⟩, worker.remaining_read⟩
  case sending =>
    dsimp only
    unfold Worker.send
    split
    · refine ⟨.inl ⟨rfl, rfl, ?_⟩, ?_⟩ <;> cases report <;> simp [Stage.unheard, Stage.remaining]
    · refine ⟨.inl ⟨rfl, rfl, by simp⟩, ?_⟩
      cases report <;> simp [Stage.remaining]
  case notifying =>
    refine ⟨.inl ⟨rfl, rfl, ?_⟩, ?_⟩ <;> cases report <;> simp [Stage.after, Stage.remaining]
  case ended => exact ⟨.inl ⟨rfl, rfl, id⟩, by rw [hstage]; exact Nat.zero_le _⟩
  case panicked => exact ⟨.inl ⟨rfl, rfl, id⟩, by rw [hstage]; exact Nat.zero_le _⟩

/-- A call of the owner leaves the thread where it is. -/
theorem stage_halt (call : Call) : (worker.halt source call).stage = worker.stage := by
  unfold Worker.halt
  split
  case isFalse => rfl
  split
  case isFalse => rfl
  cases call <;> rfl

/-- **A step of a worker that is stopped.** -/
theorem move_stopped (hstop : source.stopped worker.source = true) (m : Move) :
    OneRead source worker (worker.move source m) ∧
      (worker.move source m).stage.remaining ≤
        worker.stage.remaining - if m = .work then 1 else 0 := by
  cases m with
  | work => exact work_stopped hstop
  | panic =>
    change OneRead source worker worker.panic ∧ worker.panic.stage.remaining ≤ _
    rw [Worker.panic]
    rcases hstage : worker.stage with _ | _ | _ | report | report | _ | calling
    case reading => exact ⟨.inl ⟨rfl, rfl, by simp⟩, Nat.zero_le _⟩
    case notifying => exact ⟨.inl ⟨rfl, rfl, by simp⟩, Nat.zero_le _⟩
    all_goals exact ⟨.inl ⟨rfl, rfl, id⟩, Nat.le_of_eq (by rw [hstage]; rfl)⟩
  | receive =>
    change OneRead source worker worker.receive ∧ worker.receive.stage.remaining ≤ _
    unfold Worker.receive
    split <;> exact ⟨.inl ⟨rfl, rfl, id⟩, Nat.le_refl _⟩
  | halt call =>
    change OneRead source worker (worker.halt source call) ∧
      (worker.halt source call).stage.remaining ≤ _
    rw [stage_halt]
    refine ⟨.inl ⟨?_, ?_, fun hreading => (stage_halt call).symm.trans hreading⟩, Nat.le_refl _⟩ <;>
      unfold Worker.halt <;> rw [source.stop_eq _ hstop] <;> split
    case isFalse => rfl
    case isFalse => rfl
    all_goals
      split
      · cases call <;> rfl
      · rfl
  | join =>
    change OneRead source worker worker.join ∧ worker.join.stage.remaining ≤ _
    unfold Worker.join
    split
    case isFalse => exact ⟨.inl ⟨rfl, rfl, id⟩, Nat.le_refl _⟩
    split <;> exact ⟨.inl ⟨rfl, rfl, id⟩, Nat.le_refl _⟩

/-- No step takes the flag back. -/
theorem stopped_move (hstop : source.stopped worker.source = true) (m : Move) :
    source.stopped (worker.move source m).source = true := by
  rcases (move_stopped hstop m).1 with ⟨hsource, -⟩ | ⟨-, hsource, -⟩ <;> rw [hsource]
  · exact hstop
  · exact (source.stopped_read _).trans hstop

/-- **A worker that is stopped** reads at most once more, whatever happens, and each step of its
thread brings it closer to its end. -/
theorem run_stopped (hstop : source.stopped worker.source = true) (moves : List Move) :
    OneRead source worker (run source moves worker) ∧
      (run source moves worker).stage.remaining ≤
        worker.stage.remaining - moves.count .work := by
  induction moves generalizing worker with
  | nil => exact ⟨.inl ⟨rfl, rfl, id⟩, Nat.le_refl _⟩
  | cons m moves ih =>
    obtain ⟨hread, hremaining⟩ := move_stopped hstop m
    obtain ⟨hread', hremaining'⟩ := ih (stopped_move hstop m)
    refine ⟨hread.trans hread', Nat.le_trans hremaining' ?_⟩
    simp only [List.count_cons, beq_iff_eq]
    omega

/-- An owner that waits for the thread, or has let the worker go, has stopped it. -/
def Halted (source : Source σ α ε) (worker : Worker σ α ε) : Prop :=
  worker.free = false → source.stopped worker.source = true

/-- What stops the worker. -/
theorem Halted.halt (h : Halted source worker) (call : Call) :
    (worker.halt source call).source = source.stop worker.source ∧
      (worker.halt source call).polled = worker.polled := by
  unfold Worker.halt
  split
  case isFalse =>
    rename_i hfree
    exact ⟨(source.stop_eq _ (h (Bool.eq_false_iff.mpr hfree))).symm, rfl⟩
  split
  case isFalse => exact ⟨rfl, rfl⟩
  cases call <;> exact ⟨rfl, rfl⟩

theorem Halted.move (h : Halted source worker) (m : Move) :
    Halted source (worker.move source m) := by
  intro hfree
  cases hstop : source.stopped worker.source with
  | true => exact stopped_move hstop m
  | false =>
    have hopen : worker.free = true := by
      rw [← Bool.not_eq_false]
      intro hbusy
      rw [h hbusy] at hstop
      cases hstop
    obtain ⟨hwaiting, hreleased⟩ := free_iff.mp hopen
    -- Only a call of the owner can have made it wait.
    cases m with
    | halt call =>
      change source.stopped (worker.halt source call).source = true
      rw [(h.halt call).1]
      exact source.stopped_stop _
    | work =>
      have hsame : (worker.work source).free = worker.free := by
        rw [Worker.work]
        rcases worker.stage with _ | _ | _ | report | report | _ | calling
        case sending =>
          dsimp only
          unfold Worker.send
          split <;> rfl
        all_goals rfl
      change (worker.work source).free = false at hfree
      rw [hsame, hopen] at hfree
      cases hfree
    | panic =>
      have hsame : worker.panic.free = worker.free := by
        rw [Worker.panic]
        rcases worker.stage with _ | _ | _ | report | report | _ | calling <;> rfl
      change worker.panic.free = false at hfree
      rw [hsame, hopen] at hfree
      cases hfree
    | receive =>
      have hsame : worker.receive.free = worker.free := by
        unfold Worker.receive
        split <;> rfl
      change worker.receive.free = false at hfree
      rw [hsame, hopen] at hfree
      cases hfree
    | join =>
      have hsame : worker.join = worker := by
        unfold Worker.join
        rw [hwaiting]
        split <;> rfl
      change worker.join.free = false at hfree
      rw [hsame, hopen] at hfree
      cases hfree

theorem halted_run (start : σ) (notifies : Bool) (moves : List Move) :
    Halted source (run source moves { source := start, notifies := notifies }) := by
  have hrun (worker : Worker σ α ε) (h : Halted source worker) :
      Halted source (run source moves worker) := by
    induction moves generalizing worker with
    | nil => exact h
    | cons m moves ih => exact ih _ (h.move m)
  exact hrun _ fun hfree => by cases hfree

/-- An owner that waits for a thread that has ended waits no longer. -/
theorem waiting_join (hover : worker.stage.finished = true) : worker.join.waiting = none := by
  unfold Worker.join
  rw [if_pos hover]
  rcases hwaiting : worker.waiting with _ | _ | _
  case none => exact hwaiting
  all_goals rfl

/-- **The end of a worker**: once its owner has called for it, a worker changes its source no more
and polls no more, but for the read of a poll that had looked at the flag before; and after six
steps its thread has ended. -/
theorem ends_run (start : σ) (notifies : Bool) (moves later : List Move) (call : Call)
    {before after : Worker σ α ε}
    (hbefore : before = run source moves { source := start, notifies := notifies })
    (hafter : after = run source (.halt call :: later) before) :
    ((after.source = source.stop before.source ∧ after.polled = before.polled) ∨
      (before.stage = .reading ∧ after.source = source.stop (source.read before.source).2 ∧
        after.polled = before.polled ++ [(source.read before.source).1])) ∧
      (6 ≤ later.count .work → after.stage.finished = true) := by
  have hhalted : Halted source before := hbefore ▸ halted_run start notifies moves
  obtain ⟨hsource, hpolled⟩ := hhalted.halt call
  have hstop : source.stopped (before.halt source call).source = true := by
    rw [hsource]
    exact source.stopped_stop _
  obtain ⟨hread, hremaining⟩ := run_stopped hstop later
  have hrun : after = run source later (before.halt source call) := hafter
  rw [← hrun] at hread hremaining
  refine ⟨?_, fun hlater => ?_⟩
  · rcases hread with ⟨hsource', hpolled', -⟩ | ⟨hstage, hsource', hpolled', -⟩
    · exact .inl ⟨hsource'.trans hsource, hpolled'.trans hpolled⟩
    · rw [stage_halt] at hstage
      rw [Worker.read, hsource, source.read_stop] at hsource' hpolled'
      rw [hpolled] at hpolled'
      exact .inr ⟨hstage, hsource', hpolled'⟩
  · rw [Stage.finished_iff]
    have hle := Stage.remaining_le (before.halt source call).stage
    omega

end Worker

end Foundation

import ClassicHid.Session.Run

/-!
# The queue of events and the end of a session

Events wait in a queue of 64 until a poll returns them. As long as the session is not closed, what
polls have returned and what still waits is what was queued, in order; `close` throws the rest away.
A session that has ended with an error answers every call with that error, and a closed one with
`Closed`, and neither touches the controller, which is closed once.

## Main definitions

* `deliveredEvents`, `enqueuedEvents`: the events of a record, in order
* `Accounts`: the events of a world are accounted for
* `World.performs`: a sequence of calls

## Main results

* `event_queue_and_terminal`: the queue, the terminal state and the closed state
* `closed_queue_loses_events`: events that wait when the session is closed are lost
-/

namespace ClassicHid

open Foundation BackendSession World

variable {S : Type}

/-- The events polls have returned, in order. -/
def deliveredEvents : List (Entry S) → List Event
  | [] => []
  | entry :: earlier => deliveredEvents earlier ++
    match entry.action with
    | .returned (.poll _) (.ok events) => events
    | _ => []

/-- The events that were queued, in order. -/
def enqueuedEvents : List (Entry S) → List Event
  | [] => []
  | entry :: earlier => enqueuedEvents earlier ++
    match entry.action with
    | .enqueued event => [event]
    | _ => []

def Action.isClosed : Action → Bool
  | .closed => true
  | _ => false

/-- Whether an action is about events or the end of the session. -/
def Action.isBookkeeping : Action → Bool
  | .enqueued _ | .closed => true
  | .returned (.poll _) (.ok (_ :: _)) => true
  | _ => false

/-- The events of a world are accounted for, there is room for them, and the controller was closed
as often as the session. -/
structure Accounts (w : World S) : Prop where
  room : w.session.pendingEvents.length ≤ eventQueueCapacity
  rooms : ∀ entry ∈ w.trace, entry.session.pendingEvents.length ≤ eventQueueCapacity
  events : w.session.closed = false →
    deliveredEvents w.trace ++ w.session.pendingEvents = enqueuedEvents w.trace
  closed : w.trace.countP (·.action.isClosed) = if w.session.closed then 1 else 0

namespace Accounts

variable {w w' : World S}

/-- Entries about something else are added. -/
theorem append (h : Accounts w) (later : List (Entry S)) (htrace : w'.trace = later ++ w.trace)
    (hlater : ∀ entry ∈ later, entry.action.isBookkeeping = false ∧
      entry.session.pendingEvents = w.session.pendingEvents)
    (hpending : w'.session.pendingEvents = w.session.pendingEvents)
    (hclosed : w'.session.closed = w.session.closed) : Accounts w' := by
  have hevents (l : List (Entry S)) (hl : ∀ entry ∈ l, entry.action.isBookkeeping = false) :
      deliveredEvents (l ++ w.trace) = deliveredEvents w.trace ∧
        enqueuedEvents (l ++ w.trace) = enqueuedEvents w.trace ∧
        (l ++ w.trace).countP (·.action.isClosed) = w.trace.countP (·.action.isClosed) := by
    induction l with
    | nil => exact ⟨rfl, rfl, rfl⟩
    | cons entry l ih =>
      obtain ⟨hdelivered, henqueued, hcount⟩ := ih fun e he => hl e (by simp [he])
      have hentry := hl entry (by simp)
      rcases entry with ⟨session, action⟩
      rw [List.cons_append, deliveredEvents, enqueuedEvents, List.countP_cons, hdelivered, henqueued,
        hcount]
      cases action with
      | enqueued | closed => cases hentry
      | returned call result =>
        cases call with
        | poll =>
          rcases result with error | _ | ⟨event, events⟩
          · simp [Action.isClosed]
          · simp [Action.isClosed]
          · cases hentry
        | _ => simp [Action.isClosed]
      | _ => simp [Action.isClosed]
  obtain ⟨hdelivered, henqueued, hcount⟩ := hevents later fun entry hentry => (hlater entry hentry).1
  refine ⟨?_, fun entry hentry => ?_, fun hopen => ?_, ?_⟩
  · rw [hpending]
    exact h.room
  · rw [htrace, List.mem_append] at hentry
    rcases hentry with hentry | hentry
    · rw [(hlater entry hentry).2]
      exact h.room
    · exact h.rooms entry hentry
  · rw [htrace, hdelivered, henqueued, hpending]
    exact h.events (hclosed ▸ hopen)
  · rw [htrace, hcount, hclosed]
    exact h.closed

theorem enqueue (h : Accounts w) (event : Event) : Accounts (w.enqueue event) := by
  rcases enqueue_cases event w with ⟨-, heq⟩ | ⟨-, -, heq⟩ | ⟨-, hroom, heq⟩ <;> rw [heq]
  · exact h
  · exact h.append [] rfl (by simp) rfl rfl
  · refine ⟨?_, fun entry hentry => ?_, fun hopen => ?_, ?_⟩
    · have := h.room
      simp only [World.set, World.log, List.length_append, List.length_singleton]
      omega
    · rcases List.mem_cons.mp hentry with rfl | hentry
      · exact h.room
      · exact h.rooms entry hentry
    · have hevents := h.events hopen
      simp only [World.set, World.log, deliveredEvents, enqueuedEvents, List.append_nil]
      rw [← List.append_assoc, hevents]
    · exact (List.countP_cons ..).trans h.closed

theorem delivered (h : Accounts w) (timeout : ℕ) :
    Accounts ((w.set ({ · with pendingEvents := [] })).log
      (.returned (.poll timeout) (.ok w.session.pendingEvents))) := by
  refine ⟨Nat.zero_le _, fun entry hentry => ?_, fun hopen => ?_, ?_⟩
  · rcases List.mem_cons.mp hentry with rfl | hentry
    · exact Nat.zero_le _
    · exact h.rooms entry hentry
  · simpa [World.set, World.log, deliveredEvents, enqueuedEvents] using h.events hopen
  · exact (List.countP_cons ..).trans h.closed

theorem close (h : Accounts w) (hopen : w.session.closed = false) :
    Accounts ((w.log .closed).set closedSession) := by
  refine ⟨Nat.zero_le _, fun entry hentry => ?_, fun hclosed => (by cases hclosed), ?_⟩
  · rcases List.mem_cons.mp hentry with rfl | hentry
    · exact h.room
    · exact h.rooms entry hentry
  · have := h.closed
    rw [hopen] at this
    simp only [World.set, World.log, List.countP_cons, this]
    rfl

/-- **Every step** keeps the account. -/
theorem step [BondStore S] (h : Accounts w) (hstep : Step w w') : Accounts w' := by
  cases hstep with
  | received | commanded | flushed | linked | opened | connecting =>
    exact h.append [_] rfl (by simp [Action.isBookkeeping, World.popped, World.set]) rfl rfl
  | hosted op =>
    obtain ⟨later, hlater, hupserted⟩ := trace_hosted w (op.run w.session.host).2
    refine h.append later hlater (fun entry hentry => ?_) rfl rfl
    obtain ⟨peer, bond, rfl⟩ := hupserted entry hentry
    exact ⟨rfl, rfl⟩
  | admitted | reported => exact h.enqueue _
  | unlinked | failed =>
    refine enqueue ?_ _
    exact h.append [] rfl (by simp) rfl rfl
  | announced hannounces =>
    refine enqueue ?_ _
    rcases hannounces with ⟨output, -, rfl⟩ | ⟨-, rfl⟩ <;> exact h.append [] rfl (by simp) rfl rfl
  | delivered timeout => exact h.delivered timeout
  | _ => exact h.append [] rfl (by simp) rfl rfl

end Accounts

theorem Reachable.accounts [BondStore S] {w : World S} (h : Reachable w) : Accounts w := by
  refine Reachable.induction (fun w hw => ?_) (fun w w' hturn hw => ?_) h
  · obtain ⟨io, capabilities, config, bonds, length, count, htrace, hsession⟩ := hw
    refine ⟨?_, ?_, ?_, ?_⟩ <;> simp [htrace, hsession, deliveredEvents, enqueuedEvents]
  · cases hturn with
    | step _ hstep => exact hw.step hstep
    | @noted action hnote =>
      refine hw.append [⟨w.session, action⟩] rfl (fun entry hentry => ?_) rfl rfl
      rw [List.mem_singleton.mp hentry]
      refine ⟨?_, rfl⟩
      cases action with
      | called => rfl
      | returned call result =>
        rcases result with error | _ | ⟨event, events⟩
        · cases call <;> rfl
        · cases call <;> rfl
        · exact hnote.elim
      | _ => exact hnote.elim
    | closed hopen => exact hw.close hopen

/-! ### The end of a session -/

section Ended

variable [BondStore S] {w : World S} {error : Error}

/-- A sequence of calls, with the result of each. -/
def World.performs : List Call → World S → List (Except Error (List Event)) × World S
  | [], w => ([], w)
  | call :: calls, w =>
    ((w.perform call).1 :: ((w.perform call).2.performs calls).1,
      ((w.perform call).2.performs calls).2)

/-- A call of a session that is over does nothing but return the error. -/
theorem perform_inactive {call : Call} (hcall : call ≠ .close)
    (h : checkActive w.session = .error error) :
    w.perform call = (.error error, (w.log (.called call)).log (.returned call (.error error))) := by
  have hinactive {α : Type} (f : Unit → Op S α) :
      (ensureActive >>= f) (w.log (.called call)) = (.error error, w.log (.called call)) :=
    bind_ensureActive f h
  have hrun : call.run (w.log (.called call)) = (.error error, w.log (.called call)) := by
    cases call with
    | close => exact absurd rfl hcall
    | poll timeout => exact hinactive _
    | startPairing =>
      rw [Call.run, Exec.bind_apply, BackendSession.startPairing, hinactive]
    | startReconnect =>
      rw [Call.run, Exec.bind_apply, BackendSession.startReconnect, hinactive]
    | sendInterrupt payload =>
      rw [Call.run, Exec.bind_apply, BackendSession.sendInterrupt, hinactive]
    | drainInterrupt timeout =>
      rw [Call.run, Exec.bind_apply, BackendSession.drainInterrupt, hinactive]
    | disconnect =>
      rw [Call.run, Exec.bind_apply, BackendSession.disconnect, hinactive]
  rw [World.perform, hrun]

theorem perform_close_closed (h : w.session.closed = true) :
    w.perform .close = (.ok [], (w.log (.called .close)).log (.returned .close (.ok []))) := by
  have hclosed : (w.log (.called .close)).session.closed = true := h
  have hclose : BackendSession.close (w.log (.called .close)) = (.ok (), w.log (.called .close)) := by
    rw [BackendSession.close, if_pos hclosed]
  rw [World.perform, Call.run, Exec.bind_ok hclose]
  rfl

/-- Nothing happened between two worlds but that calls were made and answered. -/
def OnlyCalls (w w' : World S) : Prop :=
  w'.session = w.session ∧ ∃ later, w'.trace = later ++ w.trace ∧
    ∀ entry ∈ later, (∃ call, entry.action = .called call) ∨
      ∃ call result, entry.action = .returned call result

omit [BondStore S] in
theorem OnlyCalls.refl (w : World S) : OnlyCalls w w := ⟨rfl, [], rfl, by simp⟩

omit [BondStore S] in
/-- A call that did nothing is followed by others. -/
theorem OnlyCalls.call {w' : World S} {call : Call} {result : Except Error (List Event)}
    (h : OnlyCalls ((w.log (.called call)).log (.returned call result)) w') : OnlyCalls w w' := by
  obtain ⟨hsession, later, htrace, hlater⟩ := h
  refine ⟨hsession, later ++ [⟨w.session, .returned call result⟩, ⟨w.session, .called call⟩], ?_, ?_⟩
  · rw [htrace]
    simp [World.log]
  · intro entry hentry
    rcases List.mem_append.mp hentry with hentry | hentry
    · exact hlater entry hentry
    · simp only [List.mem_cons, List.not_mem_nil, or_false] at hentry
      rcases hentry with rfl | rfl
      · exact .inr ⟨call, result, rfl⟩
      · exact .inl ⟨call, rfl⟩

/-- Calls of a session that has ended all return its error and do nothing. -/
theorem performs_terminal (hopen : w.session.closed = false)
    (hterminal : w.session.terminal = some error) {calls : List Call}
    (hcalls : ∀ call ∈ calls, call ≠ .close) :
    (w.performs calls).1 = calls.map (fun _ => .error error) ∧ OnlyCalls w (w.performs calls).2 := by
  induction calls generalizing w with
  | nil => exact ⟨rfl, .refl w⟩
  | cons call calls ih =>
    have hinactive : checkActive w.session = .error error := by
      simp [checkActive, hopen, hterminal]
    have hperform := perform_inactive (hcalls call (by simp)) hinactive
    obtain ⟨hresults, honly⟩ := ih (w := (w.perform call).2) (by rw [hperform]; exact hopen)
      (by rw [hperform]; exact hterminal) fun c hc => hcalls c (by simp [hc])
    refine ⟨?_, ?_⟩
    · rw [World.performs, List.map_cons, hresults, hperform]
    · rw [World.performs]
      rw [hperform] at honly ⊢
      exact honly.call

/-- Calls of a closed session all return `Closed` and do nothing; closing it again succeeds. -/
theorem performs_closed (hclosed : w.session.closed = true) (calls : List Call) :
    (w.performs calls).1 =
        calls.map (fun call => if call = .close then .ok [] else .error (.new .closed)) ∧
      OnlyCalls w (w.performs calls).2 := by
  induction calls generalizing w with
  | nil => exact ⟨rfl, .refl w⟩
  | cons call calls ih =>
    have hinactive : checkActive w.session = .error (.new .closed) := by simp [checkActive, hclosed]
    have hperform : w.perform call =
        ((if call = .close then .ok [] else .error (.new .closed)), (w.log (.called call)).log
          (.returned call (if call = .close then .ok [] else .error (.new .closed)))) := by
      by_cases hcall : call = .close
      · subst hcall
        exact perform_close_closed hclosed
      · simp only [if_neg hcall]
        exact perform_inactive hcall hinactive
    obtain ⟨hresults, honly⟩ := ih (w := (w.perform call).2) (by rw [hperform]; exact hclosed)
    refine ⟨?_, ?_⟩
    · rw [World.performs, List.map_cons, hresults, hperform]
    · rw [World.performs]
      rw [hperform] at honly ⊢
      exact honly.call

theorem closed_perform_close (w : World S) : (w.perform .close).2.session.closed = true := by
  simp only [World.perform, Call.run, Exec.bind_apply, BackendSession.close]
  by_cases hclosed : (w.log (.called .close)).session.closed = true
  · rw [if_pos hclosed]
    exact hclosed
  · rw [if_neg hclosed]
    rcases (w.log (.called .close)).session.io with _ | io
    · rfl
    · dsimp only
      rcases io.close with error | _ <;> rfl

end Ended

/-- **The queue of events and the end of a session.** In every run at most 64 events wait, and until
the session is closed the events that polls have returned, followed by those that wait, are the
queued ones in order. A session that has ended with an error can send nothing and answers every
call with that error until it is closed; closed, it answers with `Closed`. None of these calls sends
or receives anything. The controller is closed once, with the session. -/
theorem event_queue_and_terminal [BondStore S] {w : World S} (h : Reachable w) :
    (w.session.pendingEvents.length ≤ 64 ∧
      ∀ entry ∈ w.trace, entry.session.pendingEvents.length ≤ 64) ∧
      (w.session.closed = false →
        deliveredEvents w.trace ++ w.session.pendingEvents = enqueuedEvents w.trace) ∧
      (∀ error, w.session.terminal = some error → w.session.closed = false →
        interruptSendCapacityAvailable w.session = false ∧
          ∀ calls : List Call, (∀ call ∈ calls, call ≠ .close) →
            (w.performs calls).1 = calls.map (fun _ => .error error) ∧
              OnlyCalls w (w.performs calls).2) ∧
      (∀ calls, ((w.perform .close).2.performs calls).1 =
          calls.map (fun call => if call = .close then .ok [] else .error (.new .closed)) ∧
        OnlyCalls (w.perform .close).2 ((w.perform .close).2.performs calls).2) ∧
      w.trace.countP (·.action.isClosed) = if w.session.closed then 1 else 0 := by
  have haccounts := h.accounts
  refine ⟨⟨haccounts.room, haccounts.rooms⟩, haccounts.events, fun error hterminal hopen => ⟨?_, ?_⟩,
    performs_closed (closed_perform_close w), haccounts.closed⟩
  · simp [interruptSendCapacityAvailable, hterminal]
  · exact fun calls hcalls => performs_terminal hopen hterminal hcalls

/-! ### Events that are lost -/

/-- The end of the link with handle 0x40. -/
def disconnectionPacket : Packet :=
  .event (eventPacket eventDisconnectionComplete ([0] ++ toLe16 0x40 ++ [0x13]))

/-- The first poll finds a peer that connects and asks twice for information. The controller has one
buffer, so that the second answer waits, and the next packet ends the link. -/
def sampleDrainAnswers : List (Except Error (Option Packet)) :=
  [.ok (some (requestPacket samplePeer)), .ok (some (completePacket 0 0x40 samplePeer)),
   .ok (some (.acl (signalPacket (.informationRequest 1 2)))),
   .ok (some (.acl (signalPacket (.informationRequest 2 2)))), .ok none,
   .ok (some disconnectionPacket)]

def sampleDrain : World MemoryBondStore :=
  .ofSetup (initializeSession (sampleController 1 sampleDrainAnswers) sampleConfig {}) [0, 0, 0] 100
    (by decide +kernel)

/-- The session is closed after it has waited for its output and before another poll. -/
def sampleLost : World MemoryBondStore :=
  (sampleDrain.performs [.startPairing, .poll 10, .drainInterrupt 10, .close]).2

theorem reachable_performs [BondStore S] {w : World S} (h : Reachable w) (calls : List Call) :
    Reachable (w.performs calls).2 := by
  induction calls generalizing w with
  | nil => exact h
  | cons call calls ih => exact ih (.performed call h)

theorem sampleLost_reachable : Reachable sampleLost := reachable_performs (reachable_ofSetup ..) _

/-- Events that wait when the session is closed are lost, although it never failed. -/
theorem closed_queue_loses_events :
    ¬ ∀ w : World MemoryBondStore, Reachable w → w.session.terminal = none →
      deliveredEvents w.trace ++ w.session.pendingEvents = enqueuedEvents w.trace := by
  intro hclaim
  have hterminal : sampleLost.session.terminal = none := by decide +kernel
  have hlost : deliveredEvents sampleLost.trace ++ sampleLost.session.pendingEvents ≠
      enqueuedEvents sampleLost.trace := by decide +kernel
  exact hlost (hclaim sampleLost sampleLost_reachable hterminal)

theorem event_queue_and_terminal_sampleLost :
    sampleLost.session.closed = true ∧ sampleLost.trace.countP (·.action.isClosed) = 1 := by
  have hclosed : sampleLost.session.closed = true := by decide +kernel
  have hcount := (event_queue_and_terminal sampleLost_reachable).2.2.2.2
  rw [hclosed] at hcount
  exact ⟨hclosed, hcount⟩

end ClassicHid

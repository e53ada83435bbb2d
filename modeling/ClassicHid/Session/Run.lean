import ClassicHid.Session.Handling

/-!
# Runs are sequences of steps

Every call is a sequence of steps between the entries of its beginning and its end, and so is every
packet; only `close` does more. A property that holds of an initial session, and that every turn of
a run keeps, therefore holds in every reachable world.

## Main definitions

* `Settled`: a world between two packets: over, or with a quiet host
* `Turn`, `Runs`: a step of a run, and a run
* `Initial`: a world in which a session has just been opened

## Main results

* `perform_runs`, `inbound_runs`: a call and a packet are runs between settled worlds
* `Reachable.runs`: every reachable world is settled, and a run from an initial world leads to it
* `Reachable.induction_runs`, `Reachable.induction`: what every turn keeps holds in every world of a
  run, and in every reachable one
-/

namespace ClassicHid

open Foundation BackendSession World
open Std (ExtTreeMap)

variable {S : Type}

/-- An entry about a call that hands no event over. -/
def Action.IsNote : Action → Prop
  | .called _ => True
  | .returned _ (.ok []) => True
  | .returned _ (.error _) => True
  | _ => False

/-- A world between two packets: the session is over, or its host is quiet. -/
structure Settled (w : World S) : Prop where
  io : w.session.closed = false → w.session.io.isSome = true
  quiet : checkActive w.session = .ok () → w.session.host.Quiet

/-- A world in which a call may act. -/
structure Ready (w : World S) : Prop where
  active : checkActive w.session = .ok ()
  io : w.session.io.isSome = true
  quiet : w.session.host.Quiet

theorem checkActive_eq_ok {session : BackendSession S} :
    checkActive session = .ok () ↔ session.closed = false ∧ session.terminal = none := by
  rw [checkActive]
  cases session.closed
  · rcases session.terminal with _ | error <;> simp
  · simp

theorem Settled.ready {w : World S} (h : Settled w) (hactive : checkActive w.session = .ok ()) :
    Ready w :=
  ⟨hactive, h.io (checkActive_eq_ok.mp hactive).1, h.quiet hactive⟩

theorem Ready.settled {w : World S} (h : Ready w) : Settled w := ⟨fun _ => h.io, fun _ => h.quiet⟩

theorem Settled.log {w : World S} (h : Settled w) (action : Action) : Settled (w.log action) :=
  ⟨h.io, h.quiet⟩

section Runs

variable [BondStore S] {w w' : World S}

/-- A step neither closes the session nor changes whether there is a controller. -/
theorem Step.frame (h : Step w w') :
    w'.session.closed = w.session.closed ∧ Uses w.session.io w'.session.io := by
  cases h with
  | consulted huses => exact ⟨rfl, huses⟩
  | received _ huses => exact ⟨rfl, huses⟩
  | commanded _ huses => exact ⟨rfl, huses⟩
  | flushed _ _ huses => exact ⟨rfl, huses⟩
  | admitted | reported | failed | unlinked =>
    rw [closed_enqueue, io_enqueue]
    exact ⟨rfl, .refl _⟩
  | announced hannounces =>
    rw [closed_enqueue, io_enqueue]
    rcases hannounces with ⟨output, -, rfl⟩ | ⟨-, rfl⟩ <;> exact ⟨rfl, .refl _⟩
  | _ => exact ⟨rfl, .refl _⟩

theorem Steps.frame (h : Steps w w') :
    w'.session.closed = w.session.closed ∧ Uses w.session.io w'.session.io := by
  induction h with
  | refl => exact ⟨rfl, .refl _⟩
  | tail _ hstep ih =>
    obtain ⟨hclosed, hsome, hanswers⟩ := hstep.frame
    exact ⟨hclosed.trans ih.1, hsome.trans ih.2.isSome, Nat.le_trans hanswers ih.2.answers⟩

/-- A step of a run: a step of the session, an entry about a call, or the session is closed. -/
inductive Turn : World S → World S → Prop
  | step {w w' : World S} : w.session.closed = false → Step w w' → Turn w w'
  | noted (w : World S) {action : Action} : action.IsNote →
      (action = .returned .disconnect (.ok []) →
        w.session.protocols = {} ∧ w.session.host.Quiet) → Turn w (w.log action)
  | closed (w : World S) : w.session.closed = false →
      Turn w ((w.log .closed).set closedSession)

/-- A run. -/
abbrev Runs : World S → World S → Prop := Relation.ReflTransGen Turn

theorem Steps.runs (h : Steps w w') (hw : w.session.closed = false) : Runs w w' := by
  induction h with
  | refl => exact .refl
  | tail hsteps hstep ih => exact ih.tail (.step ((Steps.frame hsteps).1.trans hw) hstep)

/-- Steps from a world in which a call acts lead to a settled world, if the host is quiet there. -/
theorem Ready.settled_of_steps (hw : Ready w) (h : Steps w w')
    (hquiet : w'.session.terminal = none → w'.session.host.Quiet) : Settled w' :=
  ⟨fun _ => h.frame.2.isSome.trans hw.io, fun hactive => hquiet (checkActive_eq_ok.mp hactive).2⟩

theorem Ready.ready_of_steps (hw : Ready w) (h : Steps w w') (hterminal : w'.session.terminal = none)
    (hquiet : w'.session.host.Quiet) : Ready w' :=
  ⟨checkActive_eq_ok.mpr ⟨h.frame.1.trans (checkActive_eq_ok.mp hw.active).1, hterminal⟩,
    h.frame.2.isSome.trans hw.io, hquiet⟩

/-! ### Receiving -/

omit [BondStore S] in
/-- What `recv_timeout` leaves: a packet, and fewer answers, or nothing that matters. -/
theorem receive_cases (timeout : ℕ) (hio : w.session.io.isSome = true) :
    (∃ packet io, receive timeout w = (.ok (.ok (some packet)), w.arrived packet io) ∧
        Uses w.session.io io ∧ answersLeft (w.arrived packet io) < answersLeft w) ∨
      ∃ answer io, receive timeout w = (.ok answer, w.set ({ · with io := io })) ∧
        (∀ packet, answer ≠ .ok (some packet)) ∧ Uses w.session.io io := by
  obtain ⟨io, hio⟩ := Option.isSome_iff_exists.mp hio
  rcases hanswers : io.answers with _ | ⟨answer, answers⟩
  · refine .inr ⟨.ok none, some io, ?_, by simp, by rw [hio]; exact .refl _⟩
    simp only [receive, hio, HciIo.recvTimeout, hanswers]
  · have huses : Uses w.session.io (some { io with answers := answers }) := by
      rw [hio]
      exact ⟨rfl, by simp [hanswers]⟩
    rcases answer with error | _ | packet
    · exact .inr ⟨.error error, _, by simp only [receive, hio, HciIo.recvTimeout, hanswers],
        by simp, huses⟩
    · exact .inr ⟨.ok none, _, by simp only [receive, hio, HciIo.recvTimeout, hanswers],
        by simp, huses⟩
    · refine .inl ⟨packet, _, ?_, huses, ?_⟩
      · simp only [receive, hio, HciIo.recvTimeout, hanswers]
        rfl
      · simp [answersLeft, World.arrived, World.set, hio, hanswers]

/-- A packet is handled while a call acts; the answers it needed are gone. -/
theorem Ready.handle (hw : Ready w) (packet : Packet) {io : Option HciIo}
    (huses : Uses w.session.io io) :
    Steps w (handlePolledPacket packet (w.arrived packet io)).2 ∧
      Settled (handlePolledPacket packet (w.arrived packet io)).2 ∧
      ((handlePolledPacket packet (w.arrived packet io)).1 = .ok () →
        Ready (handlePolledPacket packet (w.arrived packet io)).2) ∧
      answersLeft (handlePolledPacket packet (w.arrived packet io)).2 ≤
        answersLeft (w.arrived packet io) := by
  obtain ⟨hlatched, hquiet⟩ := handlePolledPacket_steps packet io hw.quiet
  have hsteps := Relation.ReflTransGen.head (Step.received w packet huses hw.active) hlatched
  refine ⟨hsteps, hw.settled_of_steps hsteps hquiet, fun hok => ?_, hlatched.frame.2.answers⟩
  have hterminal : (handlePolledPacket packet (w.arrived packet io)).2.session.terminal = none := by
    rw [handlePolledPacket] at hok ⊢
    rcases hrun : handlePacket packet (w.arrived packet io) with ⟨error | _, w'⟩ <;>
      simp only [hrun] at hok ⊢
    · cases hok
    · rcases hterminal : w'.session.terminal with _ | error
      · exact hterminal
      · simp [hterminal] at hok
  exact hw.ready_of_steps hsteps hterminal (hquiet hterminal)

/-- The outcome of an operation that acts in steps: a settled world, in which a call may act on
when the operation returned. -/
def Acts {α : Type} (r : Except Error α) (w : World S) : Prop :=
  Settled w ∧ (r.isOk = true → Ready w)

/-- Handle what was received; `silent` is what to do when nothing was. -/
def handleAnswer (silent : Op S Bool) : Except Error (Option Packet) → Op S Bool
  | .ok (some packet) => do
    handlePolledPacket packet
    pure true
  | .ok none => silent
  | .error error => recordTerminal error

/-- **Receiving once** acts in steps, and uses up an answer when there is a packet. -/
theorem handleAnswer_acts (timeout : ℕ) (silent : Op S Bool)
    (hsilent : ∀ w, ∃ r, silent w = (r, w) ∧ r ≠ .ok true) (hw : Ready w)
    {r : Except Error Bool} (h : (receive timeout >>= handleAnswer silent) w = (r, w')) :
    Steps w w' ∧ Acts r w' ∧ (r = .ok true → answersLeft w' < answersLeft w) := by
  rcases receive_cases timeout hw.io with ⟨packet, io, hrun, huses, hlt⟩ |
    ⟨answer, io, hrun, hnone, huses⟩
  · rw [Exec.bind_ok hrun, handleAnswer, Exec.bind_apply] at h
    obtain ⟨hsteps, hsettled, hready, hle⟩ := hw.handle packet huses
    rcases hhandle : handlePolledPacket packet (w.arrived packet io) with ⟨error | _, w''⟩ <;>
      rw [hhandle] at h hsteps hsettled hready hle <;> cases h
    · exact ⟨hsteps, ⟨hsettled, fun h => by cases h⟩, fun h => by cases h⟩
    · exact ⟨hsteps, ⟨hsettled, fun _ => hready rfl⟩, fun _ => Nat.lt_of_le_of_lt hle hlt⟩
  · rw [Exec.bind_ok hrun] at h
    have hsteps : Steps w (w.set ({ · with io := io })) := .single (.consulted w huses)
    have hready : Ready (w.set ({ · with io := io })) :=
      hw.ready_of_steps hsteps (checkActive_eq_ok.mp hw.active).2 hw.quiet
    rcases answer with error | _ | packet
    · cases h
      exact ⟨hsteps.tail (.terminated _ error), ⟨⟨fun _ => huses.isSome.trans hw.io, fun h => by
        simp [World.set, checkActive_eq_ok] at h⟩, fun h => by cases h⟩, fun h => by cases h⟩
    · obtain ⟨r', hrun', hne⟩ := hsilent (w.set ({ · with io := io }))
      rw [handleAnswer, hrun'] at h
      cases h
      exact ⟨hsteps, ⟨hready.settled, fun _ => hready⟩, fun h => absurd h hne⟩
    · exact absurd rfl (hnone packet)

theorem receiveAndHandle_acts (timeout : ℕ) {r : Except Error Bool} (hw : Ready w)
    (h : receiveAndHandle timeout w = (r, w')) :
    Steps w w' ∧ Acts r w' ∧ (r = .ok true → answersLeft w' < answersLeft w) :=
  handleAnswer_acts timeout (pure false) (fun _ => ⟨_, rfl, by simp⟩) hw h

/-- Rounds that act, each of which uses up an answer, act together. -/
theorem moves_rounds {body : Op S Bool}
    (hbody : ∀ w w' r, Ready w → body w = (r, w') →
      Steps w w' ∧ Acts r w' ∧ (r = .ok true → answersLeft w' < answersLeft w)) :
    Exec.Moves Step (Ready (S := S)) (Exec.loop answersLeft body) Acts := by
  refine Exec.moves_loop (fun w hw => ?_) fun w w' hw h => (hbody w w' _ hw h).2.2 rfl
  rcases hrun : body w with ⟨error | more, w'⟩
  · obtain ⟨hsteps, hacts, -⟩ := hbody w w' _ hw hrun
    exact ⟨hsteps, hacts.1, fun h => by cases h⟩
  · obtain ⟨hsteps, hacts, -⟩ := hbody w w' _ hw hrun
    cases more with
    | true => exact ⟨hsteps, hacts.2 rfl⟩
    | false => exact ⟨hsteps, hacts.1, fun _ => hacts.2 rfl⟩

theorem receiveAll_moves : Exec.Moves Step (Ready (S := S)) receiveAll Acts := by
  exact moves_rounds fun w w' r hw h => receiveAndHandle_acts 0 hw h

theorem receiveFirst_moves (timeout : ℕ) :
    Exec.Moves Step (Ready (S := S)) (receiveFirst timeout) Acts := by
  intro w hw
  simp only [receiveFirst, Exec.gets_bind]
  split
  · obtain ⟨hsteps, hacts, -⟩ := receiveAndHandle_acts timeout hw rfl
    exact ⟨hsteps, hacts⟩
  · exact ⟨.refl, hw.settled, fun _ => hw⟩

theorem Moves.bind_acts {α β : Type} {P : World S → Prop} {m : Op S α} {f : α → Op S β}
    (hm : Exec.Moves Step P m Acts) (hf : ∀ a, Exec.Moves Step Ready (f a) Acts) :
    Exec.Moves Step P (m >>= f) Acts := by
  refine Exec.Moves.bind hm (fun a => ?_) fun _ _ h => ⟨h.1, fun hok => by cases hok⟩
  exact (hf a).mono (fun _ h => h.2 rfl) fun _ _ h => h

/-! ### The calls -/

/-- Commands are sent, and then an operation acts. -/
theorem sends_acts {α β : Type} {w₀ : World S} {m : Op S α} {f : α → Op S β} (hw₀ : Ready w₀)
    (hm : Exec.Keeps (Sends w₀) m)
    (hf : ∀ a, Exec.Sat (Sends w₀) (f a) fun _ w => Steps w₀ w ∧ Settled w) :
    Exec.Sat (Sends w₀) (m >>= f) fun _ w => Steps w₀ w ∧ Settled w := by
  refine Exec.Sat.bind hm hf fun _ w h => ⟨h.steps, hw₀.settled_of_steps h.steps fun _ => ?_⟩
  rw [h.host]
  exact hw₀.quiet

theorem Sends.ready (h : Sends w w') (hw : Ready w) : Ready w' := by
  obtain ⟨io, hio⟩ := h.session
  refine hw.ready_of_steps h.steps ?_ ?_
  · rw [hio]
    exact (checkActive_eq_ok.mp hw.active).2
  · rw [h.host]
    exact hw.quiet

/-- A window is opened once the commands for it are sent. -/
theorem opened_sat {w₀ : World S} (window : ConnectionWindow) (active : Bool) (hw₀ : Ready w₀)
    (hidle : w₀.session.window = .idle) (hmay : MayOpen w₀.session window active) :
    Exec.Sat (Sends w₀) (do
      record (.opened window)
      update fun session => { session with activeReconnect := active, window := window } :
        Op S Unit) fun _ w => Steps w₀ w ∧ Settled w := by
  intro w h
  have hready := h.ready hw₀
  obtain ⟨io, hio⟩ := h.session
  have hstep := Step.opened w window active hready.quiet
    (by rw [hio]; exact hidle) hready.active (by rw [hio]; exact hmay)
  have hsteps := h.steps.tail hstep
  exact ⟨hsteps, hw₀.settled_of_steps hsteps fun _ => hready.quiet⟩

/-- The outcome of a call: steps lead to a settled world. -/
def Completes {α : Type} (w : World S) (outcome : Except Error α × World S) : Prop :=
  Steps w outcome.2 ∧ Settled outcome.2

theorem Completes.unchanged {α : Type} (hw : Ready w) (r : Except Error α) : Completes w (r, w) :=
  ⟨.refl, hw.settled⟩

theorem startPairing_completes (hw : Ready w) : Completes w (startPairing w) := by
  have hactive : ensureActive w = (.ok (), w) := by rw [ensureActive, hw.active]
  rw [startPairing, Exec.bind_ok hactive, Exec.gets_bind]
  rcases hwindow : w.session.window with _ | _ | _ | _
  · exact sends_acts hw (setScan_keeps _ _) (fun _ => sends_acts hw writeInquiryResponse_keeps
      fun _ => sends_acts hw (setScan_keeps _ _) fun _ =>
        opened_sat (.pairing none) false hw hwindow trivial) w (.refl w)
  · exact .unchanged hw _
  · exact .unchanged hw _
  · exact .unchanged hw _

theorem startReconnect_completes (hw : Ready w) : Completes w (startReconnect w) := by
  have hactive : ensureActive w = (.ok (), w) := by rw [ensureActive, hw.active]
  rw [startReconnect, Exec.bind_ok hactive, Exec.gets_bind]
  rcases hwindow : w.session.window with _ | _ | _ | _
  · dsimp only
    rw [Exec.gets_bind]
    rcases hbond : soleBond w.session.host.bonds.inner with error | peer
    · exact .unchanged hw _
    · exact sends_acts hw (setScan_keeps _ _) (fun _ => sends_acts hw writeInquiryResponse_keeps
        fun _ => sends_acts hw (setScan_keeps _ _) fun _ =>
          sends_acts hw (sendCommand_keeps _ (by decide)) fun _ =>
            opened_sat (.reconnecting peer) true hw hwindow hbond)
        w (.refl w)
  · exact .unchanged hw _
  · exact .unchanged hw _
  · exact .unchanged hw _

/-- The world in which `disconnect` has forgotten the link. -/
def World.forgotten (w : World S) : World S :=
  w.set ({ · with protocols := {}, activeReconnect := false, connection := none })

/-- What `disconnect` does: the link is forgotten, commands are sent, and unless one of them fails
the window is closed. -/
theorem disconnect_cases (hactive : checkActive w.session = .ok ()) :
    ∃ w', Sends w.forgotten w' ∧ ((∃ error, BackendSession.disconnect w = (.error error, w')) ∨
      BackendSession.disconnect w = (.ok (), w'.set ({ · with window := .idle }))) := by
  have hensure : ensureActive w = (.ok (), w) := by rw [ensureActive, hactive]
  have hrun : BackendSession.disconnect w = (do
      requestDisconnect w.session.connection
      endConnectionWindow : Op S Unit) w.forgotten := by
    rw [BackendSession.disconnect, Exec.bind_ok hensure]
    rfl
  have hrequest : Exec.Keeps (Sends w.forgotten)
      (requestDisconnect (S := S) w.session.connection) := by
    cases w.session.connection with
    | none => exact Exec.keeps_pure ()
    | some connection => exact sendCommand_keeps _ (by decide)
  have hsends := hrequest w.forgotten (.refl _)
  rw [hrun, Exec.bind_apply]
  rcases hresult : requestDisconnect w.session.connection w.forgotten with ⟨error | _, w₁⟩ <;>
    rw [hresult] at hsends
  · exact ⟨w₁, hsends, .inl ⟨error, rfl⟩⟩
  · obtain ⟨w₂, hsends', ⟨error, hend⟩ | hend⟩ := endConnectionWindow_cases w₁
    · exact ⟨w₂, hsends.trans hsends', .inl ⟨error, hend⟩⟩
    · exact ⟨w₂, hsends.trans hsends', .inr hend⟩

theorem disconnect_completes (hw : Ready w) (hdismissing : w.Follows (.called .disconnect)) :
    Completes w (disconnect w) := by
  have hdismissed : Step w w.forgotten := .dismissed w hdismissing
  have hready : Ready w.forgotten :=
    hw.ready_of_steps (.single hdismissed) (checkActive_eq_ok.mp hw.active).2 hw.quiet
  obtain ⟨w', hsends, ⟨error, hrun⟩ | hrun⟩ := disconnect_cases hw.active <;> rw [hrun]
  · exact ⟨.head hdismissed hsends.steps, (hsends.ready hready).settled⟩
  · have hready' := hsends.ready hready
    have hhidden : Step w' (w'.set ({ · with window := .idle })) :=
      .hidden w' hready'.quiet (hsends.follows hdismissing)
    have hsteps := (hsends.steps.tail hhidden).head hdismissed
    exact ⟨hsteps, hw.settled_of_steps hsteps fun _ => hready'.quiet⟩

omit [BondStore S] in
theorem bind_ensureActive {α : Type} (f : Unit → Op S α) {error : Error}
    (h : checkActive w.session = .error error) : (ensureActive >>= f) w = (.error error, w) := by
  have hactive : ensureActive w = (.error error, w) := by rw [ensureActive, h]
  exact Exec.bind_error hactive

/-- A `disconnect` that succeeded has forgotten the channels. -/
theorem disconnect_ok (hw : Settled w) (h : BackendSession.disconnect w = (.ok (), w')) :
    w'.session.protocols = {} ∧ w'.session.host.Quiet := by
  rcases hactive : checkActive w.session with error | _
  · rw [BackendSession.disconnect, bind_ensureActive _ hactive] at h
    cases h
  obtain ⟨w₁, hsends, ⟨error, hrun⟩ | hrun⟩ := disconnect_cases hactive <;> rw [hrun] at h <;>
    cases h
  obtain ⟨io, hio⟩ := hsends.session
  refine ⟨congrArg (·.protocols) hio, ?_⟩
  change w₁.session.host.Quiet
  rw [hsends.host]
  exact hw.quiet hactive

omit [BondStore S] in
/-- A host that was quiet stays quiet when a channel sends. -/
theorem ClassicHost.quiet_sendChannelSdu (cid : UInt16) (sdu : Bytes) {host : ClassicHost S}
    (h : host.Quiet) : (ClassicHost.sendChannelSdu cid sdu host).2.Quiet := by
  have hsame (channels : ChannelManager) : (ChannelManager.send cid sdu channels).2.acceptedChannels =
      channels.acceptedChannels :=
    (ChannelManager.send_keeps cid sdu channels (.refl channels)).accepted
  have hstep := ClassicHost.callChannels_step (ChannelManager.send cid sdu) host
  rw [← ClassicHost.sendChannelSdu] at hstep
  generalize ClassicHost.sendChannelSdu cid sdu host = outcome at hstep ⊢
  obtain ⟨r, host'⟩ := outcome
  cases hstep with
  | unlinked => exact h
  | @refused connection channels error hconnection hsend =>
    have haccepted := hsame connection.channels
    rw [hsend] at haccepted
    refine ⟨h.output, ?_⟩
    have := h.accepted
    simp only [ClassicHost.accepted, hconnection] at this
    simpa [ClassicHost.accepted, ClassicHost.setChannels, hconnection] using haccepted.trans this
  | stuck => exact ⟨h.output, rfl⟩
  | @flushed connection channels _ packets hconnection hsend =>
    have haccepted := hsame connection.channels
    rw [hsend] at haccepted
    have hnone : channels.acceptedChannels = [] := by
      have := h.accepted
      simp only [ClassicHost.accepted, hconnection] at this
      exact haccepted.trans this
    refine ⟨fun item hitem => ?_, rfl⟩
    simp only [ClassicHost.openedEvents, ClassicHost.openedChannels, hnone, List.filterMap_nil,
      List.map_nil, List.append_nil, List.mem_append, List.mem_map] at hitem
    rcases hitem with hitem | ⟨packet, -, rfl⟩
    · exact h.output item hitem
    · exact ⟨packet, rfl⟩

/-- Sending the packets of a quiet host leaves it quiet, even when sending fails. -/
theorem drainHostOutput_quiet :
    Exec.Moves Step (fun w : World S => w.session.host.Quiet) drainHostOutput fun _ w =>
      w.session.host.Quiet := by
  refine Exec.moves_loop (fun w hquiet => ?_) fun w w' _ h => drainOne_decreases w w' h
  rcases hout : w.session.host.output with _ | ⟨item, output⟩
  · simp only [drainOne, popOutput, ClassicHost.popOutput, hout, Exec.update_bind]
    exact ⟨.refl, hquiet⟩
  · obtain ⟨packet, rfl⟩ := hquiet.output item (by simp [hout])
    have hpopped : (w.popped output).session.host.Quiet :=
      ⟨fun item hitem => hquiet.output item (by
        rw [hout]
        exact List.mem_cons_of_mem _ hitem), hquiet.accepted⟩
    have hrun : drainOne w = (do
        sendPacket (.acl packet)
        pure true : Op S Bool) (w.popped output) := by
      simp only [drainOne, popOutput, ClassicHost.popOutput, hout, Exec.update_bind]
      rfl
    have hsteps := sendPacket_flushed hout (.inr ⟨packet, rfl, rfl⟩)
    have hquiet' : (sendPacket (.acl packet) (w.popped output)).2.session.host.Quiet := by
      rw [sendPacket_host]
      exact hpopped
    rw [hrun]
    rcases hsend : sendPacket (.acl packet) (w.popped output) with ⟨error | _, w'⟩ <;>
      rw [hsend] at hsteps hquiet'
    · rw [Exec.bind_error hsend]
      exact ⟨hsteps, hquiet'⟩
    · rw [Exec.bind_ok hsend]
      exact ⟨hsteps, hquiet'⟩

theorem sendInterrupt_completes (payload : Bytes) (hw : Ready w) :
    Completes w (sendInterrupt payload w) := by
  have hactive : ensureActive w = (.ok (), w) := by rw [ensureActive, hw.active]
  rw [BackendSession.sendInterrupt, Exec.bind_ok hactive, Exec.gets_bind]
  generalize w.session.protocols.interrupt.filter (·.open) = interrupt
  cases interrupt with
  | none => exact .unchanged hw _
  | some channel =>
  rcases hencode : w.session.protocols.hidp.encodeInput payload with error | encoded
  · exact .unchanged hw _
  simp only [Except.mapError, Exec.lift_ok_bind]
  have hstep := Step.hosted w (.send channel.cid encoded) hw.quiet.accepted
  have hquiet := ClassicHost.quiet_sendChannelSdu channel.cid encoded hw.quiet
  rw [HostOp.run] at hstep
  rw [Exec.bind_apply, mapError_onHost]
  rcases hr : ClassicHost.sendChannelSdu channel.cid encoded w.session.host with ⟨error | _, host⟩ <;>
    rw [hr] at hstep hquiet
  · exact ⟨.single hstep, hw.settled_of_steps (.single hstep) fun _ => hquiet⟩
  · obtain ⟨hdrain, hquiet'⟩ := drainHostOutput_quiet (BackendSession.hosted host w) hquiet
    have hsteps := Relation.ReflTransGen.head hstep hdrain
    exact ⟨hsteps, hw.settled_of_steps hsteps fun _ => hquiet'⟩

/-- The clock is read in a step. -/
theorem now_acts (hw : Ready w) : ∃ reading w', now w = (.ok reading, w') ∧ Steps w w' ∧ Ready w' ∧
    w'.session = w.session := by
  rcases h : w.clock with _ | ⟨reading, clock⟩
  · exact ⟨w.horizon, w, by simp only [now, Exec.update_apply, h], .refl, hw, rfl⟩
  · exact ⟨reading, { w with clock := clock }, by simp only [now, Exec.update_apply, h],
      .single (.ticked w clock), ⟨hw.active, hw.io, hw.quiet⟩, rfl⟩

theorem deadlineAfter_acts (timeout : ℕ) (hw : Ready w) :
    ∃ deadline w', deadlineAfter timeout w = (.ok deadline, w') ∧ Steps w w' ∧ Ready w' := by
  obtain ⟨start, w₁, hstart, hsteps, hw₁, -⟩ := now_acts hw
  simp only [deadlineAfter, Exec.bind_ok hstart, Exec.gets_bind]
  split
  · exact ⟨_, w₁, rfl, hsteps, hw₁⟩
  · obtain ⟨reading, w₂, hrun, hsteps', hw₂, -⟩ := now_acts hw₁
    exact ⟨reading, w₂, hrun, hsteps.trans hsteps', hw₂⟩

theorem drainRound_acts {deadline : ℕ} {r : Except Error Bool} (hw : Ready w)
    (h : drainRound deadline w = (r, w')) :
    Steps w w' ∧ Acts r w' ∧ (r = .ok true → answersLeft w' < answersLeft w) := by
  rw [drainRound, Exec.gets_bind] at h
  by_cases hflushed : w.session.host.channelOutputIsFlushed = true
  · rw [if_pos hflushed] at h
    cases h
    exact ⟨.refl, ⟨hw.settled, fun _ => hw⟩, fun h => by cases h⟩
  rw [if_neg hflushed] at h
  obtain ⟨reading, w₁, hnow, hsteps, hw₁, hsession⟩ := now_acts hw
  rw [Exec.bind_ok hnow] at h
  by_cases hremaining : deadline - reading = 0
  · rw [if_pos hremaining] at h
    cases h
    exact ⟨hsteps, ⟨hw₁.settled, fun h => by cases h⟩, fun h => by cases h⟩
  rw [if_neg hremaining] at h
  obtain ⟨hsteps', hacts, hlt⟩ := handleAnswer_acts (deadline - reading)
    (Exec.fail (.new .drainTimedOut)) (fun _ => ⟨_, rfl, by simp⟩) hw₁ h
  refine ⟨hsteps.trans hsteps', hacts, fun hr => ?_⟩
  have := hlt hr
  rwa [answersLeft, answersLeft, hsession] at this

theorem drainInterrupt_completes (timeout : ℕ) (hw : Ready w) :
    Completes w (drainInterrupt timeout w) := by
  have hactive : ensureActive w = (.ok (), w) := by rw [ensureActive, hw.active]
  obtain ⟨deadline, w₁, hdeadline, hsteps, hw₁⟩ := deadlineAfter_acts timeout hw
  rw [BackendSession.drainInterrupt, Exec.bind_ok hactive, Exec.bind_ok hdeadline]
  obtain ⟨hsteps', hacts⟩ := moves_rounds (fun _ _ _ hw h => drainRound_acts hw h) w₁ hw₁
  exact ⟨hsteps.trans hsteps', hacts.1⟩

/-- What a call does between the entries of its beginning and its end, when its outcome hands no
event over. -/
theorem performed_runs {call : Call} {m : Op S Unit}
    (hm : Runs (w.log (.called call)) (m (w.log (.called call))).2 ∧
      Settled (m (w.log (.called call))).2)
    (hcall : call.run = (do m; pure [] : Op S (List Event)))
    (hdisconnect : call = .disconnect → ∀ w', m (w.log (.called call)) = (.ok (), w') →
      w'.session.protocols = {} ∧ w'.session.host.Quiet) :
    Runs w (w.perform call).2 ∧ Settled (w.perform call).2 := by
  obtain ⟨hruns, hsettled⟩ := hm
  have hcalled : Turn w (w.log (.called call)) := .noted w trivial (by simp)
  simp only [World.perform, hcall, Exec.bind_apply]
  rcases hrun : m (w.log (.called call)) with ⟨error | _, w'⟩ <;> rw [hrun] at hruns hsettled
  · exact ⟨.head hcalled (hruns.tail (.noted w' trivial (by simp))), hsettled.log _⟩
  · refine ⟨.head hcalled (hruns.tail (.noted w' trivial fun heq => ?_)), hsettled.log _⟩
    cases heq
    exact hdisconnect rfl w' hrun

/-- A call that acts only while the session is active. -/
theorem runs_of_completes {m : Op S Unit} (hw : Settled w) (hm : Ready w → Completes w (m w))
    (hinactive : ∀ error, checkActive w.session = .error error → (m w).2 = w) :
    Runs w (m w).2 ∧ Settled (m w).2 := by
  rcases hactive : checkActive w.session with error | _
  · rw [hinactive error hactive]
    exact ⟨.refl, hw⟩
  · obtain ⟨hsteps, hsettled⟩ := hm (hw.ready hactive)
    exact ⟨hsteps.runs (checkActive_eq_ok.mp hactive).1, hsettled⟩

theorem close_runs (hw : Settled w) : Runs w (close w).2 ∧ Settled (close w).2 := by
  rw [close]
  split
  · exact ⟨.refl, hw⟩
  · rename_i hopen
    rw [Bool.not_eq_true] at hopen
    obtain ⟨io, hio⟩ := Option.isSome_iff_exists.mp (hw.io hopen)
    rw [hio]
    refine ⟨.single (.closed w hopen), ⟨fun h => (by cases h), fun h => ?_⟩⟩
    exact absurd (checkActive_eq_ok.mp h).1 (by simp [World.set, closedSession])

theorem poll_runs (timeout : ℕ) (hw : Settled w) :
    Runs w (w.perform (.poll timeout)).2 ∧ Settled (w.perform (.poll timeout)).2 := by
  have hcalled : Turn w (w.log (.called (.poll timeout))) := .noted w trivial (by simp)
  simp only [World.perform, Call.run, BackendSession.poll]
  rcases hactive : checkActive (w.log (.called (.poll timeout))).session with error | _
  · rw [bind_ensureActive _ hactive]
    exact ⟨.head hcalled (.single (.noted _ trivial (by simp))), (hw.log _).log _⟩
  have hready := (hw.log (.called (.poll timeout))).ready hactive
  have hensure : ensureActive (w.log (.called (.poll timeout))) =
      (.ok (), w.log (.called (.poll timeout))) := by rw [ensureActive, hactive]
  rw [Exec.bind_ok hensure]
  obtain ⟨hsteps, hsettled, hpost⟩ := Moves.bind_acts (receiveFirst_moves timeout)
    (fun _ => receiveAll_moves) _ hready
  have hopen := (checkActive_eq_ok.mp hactive).1
  have hassoc : (do
      let _ ← receiveFirst timeout
      receiveAll
      takeEvents : Op S (List Event)) (w.log (.called (.poll timeout))) =
      ((receiveFirst timeout >>= fun _ => receiveAll) >>= fun _ => takeEvents)
        (w.log (.called (.poll timeout))) := by
    simp only [Exec.bind_apply]
    rcases receiveFirst timeout (w.log (.called (.poll timeout))) with ⟨_ | _, _⟩ <;> rfl
  rw [hassoc]
  rcases hrun : (receiveFirst timeout >>= fun _ => receiveAll)
    (w.log (.called (.poll timeout))) with ⟨error | _, w'⟩ <;> rw [hrun] at hsteps hsettled hpost
  · rw [Exec.bind_error hrun]
    exact ⟨.head hcalled ((Steps.runs hsteps hopen).tail (.noted _ trivial (by simp))),
      hsettled.log _⟩
  · rw [Exec.bind_ok hrun]
    have hready' : Ready w' := hpost rfl
    obtain ⟨hopen', hterminal⟩ := checkActive_eq_ok.mp hready'.active
    exact ⟨.head hcalled ((Steps.runs hsteps hopen).tail
      (.step hopen' (.delivered w' timeout hterminal hopen'))),
      ⟨fun _ => hready'.io, fun _ => hready'.quiet⟩⟩

/-- **A call** is a run between settled worlds. -/
theorem perform_runs (call : Call) (hw : Settled w) :
    Runs w (w.perform call).2 ∧ Settled (w.perform call).2 := by
  cases call with
  | startPairing =>
    exact performed_runs (runs_of_completes (hw.log _) startPairing_completes
      fun _ h => by rw [BackendSession.startPairing, bind_ensureActive _ h]) rfl (by simp)
  | startReconnect =>
    exact performed_runs (runs_of_completes (hw.log _) startReconnect_completes
      fun _ h => by rw [BackendSession.startReconnect, bind_ensureActive _ h]) rfl (by simp)
  | poll timeout => exact poll_runs timeout hw
  | sendInterrupt payload =>
    exact performed_runs (runs_of_completes (hw.log _) (sendInterrupt_completes payload)
      fun _ h => by rw [BackendSession.sendInterrupt, bind_ensureActive _ h]) rfl (by simp)
  | drainInterrupt timeout =>
    exact performed_runs (runs_of_completes (hw.log _) (drainInterrupt_completes timeout)
      fun _ h => by rw [BackendSession.drainInterrupt, bind_ensureActive _ h]) rfl (by simp)
  | disconnect =>
    have hdismissing : (w.log (.called .disconnect)).Follows (.called .disconnect) :=
      ⟨[], w.session, w.trace, rfl, by simp⟩
    exact performed_runs (runs_of_completes (hw.log _)
      (fun hready => disconnect_completes hready hdismissing)
      fun _ h => by rw [BackendSession.disconnect, bind_ensureActive _ h]) rfl
      fun _ w' hrun => disconnect_ok (hw.log _) hrun
  | close => exact performed_runs (close_runs (hw.log _)) rfl (by simp)

/-- **A packet** is a run between settled worlds. -/
theorem inbound_runs (packet : Packet) (hw : Settled w) :
    Runs w (w.inbound packet).2 ∧ Settled (w.inbound packet).2 := by
  rw [World.inbound]
  rcases hactive : checkActive w.session with error | _
  · exact ⟨.refl, hw⟩
  · have harrived : w.log (.received packet) = w.arrived packet w.session.io := rfl
    obtain ⟨hsteps, hsettled, -⟩ := (hw.ready hactive).handle packet (.refl w.session.io)
    simp only [harrived]
    exact ⟨hsteps.runs (checkActive_eq_ok.mp hactive).1, hsettled⟩

/-! ### Reachable worlds -/

/-- The servers of a session: SDP and the two HID channels. -/
def sessionServers : ExtTreeMap UInt32 ClassicChannelSpec :=
  ((ExtTreeMap.empty.insert sdpPsm { mtu := classicServerMtu }).insert hidControlPsm
    { mtu := classicServerMtu }).insert hidInterruptPsm { mtu := classicServerMtu }

/-- The host of a session that has just been opened. -/
def sessionHost (bonds : S) (aclPacketLength : ℕ) (aclPacketCount : UInt16) : ClassicHost S :=
  { ClassicHost.new bonds aclPacketLength aclPacketCount with servers := sessionServers }

/-- A world in which a session has just been opened. -/
def Initial (w : World S) : Prop :=
  ∃ io capabilities config bonds aclPacketLength aclPacketCount, w.trace = [] ∧ w.session =
    { io := some io, capabilities := capabilities, config := config,
      host := sessionHost bonds aclPacketLength aclPacketCount }

theorem initializeSession_eq_ok {io : HciIo} {config : SessionConfig} {bonds : S}
    {session : BackendSession S} (h : initializeSession io config bonds = .ok session) :
    ∃ io capabilities bonds aclPacketLength aclPacketCount, session =
      { io := some io, capabilities := capabilities, config := config,
        host := sessionHost bonds aclPacketLength aclPacketCount } := by
  rw [initializeSession] at h
  rcases hcontroller : initializeController config io with ⟨error | initialized, io'⟩
  · rw [hcontroller] at h
    cases h
  rw [hcontroller] at h
  dsimp only [bind, Except.bind] at h
  rcases hselect : BondStore.selectLocalAddress initialized.localAddress bonds with
    ⟨error | _, bonds'⟩
  · rw [hselect] at h
    cases h
  rw [hselect] at h
  cases h
  exact ⟨_, _, _, _, _, rfl⟩

/-- **Every reachable world** is settled, and a run from an initial world leads to it. -/
theorem Reachable.runs (h : Reachable w) : Settled w ∧ ∃ w₀, Initial w₀ ∧ Runs w₀ w := by
  induction h with
  | initialized clock horizon h =>
    obtain ⟨io, capabilities, bonds, length, count, rfl⟩ := initializeSession_eq_ok h
    exact ⟨⟨fun _ => rfl, fun _ => ⟨by simp [sessionHost, ClassicHost.new], rfl⟩⟩, _,
      ⟨_, _, _, _, _, _, rfl, rfl⟩, .refl⟩
  | performed call _ ih =>
    obtain ⟨hsettled, w₀, hinitial, hruns⟩ := ih
    obtain ⟨hruns', hsettled'⟩ := perform_runs call hsettled
    exact ⟨hsettled', w₀, hinitial, hruns.trans hruns'⟩
  | received packet _ ih =>
    obtain ⟨hsettled, w₀, hinitial, hruns⟩ := ih
    obtain ⟨hruns', hsettled'⟩ := inbound_runs packet hsettled
    exact ⟨hsettled', w₀, hinitial, hruns.trans hruns'⟩

theorem Reachable.settled (h : Reachable w) : Settled w := h.runs.1

/-- **What every turn keeps** holds in every world that a run passes through. -/
theorem Reachable.induction_runs {P : World S → Prop} (hinitial : ∀ w, Initial w → P w)
    (hturn : ∀ w w', Turn w w' → P w → P w') (h : Reachable w) (hruns : Runs w w') : P w' := by
  obtain ⟨-, w₀, h₀, hruns₀⟩ := h.runs
  have hall : Runs w₀ w' := hruns₀.trans hruns
  clear h hruns hruns₀
  induction hall with
  | refl => exact hinitial w₀ h₀
  | tail _ hstep ih => exact hturn _ _ hstep ih

/-- What every turn keeps holds in every reachable world. -/
theorem Reachable.induction {P : World S → Prop} (hinitial : ∀ w, Initial w → P w)
    (hturn : ∀ w w', Turn w w' → P w → P w') (h : Reachable w) : P w :=
  h.induction_runs hinitial hturn .refl

end Runs

/-! ### A session to run

A controller with buffers for `buffers` packets of 64 bytes, which answers each command of the
set-up, and a session on it. -/

/-- The world in which a set-up that succeeded has left its session. -/
def World.ofSetup (setup : Except Error (BackendSession S)) (clock : List ℕ) (horizon : ℕ)
    (h : setup.toOption.isSome = true) : World S :=
  { session := setup.toOption.get h, clock := clock, horizon := horizon }

theorem reachable_ofSetup [BondStore S] (io : HciIo) (config : SessionConfig) (bonds : S)
    (clock : List ℕ) (horizon : ℕ)
    (h : (initializeSession io config bonds).toOption.isSome = true) :
    Reachable (World.ofSetup (initializeSession io config bonds) clock horizon h) := by
  have hok (setup : Except Error (BackendSession S)) (h : setup.toOption.isSome = true) :
      setup = .ok (setup.toOption.get h) := by
    cases setup with
    | error => cases h
    | ok => rfl
  exact .initialized clock horizon (hok _ h)

/-- An event whose parameters fit into a packet; longer ones are cut. -/
def eventPacket (eventCode : UInt8) (parameters : Bytes) : EventPacket :=
  ⟨eventCode, parameters.take 255, List.length_take_le 255 parameters⟩

/-- The completion of a command, with status 0 and what it returns. -/
def completion (opcode : UInt16) (returned : Bytes) : Packet :=
  .event (eventPacket eventCommandComplete ([1] ++ toLe16 opcode ++ [0] ++ returned))

/-- The answers to the commands of the set-up. -/
def setupAnswers (buffers : UInt8) : List Packet :=
  [completion hciReset [], completion hciReadLocalSupportedCommands (List.replicate 64 0),
   completion hciReadLocalVersionInformation [8, 0x34, 0x12, 8, 10, 0, 0x78, 0x56],
   completion hciReadLocalExtendedFeatures (List.replicate 10 0), completion hciSetEventMask [],
   completion hciLeSetEventMask [], completion hciReadBufferSize [64, 0, 0, buffers, 0, 0, 0],
   completion hciReadBdAddr [1, 2, 3, 4, 5, 6], completion hciWriteLocalName [],
   completion hciWriteClassOfDevice [], completion hciWriteSimplePairingMode [],
   completion hciWriteExtendedInquiryResponse [], completion hciWriteDefaultLinkPolicySettings [],
   completion hciWriteScanEnable []]

/-- A controller that goes on to give `answers`. -/
def sampleController (buffers : UInt8) (answers : List (Except Error (Option Packet))) : HciIo where
  answers := (setupAnswers buffers).map (fun packet => .ok (some packet)) ++ answers
  metadata := { vendorId := 0x0A12, productId := 1, bus := 1, deviceAddress := 2, ports := [1] }

def samplePolicy : HidSdpPolicy where
  serviceName := "Gamepad"
  serviceDescription := none
  providerName := none
  deviceReleaseNumber := none
  bluetoothProfileVersion := 0x0100
  parserVersion := 0x0111
  deviceSubclass := 8
  countryCode := 0
  virtualCable := true
  reconnectInitiate := true
  remoteWake := none
  profileVersion := 0x0100
  supervisionTimeout := 0x0C80
  normallyConnectable := false
  bootDevice := false
  ssrHostMaxLatency := 0xFFFF
  ssrHostMinTimeout := 0xFFFF

def sampleConfig : SessionConfig where
  localName := "Pad"
  classOfDevice := 0x002508
  extendedInquiryResponse := List.replicate 240 0
  hidService := ⟨[5, 1], samplePolicy⟩
  length_localName := by decide +kernel
  length_inquiryResponse := List.length_replicate

theorem length_strangerBytes : ([9, 9, 9, 9, 9, 9] : Bytes).length = 6 := rfl

def samplePeer : BluetoothAddress := .fromLeBytes [6, 5, 4, 3, 2, 1] rfl .pub

/-- A peer that no window of the samples expects. -/
def sampleStranger : BluetoothAddress :=
  .fromLeBytes [9, 9, 9, 9, 9, 9] length_strangerBytes .pub

/-- A session with no bonds, on a controller with 8 buffers and nothing to deliver. -/
def sampleWorld : World MemoryBondStore :=
  .ofSetup (initializeSession (sampleController 8 []) sampleConfig {}) [] 0 (by decide +kernel)

theorem sampleWorld_reachable : Reachable sampleWorld := reachable_ofSetup ..

/-- A connection request over ACL. -/
def requestPacket (peer : BluetoothAddress) : Packet :=
  .event (eventPacket eventConnectionRequest (peer.asLeBytes ++ [0, 0, 0, 1]))

/-- The completion of a connection over ACL. -/
def completePacket (status : UInt8) (handle : UInt16) (peer : BluetoothAddress) : Packet :=
  .event (eventPacket eventConnectionComplete
    ([status] ++ toLe16 handle ++ peer.asLeBytes ++ [1, 0]))

/-- A peer has paired: it is connected with handle 0x40. -/
def samplePaired : World MemoryBondStore :=
  (((sampleWorld.perform .startPairing).2.inbound (requestPacket samplePeer)).2.inbound
    (completePacket 0 0x40 samplePeer)).2

theorem samplePaired_reachable : Reachable samplePaired :=
  .received _ (.received _ (.performed _ sampleWorld_reachable))

/-- A signaling frame on the link with handle 0x40, which fits into one packet of 64 bytes. -/
def signalPacket (frame : ControlFrame) : AclPacket where
  connectionHandle := 0x40
  packetBoundary := 2
  broadcastFlag := 0
  data := (L2capPdu.toBytes ⟨l2capSignalingCid, frame.toBytes⟩ false).take 64
  handle_le := AclPacket.sampleHandle_le
  boundary_le := AclPacket.firstFlushable_le
  broadcast_le := AclPacket.pointToPoint_le
  length_le := Nat.le_trans (List.length_take_le _ _) (by decide)

/-- The peer asks for a channel and configures its side of it. -/
def sampleConfiguring (psm : UInt32) : World MemoryBondStore :=
  ((samplePaired.inbound (.acl (signalPacket (.connectionRequest 1 psm 0x50)))).2.inbound
    (.acl (signalPacket (.configureRequest 2 0x40 0 [])))).2

theorem sampleConfiguring_reachable (psm : UInt32) : Reachable (sampleConfiguring psm) :=
  .received _ (.received _ samplePaired_reachable)

end ClassicHid

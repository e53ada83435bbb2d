import ClassicHid.Session.Expected

/-!
# The failed connections of others

A controller reports that a connection failed also when the session itself had refused the peer.
The session does not ask whose connection it was. It closes its window, gives up an active reconnect
and tells its caller that it is disconnected.

## Main definitions

* `Failure`: the event that a connection failed
* `Ignored`: an event that changes nothing the caller depends on

## Main results

* `drainHostOutput_frame`: sending the packets of a quiet host changes the host's output alone
* `failed_connection_ignored_iff`: when the session ignores a failed connection
-/

namespace ClassicHid

open Foundation BackendSession World

variable {S : Type}

/-! ### Scan-enable commands -/

/-- The scan-enable command that an action sends. -/
def Action.scan? : Action → Option Packet
  | .sent (.command command) =>
    if command.opcode = hciWriteScanEnable then some (.command command) else none
  | _ => none

/-- The scan-enable commands of a record. -/
def scanCommands (trace : List (Entry S)) : List Packet := trace.filterMap (·.action.scan?)

/-- Nothing the caller depends on has changed, and no scan-enable command was sent. -/
structure Ignored (w w' : World S) : Prop where
  window : w'.session.window = w.session.window
  connection : w'.session.connection = w.session.connection
  activeReconnect : w'.session.activeReconnect = w.session.activeReconnect
  protocols : w'.session.protocols = w.session.protocols
  pendingEvents : w'.session.pendingEvents = w.session.pendingEvents
  scans : scanCommands w'.trace = scanCommands w.trace

/-- Sending the packets of a quiet host changes the host's output alone. -/
theorem drainHostOutput_frame [BondStore S] {w : World S} (hquiet : w.session.host.Quiet) :
    ∃ io output, (drainHostOutput w).2.session = { w.session with
        io := io
        host := { w.session.host with output := output } } ∧
      scanCommands (drainHostOutput w).2.trace = scanCommands w.trace := by
  obtain ⟨packets, hpackets⟩ := exists_acls hquiet.output
  clear hquiet
  induction packets generalizing w with
  | nil =>
    rw [drainHostOutput_nil hpackets]
    exact ⟨_, _, rfl, rfl⟩
  | cons packet packets ih =>
    rw [drainHostOutput_cons hpackets]
    rcases hio : w.session.io with _ | io
    · have hsend : handleOutput (.acl packet) (w.popped (packets.map .acl)) =
          (.error (.new .closed), w.popped (packets.map .acl)) := by
        simp only [handleOutput, sendPacket, World.popped, World.set, hio]
      rw [Exec.bind_error hsend]
      exact ⟨none, packets.map .acl, by rw [← hio]; rfl, rfl⟩
    · have hlogs := sendPacket_logs (.acl packet)
        (show (w.popped (packets.map .acl)).session.io = some io from hio)
      rcases hsend : sendPacket (.acl packet) (w.popped (packets.map .acl)) with ⟨error | _, w'⟩
      · rw [hsend] at hlogs
        rw [Exec.bind_error (show handleOutput (.acl packet) _ = _ from hsend)]
        subst hlogs
        exact ⟨_, packets.map .acl, rfl, rfl⟩
      · rw [hsend] at hlogs
        rw [Exec.bind_ok (show handleOutput (.acl packet) _ = _ from hsend)]
        subst hlogs
        obtain ⟨io', output, hsession, hscans⟩ := ih (w := ((w.popped (packets.map .acl)).log
          (.sent (.acl packet))).set ({ · with io := some (HciIo.send (.acl packet) io).2 })) rfl
        exact ⟨io', output, hsession, hscans⟩

namespace Ignored

variable {w w' w'' : World S}

theorem refl (w : World S) : Ignored w w := ⟨rfl, rfl, rfl, rfl, rfl, rfl⟩

theorem symm (h : Ignored w w') : Ignored w' w :=
  ⟨h.window.symm, h.connection.symm, h.activeReconnect.symm, h.protocols.symm,
    h.pendingEvents.symm, h.scans.symm⟩

theorem trans (h : Ignored w w') (h' : Ignored w' w'') : Ignored w w'' :=
  ⟨h'.window.trans h.window, h'.connection.trans h.connection,
    h'.activeReconnect.trans h.activeReconnect, h'.protocols.trans h.protocols,
    h'.pendingEvents.trans h.pendingEvents, h'.scans.trans h.scans⟩

/-- What is ignored in between makes no difference. -/
theorem iff_right (h : Ignored w' w'') : Ignored w w'' ↔ Ignored w w' :=
  ⟨fun h' => h'.trans h.symm, fun h' => h'.trans h⟩

end Ignored

/-! ### Hiding the controller -/

section Hiding

variable {w : World S} {io : HciIo}

theorem setScan_logs (hio : w.session.io = some io) (discoverable connectable : Bool) :
    (∃ io', (setScan discoverable connectable w).2.session.io = some io') ∧
      (scanCommands (setScan discoverable connectable w).2.trace).length =
        (scanCommands w.trace).length + 1 := by
  have hlogs (packet : CommandPacket) (hscan : packet.opcode = hciWriteScanEnable) :
      (∃ io', (sendPacket (.command packet) w).2.session.io = some io') ∧
        (scanCommands (sendPacket (.command packet) w).2.trace).length =
          (scanCommands w.trace).length + 1 := by
    rw [sendPacket_logs _ hio]
    refine ⟨⟨_, rfl⟩, ?_⟩
    simp [scanCommands, World.set, World.log, Action.scan?, hscan]
  rw [setScan, sendCommand, CommandPacket.new_eq_ok (by simp)]
  exact hlogs _ rfl

/-- The inquiry response is written first; a scan-enable command follows when that went well. -/
theorem hideController_scans (hio : w.session.io = some io) :
    (io.accepts 1 = false → ∃ error, hideController w = (.error error, (hideController w).2) ∧
      Ignored w (hideController w).2) ∧
    (io.accepts 1 = true →
      scanCommands (hideController w).2.trace ≠ scanCommands w.trace) := by
  have hlen : (0 :: w.session.config.extendedInquiryResponse).length ≤ 255 := by
    rw [List.length_cons, w.session.config.length_inquiryResponse]
    decide
  have hwrite : writeInquiryResponse w = sendPacket (.command ⟨hciWriteExtendedInquiryResponse,
      0 :: w.session.config.extendedInquiryResponse, hlen⟩) w := by
    simp only [writeInquiryResponse, Exec.gets_bind, sendCommand, CommandPacket.new_eq_ok hlen]
    rfl
  refine ⟨fun hrefuses => ?_, fun haccepts => ?_⟩
  · obtain ⟨error, w', hsend⟩ := sendPacket_of_not_accepts (.command ⟨_, _, hlen⟩) hio hrefuses
    have hlogs := sendPacket_logs (.command ⟨hciWriteExtendedInquiryResponse, _, hlen⟩) hio
    have hrun : hideController w = (.error error, w') := Exec.bind_error (hwrite.trans hsend)
    rw [hsend] at hlogs
    rw [hrun]
    refine ⟨error, rfl, ?_⟩
    subst hlogs
    exact ⟨rfl, rfl, rfl, rfl, rfl, rfl⟩
  · have hsend := sendPacket_of_accepts (.command ⟨hciWriteExtendedInquiryResponse, _, hlen⟩) hio
      haccepts
    set w₁ := (w.log (.sent (.command ⟨hciWriteExtendedInquiryResponse, _, hlen⟩))).set
      ({ · with io := some (io.after 1) }) with hw₁
    obtain ⟨⟨io₂, hio₂⟩, hfirst⟩ := setScan_logs (w := w₁)
      (show w₁.session.io = some (io.after 1) from rfl) false true
    have hscans : scanCommands w₁.trace = scanCommands w.trace := rfl
    have hrun : hideController w = (do setScan false true; setScan false false) w₁ :=
      Exec.bind_ok (hwrite.trans hsend)
    rw [hrun]
    intro heq
    have hlength := congrArg List.length heq
    rcases hscan : setScan false true w₁ with ⟨error | _, w₂⟩ <;> rw [hscan] at hfirst hio₂
    · rw [Exec.bind_error hscan, hfirst, hscans] at hlength
      exact absurd hlength (Nat.succ_ne_self _)
    · obtain ⟨_, hsecond⟩ := setScan_logs hio₂ false false
      rw [Exec.bind_ok hscan, hsecond, hfirst, hscans] at hlength
      omega

end Hiding

/-! ### A failed connection -/

/-- An event that says that the connection with `peer` failed. -/
structure Failure (event : EventPacket) (status : UInt8) (peer : BluetoothAddress) : Prop where
  failed : status ≠ 0
  code : event.eventCode = eventConnectionComplete
  length : event.parameters.length = 11
  status : event.parameters.getD 0 0 = status
  peer : addressAt event.parameters 3 = .ok peer

section Failed

variable {event : EventPacket} {status : UInt8} {peer : BluetoothAddress} {w : World S}

theorem Failure.decode (h : Failure event status peer) :
    decodeClassicEvent event =
      .ok [.connectionComplete status (le16At event.parameters 1) peer] := by
  have hlen : requireLen event.parameters 11 "connection complete" = .ok () := if_pos h.length
  simp only [decodeClassicEvent, h.code, hlen, h.status, h.peer]
  rfl

/-- The window is closed, and then the caller is told. -/
theorem Failure.screen (h : Failure event status peer) (w : World S) :
    screenEvent event w = (do
      endConnectionWindow
      update fun session => { session with activeReconnect := false }
      enqueueEvent (.disconnected (some status))
      pure true : Op S Bool) w := by
  have hlen : requireLen event.parameters 11 "connection complete" = .ok () := if_pos h.length
  have hfailed : event.parameters.getD 0 0 ≠ 0 := by
    rw [h.status]
    exact h.failed
  rw [screenEvent, h.code, if_neg (by decide), if_pos rfl, screenConnectionComplete, hlen,
    Exec.lift_ok_bind, h.peer, Exec.lift_ok_bind, Exec.gets_bind,
    if_neg fun hrefused => hfailed hrefused.1, if_pos hfailed, h.status]

variable [BondStore S]

/-- The end of the session changes nothing of what an event may change. -/
theorem inbound_ignored (hactive : checkActive w.session = .ok ()) (packet : Packet) :
    Ignored (handlePacket packet (w.log (.received packet))).2 (w.inbound packet).2 := by
  simp only [World.inbound, hactive, handlePolledPacket]
  rcases handlePacket packet (w.log (.received packet)) with ⟨error | _, w'⟩
  · exact ⟨rfl, rfl, rfl, rfl, rfl, rfl⟩
  · dsimp only
    rcases w'.session.terminal with _ | error <;> exact .refl _

/-- What a failed connection leaves: the host only forgets the peer it waited for. -/
theorem Failure.inbound (h : Failure event status peer) (hactive : checkActive w.session = .ok ())
    (hquiet : w.session.host.Quiet) {w' : World S}
    (hsends : Sends (w.log (.received (.event event))) w') :
    (∀ error, endConnectionWindow (w.log (.received (.event event))) = (.error error, w') →
      Ignored w' (w.inbound (.event event)).2) ∧
    (endConnectionWindow (w.log (.received (.event event))) =
        (.ok (), w'.set ({ · with window := .idle })) →
      Ignored ((w'.set ({ · with window := .idle, activeReconnect := false })).enqueue
        (.disconnected (some status))) (w.inbound (.event event)).2) := by
  refine ⟨fun error hend => ?_, fun hend => ?_⟩
  · have hrun : handlePacket (.event event) (w.log (.received (.event event))) =
        (.error error, w') := by
      rw [handlePacket, BackendSession.handleEvent]
      refine Exec.bind_error ?_
      rw [h.screen]
      exact Exec.bind_error hend
    have hinbound := inbound_ignored hactive (.event event)
    rw [hrun] at hinbound
    exact hinbound
  · set w₃ := (w'.set ({ · with window := .idle, activeReconnect := false })).enqueue
      (.disconnected (some status))
    have hscreen : screenEvent event (w.log (.received (.event event))) = (.ok true, w₃) := by
      rw [h.screen, Exec.bind_ok hend]
      rfl
    have hhost₃ : w₃.session.host = w.session.host := by
      rw [host_enqueue]
      exact hsends.host
    have hforget : ClassicHost.handleEvent
        (.connectionComplete status (le16At event.parameters 1) peer) w₃.session.host =
          (.ok (), { w₃.session.host with pendingPeer := none }) := by
      rw [ClassicHost.handleEvent, if_neg h.failed]
      rfl
    have hrun : handlePacket (.event event) (w.log (.received (.event event))) =
        drainHostOutput
          (w₃.set ({ · with host := { w₃.session.host with pendingPeer := none } })) := by
      rw [handlePacket, BackendSession.handleEvent, Exec.bind_ok hscreen]
      exact forwardEvent_told h.decode hforget rfl
    have hquiet₃ : (w₃.set ({ · with
        host := { w₃.session.host with pendingPeer := none } })).session.host.Quiet := by
      refine ⟨?_, ?_⟩
      · show ∀ item ∈ w₃.session.host.output, _
        rw [hhost₃]
        exact hquiet.output
      · show w₃.session.host.accepted = []
        rw [hhost₃]
        exact hquiet.accepted
    obtain ⟨io, output, hsession, hscans⟩ := drainHostOutput_frame hquiet₃
    have hinbound := inbound_ignored hactive (.event event)
    rw [hrun] at hinbound
    refine Ignored.trans ⟨?_, ?_, ?_, ?_, ?_, hscans⟩ hinbound <;> rw [hsession] <;> rfl

/-- **A failed connection is ignored** only by a session that it ends, whoever failed to connect:
no window is open and there is no room for the event, or the controller does not take the first
command that would close the window. -/
theorem failed_connection_ignored_iff (h : Reachable w) (hactive : checkActive w.session = .ok ())
    (hevent : Failure event status peer) :
    Ignored w (w.inbound (.event event)).2 ↔
      (w.session.window = .idle ∧ w.session.activeReconnect = false ∧
        w.session.pendingEvents.length = eventQueueCapacity) ∨
      (w.session.window ≠ .idle ∧ ∃ io, w.session.io = some io ∧ io.accepts 1 = false) := by
  have hquiet := h.settled.quiet hactive
  obtain ⟨io, hio⟩ := Option.isSome_iff_exists.mp (h.settled.io (checkActive_eq_ok.mp hactive).1)
  have hterminal := (checkActive_eq_ok.mp hactive).2
  set w₁ := w.log (.received (.event event)) with hw₁
  have hreceived : Ignored w w₁ := ⟨rfl, rfl, rfl, rfl, rfl, rfl⟩
  by_cases hidle : w.session.window = .idle
  · have hend : endConnectionWindow w₁ = (.ok (), w₁.set ({ · with window := .idle })) := by
      simp only [endConnectionWindow, Exec.gets_bind]
      rw [if_pos (show w₁.session.window = .idle from hidle), Exec.pure_apply, World.set, ← hidle]
      rfl
    rw [((hevent.inbound hactive hquiet (.refl w₁)).2 hend).iff_right]
    rcases enqueue_cases (.disconnected (some status))
      (w₁.set ({ · with window := .idle, activeReconnect := false })) with
      ⟨hover, _⟩ | ⟨_, hfull, henqueue⟩ | ⟨_, hroom, henqueue⟩
    · have hover : w.session.terminal.isSome = true := hover
      rw [hterminal] at hover
      cases hover
    · rw [henqueue]
      constructor
      · intro hignored
        exact .inl ⟨hidle, hignored.activeReconnect.symm, hfull⟩
      · rintro (⟨_, hinactive, _⟩ | ⟨hopen, _⟩)
        · exact ⟨hidle.symm, rfl, hinactive.symm, rfl, rfl, rfl⟩
        · exact absurd hidle hopen
    · rw [henqueue]
      constructor
      · intro hignored
        have hpending : w.session.pendingEvents ++ [.disconnected (some status)] =
          w.session.pendingEvents := hignored.pendingEvents
        simp at hpending
      · rintro (⟨_, _, hfull⟩ | ⟨hopen, _⟩)
        · exact absurd hfull hroom
        · exact absurd hidle hopen
  · obtain ⟨hrefuses, haccepts⟩ := hideController_scans (w := w₁) hio
    have hsends := hideController_keeps w₁ (Sends.refl w₁)
    have hend : endConnectionWindow w₁ = (do
        hideController
        update fun session => { session with window := .idle }) w₁ := by
      simp only [endConnectionWindow, Exec.gets_bind]
      rw [if_neg (show w₁.session.window ≠ .idle from hidle)]
    obtain ⟨herror, hok⟩ := hevent.inbound hactive hquiet hsends
    rcases hone : io.accepts 1 with _ | _
    · obtain ⟨error, hrun, hignored⟩ := hrefuses hone
      have hfinal := herror error (hend.trans (Exec.bind_error hrun))
      exact ⟨fun _ => .inr ⟨hidle, io, hio, hone⟩,
        fun _ => (hreceived.trans hignored).trans hfinal⟩
    · have hscans := haccepts hone
      refine ⟨fun hignored => ?_, ?_⟩
      · exfalso
        rcases hrun : hideController w₁ with ⟨error | _, w₂⟩ <;>
          rw [hrun] at hscans herror hok
        · have hfinal := herror error (hend.trans (Exec.bind_error hrun))
          exact hscans ((hfinal.iff_right.mp hignored).scans)
        · have hfinal := hok (hend.trans (Exec.bind_ok hrun))
          have hwindow := (hfinal.iff_right.mp hignored).window
          rw [window_enqueue] at hwindow
          exact hidle hwindow.symm
      · rintro (⟨hclosed, _⟩ | ⟨_, io', hio', hrefused⟩)
        · exact absurd hclosed hidle
        · cases hio.symm.trans hio'
          rw [hone] at hrefused
          cases hrefused

end Failed

/-! ### The refused peer -/

/-- The connection of a peer that was refused has failed. -/
def strangerFailure : EventPacket :=
  eventPacket eventConnectionComplete
    ([connectionRejectedUnacceptableAddress] ++ toLe16 0 ++ sampleStranger.asLeBytes ++ [1, 0])

theorem strangerFailure_failure :
    Failure strangerFailure connectionRejectedUnacceptableAddress sampleStranger where
  failed := by decide
  code := rfl
  length := by decide
  status := by decide
  peer := rfl

/-- A session that pairs on a controller that takes no further command. -/
def sampleStalled : World MemoryBondStore :=
  ((World.ofSetup (initializeSession { sampleController 8 [] with
      sendResults := List.replicate 17 (.ok ()) ++ [.error (.new .sourceTerminated)] }
    sampleConfig {}) [] 0 (by decide +kernel)).perform .startPairing).2

theorem failed_connection_ignored_sampleStalled :
    Ignored sampleStalled (sampleStalled.inbound (.event strangerFailure)).2 := by
  have hreachable : Reachable sampleStalled := .performed _ (reachable_ofSetup ..)
  have hstalled : ∃ io, sampleStalled.session.io = some io ∧ io.accepts 1 = false := by
    have h : sampleStalled.session.io.any (fun io => !io.accepts 1) = true := by decide +kernel
    obtain ⟨io, hio, haccepts⟩ := (Option.any_eq_true _ _).mp h
    exact ⟨io, hio, by simpa using haccepts⟩
  exact (failed_connection_ignored_iff hreachable
    (checkActive_eq_ok.mpr ⟨by decide +kernel, by decide +kernel⟩) strangerFailure_failure).mpr
    (.inr ⟨by decide +kernel, hstalled⟩)

/-- **The failed connection of a refused peer ends a reconnect** with another one. -/
theorem strangers_failure_ends_reconnect :
    Reachable sampleReconnecting ∧ checkActive sampleReconnecting.session = .ok () ∧
      sampleReconnecting.session.window.expected = some samplePeer ∧ sampleStranger ≠ samplePeer ∧
      sampleReconnecting.session.connection = none ∧
      Failure strangerFailure connectionRejectedUnacceptableAddress sampleStranger ∧
      ¬ Ignored sampleReconnecting (sampleReconnecting.inbound (.event strangerFailure)).2 := by
  refine ⟨.performed _ sampleBonded_reachable,
    checkActive_eq_ok.mpr ⟨by decide +kernel, by decide +kernel⟩, by decide +kernel, by decide,
    by decide +kernel, strangerFailure_failure, fun hignored => ?_⟩
  have hclosed : (sampleReconnecting.inbound (.event strangerFailure)).2.session.window ≠
      sampleReconnecting.session.window := by decide +kernel
  exact hclosed hignored.window

end ClassicHid

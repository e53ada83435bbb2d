import ClassicHid.Session.Links

/-!
# What a packet leaves behind

The steps of a run say what a packet may do. This module says what it does, as far as that depends
on the controller: the ACL packets left in the output of a quiet host are sent first, and an event
that is handed on to the host is carried out after them.

## Main definitions

* `HciIo.accepts`, `HciIo.after`: the controller takes the next packets, and what it is then

## Main results

* `drainHostOutput_acls`: the ACL packets at the head of the output are sent
* `drainHostOutput_quiet_iff`: the output of a quiet host is sent
* `handleEvent_refused`, `handleEvent_told`: an event that the host refuses, and one that it takes
-/

namespace ClassicHid

open Foundation BackendSession World

variable {S : Type}

/-! ### The controller -/

namespace HciIo

/-- Whether the next `n` packets are sent without an error. -/
def accepts (n : ℕ) (io : HciIo) : Bool := (io.sendResults.take n).all (·.isOk)

/-- The controller after `n` packets were sent. -/
def after (n : ℕ) (io : HciIo) : HciIo := { io with sendResults := io.sendResults.drop n }

@[simp] theorem accepts_zero (io : HciIo) : io.accepts 0 = true := rfl

@[simp] theorem after_zero (io : HciIo) : io.after 0 = io := rfl

theorem after_add (n m : ℕ) (io : HciIo) : io.after (n + m) = (io.after n).after m := by
  simp [after, List.drop_drop]

theorem accepts_add (n m : ℕ) (io : HciIo) :
    io.accepts (n + m) = (io.accepts n && (io.after n).accepts m) := by
  simp [accepts, after, List.take_add]

/-- A packet is sent when the controller accepts one more. -/
theorem send_of_accepts (packet : Packet) {io : HciIo} (h : io.accepts 1 = true) :
    send packet io = (.ok (), io.after 1) := by
  rcases hresults : io.sendResults with _ | ⟨result, results⟩
  · simp only [send, after, hresults, List.drop_nil]
    rw [← hresults]
  · rcases result with error | _
    · simp [accepts, hresults, Except.isOk, Except.toBool] at h
    · simp [send, after, hresults]

theorem send_of_not_accepts (packet : Packet) {io : HciIo} (h : io.accepts 1 = false) :
    ∃ error, send packet io = (.error error, io.after 1) := by
  rcases hresults : io.sendResults with _ | ⟨result, results⟩
  · simp [accepts, hresults] at h
  · rcases result with error | _
    · exact ⟨error, by simp [send, after, hresults]⟩
    · simp [accepts, hresults, Except.isOk, Except.toBool] at h

end HciIo

/-! ### The output of the host -/

/-- A packet that is handed to the controller is entered into the record, whether it is sent or
not. -/
theorem sendPacket_logs (packet : Packet) {w : World S} {io : HciIo}
    (hio : w.session.io = some io) :
    (sendPacket packet w).2 =
      (w.log (.sent packet)).set ({ · with io := some (HciIo.send packet io).2 }) := by
  simp only [sendPacket, hio]

theorem sendPacket_of_accepts (packet : Packet) {w : World S} {io : HciIo}
    (hio : w.session.io = some io) (h : io.accepts 1 = true) :
    sendPacket packet w =
      (.ok (), (w.log (.sent packet)).set ({ · with io := some (io.after 1) })) := by
  simp only [sendPacket, hio, HciIo.send_of_accepts packet h]

theorem sendPacket_of_not_accepts (packet : Packet) {w : World S} {io : HciIo}
    (hio : w.session.io = some io) (h : io.accepts 1 = false) :
    ∃ error w', sendPacket packet w = (.error error, w') := by
  obtain ⟨error, hsend⟩ := HciIo.send_of_not_accepts packet h
  exact ⟨error, _, by simp only [sendPacket, hio, hsend]; rfl⟩

theorem exists_acls {output : List HostOutput} (h : ∀ item ∈ output, ∃ packet, item = .acl packet) :
    ∃ packets : List AclPacket, output = packets.map .acl := by
  induction output with
  | nil => exact ⟨[], rfl⟩
  | cons item output ih =>
    obtain ⟨packet, rfl⟩ := h item (by simp)
    obtain ⟨packets, rfl⟩ := ih fun item hitem => h item (by simp [hitem])
    exact ⟨packet :: packets, rfl⟩

section Drain

variable [BondStore S] {w : World S}

theorem drainHostOutput_nil (hout : w.session.host.output = []) :
    drainHostOutput w = (.ok (), w) := by
  have hone : drainOne w = (.ok false, w) := by
    simp only [drainOne, popOutput, Exec.bind_apply, Exec.update_apply, ClassicHost.popOutput, hout]
    rfl
  rw [drainHostOutput, Exec.loop_eq drainOne_decreases, Exec.bind_ok hone]
  rfl

/-- The first request is carried out, and then the others. -/
theorem drainHostOutput_cons {item : HostOutput} {output : List HostOutput}
    (hout : w.session.host.output = item :: output) :
    drainHostOutput w = (do handleOutput item; drainHostOutput) (w.popped output) := by
  have hpop : popOutput w = (.ok (some item), w.popped output) := by
    simp only [popOutput, Exec.update_apply, ClassicHost.popOutput, hout]
    rfl
  rw [drainHostOutput, Exec.loop_eq drainOne_decreases]
  rcases hrun : handleOutput item (w.popped output) with ⟨error | _, w'⟩
  · have hone : drainOne w = (.error error, w') := by
      rw [drainOne, Exec.bind_ok hpop]
      exact Exec.bind_error hrun
    rw [Exec.bind_error hone, Exec.bind_error hrun]
  · have hone : drainOne w = (.ok true, w') := by
      rw [drainOne, Exec.bind_ok hpop]
      exact Exec.bind_ok hrun
    rw [Exec.bind_ok hone, Exec.bind_ok hrun]
    rfl

/-- **The ACL packets at the head of the output are sent**, if the controller accepts them. -/
theorem drainHostOutput_acls (packets : List AclPacket) {output : List HostOutput} {io : HciIo}
    (hio : w.session.io = some io) (hout : w.session.host.output = packets.map .acl ++ output) :
    (io.accepts packets.length = true → ∃ w',
      drainHostOutput w = drainHostOutput w' ∧ w'.session =
        { w.session with
          io := some (io.after packets.length)
          host := { w.session.host with output := output } }) ∧
    (io.accepts packets.length = false → ∃ error w', drainHostOutput w = (.error error, w')) := by
  induction packets generalizing w io with
  | nil =>
    refine ⟨fun _ => ⟨w, rfl, ?_⟩, fun h => by cases h⟩
    rw [List.map_nil, List.nil_append] at hout
    rw [← hout, List.length_nil, HciIo.after_zero, ← hio]
  | cons packet packets ih =>
    rw [List.length_cons, Nat.add_comm, HciIo.accepts_add, HciIo.after_add]
    have hdrain := drainHostOutput_cons hout
    rcases hone : io.accepts 1 with _ | _
    · refine ⟨fun h => (by cases h), fun _ => ?_⟩
      obtain ⟨error, w', hrun⟩ := sendPacket_of_not_accepts (.acl packet)
        (show (w.popped (packets.map .acl ++ output)).session.io = some io from hio) hone
      exact ⟨error, w', by rw [hdrain]; exact Exec.bind_error hrun⟩
    · have hrun := sendPacket_of_accepts (.acl packet)
        (show (w.popped (packets.map .acl ++ output)).session.io = some io from hio) hone
      rw [show drainHostOutput w = drainHostOutput _ from hdrain.trans (Exec.bind_ok hrun),
        Bool.true_and]
      exact ih rfl rfl

/-- The output of a quiet host is sent, if the controller accepts it. -/
theorem drainHostOutput_quiet_iff {io : HciIo} (hio : w.session.io = some io)
    (hquiet : w.session.host.Quiet) :
    (io.accepts w.session.host.output.length = true → ∃ w',
      drainHostOutput w = (.ok (), w') ∧ w'.session =
        { w.session with
          io := some (io.after w.session.host.output.length)
          host := { w.session.host with output := [] } }) ∧
    (io.accepts w.session.host.output.length = false →
      ∃ error w', drainHostOutput w = (.error error, w')) := by
  obtain ⟨packets, hpackets⟩ := exists_acls hquiet.output
  obtain ⟨hok, herror⟩ := drainHostOutput_acls packets hio (hpackets.trans (List.append_nil _).symm)
  rw [hpackets, List.length_map]
  refine ⟨fun h => ?_, herror⟩
  obtain ⟨w', hdrain, hsession⟩ := hok h
  refine ⟨w', ?_, hsession⟩
  rw [hdrain, drainHostOutput_nil (by rw [hsession])]

/-! ### Packets -/

/-- A packet that is handled leaves what handling it left. -/
theorem inbound_of_ok {packet : Packet} {w' : World S} (hactive : checkActive w.session = .ok ())
    (hrun : handlePacket packet (w.log (.received packet)) = (.ok (), w')) :
    (w.inbound packet).2 = w' := by
  simp only [World.inbound, hactive, handlePolledPacket, hrun]
  rcases hterminal : w'.session.terminal with _ | error <;> rfl

/-- A packet that is handled without ending the session is a success. -/
theorem inbound_isOk {packet : Packet} {w' : World S} (hactive : checkActive w.session = .ok ())
    (hrun : handlePacket packet (w.log (.received packet)) = (.ok (), w'))
    (hterminal : w'.session.terminal = none) : (w.inbound packet).1 = .ok () := by
  simp only [World.inbound, hactive, handlePolledPacket, hrun, hterminal]

/-- A packet that is not handled ends the session. -/
theorem terminal_inbound_of_error {packet : Packet} {error : Error} {w' : World S}
    (hactive : checkActive w.session = .ok ())
    (hrun : handlePacket packet (w.log (.received packet)) = (.error error, w')) :
    (w.inbound packet).2.session.terminal = some error := by
  simp only [World.inbound, hactive, handlePolledPacket, hrun]
  rfl

theorem inbound_of_error {packet : Packet} {error : Error} {w' : World S}
    (hactive : checkActive w.session = .ok ())
    (hrun : handlePacket packet (w.log (.received packet)) = (.error error, w')) :
    (w.inbound packet).1 = .error error := by
  simp only [World.inbound, hactive, handlePolledPacket, hrun]
  rfl

/-- An event that the session keeps to itself. -/
theorem handleEvent_kept {event : EventPacket} {w' : World S}
    (hscreen : screenEvent event w = (.ok false, w')) : handleEvent event w = (.ok (), w') := by
  rw [BackendSession.handleEvent, Exec.bind_ok hscreen]
  rfl

/-- An event that passes the session and stands for nothing. -/
theorem handleEvent_nothing {event : EventPacket} (hscreen : screenEvent event w = (.ok true, w))
    (hdecode : decodeClassicEvent event = .ok []) : handleEvent event w = drainHostOutput w := by
  rw [BackendSession.handleEvent, Exec.bind_ok hscreen]
  simp only [if_true, forwardEvent, hdecode, Exec.lift_ok_bind]
  rfl

/-- An event that passes the session and that the host refuses. -/
theorem handleEvent_refused {event : EventPacket} {e : ClassicEvent} {error : HostError}
    {host : ClassicHost S} (hscreen : screenEvent event w = (.ok true, w))
    (hdecode : decodeClassicEvent event = .ok [e])
    (hrun : ClassicHost.handleEvent e w.session.host = (.error error, host)) :
    handleEvent event w = (.error (mapHostError error), BackendSession.hosted host w) := by
  have htell : Exec.forEach tellHost [e] w =
      (.error (mapHostError error), BackendSession.hosted host w) := by
    rw [Exec.forEach]
    refine Exec.bind_error ?_
    rw [tellHost, mapError_onHost, hrun]
    rfl
  rw [BackendSession.handleEvent, Exec.bind_ok hscreen]
  simp only [if_true, forwardEvent, hdecode, Exec.lift_ok_bind]
  exact Exec.bind_error htell

/-- An event that the host takes: what it asks for is carried out. -/
theorem forwardEvent_told {event : EventPacket} {e : ClassicEvent} {host : ClassicHost S}
    (hdecode : decodeClassicEvent event = .ok [e])
    (hrun : ClassicHost.handleEvent e w.session.host = (.ok (), host))
    (hbonds : host.bonds = w.session.host.bonds) :
    forwardEvent event w = drainHostOutput (w.set ({ · with host := host })) := by
  have htell : Exec.forEach tellHost [e] w = (.ok (), w.set ({ · with host := host })) := by
    have hone : tellHost e w = (.ok (), w.set ({ · with host := host })) := by
      rw [tellHost, mapError_onHost, hrun, hosted_eq_set hbonds]
      rfl
    rw [Exec.forEach, Exec.bind_ok hone]
    rfl
  simp only [forwardEvent, hdecode, Exec.lift_ok_bind]
  exact Exec.bind_ok htell

/-- **An event that passes the session and that the host takes**: what it asks for is carried
out. -/
theorem handleEvent_told {event : EventPacket} {e : ClassicEvent} {host : ClassicHost S}
    (hscreen : screenEvent event w = (.ok true, w)) (hdecode : decodeClassicEvent event = .ok [e])
    (hrun : ClassicHost.handleEvent e w.session.host = (.ok (), host))
    (hbonds : host.bonds = w.session.host.bonds) :
    handleEvent event w = drainHostOutput (w.set ({ · with host := host })) := by
  rw [BackendSession.handleEvent, Exec.bind_ok hscreen]
  exact forwardEvent_told hdecode hrun hbonds

end Drain

end ClassicHid

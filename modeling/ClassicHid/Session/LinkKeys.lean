import ClassicHid.Session.Outbox
import ClassicHid.Session.Outcome

/-!
# Link keys

The session gives a link key to its controller only when the controller has just asked for it, only
for the peer the request names, and only as the store has it at that moment.

## Main definitions

* `CommandPacket.IsLinkKeyReply`: the two answers to the request of a link key
* `AnswersRequest`: an entry that is no such answer, or the answer to the request before it

## Main results

* `linkKeyRequest_handled`: what a request of a link key makes the session do
* `link_key_answered`: every answer of a run is for the last request, which is answered if the
  session goes on
-/

namespace ClassicHid

open Foundation BackendSession World

variable {S : Type}

/-- The answers to the request of a link key. -/
def CommandPacket.IsLinkKeyReply (command : CommandPacket) : Prop :=
  command.opcode = hciLinkKeyRequestReply ∨ command.opcode = hciLinkKeyRequestNegativeReply

/-- A packet that answers no request of a link key. -/
def Packet.IsPlain (packet : Packet) : Prop :=
  ∀ command, packet = .command command → ¬ command.IsLinkKeyReply

/-- An entry about data sent to the peer. -/
def Entry.SendsData (entry : Entry S) : Prop := ∃ packet, entry.action = .sent (.acl packet)

/-- An answer to the request of a link key comes right after the request, except for data that
waited, and says what the store holds. -/
def AnswersRequest [BondStore S] (earlier : List (Entry S)) (entry : Entry S) : Prop :=
  ∀ command, entry.action = .sent (.command command) → command.IsLinkKeyReply →
    ∃ between session event before peer bond,
      earlier = between ++ ⟨session, .received (.event event)⟩ :: before ∧
      (∀ entry ∈ between, entry.SendsData) ∧
      decodeClassicEvent event = .ok [.linkKeyRequest peer] ∧
      BondStore.load session.host.bonds.inner peer = .ok bond ∧
      command = ClassicHost.linkKeyAnswer peer bond

/-! ### What else is sent -/

theorem CommandPacket.IsOwn.isPlain {command : CommandPacket} (h : command.IsOwn) :
    Packet.IsPlain (.command command) := by
  rintro _ ⟨⟩ (hopcode | hopcode) <;> rw [CommandPacket.IsOwn, hopcode] at h <;> cases h

theorem sendRules_isPlain {size : ℕ} {asks : CommandPacket → Prop}
    (hasks : ∀ command, asks command → Packet.IsPlain (.command command)) :
    (sendRules size asks).Admits Packet.IsPlain where
  direct := by
    rintro _ ⟨command, hown, rfl⟩
    exact hown.isPlain
  answer := by
    rintro _ ⟨command, hcommand, rfl⟩
    exact hasks command hcommand
  batch := by
    rintro _ ⟨handle, pdu, fragments, -, rfl⟩ _ hpacket command rfl
    obtain ⟨fragment, -, hfragment⟩ := List.mem_map.mp hpacket
    cases hfragment

/-- A host that has put out only ACL packets has nothing else to send. -/
theorem ClassicHost.Quiet.isPlain_due {host : ClassicHost S} (h : host.Quiet) :
    ∀ packet ∈ host.due, packet.IsPlain := by
  rintro packet hpacket command rfl
  rw [due] at hpacket
  rcases List.mem_append.mp hpacket with hpacket | hpacket
  · obtain ⟨item, hitem, heq⟩ := List.mem_filterMap.mp hpacket
    obtain ⟨acl, rfl⟩ := h.output item hitem
    cases heq
  · obtain ⟨acl, -, heq⟩ := List.mem_map.mp hpacket
    cases heq

section Answers

variable [BondStore S] {w w' : World S}

/-- What a session sends by the rules from a world with a quiet host answers no request, if the
rules let no answer in. -/
theorem Sending.answersRequest {size : ℕ} {asks : CommandPacket → Prop}
    (h : Sending size asks w.outbox w.trace w') (hquiet : w.session.host.Quiet)
    (hasks : ∀ command, asks command → Packet.IsPlain (.command command))
    (hw : Throughout AnswersRequest w.trace) : Throughout AnswersRequest w'.trace := by
  have hdue : ∀ packet ∈ w.outbox.due, packet.IsPlain := by
    rw [outbox]
    cases w.session.io with
    | none => exact fun _ hnone => absurd hnone List.not_mem_nil
    | some io => exact hquiet.isPlain_due
  obtain ⟨later, hlater⟩ := h.continues
  obtain ⟨⟨sent, hsent, hplain⟩, -⟩ := h.steps.all (sendRules_isPlain hasks) hdue
  have hsent : sent = packetsOut later := by
    rw [outbox, outbox, ← hlater, packetsOut_append] at hsent
    exact (List.append_cancel_left hsent).symm
  rw [← hlater]
  refine hw.append fun entry hentry before command haction hreply => ?_
  have hmem : Packet.command command ∈ packetsOut later := by
    rw [packetsOut, List.mem_reverse, List.mem_filterMap]
    exact ⟨entry, hentry, by rw [haction, Action.sentPacket?]⟩
  exact absurd hreply (hplain _ (hsent ▸ hmem) command rfl)

omit [BondStore S] in
/-- An entry about something else. -/
theorem AnswersRequest.of_ne [BondStore S] {earlier : List (Entry S)} {entry : Entry S}
    (h : ∀ packet, entry.action ≠ .sent packet) : AnswersRequest earlier entry :=
  fun _ haction => absurd haction (h _)

/-! ### A request -/

/-- The request of a link key stands alone. -/
theorem decode_linkKeyRequest {event : EventPacket} {events : List ClassicEvent}
    {peer : BluetoothAddress} (h : decodeClassicEvent event = .ok events)
    (hmem : .linkKeyRequest peer ∈ events) : events = [.linkKeyRequest peer] := by
  have hdecodes := decodeClassicEvent_decodes h
  cases hdecodes with
  | nothing => cases hmem
  | credits hcredits =>
    obtain ⟨_, _, heq⟩ := hcredits _ hmem
    cases heq
  | _ =>
    rw [List.mem_singleton] at hmem
    rw [hmem]

omit [BondStore S] in
/-- The session passes the request of a link key on to its host. -/
theorem screenEvent_linkKeyRequest {event : EventPacket} {peer : BluetoothAddress}
    (h : decodeClassicEvent event = .ok [.linkKeyRequest peer]) (w : World S) :
    screenEvent event w = (.ok true, w) := by
  -- Each code that the session screens stands for another event.
  have hrequest : event.eventCode ≠ eventConnectionRequest := by
    intro hcode
    rw [decodeClassicEvent, if_pos hcode] at h
    obtain ⟨_, -, heq⟩ := peerEvent_eq_ok h
    cases heq
  have hcomplete : event.eventCode ≠ eventConnectionComplete := by
    intro hcode
    rw [decodeClassicEvent, if_neg hrequest, if_pos hcode] at h
    obtain ⟨_, -, h⟩ := except_bind_eq_ok.mp h
    obtain ⟨_, -, h⟩ := except_bind_eq_ok.mp h
    cases h
  have hdisconnection : event.eventCode ≠ eventDisconnectionComplete := by
    intro hcode
    rw [decodeClassicEvent, hcode] at h
    obtain ⟨_, -, h⟩ := except_bind_eq_ok.mp h
    split at h <;> cases h
  rw [screenEvent, if_neg hrequest, if_neg hcomplete, if_neg hdisconnection]
  rfl

/-- What the host asks for after the request of a link key is sent, the answer last, unless the
controller refuses something. -/
theorem drainHostOutput_answer (packets : List AclPacket) (answer : CommandPacket)
    (hio : w.session.io.isSome = true)
    (hout : w.session.host.output = packets.map .acl ++ [.command answer]) :
    ∃ sends : List (Entry S), (∀ entry ∈ sends, entry.SendsData) ∧
      (((drainHostOutput w).2.trace = sends ++ w.trace ∧ (drainHostOutput w).1.isOk = false) ∨
        ∃ session, (drainHostOutput w).2.trace =
          ⟨session, .sent (.command answer)⟩ :: sends ++ w.trace) := by
  induction packets generalizing w with
  | nil =>
    obtain ⟨io, hio⟩ := Option.isSome_iff_exists.mp hio
    have hio' : (w.popped []).session.io = some io := hio
    rw [drainHostOutput_cons hout, handleOutput]
    have hlogs := sendPacket_logs (.command answer) hio'
    refine ⟨[], fun _ hnone => absurd hnone List.not_mem_nil, .inr ⟨(w.popped []).session, ?_⟩⟩
    rcases hsend : sendPacket (.command answer) (w.popped []) with ⟨error | _, w'⟩ <;>
      rw [hsend] at hlogs <;> subst hlogs
    · rw [Exec.bind_error hsend]
      rfl
    · rw [Exec.bind_ok hsend, drainHostOutput_nil rfl]
      rfl
  | cons packet packets ih =>
    rw [List.map_cons, List.cons_append] at hout
    obtain ⟨io, hio⟩ := Option.isSome_iff_exists.mp hio
    have hio' : (w.popped (packets.map .acl ++ [.command answer])).session.io = some io := hio
    rw [drainHostOutput_cons hout, handleOutput]
    have hlogs := sendPacket_logs (.acl packet) hio'
    rcases hsend : sendPacket (.acl packet) (w.popped (packets.map .acl ++ [.command answer]))
      with ⟨error | _, w'⟩ <;> rw [hsend] at hlogs <;> subst hlogs
    · rw [Exec.bind_error hsend]
      exact ⟨[⟨_, .sent (.acl packet)⟩], by simp [Entry.SendsData], .inl ⟨rfl, rfl⟩⟩
    · rw [Exec.bind_ok hsend]
      have hnext := ih (w := World.set ({ · with io := some (HciIo.send (.acl packet) io).2 })
        ((w.popped (packets.map .acl ++ [.command answer])).log (.sent (.acl packet)))) rfl rfl
      obtain ⟨sends, hsends, hcases⟩ := hnext
      refine ⟨sends ++ [⟨(w.popped (packets.map .acl ++ [.command answer])).session,
        .sent (.acl packet)⟩], ?_, ?_⟩
      · rw [List.forall_mem_append]
        exact ⟨hsends, by simp [Entry.SendsData]⟩
      · rcases hcases with ⟨htrace, hfails⟩ | ⟨session, htrace⟩
        · exact .inl ⟨htrace.trans (by simp [World.set, World.log, World.popped]), hfails⟩
        · exact .inr ⟨session, htrace.trans (by simp [World.set, World.log, World.popped])⟩

/-- **A request of a link key** is answered by what the store holds, once the data that waits is
sent; if something fails before, there is no answer, and an error. -/
theorem linkKeyRequest_handled {event : EventPacket} {peer : BluetoothAddress} {io : Option HciIo}
    (hw : Ready w) (huses : Uses w.session.io io)
    (hdecode : decodeClassicEvent event = .ok [.linkKeyRequest peer]) :
    ∃ sends : List (Entry S), (∀ entry ∈ sends, entry.SendsData) ∧
      (((handlePolledPacket (.event event) (w.arrived (.event event) io)).2.trace =
          sends ++ ⟨w.session, .received (.event event)⟩ :: w.trace ∧
        (handlePolledPacket (.event event) (w.arrived (.event event) io)).1.isOk = false) ∨
      ∃ bond session, BondStore.load w.session.host.bonds.inner peer = .ok bond ∧
        (handlePolledPacket (.event event) (w.arrived (.event event) io)).2.trace =
          ⟨session, .sent (.command (ClassicHost.linkKeyAnswer peer bond))⟩ :: sends ++
            ⟨w.session, .received (.event event)⟩ :: w.trace) := by
  have hscreen := screenEvent_linkKeyRequest hdecode (w.arrived (.event event) io)
  have hhandle : handlePacket (S := S) (.event event) = BackendSession.handleEvent event := rfl
  obtain ⟨packets, hpackets⟩ := exists_acls hw.quiet.output
  have htrace (r : Except Error Unit) (w' : World S)
      (hrun : handlePacket (.event event) (w.arrived (.event event) io) = (r, w')) :
      (handlePolledPacket (.event event) (w.arrived (.event event) io)).2.trace = w'.trace ∧
        (r.isOk = false →
          (handlePolledPacket (.event event) (w.arrived (.event event) io)).1.isOk = false) := by
    rw [handlePolledPacket, hrun]
    rcases r with error | _
    · exact ⟨rfl, fun _ => rfl⟩
    · dsimp only
      split <;> exact ⟨rfl, fun h => by cases h⟩
  rcases hload : BondStore.load w.session.host.bonds.inner peer with error | bond
  · have hrun : ClassicHost.handleEvent (.linkKeyRequest peer)
        (w.arrived (.event event) io).session.host =
        (.error (.bondStore error), (w.arrived (.event event) io).session.host) := by
      simp only [ClassicHost.handleEvent, ClassicHost.onLinkKeyRequest, Exec.get_bind]
      simp only [World.arrived, World.set, World.log, hload]
      rfl
    have hrefused := handleEvent_refused hscreen hdecode hrun
    rw [hosted_eq_set rfl] at hrefused
    obtain ⟨hsame, hfails⟩ := htrace _ _ hrefused
    exact ⟨[], fun _ hnone => absurd hnone List.not_mem_nil, .inl ⟨hsame, hfails rfl⟩⟩
  · have hrun : ClassicHost.handleEvent (.linkKeyRequest peer)
        (w.arrived (.event event) io).session.host = (.ok (),
          (w.arrived (.event event) io).session.host.append
            [.command (ClassicHost.linkKeyAnswer peer bond)]) := by
      simp only [ClassicHost.handleEvent, ClassicHost.onLinkKeyRequest, Exec.get_bind]
      simp only [World.arrived, World.set, World.log, hload]
      rcases bond with _ | bond
      · exact ClassicHost.queueCommand_eq (ClassicHost.length_asLeBytes_le peer) _
      · exact ClassicHost.queueCommand_eq (ClassicHost.length_linkKeyParameters_le peer bond) _
    have htold := handleEvent_told hscreen hdecode hrun rfl
    have hdrain := drainHostOutput_answer packets (ClassicHost.linkKeyAnswer peer bond)
      (w := (w.arrived (.event event) io).set ({ · with
        host := (w.arrived (.event event) io).session.host.append
          [.command (ClassicHost.linkKeyAnswer peer bond)] }))
      (huses.isSome.trans hw.io) (congrArg (· ++ _) hpackets)
    obtain ⟨sends, hsends, hcases⟩ := hdrain
    refine ⟨sends, hsends, ?_⟩
    obtain ⟨hsame, hfails⟩ := htrace _ _ htold
    rcases hcases with ⟨hdrain, hfail⟩ | ⟨session, hdrain⟩
    · exact .inl ⟨hsame.trans hdrain, hfails hfail⟩
    · exact .inr ⟨bond, session, rfl, hsame.trans hdrain⟩

omit [BondStore S] in
theorem isPlain_of_opcode {packet : CommandPacket} {opcode : UInt16} (h : packet.opcode = opcode)
    (hreply : opcode ≠ hciLinkKeyRequestReply)
    (hnegative : opcode ≠ hciLinkKeyRequestNegativeReply) :
    Packet.IsPlain (.command packet) := by
  rintro _ ⟨⟩ (hopcode | hopcode)
  · exact hreply (h.symm.trans hopcode)
  · exact hnegative (h.symm.trans hopcode)

/-- Other events are answered by other commands. -/
theorem ClassicHost.Asks.isPlain {bonds : S} {event : ClassicEvent} {answer : CommandPacket}
    (h : Asks bonds event answer) (hevent : ∀ peer, event ≠ .linkKeyRequest peer) :
    Packet.IsPlain (.command answer) := by
  cases h with
  | @linkKey peer => exact absurd rfl (hevent peer)
  | accept peer =>
    have hopcode : (acceptCommand peer).opcode = hciAcceptConnectionRequest := rfl
    exact isPlain_of_opcode hopcode (by decide) (by decide)
  | authenticate status handle peer =>
    have hopcode : (authenticationCommand handle).opcode = hciAuthenticationRequested := rfl
    exact isPlain_of_opcode hopcode (by decide) (by decide)
  | ioCapability hopcode | userConfirmation hopcode | encrypt hopcode =>
    exact isPlain_of_opcode hopcode (by decide) (by decide)

/-- **A packet** makes the session answer the request it brings, and no other. -/
theorem Ready.handle_answers (hw : Ready w) (packet : Packet) {io : Option HciIo}
    (huses : Uses w.session.io io) (h : Throughout AnswersRequest w.trace) :
    Throughout AnswersRequest (handlePolledPacket packet (w.arrived packet io)).2.trace := by
  have harrived : Throughout AnswersRequest (w.arrived packet io).trace := ⟨.of_ne (by simp), h⟩
  by_cases hrequest : ∃ event peer, packet = .event event ∧
      decodeClassicEvent event = .ok [.linkKeyRequest peer]
  · obtain ⟨event, peer, rfl, hdecode⟩ := hrequest
    obtain ⟨sends, hsends, hcases⟩ := linkKeyRequest_handled hw huses hdecode
    have hdata : Throughout AnswersRequest
        (sends ++ ⟨w.session, .received (.event event)⟩ :: w.trace) := by
      refine harrived.append fun entry hentry before command haction => ?_
      obtain ⟨acl, hacl⟩ := hsends entry hentry
      rw [hacl] at haction
      cases haction
    rcases hcases with ⟨htrace, -⟩ | ⟨bond, session, hload, htrace⟩ <;> rw [htrace]
    · exact hdata
    · refine ⟨fun answer haction _ => ?_, hdata⟩
      cases haction
      exact ⟨sends, w.session, event, w.trace, peer, bond, rfl, hsends, hdecode, hload, rfl⟩
  · have hsending := handlePolledPacket_keeps packet
      (fun event events hpacket hdecode e he bonds answer hasks =>
        hasks.isPlain fun peer heq => hrequest ⟨event, peer, hpacket, by
          rw [hdecode, decode_linkKeyRequest hdecode (heq ▸ he)]⟩) _
      (Sending.refl (fun answer => Packet.IsPlain (.command answer)) (w.arrived packet io))
    exact hsending.answersRequest hw.quiet (fun _ hplain => hplain) harrived

/-! ### Calls -/

/-- What a world has recorded, it has answered rightly, if another one has. -/
def KeepsAnswers (w w' : World S) : Prop :=
  Throughout AnswersRequest w.trace → Throughout AnswersRequest w'.trace

/-- A call that receives nothing gives no answer. -/
theorem Ready.keepsAnswers {α : Type} {m : Op S α} (hw : Ready w)
    (hm : ∀ size start base, Exec.Keeps (Sending size (fun _ => False) start base) m) :
    KeepsAnswers w (m w).2 :=
  (hm _ _ _ w (Sending.refl _ w)).answersRequest hw.quiet fun _ hnone => hnone.elim

/-- **Receiving once**: the answers are for what was received. -/
theorem handleAnswer_keepsAnswers (timeout : ℕ) (silent : Op S Bool)
    (hsilent : ∀ w, (silent w).2 = w) (hw : Ready w) :
    KeepsAnswers w ((receive timeout >>= handleAnswer silent) w).2 := by
  intro h
  rcases receive_cases timeout hw.io with ⟨packet, io, hrun, huses, -⟩ |
    ⟨answer, io, hrun, hnone, -⟩
  · have hhandled := hw.handle_answers packet huses h
    rw [Exec.bind_ok hrun, handleAnswer, Exec.bind_apply]
    rcases hhandle : handlePolledPacket packet (w.arrived packet io) with ⟨error | _, w'⟩ <;>
      rw [hhandle] at hhandled <;> exact hhandled
  · rw [Exec.bind_ok hrun]
    rcases answer with error | _ | packet
    · exact h
    · rw [handleAnswer, hsilent]
      exact h
    · exact absurd rfl (hnone packet)

/-- Rounds that answer rightly do so together. -/
theorem rounds_keepAnswers {body : Op S Bool}
    (hbody : ∀ w w' r, Ready w → body w = (r, w') →
      KeepsAnswers w w' ∧ Acts r w' ∧ (r = .ok true → answersLeft w' < answersLeft w)) :
    Exec.Moves KeepsAnswers (Ready (S := S)) (Exec.loop answersLeft body) Acts := by
  refine Exec.moves_loop (fun w hw => ?_) fun w w' hw h => (hbody w w' _ hw h).2.2 rfl
  rcases hrun : body w with ⟨error | more, w'⟩
  · obtain ⟨hkeeps, hacts, -⟩ := hbody w w' _ hw hrun
    exact ⟨.single hkeeps, hacts.1, fun h => by cases h⟩
  · obtain ⟨hkeeps, hacts, -⟩ := hbody w w' _ hw hrun
    cases more with
    | true => exact ⟨.single hkeeps, hacts.2 rfl⟩
    | false => exact ⟨.single hkeeps, hacts.1, fun _ => hacts.2 rfl⟩

theorem keepsAnswers_of_steps (h : Relation.ReflTransGen KeepsAnswers w w') :
    KeepsAnswers w w' := by
  induction h with
  | refl => exact id
  | tail _ hstep ih => exact fun h => hstep (ih h)

theorem receiveAndHandle_keepsAnswers (timeout : ℕ) (hw : Ready w) :
    KeepsAnswers w (receiveAndHandle timeout w).2 :=
  handleAnswer_keepsAnswers timeout (pure false) (fun _ => rfl) hw

theorem poll_keepsAnswers (timeout : ℕ) (hw : Ready w) : KeepsAnswers w (poll timeout w).2 := by
  have hactive : ensureActive w = (.ok (), w) := by rw [ensureActive, hw.active]
  rw [BackendSession.poll, Exec.bind_ok hactive]
  have hfirst : KeepsAnswers w (receiveFirst timeout w).2 := by
    rw [receiveFirst, Exec.gets_bind]
    split
    · exact receiveAndHandle_keepsAnswers timeout hw
    · exact id
  have hacts := (receiveFirst_moves timeout w hw).2
  rw [Exec.bind_apply]
  rcases hrun : receiveFirst timeout w with ⟨error | more, w₁⟩ <;> rw [hrun] at hfirst hacts
  · exact hfirst
  have hall := rounds_keepAnswers (fun w w' r hw h => by
    obtain ⟨-, hacts, hlt⟩ := receiveAndHandle_acts 0 hw h
    have hkeeps := receiveAndHandle_keepsAnswers 0 hw
    rw [h] at hkeeps
    exact ⟨hkeeps, hacts, hlt⟩) w₁ (hacts.2 rfl)
  have hkept := keepsAnswers_of_steps hall.1
  dsimp only
  rw [Exec.bind_apply]
  rcases hrest : receiveAll w₁ with ⟨error | _, w₂⟩ <;> rw [receiveAll] at hrest <;>
    rw [hrest] at hkept
  · exact fun h => hkept (hfirst h)
  · exact fun h => hkept (hfirst h)

theorem drainInterrupt_keepsAnswers (timeout : ℕ) (hw : Ready w) :
    KeepsAnswers w (drainInterrupt timeout w).2 := by
  have hactive : ensureActive w = (.ok (), w) := by rw [ensureActive, hw.active]
  have htrace {reading : ℕ} {w w' : World S} (h : now w = (.ok reading, w')) :
      w'.trace = w.trace := by
    rw [now, Exec.update_apply] at h
    split at h <;> cases h <;> rfl
  have hdeadline : ∃ deadline w₁, deadlineAfter timeout w = (.ok deadline, w₁) ∧ Ready w₁ ∧
      w₁.trace = w.trace := by
    obtain ⟨start, w₁, hstart, -, hw₁, -⟩ := now_acts hw
    simp only [deadlineAfter, Exec.bind_ok hstart, Exec.gets_bind]
    split
    · exact ⟨_, w₁, rfl, hw₁, htrace hstart⟩
    · obtain ⟨reading, w₂, hrun, -, hw₂, -⟩ := now_acts hw₁
      exact ⟨reading, w₂, hrun, hw₂, (htrace hrun).trans (htrace hstart)⟩
  obtain ⟨deadline, w₁, hrun, hw₁, hsame⟩ := hdeadline
  rw [BackendSession.drainInterrupt, Exec.bind_ok hactive, Exec.bind_ok hrun]
  have hrounds := rounds_keepAnswers (fun w w' r hw h => by
    obtain ⟨-, hacts, hlt⟩ := drainRound_acts hw h
    refine ⟨?_, hacts, hlt⟩
    rw [drainRound, Exec.gets_bind] at h
    split at h
    · cases h
      exact id
    obtain ⟨reading, w₂, hnow, -, hw₂, -⟩ := now_acts hw
    rw [Exec.bind_ok hnow] at h
    split at h
    · cases h
      intro hkept
      rwa [htrace hnow]
    · have hkeeps := handleAnswer_keepsAnswers (deadline - reading)
        (Exec.fail (.new .drainTimedOut)) (fun _ => rfl) hw₂
      have hround : (receive (deadline - reading) >>=
        handleAnswer (Exec.fail (.new .drainTimedOut))) w₂ = (r, w') := h
      rw [hround] at hkeeps
      intro hkept
      exact hkeeps (by rwa [htrace hnow])) w₁ hw₁
  intro h
  exact keepsAnswers_of_steps hrounds.1 (by rwa [hsame])

/-- **A call** answers the requests it receives, and no other. -/
theorem perform_keepsAnswers (call : Call) (hw : Settled w) :
    KeepsAnswers w (w.perform call).2 := by
  intro h
  have hcalled : Throughout AnswersRequest (w.log (.called call)).trace := ⟨.of_ne (by simp), h⟩
  have hrun : KeepsAnswers (w.log (.called call)) (call.run (w.log (.called call))).2 := by
    have hunit {m : Op S Unit} (hm : KeepsAnswers (w.log (.called call))
        (m (w.log (.called call))).2) : KeepsAnswers (w.log (.called call))
          ((do m; pure [] : Op S (List Event)) (w.log (.called call))).2 := by
      rw [Exec.bind_apply]
      rcases hm' : m (w.log (.called call)) with ⟨error | _, w'⟩ <;> rw [hm'] at hm <;> exact hm
    -- Once the session is over, no call but `close` does anything.
    have hensure {α : Type} {f : Unit → Op S α} (hf : Ready (w.log (.called call)) →
        KeepsAnswers (w.log (.called call)) ((ensureActive >>= f) (w.log (.called call))).2) :
        KeepsAnswers (w.log (.called call)) ((ensureActive >>= f) (w.log (.called call))).2 := by
      rcases hactive : checkActive (w.log (.called call)).session with error | _
      · rw [bind_ensureActive _ hactive]
        exact id
      · exact hf ((hw.log _).ready hactive)
    cases call with
    | startPairing =>
      exact hunit (hensure fun hready => hready.keepsAnswers fun _ _ _ => keeps_startPairing)
    | startReconnect =>
      exact hunit (hensure fun hready => hready.keepsAnswers fun _ _ _ => keeps_startReconnect)
    | poll timeout => exact hensure fun hready => poll_keepsAnswers timeout hready
    | sendInterrupt payload =>
      exact hunit (hensure fun hready =>
        hready.keepsAnswers fun _ _ _ => keeps_sendInterrupt payload)
    | drainInterrupt timeout =>
      exact hunit (hensure fun hready => drainInterrupt_keepsAnswers timeout hready)
    | disconnect =>
      exact hunit (hensure fun hready => hready.keepsAnswers fun _ _ _ => keeps_disconnect)
    | close =>
      refine hunit fun h => ?_
      rw [close]
      split
      · exact h
      · split
        · exact h
        · exact ⟨.of_ne (by simp), h⟩
  exact ⟨.of_ne (by simp), hrun hcalled⟩

theorem Reachable.answers (h : Reachable w) : Throughout AnswersRequest w.trace := by
  induction h with
  | initialized => exact trivial
  | performed call hreachable ih => exact perform_keepsAnswers call hreachable.settled ih
  | @received w packet hreachable ih =>
    rw [World.inbound]
    rcases hactive : checkActive w.session with error | _
    · exact ih
    · exact (hreachable.settled.ready hactive).handle_answers packet (.refl w.session.io) ih

/-- **Link keys go only to the peer that asks.** In every run, each answer to the request of a link
key follows the request, with nothing between but data sent to the peer, and it is what the store
held for the peer the request names; a request that leaves the session alive has been answered. -/
theorem link_key_answered (h : Reachable w) :
    (∀ later entry earlier, w.trace = later ++ entry :: earlier → AnswersRequest earlier entry) ∧
      ∀ event peer, decodeClassicEvent event = .ok [.linkKeyRequest peer] →
        (w.inbound (.event event)).1 = .ok () → ∃ bond session sends,
          BondStore.load w.session.host.bonds.inner peer = .ok bond ∧
          (∀ entry ∈ sends, entry.SendsData) ∧
          (w.inbound (.event event)).2.trace =
            ⟨session, .sent (.command (ClassicHost.linkKeyAnswer peer bond))⟩ :: sends ++
              ⟨w.session, .received (.event event)⟩ :: w.trace := by
  refine ⟨fun later entry earlier htrace => h.answers.at htrace, fun event peer hdecode hok => ?_⟩
  rw [World.inbound] at hok ⊢
  rcases hactive : checkActive w.session with error | _ <;> rw [hactive] at hok
  · cases hok
  have hready := h.settled.ready hactive
  obtain ⟨sends, hsends, hcases⟩ := linkKeyRequest_handled hready (.refl w.session.io) hdecode
  have harrived : w.log (.received (.event event)) = w.arrived (.event event) w.session.io := rfl
  dsimp only at hok ⊢
  rw [harrived] at hok ⊢
  rcases hcases with ⟨-, hfails⟩ | ⟨bond, session, hload, htrace⟩
  · rw [hok] at hfails
    cases hfails
  · exact ⟨bond, session, sends, hload, hsends, htrace⟩

end Answers

/-- The controller asks for the link key of the peer it is linked with. -/
def sampleKeyRequest : EventPacket := eventPacket eventLinkKeyRequest samplePeer.asLeBytes

theorem link_key_answered_samplePaired :
    ∃ bond session sends,
      BondStore.load samplePaired.session.host.bonds.inner samplePeer = .ok bond ∧
      (∀ entry ∈ sends, entry.SendsData) ∧
      (samplePaired.inbound (.event sampleKeyRequest)).2.trace =
        ⟨session, .sent (.command (ClassicHost.linkKeyAnswer samplePeer bond))⟩ :: sends ++
          ⟨samplePaired.session, .received (.event sampleKeyRequest)⟩ :: samplePaired.trace := by
  have hdecode : decodeClassicEvent sampleKeyRequest = .ok [.linkKeyRequest samplePeer] := rfl
  have hok : (samplePaired.inbound (.event sampleKeyRequest)).1 = .ok () := by decide +kernel
  exact (link_key_answered samplePaired_reachable).2 sampleKeyRequest samplePeer hdecode hok

end ClassicHid

import ClassicHid.Session.Links

/-!
# Who may connect

A pairing window is for the first peer that asks over ACL after it was opened, a reconnect window for
the only bond of the store. Whoever is connected, or told to the caller as connected, is that peer,
and nobody else is sent an acceptance.

## Main definitions

* `admitted`: the peer that may connect, read off the record of a run
* `Admission`: what the record says of an entry

## Main results

* `peer_admission`: connections, their announcements and acceptances are for the admitted peer
-/

namespace ClassicHid

open Foundation BackendSession World

variable {S : Type}

/-- The peer of a connection request over ACL. -/
def requester : Packet → Option BluetoothAddress
  | .event event =>
    if event.eventCode = eventConnectionRequest ∧ event.parameters.length = 10 ∧
        event.parameters.getD 9 0 = 0x01 then
      (addressAt event.parameters 0).toOption
    else none
  | _ => none

/-- The peer that may connect: the one a reconnect window was opened for, or the first one that
asked over ACL since a pairing window was opened. -/
def admitted : List (Entry S) → Option BluetoothAddress
  | [] => none
  | entry :: earlier =>
    match entry.action with
    | .opened window => window.expected
    | .received packet =>
      match admitted earlier with
      | some peer => some peer
      | none => requester packet
    | _ => admitted earlier

/-- What the record says of an entry, given the entries before it. -/
structure Admission [BondStore S] (earlier : List (Entry S)) (entry : Entry S) : Prop where
  connected : ∀ peer handle, entry.action = .connected peer handle →
    entry.session.window.expected = some peer ∧ admitted earlier = some peer
  announced : ∀ peer, entry.action = .enqueued (.connected peer) →
    (∃ handle, entry.session.connection = some (peer, handle)) ∧ admitted earlier = some peer
  accepted : ∀ packet, entry.action = .sent (.command packet) →
    packet.opcode = hciAcceptConnectionRequest → ∃ peer, packet = ClassicHost.acceptCommand peer ∧
      entry.session.window.expected = some peer ∧ admitted earlier = some peer
  reconnecting : ∀ peer, entry.action = .opened (.reconnecting peer) →
    ∃ bond, BondStore.loadAll entry.session.host.bonds.inner = .ok [(peer, bond)]

/-- The window and the record name the same peer. -/
structure Admits (w : World S) : Prop where
  expected : ∀ peer, w.session.window.expected = some peer → admitted w.trace = some peer
  pairing : w.session.window = .pairing none → admitted w.trace = none
  connected : w.session.window = .connected → ∀ peer handle,
    w.session.connection = some (peer, handle) → admitted w.trace = some peer
  recorded : ∀ peer handle, w.session.connection = some (peer, handle) →
    ∃ entry ∈ w.trace, entry.action = .connected peer handle

variable [BondStore S]

omit [BondStore S] in
theorem admitted_append_of {later earlier : List (Entry S)}
    (h : ∀ entry ∈ later, (∀ window, entry.action ≠ .opened window) ∧
      ∀ packet, entry.action ≠ .received packet) :
    admitted (later ++ earlier) = admitted earlier := by
  induction later with
  | nil => rfl
  | cons entry later ih =>
    obtain ⟨hopened, hreceived⟩ := h entry (by simp)
    rw [List.cons_append, admitted]
    split
    · rename_i heq
      exact absurd heq (hopened _)
    · rename_i heq
      exact absurd heq (hreceived _)
    · exact ih fun e he => h e (by simp [he])

omit [BondStore S] in
/-- Once a peer is admitted it stays so until another window is opened. -/
theorem admitted_append (later : List (Entry S)) {earlier : List (Entry S)} {peer : BluetoothAddress}
    (hearlier : admitted earlier = some peer)
    (h : ∀ entry ∈ later, ∀ window, entry.action ≠ .opened window) :
    admitted (later ++ earlier) = some peer := by
  induction later with
  | nil => exact hearlier
  | cons entry later ih =>
    have ih := ih fun e he => h e (by simp [he])
    rw [List.cons_append, admitted]
    split
    · rename_i heq
      exact absurd heq (h entry (by simp) _)
    · rw [ih]
    · exact ih

omit [BondStore S] in
/-- A request is remembered by a pairing window that has no peer yet. -/
theorem latch_eq (window : ConnectionWindow) (packet : Packet) :
    window.latch packet =
      if window = .pairing none then .pairing (requester packet) else window := by
  split
  · rename_i hpairing
    subst hpairing
    cases packet with
    | event event =>
      simp only [ConnectionWindow.latch, requester]
      split
      · rcases addressAt event.parameters 0 with error | peer <;> rfl
      · rfl
    | command | acl => rfl
  · rename_i hother
    exact latch_eq_self packet hother

/-- The peer of a reconnect window is the only bond of the store. -/
theorem loadAll_of_soleBond {bonds : S} {peer : BluetoothAddress} (h : soleBond bonds = .ok peer) :
    ∃ bond, BondStore.loadAll bonds = .ok [(peer, bond)] := by
  rw [soleBond] at h
  split at h
  · cases h
  · cases h
  · rename_i peer' bond heq
    cases h
    exact ⟨bond, heq⟩
  · cases h

namespace Admits

variable {w w' : World S}

omit [BondStore S] in
/-- The window stays and the record grows by entries that are not about it. -/
theorem congr (h : Admits w) (hwindow : w'.session.window = w.session.window)
    (hconnection : ∀ link, w'.session.connection = some link → w.session.connection = some link)
    (hadmitted : admitted w'.trace = admitted w.trace) (htrace : ∀ e ∈ w.trace, e ∈ w'.trace) :
    Admits w' where
  expected peer hpeer := by
    rw [hwindow] at hpeer
    rw [hadmitted]
    exact h.expected peer hpeer
  pairing hpairing := by
    rw [hwindow] at hpairing
    rw [hadmitted]
    exact h.pairing hpairing
  connected hconnected peer handle hlink := by
    rw [hwindow] at hconnected
    rw [hadmitted]
    exact h.connected hconnected peer handle (hconnection _ hlink)
  recorded peer handle hlink := by
    obtain ⟨entry, hmem, hentry⟩ := h.recorded peer handle (hconnection _ hlink)
    exact ⟨entry, htrace entry hmem, hentry⟩

omit [BondStore S] in
/-- An idle window expects nobody. -/
theorem of_idle (h : Admits w) (hwindow : w'.session.window = .idle)
    (hconnection : ∀ link, w'.session.connection = some link → w.session.connection = some link)
    (htrace : ∀ e ∈ w.trace, e ∈ w'.trace) : Admits w' where
  expected peer hpeer := by
    rw [hwindow] at hpeer
    cases hpeer
  pairing hpairing := by
    rw [hwindow] at hpairing
    cases hpairing
  connected hconnected := by
    rw [hwindow] at hconnected
    cases hconnected
  recorded peer handle hlink := by
    obtain ⟨entry, hmem, hentry⟩ := h.recorded peer handle (hconnection _ hlink)
    exact ⟨entry, htrace entry hmem, hentry⟩

omit [BondStore S] in
/-- An event for the caller changes nothing of this. -/
theorem enqueue (h : Admits w) (event : Event) : Admits (w.enqueue event) := by
  refine h.congr (window_enqueue event w) (by simp) ?_ fun entry hentry => ?_ <;>
    rcases trace_enqueue event w with heq | heq <;> rw [heq]
  · rfl
  · exact hentry
  · exact List.mem_cons_of_mem _ hentry

omit [BondStore S] in
theorem admitted_hosted (host : ClassicHost S) (w : World S) :
    admitted (BackendSession.hosted host w).trace = admitted w.trace := by
  obtain ⟨later, hlater, hupserted⟩ := trace_hosted w host
  rw [hlater]
  refine admitted_append_of fun entry hentry => ?_
  obtain ⟨peer, bond, rfl⟩ := hupserted entry hentry
  exact ⟨by simp, by simp⟩

omit [BondStore S] in
theorem received (h : Admits w) (packet : Packet) (io : Option HciIo) :
    Admits (w.latched packet io) := by
  have hstays {peer : BluetoothAddress} (hpeer : admitted w.trace = some peer) :
      admitted (w.latched packet io).trace = some peer := by
    simp [World.latched, World.set, World.log, admitted, hpeer]
  by_cases hpairing : w.session.window = .pairing none
  · have hadmitted : admitted (w.latched packet io).trace = requester packet := by
      simp [World.latched, World.set, World.log, admitted, h.pairing hpairing]
    have hwindow : (w.latched packet io).session.window = .pairing (requester packet) := by
      simp [World.latched, World.set, World.log, latch_eq, hpairing]
    refine ⟨fun peer hpeer => ?_, fun hnone => ?_, fun hconnected => ?_, fun peer handle hlink => ?_⟩
    · rw [hwindow] at hpeer
      exact hadmitted.trans hpeer
    · rw [hwindow, ConnectionWindow.pairing.injEq] at hnone
      exact hadmitted.trans hnone
    · rw [hwindow] at hconnected
      cases hconnected
    · obtain ⟨entry, hmem, hentry⟩ := h.recorded peer handle hlink
      exact ⟨entry, List.mem_cons_of_mem _ hmem, hentry⟩
  · have hwindow : (w.latched packet io).session.window = w.session.window := by
      simp [World.latched, World.set, World.log, latch_eq, hpairing]
    refine ⟨fun peer hpeer => ?_, fun hnone => ?_, fun hconnected peer handle hlink => ?_,
      fun peer handle hlink => ?_⟩
    · rw [hwindow] at hpeer
      exact hstays (h.expected peer hpeer)
    · rw [hwindow] at hnone
      exact absurd hnone hpairing
    · rw [hwindow] at hconnected
      exact hstays (h.connected hconnected peer handle hlink)
    · obtain ⟨entry, hmem, hentry⟩ := h.recorded peer handle hlink
      exact ⟨entry, List.mem_cons_of_mem _ hmem, hentry⟩

/-- **Every step** keeps the window and the record in agreement. -/
theorem step (h : Admits w) (hlinked : Linked w) (hstep : Step w w') : Admits w' := by
  have hadd {e : Entry S} : ∀ entry ∈ w.trace, entry ∈ e :: w.trace := fun _ hentry =>
    List.mem_cons_of_mem _ hentry
  cases hstep with
  | received packet => exact h.received packet _
  | commanded | flushed => exact h.congr rfl (fun _ hlink => hlink) rfl hadd
  | connecting => exact h.congr rfl (fun _ hlink => hlink) rfl hadd
  | delivered => exact h.congr rfl (fun _ hlink => hlink) rfl hadd
  | hosted op =>
    obtain ⟨later, hlater, -⟩ := trace_hosted w (op.run w.session.host).2
    refine h.congr rfl (fun _ hlink => hlink) (admitted_hosted _ w) fun entry hentry => ?_
    rw [hlater]
    exact List.mem_append_right _ hentry
  | @linked peer handle output hout =>
    have hpeer := h.expected peer (hlinked.connected peer handle (by simp [hout])).1
    refine ⟨fun _ hexpected => (by cases hexpected), fun hpairing => (by cases hpairing),
      fun _ peer' handle' hlink => ?_, fun peer' handle' hlink => ?_⟩
    · cases hlink
      exact hpeer
    · cases hlink
      exact ⟨_, List.mem_cons_self, rfl⟩
  | admitted | reported => exact h.enqueue _
  | unlinked =>
    refine enqueue ?_ _
    exact h.of_idle rfl (fun _ hlink => (by cases hlink)) fun _ hentry => hentry
  | announced hannounces =>
    refine enqueue ?_ _
    rcases hannounces with ⟨output, -, rfl⟩ | ⟨-, rfl⟩ <;>
      exact h.congr rfl (fun _ hlink => hlink) rfl fun _ hentry => hentry
  | failed =>
    refine enqueue ?_ _
    exact h.of_idle rfl (fun _ hlink => hlink) fun _ hentry => hentry
  | hidden => exact h.of_idle rfl (fun _ hlink => hlink) fun _ hentry => hentry
  | opened window active _ _ _ hmay =>
    refine ⟨fun _ hexpected => hexpected, fun hpairing => ?_, fun hconnected => ?_,
      fun peer handle hlink => ?_⟩
    · change window.expected = none
      rw [show window = .pairing none from hpairing]
      rfl
    · rw [show window = .connected from hconnected] at hmay
      exact hmay.elim
    · obtain ⟨entry, hmem, hentry⟩ := h.recorded peer handle hlink
      exact ⟨entry, hadd entry hmem, hentry⟩
  | dismissed =>
    exact h.congr rfl (fun _ hlink => (by cases hlink)) rfl fun _ hentry => hentry
  | _ => exact h.congr rfl (fun _ hlink => hlink) rfl fun _ hentry => hentry

end Admits

/-! ### The record -/

/-- An entry that neither connects a peer nor opens a window. -/
def Action.IsPlain : Action → Prop
  | .connected .. | .enqueued (.connected _) | .opened _ => False
  | .sent (.command packet) => packet.opcode ≠ hciAcceptConnectionRequest
  | _ => True

theorem Admission.of_isPlain {earlier : List (Entry S)} {entry : Entry S}
    (h : entry.action.IsPlain) : Admission earlier entry := by
  refine ⟨fun peer handle heq => ?_, fun peer heq => ?_, fun packet heq hopcode => ?_,
    fun peer heq => ?_⟩ <;> rw [heq] at h
  · exact h.elim
  · exact h.elim
  · exact absurd hopcode h
  · exact h.elim

/-- **Every step** adds entries for the admitted peer only. -/
theorem Admits.throughout_step {w w' : World S} (h : Admits w) (hlinked : Linked w)
    (ht : Throughout Admission w.trace) (hstep : Step w w') : Throughout Admission w'.trace := by
  cases hstep with
  | received | connecting | delivered => exact ⟨.of_isPlain trivial, ht⟩
  | commanded hopcode => exact ⟨.of_isPlain hopcode, ht⟩
  | hosted op =>
    obtain ⟨later, hlater, hupserted⟩ := trace_hosted w (op.run w.session.host).2
    rw [hlater]
    refine ht.append fun entry hentry before => ?_
    obtain ⟨peer, bond, rfl⟩ := hupserted entry hentry
    exact .of_isPlain trivial
  | flushed hout hitem =>
    refine ⟨?_, ht⟩
    rcases hitem with ⟨command, rfl, rfl⟩ | ⟨acl, rfl, rfl⟩
    · refine ⟨fun _ _ heq => (by cases heq), fun _ heq => (by cases heq),
        fun packet heq hopcode => ?_, fun _ heq => (by cases heq)⟩
      cases heq
      obtain ⟨peer, hpacket, hexpected⟩ := hlinked.accept command (by simp [hout]) hopcode
      exact ⟨peer, hpacket, hexpected, h.expected peer hexpected⟩
    · exact .of_isPlain trivial
  | @linked peer handle output hout =>
    refine ⟨⟨fun _ _ heq => ?_, fun _ heq => (by cases heq), fun _ heq => (by cases heq),
      fun _ heq => (by cases heq)⟩, ht⟩
    cases heq
    have hexpected := (hlinked.connected peer handle (by simp [hout])).1
    exact ⟨hexpected, h.expected peer hexpected⟩
  | admitted handle _ hconnection hwindow =>
    refine throughout_enqueue ht ⟨fun _ _ heq => (by cases heq), fun _ heq => ?_,
      fun _ heq => (by cases heq), fun _ heq => (by cases heq)⟩
    cases heq
    exact ⟨⟨handle, hconnection⟩, h.connected hwindow _ handle hconnection⟩
  | unlinked => exact throughout_enqueue ht (.of_isPlain trivial)
  | announced hannounces =>
    refine throughout_enqueue ?_ (.of_isPlain trivial)
    rcases hannounces with ⟨output, -, rfl⟩ | ⟨-, rfl⟩ <;> exact ht
  | reported | failed => exact throughout_enqueue ht (.of_isPlain trivial)
  | opened window active _ _ _ hmay =>
    refine ⟨⟨fun _ _ heq => (by cases heq), fun _ heq => (by cases heq), fun _ heq => (by cases heq),
      fun peer heq => ?_⟩, ht⟩
    cases heq
    cases active with
    | false => exact hmay.elim
    | true => exact loadAll_of_soleBond hmay
  | _ => exact ht

theorem Reachable.admits {w : World S} (h : Reachable w) :
    Admits w ∧ Throughout Admission w.trace := by
  refine (Reachable.induction_linked (P := fun w => Admits w ∧ Throughout Admission w.trace)
    (fun w hw => ?_) (fun w w' _ hlinked hstep ⟨hw, ht⟩ => ?_) (fun w action hnote ⟨hw, ht⟩ => ?_)
    (fun w _ ⟨hw, ht⟩ => ?_) h).2
  · obtain ⟨io, capabilities, config, bonds, length, count, htrace, hsession⟩ := hw
    rw [htrace]
    refine ⟨⟨?_, ?_, ?_, ?_⟩, trivial⟩ <;> simp [hsession, ConnectionWindow.expected]
  · exact ⟨hw.step hlinked hstep, hw.throughout_step hlinked ht hstep⟩
  · refine ⟨hw.congr rfl (fun _ hlink => hlink) ?_ fun _ hentry => List.mem_cons_of_mem _ hentry,
      .of_isPlain ?_, ht⟩ <;> cases action <;> first | rfl | trivial
  · refine ⟨hw.of_idle rfl (fun _ hlink => (by cases hlink)) fun _ hentry =>
      List.mem_cons_of_mem _ hentry, .of_isPlain trivial, ht⟩

/-- **Peer admission.** In every run a connection is made, and announced, with the peer that the
window expects: the first one that asked over ACL since the pairing window was opened, or the only
bond at the time a reconnect was started. Acceptances are sent to that peer, so that those of one
window are all for one peer. -/
theorem peer_admission {w : World S} (h : Reachable w) :
    (∀ later entry earlier, w.trace = later ++ entry :: earlier → Admission earlier entry) ∧
      (∀ peer handle, w.session.connection = some (peer, handle) →
        ∃ later entry earlier, w.trace = later ++ entry :: earlier ∧
          entry.action = .connected peer handle) ∧
      ∀ later second between first earlier packet packet',
        w.trace = later ++ second :: (between ++ first :: earlier) →
        (∀ entry ∈ between, ∀ window, entry.action ≠ .opened window) →
        first.action = .sent (.command packet) → packet.opcode = hciAcceptConnectionRequest →
        second.action = .sent (.command packet') → packet'.opcode = hciAcceptConnectionRequest →
        packet' = packet := by
  obtain ⟨hadmits, hrecord⟩ := h.admits
  refine ⟨fun later entry earlier htrace => hrecord.at htrace, fun peer handle hlink => ?_, ?_⟩
  · obtain ⟨entry, hmem, hentry⟩ := hadmits.recorded peer handle hlink
    obtain ⟨later, earlier, htrace⟩ := List.append_of_mem hmem
    exact ⟨later, entry, earlier, htrace, hentry⟩
  · intro later second between first earlier packet packet' htrace hbetween hfirst hpacket hsecond
      hpacket'
    obtain ⟨peer', rfl, -, hpeer'⟩ := (hrecord.at htrace).accepted packet' hsecond hpacket'
    have hsplit : w.trace = (later ++ second :: between) ++ first :: earlier := by
      rw [htrace, List.append_assoc, List.cons_append]
    obtain ⟨peer, rfl, -, hpeer⟩ := (hrecord.at hsplit).accepted packet hfirst hpacket
    -- The first peer is still the admitted one when the second acceptance is sent.
    have hstill := admitted_append (between ++ [first]) hpeer fun entry hentry => by
      rcases List.mem_append.mp hentry with hentry | hentry
      · exact hbetween entry hentry
      · rw [List.mem_singleton.mp hentry, hfirst]
        simp
    rw [List.append_assoc, List.singleton_append, hpeer'] at hstill
    cases hstill
    rfl

theorem peer_admission_samplePaired :
    samplePaired.session.connection = some (samplePeer, 0x40) ∧
      ∃ later entry earlier, samplePaired.trace = later ++ entry :: earlier ∧
        entry.action = .connected samplePeer 0x40 := by
  have hconnection : samplePaired.session.connection = some (samplePeer, 0x40) := by decide +kernel
  exact ⟨hconnection, (peer_admission samplePaired_reachable).2.1 samplePeer 0x40 hconnection⟩

end ClassicHid

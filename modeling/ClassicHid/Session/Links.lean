import ClassicHid.Session.Run

/-!
# The link of the host and the connection of the session

The host holds the link; the session holds a window in which a peer may connect, and a connection of
its own. The two are kept apart by the output of the host: an acceptance or the report of a change
waits there until the session carries it out. While it waits the window still names the peer it is
about, and once it is carried out the session's connection is the host's link.

## Main definitions

* `ClassicHost.partner`: the peer and the handle of the link
* `LinkEffect`: what a call of the host does to its link
* `Linked`: the agreement of the session with its host

## Main results

* `hosted_link`: every call of the host is one of the effects
* `Reachable.linked`: session and host agree in every reachable world that is not closed
-/

namespace ClassicHid

open Foundation BackendSession World
open Std (ExtTreeMap)

variable {S : Type}

/-- The peer and the handle of the link the host holds. -/
def ClassicHost.partner (host : ClassicHost S) : Option (BluetoothAddress × UInt16) :=
  host.connection.map fun connection => (connection.peer, connection.handle)

theorem ClassicHost.link_eq_of_partner {host : ClassicHost S} {peer : BluetoothAddress}
    {handle : UInt16} (h : host.partner = some (peer, handle)) : host.link = some handle := by
  obtain ⟨connection, hconnection, heq⟩ := Option.map_eq_some_iff.mp h
  cases heq
  simp [ClassicHost.link, hconnection]

/-- Whether an output accepts a peer or says that the link is another one. -/
def HostOutput.concernsLink : HostOutput → Bool
  | .command packet => packet.opcode = hciAcceptConnectionRequest
  | item => item.changesLink

theorem HostOutput.changesLink_of_concernsLink {item : HostOutput}
    (h : item.concernsLink = false) : item.changesLink = false := by
  cases item with
  | command => rfl
  | acl | event => exact h

/-- A packet fixes the peer of a pairing window that has none, and changes no other window. -/
theorem latch_eq_self {window : ConnectionWindow} (packet : Packet) (h : window ≠ .pairing none) :
    window.latch packet = window := by
  have hadmit (other : BluetoothAddress) : (window.accept other).2 = window := by
    rcases window with _ | ⟨_ | expected⟩ | expected | _
    · rfl
    · exact absurd rfl h
    · rfl
    · rfl
    · rfl
  unfold ConnectionWindow.latch
  split
  · split
    · split
      · exact hadmit _
      · rfl
    · rfl
  · rfl

/-! ### What a call of the host does to its link -/

/-- What the calls that do not concern the link leave of it. -/
structure Unlinked (host host' : ClassicHost S) : Prop where
  output : ∃ items, host'.output = host.output ++ items ∧ ∀ item ∈ items, item.concernsLink = false
  partner : host'.partner = host.partner
  servers : host'.servers = host.servers

theorem Unlinked.refl (host : ClassicHost S) : Unlinked host host :=
  ⟨⟨[], by simp, by simp⟩, rfl, rfl⟩

theorem ClassicHost.partner_setChannels (channels : ChannelManager) (host : ClassicHost S) :
    (host.setChannels channels).partner = host.partner := by
  simp [ClassicHost.partner, ClassicHost.setChannels, Function.comp_def]

theorem ClassicHost.CallStep.unlinked_link {α : Type} {m : ChannelManager.Update α}
    {host host' : ClassicHost S} {r : Except HostError α} (h : ClassicHost.CallStep m host r host') :
    Unlinked host host' ∧ host'.pendingPeer = host.pendingPeer := by
  cases h with
  | unlinked => exact ⟨.refl host, rfl⟩
  | refused => exact ⟨⟨⟨[], by simp [ClassicHost.setChannels], by simp⟩,
      ClassicHost.partner_setChannels _ _, rfl⟩, rfl⟩
  | stuck hconnection =>
    exact ⟨⟨⟨[], by simp, by simp⟩,
      by simp [ClassicHost.partner, hconnection, ClassicHost.drainedConnection], rfl⟩, rfl⟩
  | @flushed connection channels _ packets hconnection =>
    refine ⟨⟨⟨_, List.append_assoc .., fun item hitem => ?_⟩,
      by simp [ClassicHost.partner, hconnection, ClassicHost.flushed, ClassicHost.drainedConnection],
      rfl⟩, rfl⟩
    rcases List.mem_append.mp hitem with hitem | hitem
    · obtain ⟨packet, -, rfl⟩ := List.mem_map.mp hitem
      rfl
    · obtain ⟨opened, -, rfl⟩ := List.mem_map.mp hitem
      rfl

/-- What a call of the host does to its link, in the window of `w`. -/
inductive LinkEffect (w : World S) (host' : ClassicHost S) : Prop
  /-- Nothing. -/
  | none : Unlinked w.session.host host' → LinkEffect w host'
  /-- The peer the window expects is accepted. -/
  | requested {peer : BluetoothAddress} : w.session.host.Quiet →
      w.session.window.expected = some peer → host' = w.session.host.requested peer →
      LinkEffect w host'
  /-- There is a link with the peer the window expects. -/
  | established {handle : UInt16} {peer : BluetoothAddress} {channels : ChannelManager} :
      w.session.host.Quiet → w.session.window.expected = some peer →
      host' = w.session.host.established handle peer channels → LinkEffect w host'
  /-- The link is gone. -/
  | disconnected {connection : Connection} {reason : UInt8} : w.session.host.Quiet →
      host' = w.session.host.disconnected connection reason → LinkEffect w host'

variable [BondStore S]

theorem handleEvent_link {e : ClassicEvent} {w : World S} (h : w.Permits (.event e)) :
    LinkEffect w (ClassicHost.handleEvent e w.session.host).2 := by
  have hstep := ClassicHost.handleEvent_step e w.session.host
  generalize ClassicHost.handleEvent e w.session.host = outcome at hstep ⊢
  obtain ⟨r, host'⟩ := outcome
  cases hstep with
  | refused => exact .none (.refl _)
  | replied _ hitems =>
    refine .none ⟨⟨_, rfl, fun item hitem => ?_⟩, rfl, rfl⟩
    obtain ⟨packet, rfl, hopcode⟩ := hitems item hitem
    simp [HostOutput.concernsLink, hopcode]
  | requested peer => exact .requested h.2 h.1 rfl
  | established => exact .established (h rfl).2 (h rfl).1 rfl
  | forgotten => exact .none ⟨⟨[], by simp, by simp⟩, rfl, rfl⟩
  | notified hitems =>
    refine .none ⟨⟨_, rfl, fun item hitem => ?_⟩, rfl, rfl⟩
    rw [hitems item hitem]
    rfl
  | encrypted hconnection =>
    exact .none ⟨⟨_, rfl, by simp [HostOutput.concernsLink, HostOutput.changesLink]⟩,
      by simp [ClassicHost.partner, hconnection], rfl⟩
  | completed =>
    exact .none ⟨⟨_, rfl, by simp [HostOutput.concernsLink, HostOutput.changesLink]⟩, rfl, rfl⟩
  | disconnected => exact .disconnected h rfl

/-- **Every call of the host** has one of the effects on its link. -/
theorem hosted_link {op : HostOp} {w : World S} (h : w.Permits op) :
    LinkEffect w (op.run w.session.host).2 := by
  cases op with
  | event e => exact handleEvent_link h
  | acl packet =>
    have hstep := ClassicHost.processAcl_step packet w.session.host
    refine .none ?_
    rw [HostOp.run]
    generalize ClassicHost.processAcl packet w.session.host = outcome at hstep ⊢
    obtain ⟨r, host'⟩ := outcome
    cases hstep with
    | refused => exact ⟨⟨[], by simp, by simp⟩, rfl, rfl⟩
    | fed => exact ⟨⟨[], by simp, by simp⟩, rfl, rfl⟩
    | processed _ _ _ hcall =>
      obtain ⟨houtput, hpartner, hservers⟩ := hcall.unlinked_link.1
      exact ⟨houtput, hpartner, hservers⟩
  | send cid sdu =>
    exact .none (ClassicHost.callChannels_step (ChannelManager.send cid sdu)
      w.session.host).unlinked_link.1
  | connect psm spec =>
    exact .none (ClassicHost.callChannels_step (ChannelManager.connect psm spec)
      w.session.host).unlinked_link.1
  | take cid =>
    refine .none ?_
    rw [HostOp.run, ClassicHost.takeChannelSdu]
    split
    · exact .refl _
    · split
      · exact .refl _
      · exact ⟨⟨[], by simp [ClassicHost.setChannels], by simp⟩,
          ClassicHost.partner_setChannels _ _, rfl⟩
  | register | pop => exact h.elim

/-! ### The agreement of the session with its host -/

/-- The session agrees with its host on the peer that may connect and on the link. -/
structure Linked (w : World S) : Prop where
  one : w.session.host.output.countP (·.concernsLink) ≤ 1
  accept : ∀ packet, .command packet ∈ w.session.host.output →
    packet.opcode = hciAcceptConnectionRequest →
    ∃ peer, packet = ClassicHost.acceptCommand peer ∧ w.session.window.expected = some peer
  connected : ∀ peer handle, .event (.connected peer handle) ∈ w.session.host.output →
    w.session.window.expected = some peer ∧ w.session.host.partner = some (peer, handle)
  disconnected : ∀ peer reason, .event (.disconnected peer reason) ∈ w.session.host.output →
    w.session.host.partner = none
  agree : (∀ item ∈ w.session.host.output, item.changesLink = false) →
    ∀ link, w.session.connection = some link → w.session.host.partner = some link

namespace Linked

variable {w w' : World S}

omit [BondStore S] in
/-- Neither the output nor the link changes; the window still expects the peer it expected. -/
theorem congr (h : Linked w) (houtput : w'.session.host.output = w.session.host.output)
    (hpartner : w'.session.host.partner = w.session.host.partner)
    (hwindow : ∀ peer, w.session.window.expected = some peer →
      w'.session.window.expected = some peer)
    (hconnection : ∀ link, w'.session.connection = some link → w.session.connection = some link) :
    Linked w' where
  one := by
    rw [houtput]
    exact h.one
  accept packet hmem hopcode := by
    rw [houtput] at hmem
    obtain ⟨peer, hpacket, hexpected⟩ := h.accept packet hmem hopcode
    exact ⟨peer, hpacket, hwindow peer hexpected⟩
  connected peer handle hmem := by
    rw [houtput] at hmem
    obtain ⟨hexpected, hlink⟩ := h.connected peer handle hmem
    exact ⟨hwindow peer hexpected, hpartner.trans hlink⟩
  disconnected peer reason hmem := by
    rw [houtput] at hmem
    exact hpartner.trans (h.disconnected peer reason hmem)
  agree hnone link hlink := by
    rw [houtput] at hnone
    exact hpartner.trans (h.agree hnone link (hconnection link hlink))

omit [BondStore S] in
/-- An output that does not change the link is taken from the host. -/
theorem pop (h : Linked w) {item : HostOutput} {output : List HostOutput}
    (hout : w.session.host.output = item :: output) (hitem : item.changesLink = false) :
    Linked (w.popped output) where
  one := by
    have := h.one
    rw [hout, List.countP_cons] at this
    exact Nat.le_trans (Nat.le_add_right _ _) this
  accept packet hmem := h.accept packet (by
    rw [hout]
    exact List.mem_cons_of_mem item hmem)
  connected peer handle hmem := h.connected peer handle (by
    rw [hout]
    exact List.mem_cons_of_mem item hmem)
  disconnected peer reason hmem := h.disconnected peer reason (by
    rw [hout]
    exact List.mem_cons_of_mem item hmem)
  agree hnone := h.agree (by
    rw [hout]
    intro item' hmem
    rcases List.mem_cons.mp hmem with rfl | hmem
    · exact hitem
    · exact hnone item' hmem)

omit [BondStore S] in
/-- Outputs that do not concern the link are added. -/
theorem append (h : Linked w) {host : ClassicHost S} (hhost : Unlinked w.session.host host) :
    Linked (w.set ({ · with host := host })) := by
  obtain ⟨⟨items, houtput, hitems⟩, hpartner, -⟩ := hhost
  have hold {item : HostOutput} (hmem : item ∈ host.output) (hconcerns : item.concernsLink = true) :
      item ∈ w.session.host.output := by
    rw [houtput] at hmem
    rcases List.mem_append.mp hmem with hmem | hmem
    · exact hmem
    · simp [hitems item hmem] at hconcerns
  refine ⟨?_, fun packet hmem hopcode => ?_, fun peer handle hmem => ?_, fun peer reason hmem => ?_,
    fun hnone link hlink => ?_⟩
  · change host.output.countP _ ≤ 1
    have hzero : items.countP (·.concernsLink) = 0 :=
      List.countP_eq_zero.mpr fun item hitem => by simp [hitems item hitem]
    rw [houtput, List.countP_append, hzero]
    exact h.one
  · exact h.accept packet (hold hmem (by simp [HostOutput.concernsLink, hopcode])) hopcode
  · obtain ⟨hexpected, hlink⟩ := h.connected peer handle (hold hmem rfl)
    exact ⟨hexpected, hpartner.trans hlink⟩
  · exact hpartner.trans (h.disconnected peer reason (hold hmem rfl))
  · refine hpartner.trans (h.agree (fun item hitem => hnone item ?_) link hlink)
    change item ∈ host.output
    rw [houtput]
    exact List.mem_append_left _ hitem

omit [BondStore S] in
/-- Output that does not concern the link asks for no more than an agreement on the link. -/
theorem of_unconcerned
    (h : ∀ item ∈ w.session.host.output, item.concernsLink = false)
    (hagree : ∀ link, w.session.connection = some link → w.session.host.partner = some link) :
    Linked w where
  one := by
    rw [List.countP_eq_zero.mpr fun item hitem => by simp [h item hitem]]
    exact Nat.zero_le 1
  accept packet hmem hopcode := by
    have := h _ hmem
    simp [HostOutput.concernsLink, hopcode] at this
  connected peer handle hmem := by cases h _ hmem
  disconnected peer reason hmem := by cases h _ hmem
  agree _ := hagree

omit [BondStore S] in
theorem concernsLink_of_quiet {host : ClassicHost S} (h : host.Quiet) :
    ∀ item ∈ host.output, item.concernsLink = false := by
  intro item hitem
  obtain ⟨packet, rfl⟩ := h.output item hitem
  rfl

omit [BondStore S] in
theorem agree_of_quiet (h : Linked w) (hquiet : w.session.host.Quiet) :
    ∀ link, w.session.connection = some link → w.session.host.partner = some link :=
  h.agree fun item hitem =>
    HostOutput.changesLink_of_concernsLink (concernsLink_of_quiet hquiet item hitem)

omit [BondStore S] in
/-- Nothing else concerns the link when the first output does. -/
theorem rest (h : Linked w) {item : HostOutput} {output : List HostOutput}
    (hout : w.session.host.output = item :: output) (hitem : item.concernsLink = true) :
    ∀ item ∈ output, item.concernsLink = false := by
  have hone := h.one
  rw [hout, List.countP_cons, if_pos hitem] at hone
  have hzero : output.countP (·.concernsLink) = 0 := by omega
  intro item hmem
  simpa using List.countP_eq_zero.mp hzero item hmem

omit [BondStore S] in
theorem expected_latch {window : ConnectionWindow} {peer : BluetoothAddress} (packet : Packet)
    (h : window.expected = some peer) : (window.latch packet).expected = some peer := by
  rw [latch_eq_self packet (by rintro rfl; cases h)]
  exact h

omit [BondStore S] in
/-- A host that is called changes its output and its link only. -/
theorem of_hosted {host : ClassicHost S} (h : Linked (w.set ({ · with host := host }))) :
    Linked (BackendSession.hosted host w) :=
  ⟨h.one, h.accept, h.connected, h.disconnected, h.agree⟩

omit [BondStore S] in
/-- The agreement when one output concerns the link. -/
theorem of_single {item : HostOutput} (old : List HostOutput) {new : List HostOutput}
    (hout : w.session.host.output = old ++ item :: new)
    (hold : ∀ item ∈ old, item.concernsLink = false)
    (hnew : ∀ item ∈ new, item.concernsLink = false)
    (haccept : ∀ packet, item = .command packet → packet.opcode = hciAcceptConnectionRequest →
      ∃ peer, packet = ClassicHost.acceptCommand peer ∧ w.session.window.expected = some peer)
    (hconnected : ∀ peer handle, item = .event (.connected peer handle) →
      w.session.window.expected = some peer ∧ w.session.host.partner = some (peer, handle))
    (hdisconnected : ∀ peer reason, item = .event (.disconnected peer reason) →
      w.session.host.partner = none)
    (hagree : item.changesLink = false → (∀ item ∈ old, item.changesLink = false) →
      ∀ link, w.session.connection = some link → w.session.host.partner = some link) :
    Linked w := by
  have hzero {items : List HostOutput} (h : ∀ item ∈ items, item.concernsLink = false) :
      items.countP (·.concernsLink) = 0 :=
    List.countP_eq_zero.mpr fun item hitem => by simp [h item hitem]
  have hmem {other : HostOutput} (hother : other ∈ w.session.host.output)
      (hconcerns : other.concernsLink = true) : item = other := by
    rw [hout, List.mem_append, List.mem_cons] at hother
    rcases hother with hother | hother | hother
    · simp [hold other hother] at hconcerns
    · exact hother.symm
    · simp [hnew other hother] at hconcerns
  refine ⟨?_, fun packet h hopcode => haccept packet (hmem h ?_) hopcode,
    fun peer handle h => hconnected peer handle (hmem h rfl),
    fun peer reason h => hdisconnected peer reason (hmem h rfl), fun hnone => hagree ?_ ?_⟩
  · rw [hout, List.countP_append, hzero hold, List.countP_cons, hzero hnew]
    split <;> omega
  · simp [HostOutput.concernsLink, hopcode]
  · exact hnone item (by simp [hout])
  · exact fun other hother => hnone other (by simp [hout, hother])

/-- A call of the host keeps the agreement. -/
theorem hosted (h : Linked w) {op : HostOp} (hpermits : w.Permits op) :
    Linked (BackendSession.hosted (op.run w.session.host).2 w) := by
  refine of_hosted ?_
  cases hosted_link hpermits with
  | none hunlinked => exact h.append hunlinked
  | @requested peer hquiet hexpected hhost =>
    rw [hhost]
    refine of_single w.session.host.output rfl (concernsLink_of_quiet hquiet) (by simp)
      (fun packet hpacket _ => ?_) (fun _ _ hitem => by cases hitem)
      (fun _ _ hitem => by cases hitem) fun _ hold => h.agree hold
    cases hpacket
    exact ⟨peer, rfl, hexpected⟩
  | @established handle peer channels hquiet hexpected hhost =>
    rw [hhost]
    refine of_single w.session.host.output rfl (concernsLink_of_quiet hquiet) ?_
      (fun _ hpacket _ => by cases hpacket) (fun _ _ hitem => ?_)
      (fun _ _ hitem => by cases hitem) fun hitem _ => by cases hitem
    · intro item hitem
      rw [List.mem_singleton.mp hitem]
      exact decide_eq_false (show hciAuthenticationRequested ≠ hciAcceptConnectionRequest by decide)
    · cases hitem
      exact ⟨hexpected, rfl⟩
  | @disconnected connection reason hquiet hhost =>
    rw [hhost]
    refine of_single (ClassicHost.withoutHandle connection.handle w.session.host.output) rfl
      (fun item hitem => ?_) (by simp) (fun _ hpacket _ => by cases hpacket)
      (fun _ _ hitem => by cases hitem) (fun _ _ _ => rfl) fun hitem _ => by cases hitem
    exact concernsLink_of_quiet hquiet item (List.mem_of_mem_filter hitem)

/-- **Every step** keeps the agreement. -/
theorem step (h : Linked w) (hstep : Step w w') : Linked w' := by
  cases hstep with
  | received packet =>
    exact h.congr rfl rfl (fun peer hpeer => expected_latch packet hpeer) fun _ hlink => hlink
  | hosted op hpermits => exact h.hosted hpermits
  | flushed hout hitem =>
    have hpop := h.pop hout (by rcases hitem with ⟨_, rfl, -⟩ | ⟨_, rfl, -⟩ <;> rfl)
    exact hpop.congr rfl rfl (fun _ hpeer => hpeer) fun _ hlink => hlink
  | skipped hout hitem => exact h.pop hout hitem
  | @linked peer handle output hout =>
    have hrest := h.rest hout rfl
    refine of_unconcerned hrest fun link hlink => ?_
    cases hlink
    exact (h.connected peer handle (by simp [hout])).2
  | unlinked hout =>
    have hrest := h.rest hout rfl
    refine of_unconcerned (fun item hitem => hrest item ?_) fun link hlink => ?_
    · simpa [World.set, World.popped] using hitem
    · simp [World.set, World.popped] at hlink
  | @connecting channel cid host _ _ _ _ hconnect =>
    have hcall := ClassicHost.callChannels_step
      (ChannelManager.connect channel.psm { mtu := classicServerMtu }) w.session.host
    rw [← ClassicHost.connectChannel, hconnect] at hcall
    exact (h.append hcall.unlinked_link.1).congr rfl rfl (fun _ hpeer => hpeer)
      fun _ hlink => hlink
  | announced hannounces =>
    rcases hannounces with ⟨output, hout, rfl⟩ | ⟨-, rfl⟩
    · exact (h.pop hout rfl).congr (by simp [World.set]) (by simp [World.set])
        (by simp [World.set]) (by simp [World.set])
    · exact h.congr (by simp [World.set]) (by simp [World.set]) (by simp [World.set])
        (by simp [World.set])
  | admitted | reported =>
    exact h.congr (by simp) (by simp) (by simp) (by simp)
  | failed _ hquiet =>
    refine of_unconcerned (fun item hitem => concernsLink_of_quiet hquiet item ?_)
      fun link hlink => ?_
    · simpa [World.set] using hitem
    · simpa [World.set] using h.agree_of_quiet hquiet link (by simpa [World.set] using hlink)
  | hidden hquiet => exact of_unconcerned (concernsLink_of_quiet hquiet) (h.agree_of_quiet hquiet)
  | opened _ _ hquiet =>
    exact of_unconcerned (concernsLink_of_quiet hquiet) (h.agree_of_quiet hquiet)
  | dismissed => exact h.congr rfl rfl (fun _ hpeer => hpeer) fun _ hlink => by cases hlink
  | _ => exact h.congr rfl rfl (fun _ hpeer => hpeer) fun _ hlink => hlink

end Linked

/-- **Induction over a run**, with the agreement of session and host at hand. -/
theorem Reachable.induction_linked {P : World S → Prop} {w : World S}
    (hinitial : ∀ w, Initial w → P w)
    (hstep : ∀ w w', w.session.closed = false → Linked w → Step w w' → P w → P w')
    (hnoted : ∀ w action, action.IsNote → P w → P (w.log action))
    (hclosed : ∀ w, w.session.closed = false → P w → P ((w.log .closed).set closedSession))
    (h : Reachable w) : (w.session.closed = true ∨ Linked w) ∧ P w := by
  refine Reachable.induction (P := fun w => (w.session.closed = true ∨ Linked w) ∧ P w)
    (fun w hw => ⟨?_, hinitial w hw⟩) (fun w w' hturn ⟨hlinked, hw⟩ => ?_) h
  · obtain ⟨io, capabilities, config, bonds, length, count, -, hsession⟩ := hw
    refine .inr (.of_unconcerned ?_ ?_) <;> simp [hsession, sessionHost, ClassicHost.new]
  · cases hturn with
    | step hopen hmove =>
      have hlinked : Linked w := hlinked.resolve_left (by simp [hopen])
      exact ⟨.inr (hlinked.step hmove), hstep w w' hopen hlinked hmove hw⟩
    | noted hnote =>
      refine ⟨hlinked.imp (fun h => h) fun h => ?_, hnoted w _ hnote hw⟩
      exact h.congr rfl rfl (fun _ hpeer => hpeer) fun _ hlink => hlink
    | closed hopen => exact ⟨.inl rfl, hclosed w hopen hw⟩

/-- **Session and host agree** in every reachable world, until the session is closed. -/
theorem Reachable.linked {w : World S} (h : Reachable w) (hopen : w.session.closed = false) :
    Linked w :=
  (h.induction_linked (P := fun _ => True) (fun _ _ => trivial) (fun _ _ _ _ _ _ => trivial)
    (fun _ _ _ _ => trivial) fun _ _ _ => trivial).1.resolve_left (by simp [hopen])

end ClassicHid

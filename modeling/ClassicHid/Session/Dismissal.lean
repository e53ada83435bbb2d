import ClassicHid.Session.Run

/-!
# After `disconnect`

`disconnect` forgets the channels at once, but the host keeps the link until the controller reports
its end. What the peer still sends goes on to the host, and a channel whose configuration it
completes there is announced to the session as if nothing had happened, if the peer asked for the
channel or the session has begun it. As long as no packet does that, the session stays silent:
nothing is announced, nothing is reported and nothing can be sent.

## Main definitions

* `ClassicHost.completesHid`: a packet that completes the configuration of a HID channel
* `BackendSession.hears`: a packet that completes that of a HID channel of which the session hears
* `afterDisconnect`: a record that ends after a `disconnect`, without such a packet
* `Muted`: the HID channels of the session are shut

## Main results

* `ClassicHost.handleEvent_muffled`, `ClassicHost.processAcl_muffled`: nothing else opens a HID
  channel of the host
* `silent_after_disconnect`: without such a packet the session is silent until it is connected again
* `channel_opens_after_disconnect`: with such a packet it is not
-/

namespace ClassicHid

open Foundation BackendSession World

variable {S : Type}

/-! ### The HID channels of the host -/

def isHidPsm (psm : UInt32) : Bool := psm = hidControlPsm || psm = hidInterruptPsm

theorem isHidPsm_psm (channel : Channel) : isHidPsm channel.psm = true := by
  cases channel <;> decide

namespace ClassicHost

/-- A channel of the host is open. -/
def HasOpen (host : ClassicHost S) (psm : UInt32) (cid : UInt16) : Prop :=
  ∃ mtu, host.channelInfo cid = some (psm, mtu, true)

/-- Whether an ACL packet completes the configuration of a channel of some kind: it is the last one
of a PDU on the link, and the PDU is the signaling frame the channel waits for. -/
def completesKind (kind : UInt16 → ClassicChannel → Bool) (packet : AclPacket)
    (host : ClassicHost S) : Bool :=
  match host.connection, (host.aclAssembler.feed packet).1 with
  | some connection, .ok (some bytes) =>
    connection.handle = packet.connectionHandle &&
      match L2capPdu.fromBytes bytes with
      | .ok pdu =>
        match connection.channels.completes pdu with
        | some cid => (connection.channels.channel cid).any (kind cid)
        | none => false
      | .error _ => false
  | _, _ => false

/-- Whether an ACL packet completes the configuration of a HID channel. -/
def completesHid (packet : AclPacket) (host : ClassicHost S) : Bool :=
  host.completesKind (fun _ channel => isHidPsm channel.psm) packet

/-- A HID channel that the peer asked for, or that is known. -/
def heard (known : UInt16 → Bool) (cid : UInt16) (channel : ClassicChannel) : Bool :=
  isHidPsm channel.psm && (channel.incoming || known cid)

theorem heard_all : heard (fun _ => true) = fun _ channel => isHidPsm channel.psm := by
  funext cid channel
  rw [heard, Bool.or_true, Bool.and_true]

/-- From `host` to `host'` no HID channel that is known has opened, and none is announced. -/
structure Muffled (known : UInt16 → Bool) (host host' : ClassicHost S) : Prop where
  opened : ∀ (channel : Channel) cid, known cid = true →
    host'.HasOpen channel.psm cid → host.HasOpen channel.psm cid
  announced : ∀ (channel : Channel) cid,
    .event (.channelOpened channel.psm cid) ∈ host'.output →
    .event (.channelOpened channel.psm cid) ∈ host.output

namespace Muffled

variable {known : UInt16 → Bool}

theorem refl (host : ClassicHost S) : Muffled known host host :=
  ⟨fun _ _ _ h => h, fun _ _ h => h⟩

/-- The link stays, and what is announced is no channel. -/
theorem of_connection {host host' : ClassicHost S} {items : List HostOutput}
    (hconnection : host'.connection = host.connection) (houtput : host'.output = host.output ++ items)
    (hitems : ∀ psm cid, .event (.channelOpened psm cid) ∉ items) : Muffled known host host' where
  opened channel cid _ hopen := by
    rwa [HasOpen, channelInfo, hconnection] at hopen
  announced channel cid hmem := by
    rw [houtput] at hmem
    exact (List.mem_append.mp hmem).resolve_right (hitems _ _)

end Muffled

theorem hasOpen_iff {host : ClassicHost S} {connection : Connection}
    (hconnection : host.connection = some connection) {psm : UInt32} {cid : UInt16} :
    host.HasOpen psm cid ↔ ∃ channel, connection.channels.channel cid = some channel ∧
      channel.psm = psm ∧ channel.isOpen = true := by
  rw [HasOpen, channelInfo, hconnection]
  rcases hchannel : connection.channels.channel cid with _ | channel
  · simp [hchannel]
  · simp [hchannel]

section Heard

variable {known : UInt16 → Bool}

/-- A channel that is not heard of, if there is one at all. -/
def SparesHid (known : UInt16 → Bool) (target : Option UInt16) (channels : ChannelManager) : Prop :=
  ∀ cid, target = some cid →
    ∃ channel, channels.channel cid = some channel ∧ heard known cid channel = false

theorem sparesHid_none (channels : ChannelManager) : SparesHid known none channels :=
  fun _ h => by cases h

/-- What is heard of a channel depends on its origin. -/
theorem heard_congr {cid : UInt16} {channel channel' : ClassicChannel}
    (h : channel'.origin = channel.origin) : heard known cid channel' = heard known cid channel := by
  simp only [ClassicChannel.origin, Prod.mk.injEq] at h
  rw [heard, heard, h.1, h.2]

/-- The known HID channels that are open were open before, when only a channel that is not heard of
may have opened. -/
theorem open_of_opens {target : Option UInt16} {channels channels' : ChannelManager}
    (h : ChannelManager.Opens target channels channels')
    (hspares : SparesHid known target channels) {cid : UInt16} {channel' : ClassicChannel}
    (hknown : known cid = true) (hchannel : channels'.channel cid = some channel')
    (hpsm : isHidPsm channel'.psm = true) (hopen : channel'.isOpen = true) :
    ∃ channel, channels.channel cid = some channel ∧ channel.psm = channel'.psm ∧
      channel.isOpen = true := by
  rcases h.opened cid channel' hchannel hopen with htarget | ⟨channel, hc, ho⟩
  · -- The channel that opened is known, so that it would be heard of.
    obtain ⟨channel, hc, hunheard⟩ := hspares cid htarget
    obtain ⟨channel'', hc'', hsame⟩ := h.origin cid channel hc
    rw [hchannel] at hc''
    cases hc''
    rw [← heard_congr hsame, heard, hpsm, hknown, Bool.or_true] at hunheard
    cases hunheard
  · obtain ⟨channel'', hc'', hsame⟩ := h.origin cid channel hc
    rw [hchannel] at hc''
    cases hc''
    exact ⟨channel, hc, (congrArg Prod.fst hsame).symm, ho⟩

/-- What is announced of channels that had nothing to announce is no HID channel. -/
theorem not_mem_openedEvents {target : Option UInt16} {channels channels' : ChannelManager}
    (h : ChannelManager.Opens target channels channels')
    (hspares : SparesHid known target channels)
    (haccepted : channels.acceptedChannels = []) (channel : Channel) (cid : UInt16) :
    .event (.channelOpened channel.psm cid) ∉ openedEvents channels' := by
  intro hmem
  simp only [openedEvents, openedChannels, List.mem_map, List.mem_filterMap,
    Option.map_eq_some_iff] at hmem
  obtain ⟨⟨psm, cid'⟩, ⟨cid'', hcid, channel', hchannel, heq⟩, hevent⟩ := hmem
  cases heq
  simp only [HostOutput.event.injEq, SessionEvent.channelOpened.injEq] at hevent
  obtain ⟨hpsm', rfl⟩ := hevent
  rcases h.accepted with hsame | ⟨cid', asked, htarget, hasked, hincoming, hsame⟩
  · rw [hsame, haccepted] at hcid
    cases hcid
  · rw [hsame, haccepted, List.nil_append, List.mem_singleton] at hcid
    subst hcid
    -- The peer asked for the channel, so that it would be heard of.
    obtain ⟨old, hold, hunheard⟩ := hspares _ htarget
    obtain ⟨new, hnew, horigin⟩ := h.origin _ old hold
    rw [hchannel] at hnew hasked
    cases hnew
    cases hasked
    rw [← heard_congr horigin, heard, hpsm', isHidPsm_psm, hincoming, Bool.true_or] at hunheard
    cases hunheard

/-- A call of the channels that opens no HID channel announces none. -/
theorem CallStep.muffled {α : Type} {m : ChannelManager.Update α} {host host' : ClassicHost S}
    {r : Except HostError α} (h : CallStep m host r host')
    (haccepted : r.isOk = true → host.accepted = [])
    (hopens : ∀ connection, host.connection = some connection → ∃ target,
      ChannelManager.Opens target connection.channels (m connection.channels).2 ∧
        SparesHid known target connection.channels) : Muffled known host host' := by
  -- Whatever becomes of the PDUs, the channels are those the call has left.
  have hopened {connection connection' : Connection} (hconnection : host.connection = some connection)
      (hconnection' : host'.connection = some connection')
      (hsame : ∀ cid, connection'.channels.channel cid = (m connection.channels).2.channel cid)
      (channel : Channel) (cid : UInt16) (hknown : known cid = true)
      (hopen : host'.HasOpen channel.psm cid) : host.HasOpen channel.psm cid := by
    obtain ⟨channel', hchannel, hpsm, ho⟩ := (hasOpen_iff hconnection').mp hopen
    rw [hsame] at hchannel
    obtain ⟨target, ho', hspares⟩ := hopens connection hconnection
    obtain ⟨old, hold, hpsm', hop⟩ := open_of_opens ho' hspares hknown hchannel
      (by rw [hpsm]; exact isHidPsm_psm channel) ho
    exact (hasOpen_iff hconnection).mpr ⟨old, hold, hpsm'.trans hpsm, hop⟩
  cases h with
  | unlinked => exact .refl host
  | @refused connection channels e hconnection hm =>
    refine ⟨fun channel cid => hopened hconnection (by simp [setChannels, hconnection]; rfl)
      (fun cid => by rw [hm]) channel cid, fun _ _ hmem => hmem⟩
  | @stuck connection channels a e packets hconnection hm =>
    exact ⟨fun channel cid => hopened hconnection rfl (fun cid => by rw [hm]; rfl) channel cid,
      fun _ _ hmem => hmem⟩
  | @flushed connection channels a packets hconnection hm =>
    refine ⟨fun channel cid => hopened hconnection rfl (fun cid => by rw [hm]; rfl) channel cid,
      fun channel cid hmem => ?_⟩
    obtain ⟨target, ho, hspares⟩ := hopens connection hconnection
    rw [hm] at ho
    have hnone : connection.channels.acceptedChannels = [] := by
      simpa [accepted, hconnection] using haccepted rfl
    simp only [ClassicHost.flushed, List.mem_append] at hmem
    rcases hmem with (hmem | hmem) | hmem
    · exact hmem
    · simp at hmem
    · exact absurd hmem (not_mem_openedEvents ho hspares hnone channel cid)

end Heard

end ClassicHost

/-! ### Channels that do not open -/

namespace ChannelManager

theorem send_opens (cid : UInt16) (sdu : Bytes) (m : ChannelManager) :
    Opens none m (send cid sdu m).2 := by
  have hsame := send_keeps cid sdu m (.refl m)
  refine .of_same ⟨hsame.accepted, fun cid' => ?_⟩
  have hview := congrArg (Option.map Prod.fst) (hsame.channel cid')
  simpa [Option.map_map, Function.comp_def, sendView] using hview

theorem connect_opens (psm : UInt32) (spec : ClassicChannelSpec) (m : ChannelManager) :
    Opens none m (connect psm spec m).2 := by
  rcases connect_spec psm spec m with ⟨error, h⟩ | ⟨cid, identifier, hfree, h⟩ <;> rw [h]
  · exact .of_same (.refl m)
  · refine ⟨.inl rfl, fun cid' channel hchannel => ⟨channel, ?_, rfl⟩,
      fun cid' channel hchannel ho => ?_⟩
    · have hne : cid ≠ cid' := by
        rintro rfl
        rw [hfree] at hchannel
        cases hchannel
      exact (channel_insert_ne m _ hne).trans hchannel
    · by_cases heq : cid = cid'
      · subst heq
        have hself := channel_insert_self m cid (.newOutgoing psm cid (.basic spec))
        cases hself.symm.trans hchannel
        cases ho
      · exact .inr ⟨channel, (channel_insert_ne m _ heq).symm.trans hchannel, ho⟩

end ChannelManager

namespace ClassicHost

variable {known : UInt16 → Bool}

/-- An item of the output that announces no HID channel. -/
def Hushed (items : List HostOutput) : Prop :=
  ∀ (channel : Channel) cid, .event (.channelOpened channel.psm cid) ∉ items

/-- The end of a link opens nothing. -/
theorem muffled_unlinked {host host' : ClassicHost S} (items : List HostOutput)
    (hnone : ∀ psm cid, ¬ host'.HasOpen psm cid)
    (houtput : ∀ item ∈ host'.output, item ∈ host.output ∨ item ∈ items) (hitems : Hushed items) :
    Muffled known host host' where
  opened _ _ _ hopen := absurd hopen (hnone _ _)
  announced _ _ hmem := (houtput _ hmem).resolve_right (hitems _ _)

/-- No event opens a HID channel. -/
theorem handleEvent_muffled [BondStore S] (event : ClassicEvent) (host : ClassicHost S) :
    Muffled known host (handleEvent event host).2 := by
  have hstep := handleEvent_step event host
  generalize handleEvent event host = outcome at hstep ⊢
  obtain ⟨r, host'⟩ := outcome
  cases hstep with
  | refused => exact .refl _
  | @replied _ _ items _ hitems =>
    refine .of_connection rfl rfl fun psm cid hmem => ?_
    obtain ⟨packet, h, -⟩ := hitems _ hmem
    cases h
  | requested peer => exact .of_connection rfl rfl (by simp)
  | established hchannels =>
    obtain ⟨registered, rfl⟩ := newChannels_eq_ok hchannels
    refine muffled_unlinked _ (fun psm cid hopen => ?_) (fun item => List.mem_append.mp)
      (by simp [Hushed])
    obtain ⟨channel, hchannel, -⟩ := (hasOpen_iff rfl).mp hopen
    simp [ChannelManager.channel, ChannelManager.new] at hchannel
  | forgotten => exact .of_connection rfl (List.append_nil _).symm (by simp)
  | notified hitems =>
    refine .of_connection rfl rfl fun psm cid hmem => ?_
    cases hitems _ hmem
  | @encrypted _ connection hconnection =>
    refine ⟨fun channel cid _ hopen => ?_, fun channel cid hmem => by simpa using hmem⟩
    rw [HasOpen, channelInfo] at hopen
    rwa [HasOpen, channelInfo, hconnection]
  | completed => exact .of_connection rfl rfl (by simp)
  | @disconnected _ reason connection =>
    refine muffled_unlinked [.event (.disconnected connection.peer reason)] (fun psm cid hopen => ?_)
      (fun item hmem => ?_) (by simp [Hushed])
    · obtain ⟨mtu, h⟩ := hopen
      cases h
    · exact (List.mem_append.mp hmem).imp_left fun h => (List.mem_filter.mp h).1

/-- An ACL packet that completes no HID channel that is heard of opens none that is known. -/
theorem processAcl_muffled {packet : AclPacket} {host : ClassicHost S}
    (haccepted : host.accepted = []) (h : host.completesKind (heard known) packet = false) :
    Muffled known host (processAcl packet host).2 := by
  have hstep := processAcl_step packet host
  generalize processAcl packet host = outcome at hstep ⊢
  obtain ⟨r, host'⟩ := outcome
  cases hstep with
  | refused | fed => exact .of_connection rfl (List.append_nil _).symm (by simp)
  | @processed assembler bytes pdu _ _ hlink hfeed hpdu hcall =>
    have h : Muffled known { host with aclAssembler := assembler } host' := by
      refine CallStep.muffled hcall (fun _ => haccepted) fun connection hconnection => ?_
      refine ⟨_, ChannelManager.processPdu_opens pdu connection.channels, fun cid hcid => ?_⟩
      have hconnection : host.connection = some connection := hconnection
      have hhandle : connection.handle = packet.connectionHandle := by
        simpa [link, hconnection] using hlink
      obtain ⟨channel, hchannel⟩ := ChannelManager.exists_of_completes hcid
      simp only [completesKind, hconnection, hfeed, hpdu, hhandle, hcid, decide_true, Bool.true_and,
        hchannel, Option.any_some] at h
      exact ⟨channel, hchannel, h⟩
    exact ⟨h.opened, h.announced⟩

/-- Sending on a channel opens none. -/
theorem sendChannelSdu_muffled (cid : UInt16) (sdu : Bytes) {host : ClassicHost S}
    (haccepted : host.accepted = []) : Muffled known host (sendChannelSdu cid sdu host).2 := by
  refine CallStep.muffled (callChannels_step _ host) (fun _ => haccepted) fun connection _ => ?_
  exact ⟨none, ChannelManager.send_opens cid sdu connection.channels, sparesHid_none _⟩

/-- Beginning a channel opens none. -/
theorem connectChannel_muffled (psm : UInt32) (spec : ClassicChannelSpec) {host : ClassicHost S}
    (haccepted : (connectChannel psm spec host).1.isOk = true → host.accepted = []) :
    Muffled known host (connectChannel psm spec host).2 := by
  refine CallStep.muffled (callChannels_step _ host) haccepted fun connection _ => ?_
  exact ⟨none, ChannelManager.connect_opens psm spec connection.channels, sparesHid_none _⟩

/-- Taking an SDU from a channel opens none. -/
theorem takeChannelSdu_muffled (cid : UInt16) (host : ClassicHost S) :
    Muffled known host (host.takeChannelSdu cid).2 := by
  unfold takeChannelSdu
  split
  · exact .refl host
  rename_i connection hconnection
  split
  · exact .refl host
  rename_i channel hchannel
  refine ⟨fun channel' cid' _ hopen => ?_, fun _ _ h => h⟩
  obtain ⟨new, hnew, hpsm, ho⟩ := (hasOpen_iff (by simp [setChannels, hconnection]; rfl)).mp hopen
  rw [hasOpen_iff hconnection]
  by_cases heq : cid = cid'
  · subst heq
    cases (ChannelManager.channel_insert_self _ cid _).symm.trans hnew
    refine ⟨channel, hchannel, ?_, ?_⟩
    · rw [← hpsm, ClassicChannel.popReceived]
      split <;> rfl
    · rw [← ho, ClassicChannel.popReceived]
      split <;> rfl
  · exact ⟨new, (ChannelManager.channel_insert_ne _ _ heq).symm.trans hnew, hpsm, ho⟩

/-- A channel that has just begun is not open. -/
theorem not_hasOpen_of_connectChannel {psm : UInt32} {spec : ClassicChannelSpec}
    {host host' : ClassicHost S} {cid : UInt16}
    (h : connectChannel psm spec host = (.ok cid, host')) : ¬ host'.HasOpen psm cid := by
  have hstep := callChannels_step (ChannelManager.connect psm spec) host
  rw [← connectChannel, h] at hstep
  cases hstep with
  | @flushed connection channels _ packets hconnection hm =>
    rcases ChannelManager.connect_spec psm spec connection.channels with
      ⟨error, hrun⟩ | ⟨cid', identifier, -, hrun⟩
    · rw [hrun] at hm
      cases hm
    · rw [hrun] at hm
      cases hm
      rw [hasOpen_iff rfl]
      rintro ⟨channel, hchannel, -, ho⟩
      cases (ChannelManager.channel_insert_self connection.channels cid _).symm.trans hchannel
      cases ho

end ClassicHost

/-! ### Runs after `disconnect` -/

/-- Whether a session has a channel for one of the two HID channels. -/
def ProtocolState.tracks (protocols : ProtocolState) (cid : UInt16) : Bool :=
  protocols.control.any (·.cid = cid) || protocols.interrupt.any (·.cid = cid)

/-- Whether a packet completes the configuration of a HID channel of which the session hears: the
peer asked for it, or the session has begun it. -/
def BackendSession.hears (packet : AclPacket) (session : BackendSession S) : Bool :=
  session.host.completesKind (ClassicHost.heard session.protocols.tracks) packet

/-- Whether a record ends after a `disconnect` that returned, with no link reported and no HID
channel completed since of which the session heard. -/
def afterDisconnect : List (Entry S) → Bool
  | [] => false
  | entry :: earlier =>
    match entry.action with
    | .returned .disconnect (.ok _) => true
    | .enqueued (.connected _) => false
    | .received (.acl packet) =>
      afterDisconnect earlier && !entry.session.hears packet
    | _ => afterDisconnect earlier

theorem ProtocolState.tracks_cid {protocols : ProtocolState} {channel : Channel}
    {protocolChannel : ProtocolChannel}
    (h : protocols.channel channel = some protocolChannel) :
    protocols.tracks protocolChannel.cid = true := by
  cases channel <;> simp only [ProtocolState.channel] at h <;> simp [tracks, h]

/-- The HID channels of a session are shut: those it began are not open, and none is announced. -/
structure Muted (session : BackendSession S) : Prop where
  shut : ∀ channel protocolChannel, session.protocols.channel channel = some protocolChannel →
    protocolChannel.open = false ∧ ¬ session.host.HasOpen channel.psm protocolChannel.cid
  silent : ClassicHost.Hushed session.host.output

/-- An action that tells the caller of a HID channel. -/
def Action.IsHid : Action → Prop
  | .enqueued (.channelOpened _) | .enqueued (.hidOutput ..) => True
  | _ => False

namespace Muted

/-- Nothing but the host has changed, and no HID channel of the session opened. -/
theorem muffled {session session' : BackendSession S} (h : Muted session)
    (hchannel : ∀ channel, session'.protocols.channel channel = session.protocols.channel channel)
    (hhost : ClassicHost.Muffled session.protocols.tracks session.host session'.host) :
    Muted session' where
  shut channel protocolChannel hc := by
    rw [hchannel] at hc
    obtain ⟨hshut, hnot⟩ := h.shut channel protocolChannel hc
    exact ⟨hshut, fun hopen => hnot (hhost.opened channel _ (ProtocolState.tracks_cid hc) hopen)⟩
  silent channel cid hmem := h.silent channel cid (hhost.announced channel cid hmem)

/-- A session without channels on a host that announces none. -/
theorem of_empty {session : BackendSession S} (hprotocols : session.protocols = {})
    (hsilent : ClassicHost.Hushed session.host.output) : Muted session where
  shut channel protocolChannel hc := by
    rw [hprotocols] at hc
    cases channel <;> cases hc
  silent := hsilent

end Muted

theorem ClassicHost.Quiet.hushed {host : ClassicHost S} (h : host.Quiet) : Hushed host.output := by
  intro channel cid hmem
  obtain ⟨packet, heq⟩ := h.output _ hmem
  cases heq

theorem ClassicHost.Hushed.tail {item : HostOutput} {output : List HostOutput}
    (h : Hushed (item :: output)) : Hushed output :=
  fun channel cid hmem => h channel cid (List.mem_cons_of_mem _ hmem)

/-- The record of a run: after a `disconnect` nothing is told of HID channels, which are shut. -/
structure Dismissed (w : World S) : Prop where
  mute : afterDisconnect w.trace = true → Muted w.session
  trace : Throughout (fun earlier entry => afterDisconnect earlier = true → ¬ entry.action.IsHid)
    w.trace

namespace Dismissed

variable {w w' : World S}

/-- The record is the same, and the session is as quiet. -/
theorem congr (h : Dismissed w) (htrace : w'.trace = w.trace)
    (hmuted : Muted w.session → Muted w'.session) : Dismissed w' := by
  refine ⟨fun hafter => ?_, ?_⟩
  · rw [htrace] at hafter
    exact hmuted (h.mute hafter)
  · rw [htrace]
    exact h.trace

/-- The record has one more entry, which is not about HID channels. -/
theorem log (h : Dismissed w) {session : BackendSession S} {action : Action}
    (htrace : w'.trace = ⟨session, action⟩ :: w.trace) (haction : ¬ action.IsHid)
    (hmuted : afterDisconnect (⟨session, action⟩ :: w.trace) = true → Muted w'.session) :
    Dismissed w' := by
  refine ⟨fun hafter => ?_, ?_⟩
  · rw [htrace] at hafter
    exact hmuted hafter
  · rw [htrace]
    exact ⟨fun _ => haction, h.trace⟩

/-- An entry either keeps what a record says, or is the return of a `disconnect`. -/
theorem after_of_cons {entry : Entry S} {earlier : List (Entry S)}
    (h : afterDisconnect (entry :: earlier) = true)
    (haction : ∀ events, entry.action ≠ .returned .disconnect (.ok events)) :
    afterDisconnect earlier = true := by
  rw [afterDisconnect] at h
  split at h
  · rename_i heq
    exact absurd heq (haction _)
  · cases h
  · exact (Bool.and_eq_true_iff.mp h).1
  · exact h

/-- The record has one more entry, which is neither about HID channels nor about `disconnect`. -/
theorem log_of_muted (h : Dismissed w) {session : BackendSession S} {action : Action}
    (htrace : w'.trace = ⟨session, action⟩ :: w.trace) (haction : ¬ action.IsHid)
    (hdisconnect : ∀ events, action ≠ .returned .disconnect (.ok events))
    (hmuted : Muted w.session → Muted w'.session) : Dismissed w' :=
  h.log htrace haction fun hafter => hmuted (h.mute (after_of_cons hafter hdisconnect))

/-- An event is told that is not about HID channels, if these are shut. -/
theorem enqueue (h : Dismissed w) {event : Event}
    (hevent : afterDisconnect w.trace = true → ¬ (Action.enqueued event).IsHid) :
    Dismissed (w.enqueue event) := by
  have hmuted (hw : Muted w.session) : Muted (w.enqueue event).session := by
    refine hw.muffled (fun channel => by rw [protocols_enqueue]) ?_
    rw [host_enqueue]
    exact .refl _
  rcases trace_enqueue event w with htrace | htrace
  · exact h.congr htrace hmuted
  · refine ⟨fun hafter => ?_, ?_⟩
    · rw [htrace] at hafter
      exact hmuted (h.mute (after_of_cons hafter (by simp)))
    · rw [htrace]
      exact ⟨hevent, h.trace⟩

/-- A call of the host opens no HID channel of the session, unless an ACL packet completes one. -/
theorem hosted [BondStore S] (h : Dismissed w) (op : HostOp) (hop : w.Permits op) :
    Dismissed (BackendSession.hosted (op.run w.session.host).2 w) := by
  obtain ⟨later, htrace, hlater⟩ := trace_hosted w (op.run w.session.host).2
  have hafter (earlier : List (Entry S)) : afterDisconnect (later ++ earlier) =
      afterDisconnect earlier := by
    clear htrace
    induction later with
    | nil => rfl
    | cons entry later ih =>
      obtain ⟨peer, bond, rfl⟩ := hlater entry (by simp)
      rw [List.cons_append, afterDisconnect]
      exact ih fun e he => hlater e (by simp [he])
  refine ⟨fun hw => ?_, ?_⟩
  · rw [htrace, hafter] at hw
    refine (h.mute hw).muffled (fun _ => rfl) ?_
    cases op with
    | event event => exact ClassicHost.handleEvent_muffled event w.session.host
    | acl packet =>
      obtain ⟨hquiet, session, earlier, hreceived, hhost, hprotocols⟩ := hop
      rw [hreceived, afterDisconnect, Bool.and_eq_true_iff, Bool.not_eq_true', hears, hhost,
        hprotocols] at hw
      exact ClassicHost.processAcl_muffled hquiet.accepted hw.2
    | send cid sdu => exact ClassicHost.sendChannelSdu_muffled cid sdu hop
    | take cid => exact ClassicHost.takeChannelSdu_muffled cid w.session.host
    | connect psm spec =>
      refine ClassicHost.connectChannel_muffled psm spec fun hok => ?_
      rw [show (ClassicHost.connectChannel psm spec w.session.host).1.isOk = false from hop] at hok
      cases hok
    | register | pop => exact hop.elim
  · rw [htrace]
    refine h.trace.append fun entry hentry earlier _ => ?_
    obtain ⟨peer, bond, rfl⟩ := hlater entry hentry
    exact id

/-- **Every step** keeps the HID channels shut after a `disconnect`. -/
theorem step [BondStore S] (h : Dismissed w) (hstep : Step w w') : Dismissed w' := by
  have hsame {session' : BackendSession S} (hprotocols : session'.protocols = w.session.protocols)
      (hhost : session'.host = w.session.host) (hw : Muted w.session) : Muted session' := by
    refine hw.muffled (fun channel => by rw [hprotocols]) ?_
    rw [hhost]
    exact .refl _
  have hpopped {item : HostOutput} {output : List HostOutput} {session' : BackendSession S}
      (hout : w.session.host.output = item :: output)
      (hprotocols : session'.protocols = w.session.protocols)
      (hhost : session'.host = { w.session.host with output := output }) (hw : Muted w.session) :
      Muted session' := by
    refine hw.muffled (fun channel => by rw [hprotocols]) ?_
    rw [hhost]
    exact ⟨fun _ _ _ h => h, fun _ _ hmem => by rw [hout]; exact List.mem_cons_of_mem _ hmem⟩
  have htail {item : HostOutput} {output : List HostOutput}
      (hout : w.session.host.output = item :: output) (hw : Muted w.session) :
      ClassicHost.Hushed output := by
    have := hw.silent
    rw [hout] at this
    exact this.tail
  cases hstep with
  | ticked => exact h.congr rfl (hsame rfl rfl)
  | consulted => exact h.congr rfl (hsame rfl rfl)
  | received packet => exact h.log_of_muted rfl id (by simp) (hsame rfl rfl)
  | commanded => exact h.log_of_muted rfl id (by simp) (hsame rfl rfl)
  | hosted op hop => exact h.hosted op hop
  | flushed hout => exact h.log_of_muted rfl id (by simp) (hpopped hout rfl rfl)
  | skipped hout => exact h.congr rfl (hpopped hout rfl rfl)
  | linked hout =>
    exact h.log_of_muted rfl id (by simp) fun hw => .of_empty rfl (htail hout hw)
  | admitted => exact h.enqueue fun _ => id
  | unlinked hout =>
    refine enqueue ?_ fun _ => id
    exact h.congr rfl fun hw => .of_empty rfl (htail hout hw)
  | @connecting channel cid host haccepted _ _ _ hconnect =>
    refine h.log_of_muted rfl id (by simp) fun hw => ?_
    have hmuffled : ClassicHost.Muffled w.session.protocols.tracks w.session.host _ :=
      ClassicHost.connectChannel_muffled channel.psm { mtu := classicServerMtu } fun _ => haccepted
    rw [hconnect] at hmuffled
    refine ⟨fun channel' protocolChannel hc => ?_, fun channel' cid' hmem =>
      hw.silent channel' cid' (hmuffled.announced channel' cid' hmem)⟩
    -- The new channel is not open yet, and the other one is as before.
    by_cases heq : channel' = channel
    · subst heq
      have hself : some (ProtocolChannel.mk cid false) = some protocolChannel := by
        rw [← hc]
        cases channel' <;> rfl
      cases hself
      exact ⟨rfl, ClassicHost.not_hasOpen_of_connectChannel hconnect⟩
    · have hother : w.session.protocols.channel channel' = some protocolChannel := by
        rw [← hc]
        cases channel <;> cases channel' <;> first | rfl | exact absurd rfl heq
      obtain ⟨hshut, hnot⟩ := hw.shut channel' protocolChannel hother
      exact ⟨hshut, fun hopen =>
        hnot (hmuffled.opened channel' _ (ProtocolState.tracks_cid hother) hopen)⟩
  | @announced channel cid mtu w₁ hannounces hinfo _ =>
    -- The channel is open in the host: had it been shut, nothing would announce it.
    have hnot : afterDisconnect w.trace = false := by
      rw [Bool.eq_false_iff]
      intro hafter
      have hw := h.mute hafter
      rcases hannounces with ⟨output, hout, -⟩ | ⟨hc, -⟩
      · exact hw.silent channel cid (by rw [hout]; exact List.mem_cons_self)
      · exact (hw.shut channel _ hc).2 ⟨mtu, hinfo⟩
    have htrace : w₁.trace = w.trace := by
      rcases hannounces with ⟨output, -, rfl⟩ | ⟨-, rfl⟩ <;> rfl
    have hfalse (hafter : afterDisconnect w₁.trace = true) : False := by
      rw [htrace, hnot] at hafter
      cases hafter
    refine enqueue ?_ fun hafter => (hfalse hafter).elim
    refine ⟨fun hafter => (hfalse hafter).elim, ?_⟩
    show Throughout _ w₁.trace
    rw [htrace]
    exact h.trace
  | tended htend => exact h.congr rfl fun hw => hw.muffled htend.channel (.refl _)
  | @reported channel protocolChannel payload hc hopen =>
    -- A report is passed on from an open channel only.
    refine h.enqueue fun hafter => ?_
    have hshut := ((h.mute hafter).shut channel protocolChannel hc).1
    rw [hopen] at hshut
    cases hshut
  | failed status =>
    refine enqueue ?_ fun _ => id
    exact h.congr rfl (hsame rfl rfl)
  | hidden => exact h.congr rfl (hsame rfl rfl)
  | refused => exact h.congr rfl (hsame rfl rfl)
  | terminated => exact h.congr rfl (hsame rfl rfl)
  | opened => exact h.log_of_muted rfl id (by simp) (hsame rfl rfl)
  | delivered => exact h.log_of_muted rfl id (by simp) (hsame rfl rfl)
  | dismissed => exact h.congr rfl fun hw => .of_empty rfl hw.silent

theorem turn [BondStore S] (h : Dismissed w) (hturn : Turn w w') : Dismissed w' := by
  cases hturn with
  | step _ hstep => exact h.step hstep
  | @noted action hnote hdisconnect =>
    refine h.log rfl ?_ fun hafter => ?_
    · intro hhid
      cases action with
      | enqueued event => exact hnote
      | _ => exact hhid
    · by_cases hreturned : action = .returned .disconnect (.ok [])
      · -- From here on the session has no channels, and its host has nothing to say.
        obtain ⟨hprotocols, hquiet⟩ := hdisconnect hreturned
        exact .of_empty hprotocols hquiet.hushed
      · refine h.mute (after_of_cons hafter fun events heq => hreturned ?_)
        cases heq
        cases events with
        | nil => rfl
        | cons => exact hnote.elim
  | closed _ =>
    refine h.log_of_muted rfl id (by simp) fun hw => .of_empty rfl hw.silent

end Dismissed

section Results

variable [BondStore S] {w : World S}

theorem Reachable.dismissed (h : Reachable w) : Dismissed w := by
  refine h.induction (fun w hw => ?_) fun _ _ hturn ih => ih.turn hturn
  obtain ⟨_, _, _, _, _, _, htrace, -⟩ := hw
  constructor <;> rw [htrace]
  · intro hafter
    cases hafter
  · trivial

omit [BondStore S] in
/-- A record after a `disconnect` in which no link was reported, and no HID channel completed of
which the session heard. -/
theorem afterDisconnect_append {later earlier : List (Entry S)} {session : BackendSession S}
    {events : List Event}
    (hconnected : ∀ entry ∈ later, ∀ peer, entry.action ≠ .enqueued (.connected peer))
    (hcompletes : ∀ entry ∈ later, ∀ packet, entry.action = .received (.acl packet) →
      entry.session.hears packet = false) :
    afterDisconnect (later ++ ⟨session, .returned .disconnect (.ok events)⟩ :: earlier) = true := by
  induction later with
  | nil => rfl
  | cons entry later ih =>
    have ih := ih (fun e he => hconnected e (by simp [he])) fun e he => hcompletes e (by simp [he])
    rw [List.cons_append, afterDisconnect]
    split
    · rfl
    · rename_i peer heq
      exact absurd heq (hconnected entry (by simp) peer)
    · rename_i packet heq
      rw [ih, hcompletes entry (by simp) packet heq]
      rfl
    · exact ih

omit [BondStore S] in
/-- A muted session has no interrupt channel to send on. -/
theorem Muted.interrupt (h : Muted w.session) :
    w.session.protocols.interrupt.filter (·.open) = none := by
  rcases hc : w.session.protocols.interrupt with _ | protocolChannel
  · rfl
  · rw [Option.filter_some, (h.shut .interrupt protocolChannel hc).1]
    rfl

/-- **A session is silent after `disconnect`**, until it is connected again, as long as no packet
completes the configuration of a HID channel of which the session hears: nothing is told of HID
channels, there is no capacity to send, and while the session goes on sending is refused. -/
theorem silent_after_disconnect (h : Reachable w) {later earlier : List (Entry S)}
    {session : BackendSession S} {events : List Event}
    (htrace : w.trace = later ++ ⟨session, .returned .disconnect (.ok events)⟩ :: earlier)
    (hconnected : ∀ entry ∈ later, ∀ peer, entry.action ≠ .enqueued (.connected peer))
    (hcompletes : ∀ entry ∈ later, ∀ packet, entry.action = .received (.acl packet) →
      entry.session.hears packet = false) :
    (∀ entry ∈ later, ∀ channel, entry.action ≠ .enqueued (.channelOpened channel) ∧
        ∀ payload, entry.action ≠ .enqueued (.hidOutput channel payload)) ∧
      w.session.interruptSendCapacityAvailable = false ∧
      (checkActive w.session = .ok () → ∀ payload,
        (w.perform (.sendInterrupt payload)).1 = .error (.new .sendRejected)) := by
  have hw := h.dismissed
  have hmuted : Muted w.session := by
    refine hw.mute ?_
    rw [htrace]
    exact afterDisconnect_append hconnected hcompletes
  refine ⟨fun entry hentry channel => ?_, ?_, fun hactive payload => ?_⟩
  · obtain ⟨later₁, later₂, rfl⟩ := List.append_of_mem hentry
    have hafter : afterDisconnect
        (later₂ ++ ⟨session, .returned .disconnect (.ok events)⟩ :: earlier) = true :=
      afterDisconnect_append (fun e he => hconnected e (by simp [he]))
        fun e he => hcompletes e (by simp [he])
    have hnot := hw.trace.at (htrace.trans (List.append_assoc ..)) hafter
    refine ⟨fun heq => hnot ?_, fun payload heq => hnot ?_⟩ <;> rw [heq] <;> trivial
  · have hnone : w.session.protocols.interrupt.any (·.open) = false := by
      rcases hc : w.session.protocols.interrupt with _ | protocolChannel
      · rfl
      · exact (hmuted.shut .interrupt protocolChannel hc).1
    simp [interruptSendCapacityAvailable, hnone]
  · have hactive' : ensureActive (w.log (.called (.sendInterrupt payload))) =
        (.ok (), w.log (.called (.sendInterrupt payload))) := by
      rw [ensureActive]
      exact Prod.ext hactive rfl
    have hnone : (w.log (.called (.sendInterrupt payload))).session.protocols.interrupt.filter
        (·.open) = none := hmuted.interrupt
    simp only [World.perform, Call.run, BackendSession.sendInterrupt, Exec.bind_apply, hactive',
      Exec.gets_apply, hnone, Exec.fail_apply]

end Results

/-! ### Runs in which the peer goes on after `disconnect` -/

/-- The return of a `disconnect`. -/
def Action.dismisses : Action → Bool
  | .returned .disconnect (.ok _) => true
  | _ => false

/-- What a record holds since the last return of a `disconnect`. -/
def sinceDisconnect (trace : List (Entry S)) : List (Entry S) :=
  trace.takeWhile fun entry => !entry.action.dismisses

theorem eq_sinceDisconnect_append {trace : List (Entry S)}
    (h : trace.any (·.action.dismisses) = true) : ∃ session events earlier,
      trace = sinceDisconnect trace ++ ⟨session, .returned .disconnect (.ok events)⟩ :: earlier := by
  obtain ⟨⟨session, action⟩, earlier, htrace, hdismisses⟩ := exists_latest h
  have haction : ∃ events, action = .returned .disconnect (.ok events) := by
    unfold Action.dismisses at hdismisses
    split at hdismisses
    · exact ⟨_, by assumption⟩
    · cases hdismisses
  obtain ⟨events, rfl⟩ := haction
  exact ⟨session, events, earlier, htrace⟩

/-- The session asks for a disconnection while the peer configures the interrupt channel, and the
peer's last answer arrives before the link has ended. -/
def sampleRevived : World MemoryBondStore :=
  (((sampleConfiguring hidInterruptPsm).perform .disconnect).2.inbound
    (.acl (signalPacket (.configureResponse 1 0x40 0 0 [])))).2

/-- **A HID channel opens after `disconnect`**: it is announced although the session is not
connected, there is capacity to send, and a report is sent. -/
theorem channel_opens_after_disconnect : ∃ later earlier session events,
    Reachable sampleRevived ∧
    sampleRevived.trace = later ++ ⟨session, .returned .disconnect (.ok events)⟩ :: earlier ∧
    (∀ entry ∈ later, ∀ peer, entry.action ≠ .enqueued (.connected peer)) ∧
    (∃ entry ∈ later, entry.action = .enqueued (.channelOpened .interrupt)) ∧
    sampleRevived.session.interruptSendCapacityAvailable = true ∧
    (sampleRevived.perform (.sendInterrupt [0x30])).1.isOk = true := by
  obtain ⟨session, events, earlier, htrace⟩ := eq_sinceDisconnect_append
    (show sampleRevived.trace.any (·.action.dismisses) = true by decide +kernel)
  have hconnected : (sinceDisconnect sampleRevived.trace).all (fun entry =>
      match entry.action with
      | .enqueued (.connected _) => false
      | _ => true) = true := by decide +kernel
  have hopened : (sinceDisconnect sampleRevived.trace).any (fun entry =>
      match entry.action with
      | .enqueued (.channelOpened .interrupt) => true
      | _ => false) = true := by decide +kernel
  refine ⟨_, earlier, session, events, .received _ (.performed _ (sampleConfiguring_reachable _)),
    htrace, fun entry hentry peer haction => ?_, ?_, by decide +kernel, by decide +kernel⟩
  · have h := List.all_eq_true.mp hconnected entry hentry
    rw [haction] at h
    cases h
  · obtain ⟨entry, hentry, h⟩ := List.any_eq_true.mp hopened
    refine ⟨entry, hentry, ?_⟩
    split at h
    · assumption
    · cases h

/-- The peer asks for the interrupt channel after a `disconnect`. -/
def sampleDismissed : World MemoryBondStore :=
  ((samplePaired.perform .disconnect).2.inbound
    (.acl (signalPacket (.connectionRequest 1 hidInterruptPsm 0x50)))).2

/-- Neither a connection nor a packet that completes a HID channel of which the session hears. -/
def Entry.keepsSilence (entry : Entry S) : Bool :=
  match entry.action with
  | .enqueued (.connected _) => false
  | .received (.acl packet) => !entry.session.hears packet
  | _ => true

def Entry.receivesData (entry : Entry S) : Bool :=
  match entry.action with
  | .received (.acl _) => true
  | _ => false

theorem silent_after_disconnect_sampleDismissed : ∃ later earlier session events,
    sampleDismissed.trace = later ++ ⟨session, .returned .disconnect (.ok events)⟩ :: earlier ∧
    (∃ entry ∈ later, ∃ packet, entry.action = .received (.acl packet)) ∧
    sampleDismissed.session.interruptSendCapacityAvailable = false ∧
    (sampleDismissed.perform (.sendInterrupt [0x30])).1 = .error (.new .sendRejected) := by
  obtain ⟨session, events, earlier, htrace⟩ := eq_sinceDisconnect_append
    (show sampleDismissed.trace.any (·.action.dismisses) = true by decide +kernel)
  have hlater : (sinceDisconnect sampleDismissed.trace).all Entry.keepsSilence = true := by
    decide +kernel
  have hreceived : (sinceDisconnect sampleDismissed.trace).any Entry.receivesData = true := by
    decide +kernel
  obtain ⟨-, hcapacity, hsend⟩ := silent_after_disconnect
    (.received _ (.performed _ samplePaired_reachable)) htrace
    (fun entry hentry peer haction => by
      have h := List.all_eq_true.mp hlater entry hentry
      rw [Entry.keepsSilence, haction] at h
      cases h)
    (fun entry hentry packet haction => by
      have h := List.all_eq_true.mp hlater entry hentry
      rw [Entry.keepsSilence, haction] at h
      simpa using h)
  refine ⟨_, earlier, session, events, htrace, ?_, hcapacity,
    hsend (checkActive_eq_ok.mpr ⟨by decide +kernel, by decide +kernel⟩) [0x30]⟩
  obtain ⟨entry, hentry, h⟩ := List.any_eq_true.mp hreceived
  refine ⟨entry, hentry, ?_⟩
  unfold Entry.receivesData at h
  split at h
  · exact ⟨_, by assumption⟩
  · cases h

end ClassicHid

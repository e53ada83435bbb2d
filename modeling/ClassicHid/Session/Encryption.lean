import ClassicHid.Session.Dismissal
import ClassicHid.Session.Reopening

/-!
# Encryption

The host notes that its link is encrypted when the controller reports it, and an active reconnect
begins its channels only then. The channels that the peer asks for open whether the link is
encrypted or not: nothing ever reads the note. As long as no packet completes a HID channel before
the link is encrypted, HID is served on an encrypted link only.

## Main definitions

* `ClassicHost.encryptedHandle`: the handle of the link, if it is encrypted
* `ConfiguredEncrypted`: a record in which every HID channel was completed on an encrypted link
* `encryptionReported`: a record in which the link was reported to be encrypted
* `Sealed`: a session that can serve no HID channel

## Main results

* `Reachable.secured`: what a record says of encryption and HID
* `hid_only_encrypted`: HID is served on an encrypted link only
* `hid_served_unencrypted`: not so when a channel is completed before
-/

namespace ClassicHid

open Foundation BackendSession World

variable {S : Type}

/-! ### The link of the host -/

namespace ClassicHost

/-- The handle of the link, if it is encrypted. -/
def encryptedHandle (host : ClassicHost S) : Option UInt16 :=
  host.connection.bind fun connection =>
    if connection.encrypted then some connection.handle else none

/-- No link waits to be reported. -/
def Unannounced (host : ClassicHost S) : Prop :=
  ∀ peer handle, .event (.connected peer handle) ∉ host.output

variable {host host' : ClassicHost S}

/-- A call of the channels leaves the link as encrypted as it was. -/
theorem CallStep.encryptedHandle {α : Type} {m : ChannelManager.Update α} {r : Except HostError α}
    (h : CallStep m host r host') : host'.encryptedHandle = host.encryptedHandle := by
  rw [ClassicHost.encryptedHandle, h.connection, ClassicHost.encryptedHandle]
  rcases host.connection with _ | connection
  · rfl
  · rw [Option.map_some]
    unfold Connection.after
    split <;> rfl

theorem encryptedHandle_takeChannelSdu (cid : UInt16) (host : ClassicHost S) :
    (host.takeChannelSdu cid).2.encryptedHandle = host.encryptedHandle := by
  rw [encryptedHandle, connection_takeChannelSdu, encryptedHandle]
  rcases host.connection with _ | connection <;> rfl

theorem processAcl_encryptedHandle (packet : AclPacket) (host : ClassicHost S) :
    (processAcl packet host).2.encryptedHandle = host.encryptedHandle := by
  have hstep := processAcl_step packet host
  generalize processAcl packet host = outcome at hstep ⊢
  obtain ⟨r, host'⟩ := outcome
  cases hstep with
  | refused | fed => rfl
  | processed _ _ _ hcall => exact hcall.encryptedHandle

theorem Quiet.unannounced (h : host.Quiet) : host.Unannounced := by
  intro peer handle hmem
  obtain ⟨packet, heq⟩ := h.output _ hmem
  cases heq

theorem Unannounced.append {items : List HostOutput} (h : host.Unannounced)
    (houtput : host'.output = host.output ++ items)
    (hitems : ∀ item ∈ items, item.changesLink = false) : host'.Unannounced := by
  intro peer handle hmem
  rw [houtput] at hmem
  rcases List.mem_append.mp hmem with hmem | hmem
  · exact h peer handle hmem
  · cases hitems _ hmem

end ClassicHost

/-! ### Records -/

/-- A record in which no packet completed a HID channel of a link that was not encrypted. -/
def ConfiguredEncrypted (trace : List (Entry S)) : Prop :=
  ∀ entry ∈ trace, ∀ packet, entry.action = .received (.acl packet) →
    entry.session.host.encryptedHandle = none → entry.session.host.completesHid packet = false

theorem ConfiguredEncrypted.of_append {later earlier : List (Entry S)}
    (h : ConfiguredEncrypted (later ++ earlier)) : ConfiguredEncrypted earlier :=
  fun entry hentry => h entry (List.mem_append_right _ hentry)

/-- Whether the controller has reported, since the session took the last link over, that the link
with a handle is encrypted. -/
def encryptionReported (handle : UInt16) : List (Entry S) → Prop
  | [] => False
  | entry :: earlier =>
    match entry.action with
    | .received (.event packet) =>
      decodeClassicEvent packet = .ok [.encryptionChange 0 handle true] ∨
        encryptionReported handle earlier
    | .connected .. => False
    | _ => encryptionReported handle earlier

/-- A report stays until another link is taken over. -/
theorem encryptionReported_append {handle : UInt16} {later earlier : List (Entry S)}
    (hlater : ∀ entry ∈ later, ∀ peer handle, entry.action ≠ .connected peer handle)
    (h : encryptionReported handle earlier) : encryptionReported handle (later ++ earlier) := by
  induction later with
  | nil => exact h
  | cons entry later ih =>
    have ih := ih fun e he => hlater e (by simp [he])
    rw [List.cons_append, encryptionReported]
    split
    · exact .inr ih
    · rename_i heq
      exact absurd heq (hlater entry (by simp) _ _)
    · exact ih

/-! ### Runs -/

/-- A session that can serve no HID channel: none is open in the host or announced by it, and none
is recorded as open, unless the link is about to be replaced. -/
structure Sealed (protocols : ProtocolState) (host : ClassicHost S) : Prop where
  shut (channel : Channel) (cid : UInt16) : ¬ host.HasOpen channel.psm cid
  silent : ClassicHost.Hushed host.output
  closed : host.KeepsLink → ∀ channel protocolChannel,
    protocols.channel channel = some protocolChannel → protocolChannel.open = false

/-- The record of a run: a session whose link is not encrypted can serve no HID channel, unless one
was completed all the same, and a link is encrypted only when the controller has reported it. -/
structure Secured (w : World S) : Prop where
  sealed : ConfiguredEncrypted w.trace → w.session.host.encryptedHandle = none →
    Sealed w.session.protocols w.session.host
  attested {handle : UInt16} : w.session.host.encryptedHandle = some handle →
    w.session.host.Unannounced ∧ encryptionReported handle w.trace
  trace : Throughout (fun earlier entry => ConfiguredEncrypted earlier → entry.action.IsHid →
    ∃ handle, entry.session.host.encryptedHandle = some handle ∧ encryptionReported handle earlier)
    w.trace

theorem Sealed.muffled {protocols protocols' : ProtocolState} {host host' : ClassicHost S}
    (h : Sealed protocols host) (hhost : ClassicHost.Muffled (fun _ => true) host host')
    (hlink : host'.KeepsLink → host.KeepsLink)
    (hchannel : ∀ channel protocolChannel, protocols'.channel channel = some protocolChannel →
      protocolChannel.open = true → protocols.channel channel = some protocolChannel) :
    Sealed protocols' host' where
  shut channel cid hopen := h.shut channel cid (hhost.opened channel cid rfl hopen)
  silent channel cid hmem := h.silent channel cid (hhost.announced channel cid hmem)
  closed hkeeps channel protocolChannel hc := by
    by_contra hopen
    rw [Bool.not_eq_false] at hopen
    have hclosed := h.closed (hlink hkeeps) channel protocolChannel
      (hchannel channel protocolChannel hc hopen)
    rw [hopen] at hclosed
    cases hclosed

/-- The session forgets its channels when it hears of another link. -/
theorem Sealed.forget {protocols : ProtocolState} {host : ClassicHost S} {item : HostOutput}
    {output : List HostOutput} (h : Sealed protocols host) (hout : host.output = item :: output) :
    Sealed {} { host with output := output } where
  shut := h.shut
  silent channel cid hmem := h.silent channel cid (by
    rw [hout]
    exact List.mem_cons_of_mem _ hmem)
  closed _ channel protocolChannel hc := by cases channel <;> cases hc

namespace Secured

variable {w w' : World S}

/-- The record has some more entries, none about HID or another link, and the link is the one it
was. -/
theorem grow (h : Secured w) {later : List (Entry S)} (htrace : w'.trace = later ++ w.trace)
    (hlater : ∀ entry ∈ later, ¬ entry.action.IsHid ∧
      ∀ peer handle, entry.action ≠ .connected peer handle)
    (hhandle : w'.session.host.encryptedHandle = w.session.host.encryptedHandle)
    (hunannounced : w.session.host.Unannounced → w'.session.host.Unannounced)
    (hsealed : ConfiguredEncrypted w'.trace → w'.session.host.encryptedHandle = none →
      Sealed w.session.protocols w.session.host →
      Sealed w'.session.protocols w'.session.host) : Secured w' where
  sealed hconfigured hnone := by
    refine hsealed hconfigured hnone (h.sealed ?_ (hhandle.symm.trans hnone))
    rw [htrace] at hconfigured
    exact hconfigured.of_append
  attested hhandle' := by
    obtain ⟨hhost, hreported⟩ := h.attested (hhandle.symm.trans hhandle')
    refine ⟨hunannounced hhost, ?_⟩
    rw [htrace]
    exact encryptionReported_append (fun entry hentry => (hlater entry hentry).2) hreported
  trace := by
    rw [htrace]
    exact h.trace.append fun entry hentry before _ hhid => absurd hhid (hlater entry hentry).1

/-- The record is the same, and so is the host. -/
theorem congr (h : Secured w) (htrace : w'.trace = w.trace)
    (hhost : w'.session.host = w.session.host)
    (hchannel : ∀ channel protocolChannel,
      w'.session.protocols.channel channel = some protocolChannel →
      protocolChannel.open = true → w.session.protocols.channel channel = some protocolChannel) :
    Secured w' := by
  have hsame : w'.trace = [] ++ w.trace := htrace
  refine h.grow hsame (by simp) (by rw [hhost]) (by rw [hhost]; exact id) fun _ _ hsealed => ?_
  rw [hhost]
  exact hsealed.muffled (.refl _) id hchannel

/-- The record has one more entry, and the host is the same. -/
theorem log (h : Secured w) {session : BackendSession S} {action : Action}
    (htrace : w'.trace = ⟨session, action⟩ :: w.trace) (haction : ¬ action.IsHid)
    (hconnected : ∀ peer handle, action ≠ .connected peer handle)
    (hhost : w'.session.host = w.session.host)
    (hchannel : ∀ channel protocolChannel,
      w'.session.protocols.channel channel = some protocolChannel →
      protocolChannel.open = true → w.session.protocols.channel channel = some protocolChannel) :
    Secured w' := by
  have hcons : w'.trace = [⟨session, action⟩] ++ w.trace := htrace
  refine h.grow hcons (by simp [haction, hconnected]) (by rw [hhost]) (by rw [hhost]; exact id)
    fun _ _ hsealed => ?_
  rw [hhost]
  exact hsealed.muffled (.refl _) id hchannel

/-- An output that is not about the link is taken from the host. -/
theorem pop (h : Secured w) {item : HostOutput} {output : List HostOutput}
    (hout : w.session.host.output = item :: output) (hitem : item.changesLink = false) :
    Secured (w.popped output) := by
  have hsame : (w.popped output).trace = [] ++ w.trace := rfl
  have hmem {other : HostOutput} (hother : other ∈ output) : other ∈ w.session.host.output := by
    rw [hout]
    exact List.mem_cons_of_mem _ hother
  refine h.grow hsame (by simp) rfl (fun hw peer handle hother => hw peer handle (hmem hother))
    fun _ _ hsealed => hsealed.muffled ?_ (.of_cons hout hitem) fun _ _ hc _ => hc
  exact ⟨fun _ _ _ hopen => hopen, fun _ _ hother => hmem hother⟩

/-- An event is told, about HID only when the link is encrypted. -/
theorem enqueue (h : Secured w) {event : Event}
    (hevent : ConfiguredEncrypted w.trace → (Action.enqueued event).IsHid →
      ∃ handle, w.session.host.encryptedHandle = some handle) : Secured (w.enqueue event) := by
  rcases trace_enqueue event w with htrace | htrace
  · refine h.congr htrace (host_enqueue event w) fun channel protocolChannel hc _ => ?_
    rwa [protocols_enqueue] at hc
  refine ⟨fun hconfigured hnone => ?_, fun {handle} hhandle => ?_, ?_⟩
  · rw [htrace] at hconfigured
    rw [host_enqueue] at hnone ⊢
    rw [protocols_enqueue]
    exact h.sealed (fun entry hentry => hconfigured entry (List.mem_cons_of_mem _ hentry)) hnone
  · rw [host_enqueue] at hhandle ⊢
    obtain ⟨hhost, hreported⟩ := h.attested hhandle
    rw [htrace]
    exact ⟨hhost, hreported⟩
  · rw [htrace]
    refine ⟨fun hconfigured hhid => ?_, h.trace⟩
    obtain ⟨handle, hhandle⟩ := hevent hconfigured hhid
    exact ⟨handle, hhandle, (h.attested hhandle).2⟩

/-- A call of the host that leaves its link. -/
theorem called (h : Secured w) {host : ClassicHost S} {items : List HostOutput}
    (hhandle : host.encryptedHandle = w.session.host.encryptedHandle)
    (houtput : host.output = w.session.host.output ++ items)
    (hitems : ∀ item ∈ items, item.changesLink = false)
    (hmuffled : ConfiguredEncrypted w.trace → w.session.host.encryptedHandle = none →
      ClassicHost.Muffled (fun _ => true) w.session.host host) :
    Secured (BackendSession.hosted host w) := by
  obtain ⟨later, htrace, hlater⟩ := trace_hosted w host
  refine h.grow htrace (fun entry hentry => ?_) hhandle (fun hw => hw.append houtput hitems)
    fun hconfigured hnone hsealed => ?_
  · obtain ⟨peer, bond, rfl⟩ := hlater entry hentry
    exact ⟨id, by simp⟩
  · rw [htrace] at hconfigured
    exact hsealed.muffled (hmuffled hconfigured.of_append (hhandle.symm.trans hnone))
      (fun hlink => hlink.of_append houtput) fun _ _ hc _ => hc

/-- A call of the host after which its link is another one, which is not encrypted. -/
theorem relinked (h : Secured w) {host : ClassicHost S} (hnone : host.encryptedHandle = none)
    (hsealed : Sealed w.session.protocols host) : Secured (BackendSession.hosted host w) := by
  obtain ⟨later, htrace, hlater⟩ := trace_hosted w host
  refine ⟨fun _ _ => hsealed, fun hhandle => ?_, ?_⟩
  · cases hnone.symm.trans hhandle
  · rw [htrace]
    refine h.trace.append fun entry hentry before _ hhid => ?_
    obtain ⟨peer, bond, rfl⟩ := hlater entry hentry
    exact hhid.elim

/-- A call of the host after which its link is encrypted, as was reported. -/
theorem encrypted (h : Secured w) {host : ClassicHost S} {handle : UInt16}
    (hhandle : host.encryptedHandle = some handle) (hunannounced : host.Unannounced)
    (hreported : encryptionReported handle w.trace) :
    Secured (BackendSession.hosted host w) := by
  obtain ⟨later, htrace, hlater⟩ := trace_hosted w host
  refine ⟨fun _ hnone => ?_, fun {handle'} hhandle' => ⟨hunannounced, ?_⟩, ?_⟩
  · cases hhandle.symm.trans hnone
  · cases hhandle.symm.trans hhandle'
    rw [htrace]
    refine encryptionReported_append (fun entry hentry => ?_) hreported
    obtain ⟨peer, bond, rfl⟩ := hlater entry hentry
    simp
  · rw [htrace]
    refine h.trace.append fun entry hentry before _ hhid => ?_
    obtain ⟨peer, bond, rfl⟩ := hlater entry hentry
    exact hhid.elim

/-- A call of the channels that begins or opens no HID channel. -/
theorem calledChannels {α : Type} (h : Secured w) {m : ChannelManager.Update α}
    {r : Except HostError α} {host : ClassicHost S}
    (hcall : ClassicHost.CallStep m w.session.host r host)
    (hmuffled : ConfiguredEncrypted w.trace → w.session.host.encryptedHandle = none →
      ClassicHost.Muffled (fun _ => true) w.session.host host) :
    Secured (BackendSession.hosted host w) := by
  obtain ⟨items, houtput, hitems⟩ := hcall.unlinked_link.1.output
  exact h.called hcall.encryptedHandle houtput
    (fun item hitem => HostOutput.changesLink_of_concernsLink (hitems item hitem)) hmuffled

/-- What an event makes of the link. -/
theorem hostedEvent [BondStore S] (h : Secured w) {event : ClassicEvent}
    (hop : w.Permits (.event event)) :
    Secured (BackendSession.hosted (ClassicHost.handleEvent event w.session.host).2 w) := by
  have hmuffled : ClassicHost.Muffled (fun _ => true) w.session.host _ :=
    ClassicHost.handleEvent_muffled event w.session.host
  have hstep := ClassicHost.handleEvent_step event w.session.host
  generalize ClassicHost.handleEvent event w.session.host = outcome at hstep hmuffled ⊢
  obtain ⟨r, host⟩ := outcome
  cases hstep with
  | refused => exact h.called rfl (List.append_nil _).symm (by simp) fun _ _ => hmuffled
  | replied hanswered hitems =>
    refine h.called rfl rfl (fun item hitem => ?_) fun _ _ => hmuffled
    obtain ⟨packet, rfl, -⟩ := hitems item hitem
    rfl
  | requested peer => exact h.called rfl rfl (by simp [HostOutput.changesLink]) fun _ _ => hmuffled
  | @established handle peer channels hchannels =>
    obtain ⟨registered, rfl⟩ := ClassicHost.newChannels_eq_ok hchannels
    obtain ⟨-, hquiet⟩ := hop rfl
    refine h.relinked rfl ⟨fun channel cid hopen => ?_, fun channel cid hmem => ?_, fun hlink => ?_⟩
    · obtain ⟨c, hc, -⟩ := (ClassicHost.hasOpen_iff rfl).mp hopen
      simp [ChannelManager.channel, ChannelManager.new] at hc
    · rcases List.mem_append.mp hmem with hmem | hmem
      · exact hquiet.hushed channel cid hmem
      · simp at hmem
    · cases hlink (.event (.connected peer handle)) (by simp)
  | forgotten =>
    exact h.called rfl (List.append_nil _).symm (by simp) fun _ _ => hmuffled
  | notified hitems =>
    refine h.called rfl rfl (fun item hitem => ?_) fun _ _ => hmuffled
    rw [hitems item hitem]
    rfl
  | @encrypted _ connection hconnection hhandle =>
    obtain ⟨hquiet, packet, session, earlier, hreceived, hdecode⟩ := hop
    have hunannounced := hquiet.unannounced
    refine h.encrypted (congrArg some hhandle)
      (hunannounced.append rfl (by simp [HostOutput.changesLink])) ?_
    rw [hreceived, encryptionReported]
    exact .inl hdecode
  | completed =>
    exact h.called rfl rfl (by simp [HostOutput.changesLink]) fun _ _ => hmuffled
  | @disconnected _ reason connection =>
    have hquiet : w.session.host.Quiet := hop
    refine h.relinked rfl ⟨fun channel cid hopen => ?_, fun channel cid hmem => ?_, fun hlink => ?_⟩
    · obtain ⟨mtu, hopen⟩ := hopen
      cases hopen
    · exact hquiet.hushed channel cid (hmuffled.announced channel cid hmem)
    · cases hlink (.event (.disconnected connection.peer reason)) (by simp)

/-- A call of the host opens no HID channel of a link that is not encrypted. -/
theorem hosted [BondStore S] (h : Secured w) (op : HostOp) (hop : w.Permits op) :
    Secured (BackendSession.hosted (op.run w.session.host).2 w) := by
  cases op with
  | event event => exact h.hostedEvent hop
  | acl packet =>
    obtain ⟨hquiet, session, earlier, hreceived, hhost, -⟩ := hop
    obtain ⟨items, houtput, hitems⟩ : ∃ items,
        (ClassicHost.processAcl packet w.session.host).2.output = w.session.host.output ++ items ∧
          ∀ item ∈ items, item.changesLink = false := by
      have hstep := ClassicHost.processAcl_step packet w.session.host
      generalize ClassicHost.processAcl packet w.session.host = outcome at hstep ⊢
      obtain ⟨r, host⟩ := outcome
      cases hstep with
      | refused | fed => exact ⟨[], (List.append_nil _).symm, by simp⟩
      | processed _ _ _ hcall =>
        obtain ⟨items, houtput, hitems⟩ := hcall.unlinked_link.1.output
        exact ⟨items, houtput, fun item hitem =>
          HostOutput.changesLink_of_concernsLink (hitems item hitem)⟩
    refine h.called (ClassicHost.processAcl_encryptedHandle packet _) houtput hitems
      fun hconfigured hnone => ClassicHost.processAcl_muffled hquiet.accepted ?_
    have hincomplete := hconfigured ⟨session, .received (.acl packet)⟩ (by simp [hreceived]) packet
      rfl
    rw [hhost] at hincomplete
    rw [ClassicHost.heard_all]
    exact hincomplete hnone
  | send cid sdu =>
    exact h.calledChannels (ClassicHost.callChannels_step _ _) fun _ _ =>
      ClassicHost.sendChannelSdu_muffled cid sdu hop
  | connect psm spec =>
    have hcall := ClassicHost.callChannels_step (ChannelManager.connect psm spec) w.session.host
    refine h.calledChannels hcall fun _ _ =>
      ClassicHost.connectChannel_muffled psm spec fun hok => ?_
    rw [show (ClassicHost.connectChannel psm spec w.session.host).1.isOk = false from hop] at hok
    cases hok
  | take cid =>
    have houtput := (ClassicHost.output_takeChannelSdu cid w.session.host).trans
      (List.append_nil _).symm
    exact h.called (ClassicHost.encryptedHandle_takeChannelSdu cid _) houtput (by simp)
      fun _ _ => ClassicHost.takeChannelSdu_muffled cid w.session.host
  | register | pop => exact hop.elim

/-- **Every step** keeps the HID channels shut while the link is not encrypted. -/
theorem step [BondStore S] (h : Secured w) (hstep : Step w w') : Secured w' := by
  cases hstep with
  | ticked | consulted | hidden | refused | terminated =>
    exact h.congr rfl rfl fun _ _ hc _ => hc
  | received | commanded | opened | delivered =>
    exact h.log rfl id (by simp) rfl fun _ _ hc _ => hc
  | hosted op hop => exact h.hosted op hop
  | flushed hout hitem =>
    have hpop := h.pop hout (by rcases hitem with ⟨_, rfl, -⟩ | ⟨_, rfl, -⟩ <;> rfl)
    exact hpop.log rfl id (by simp) rfl fun _ _ hc _ => hc
  | skipped hout hitem => exact h.pop hout hitem
  | @linked peer handle output hout =>
    -- The link has been reported only now, so that it is not encrypted yet.
    have hnone : w.session.host.encryptedHandle = none := by
      rcases hhandle : w.session.host.encryptedHandle with _ | encrypted
      · rfl
      · exact absurd (by rw [hout]; exact List.mem_cons_self) ((h.attested hhandle).1 peer handle)
    refine ⟨fun hconfigured _ => ?_, fun {handle'} hhandle => ?_, fun _ hhid => hhid.elim, h.trace⟩
    · have hsealed := h.sealed (fun entry hentry =>
        hconfigured entry (List.mem_cons_of_mem _ hentry)) hnone
      exact hsealed.forget hout
    · cases hnone.symm.trans hhandle
  | admitted => exact h.enqueue fun _ hhid => hhid.elim
  | @unlinked peer reason output hout =>
    refine enqueue ?_ fun _ hhid => hhid.elim
    refine h.grow (List.nil_append _).symm (by simp) rfl
      (fun hw other handle hmem => hw other handle ?_) fun _ _ hsealed => hsealed.forget hout
    rw [hout]
    exact List.mem_cons_of_mem _ hmem
  | @connecting channel cid host haccepted _ _ _ hconnect =>
    have hcall := ClassicHost.callChannels_step
      (ChannelManager.connect channel.psm { mtu := classicServerMtu }) w.session.host
    have hmuffled : ClassicHost.Muffled (fun _ => true) w.session.host _ :=
      ClassicHost.connectChannel_muffled channel.psm { mtu := classicServerMtu } fun _ => haccepted
    rw [← ClassicHost.connectChannel, hconnect] at hcall
    rw [hconnect] at hmuffled
    obtain ⟨items, houtput, hitems⟩ := hcall.unlinked_link.1.output
    have htrace : ((w.log (.connecting channel.psm)).set fun session =>
        { session with
          host := host, protocols := session.protocols.setChannel channel ⟨cid, false⟩ }).trace =
        [⟨w.session, .connecting channel.psm⟩] ++ w.trace := rfl
    refine h.grow htrace (by simp [Action.IsHid]) hcall.encryptedHandle
      (fun hw => hw.append houtput fun item hitem =>
        HostOutput.changesLink_of_concernsLink (hitems item hitem))
      fun _ _ hsealed => hsealed.muffled hmuffled (fun hlink => hlink.of_append houtput)
        fun other protocolChannel hc hopen => ?_
    have hset : (if other = channel then some ⟨cid, false⟩
        else w.session.protocols.channel other) = some protocolChannel :=
      (ProtocolState.channel_setChannel channel other ⟨cid, false⟩ _).symm.trans hc
    split at hset
    · cases hset
      cases hopen
    · exact hset
  | @announced channel cid mtu w₁ hannounces hinfo _ =>
    -- The channel is open in the host, so that its link is encrypted.
    have hencrypted (hconfigured : ConfiguredEncrypted w.trace) :
        ∃ handle, w.session.host.encryptedHandle = some handle := by
      rcases hhandle : w.session.host.encryptedHandle with _ | handle
      · exact absurd ⟨mtu, hinfo⟩ ((h.sealed hconfigured hhandle).shut channel cid)
      · exact ⟨handle, rfl⟩
    have hpopped : Secured w₁ ∧ w₁.trace = w.trace ∧
        w₁.session.host.encryptedHandle = w.session.host.encryptedHandle := by
      rcases hannounces with ⟨output, hout, rfl⟩ | ⟨-, rfl⟩
      · exact ⟨h.pop hout rfl, rfl, rfl⟩
      · exact ⟨h, rfl, rfl⟩
    obtain ⟨h₁, htrace, hhandle⟩ := hpopped
    rw [← htrace, ← hhandle] at hencrypted
    refine enqueue ?_ fun hconfigured _ => hencrypted hconfigured
    refine h₁.grow (List.nil_append _).symm (by simp) rfl id fun hconfigured hnone _ => ?_
    obtain ⟨handle, hsome⟩ := hencrypted hconfigured
    cases hsome.symm.trans hnone
  | tended htend =>
    refine h.congr rfl rfl fun channel protocolChannel hc _ => ?_
    exact (htend.channel channel).symm.trans hc
  | @reported channel protocolChannel payload hc hopen hlink =>
    refine h.enqueue fun hconfigured _ => ?_
    rcases hhandle : w.session.host.encryptedHandle with _ | handle
    · have hclosed := (h.sealed hconfigured hhandle).closed hlink channel protocolChannel hc
      rw [hopen] at hclosed
      cases hclosed
    · exact ⟨handle, rfl⟩
  | failed =>
    refine enqueue ?_ fun _ hhid => hhid.elim
    exact h.congr rfl rfl fun _ _ hc _ => hc
  | dismissed =>
    refine h.congr rfl rfl fun channel _ hc _ => ?_
    cases channel <;> cases hc

theorem turn [BondStore S] (h : Secured w) (hturn : Turn w w') : Secured w' := by
  cases hturn with
  | step _ hstep => exact h.step hstep
  | noted hnote _ =>
    refine h.log rfl (fun hhid => ?_) (fun peer handle heq => ?_) rfl fun _ _ hc _ => hc
    · unfold Action.IsHid at hhid
      split at hhid
      · exact hnote
      · exact hnote
      · exact hhid
    · rw [heq] at hnote
      exact hnote
  | closed _ =>
    refine h.log rfl id (by simp) rfl fun channel _ hc _ => ?_
    cases channel <;> cases hc

end Secured

section Results

variable [BondStore S] {w : World S}

theorem Reachable.secured (h : Reachable w) : Secured w := by
  refine h.induction (fun w hw => ?_) fun _ _ hturn ih => ih.turn hturn
  obtain ⟨_, _, _, _, _, _, htrace, hsession⟩ := hw
  refine ⟨fun _ _ => ⟨fun channel cid hopen => ?_, fun channel cid hmem => ?_,
    fun _ channel _ hc => ?_⟩, fun hhandle => ?_, ?_⟩
  · obtain ⟨mtu, hopen⟩ := hopen
    rw [hsession] at hopen
    cases hopen
  · rw [hsession] at hmem
    cases hmem
  · rw [hsession] at hc
    cases channel <;> cases hc
  · rw [hsession] at hhandle
    cases hhandle
  · rw [htrace]
    trivial

/-- **HID is served on an encrypted link only**, as long as no packet completes the configuration of
a HID channel before: an event about a HID channel is told, and a report is sent, only while the
link is encrypted, as the controller has reported since the session took the link over. -/
theorem hid_only_encrypted (h : Reachable w) (hconfigured : ConfiguredEncrypted w.trace) :
    (∀ later entry earlier, w.trace = later ++ entry :: earlier → entry.action.IsHid →
      ∃ handle, entry.session.host.encryptedHandle = some handle ∧
        encryptionReported handle earlier) ∧
    ∀ payload,
      (∃ handle, w.session.host.encryptedHandle = some handle ∧ encryptionReported handle w.trace) ∨
      ∃ error, w.perform (.sendInterrupt payload) = (.error error,
        (w.log (.called (.sendInterrupt payload))).log
          (.returned (.sendInterrupt payload) (.error error))) := by
  have hw := h.secured
  refine ⟨fun later entry earlier htrace hhid => ?_, fun payload => ?_⟩
  · refine hw.trace.at htrace (fun other hother => hconfigured other ?_) hhid
    rw [htrace]
    exact List.mem_append_right _ (List.mem_cons_of_mem _ hother)
  rcases hhandle : w.session.host.encryptedHandle with _ | handle
  swap
  · exact .inl ⟨handle, rfl, (hw.attested hhandle).2⟩
  refine .inr ?_
  rcases hactive : checkActive w.session with error | _
  · refine ⟨error, ?_⟩
    have hinactive : checkActive (w.log (.called (.sendInterrupt payload))).session =
        .error error := hactive
    simp only [World.perform, Call.run, BackendSession.sendInterrupt]
    rw [Exec.bind_error (bind_ensureActive _ hinactive)]
  · have hsealed := hw.sealed hconfigured hhandle
    have hclosed := hsealed.closed (h.settled.quiet hactive).keepsLink .interrupt
    have hnone : (w.log (.called (.sendInterrupt payload))).session.protocols.interrupt.filter
        (·.open) = none := by
      rcases hc : w.session.protocols.interrupt with _ | protocolChannel
      · exact congrArg (Option.filter _) hc
      · refine (congrArg (Option.filter _) hc).trans ?_
        rw [Option.filter_some, hclosed protocolChannel hc]
        rfl
    have hactive' : ensureActive (w.log (.called (.sendInterrupt payload))) =
        (.ok (), w.log (.called (.sendInterrupt payload))) := by
      rw [ensureActive]
      exact Prod.ext hactive rfl
    refine ⟨.new .sendRejected, ?_⟩
    simp only [World.perform, Call.run, BackendSession.sendInterrupt, Exec.bind_apply, hactive',
      Exec.gets_apply, hnone, Exec.fail_apply]

end Results

/-! ### Runs with and without encryption -/

/-- The link is encrypted before the peer opens the interrupt channel. -/
def sampleEncrypted : World MemoryBondStore :=
  ((((samplePaired.inbound (.event (eventPacket eventEncryptionChange [0, 0x40, 0, 1]))).2.inbound
    (.acl (signalPacket (.connectionRequest 1 hidInterruptPsm 0x50)))).2.inbound
      (.acl (signalPacket (.configureRequest 2 0x40 0 [])))).2.inbound
        (.acl (signalPacket (.configureResponse 1 0x40 0 0 [])))).2

theorem sampleEncrypted_reachable : Reachable sampleEncrypted :=
  .received _ (.received _ (.received _ (.received _ samplePaired_reachable)))

/-- Not a packet that completes a HID channel of a link without encryption. -/
def Entry.keepsEncryption (entry : Entry S) : Bool :=
  match entry.action with
  | .received (.acl packet) =>
    entry.session.host.encryptedHandle.isSome || !entry.session.host.completesHid packet
  | _ => true

def Entry.opensInterrupt (entry : Entry S) : Bool :=
  match entry.action with
  | .enqueued (.channelOpened .interrupt) => true
  | _ => false

theorem hid_only_encrypted_sampleEncrypted : ∃ later entry earlier,
    sampleEncrypted.trace = later ++ entry :: earlier ∧
    entry.action = .enqueued (.channelOpened .interrupt) ∧
    ∃ handle, entry.session.host.encryptedHandle = some handle ∧
      encryptionReported handle earlier := by
  have hall : sampleEncrypted.trace.all Entry.keepsEncryption = true := by decide +kernel
  have hany : sampleEncrypted.trace.any Entry.opensInterrupt = true := by decide +kernel
  have hconfigured : ConfiguredEncrypted sampleEncrypted.trace := by
    intro entry hentry packet haction hnone
    have h := List.all_eq_true.mp hall entry hentry
    rw [Entry.keepsEncryption, haction] at h
    simpa [hnone] using h
  obtain ⟨entry, hentry, hopened⟩ := List.any_eq_true.mp hany
  obtain ⟨later, earlier, htrace⟩ := List.append_of_mem hentry
  have haction : entry.action = .enqueued (.channelOpened .interrupt) := by
    unfold Entry.opensInterrupt at hopened
    split at hopened
    · assumption
    · cases hopened
  exact ⟨later, entry, earlier, htrace, haction,
    (hid_only_encrypted sampleEncrypted_reachable hconfigured).1 later entry earlier htrace
      (by rw [haction]; trivial)⟩

/-- What the ACL packets carry that were sent according to a record. -/
def dataSent (trace : List (Entry S)) : List Bytes :=
  (packetsOut trace).filterMap fun packet => packet.acl?.map (·.data)

/-- **HID is served on a link that is not encrypted**: the peer opens the interrupt channel right
away, the session tells so, and a report is sent. -/
theorem hid_served_unencrypted :
    Reachable sampleInterrupt ∧ sampleInterrupt.session.host.encryptedHandle = none ∧
    (∃ entry ∈ sampleInterrupt.trace, entry.action = .enqueued (.channelOpened .interrupt) ∧
      entry.session.host.encryptedHandle = none) ∧
    dataSent (sampleInterrupt.perform (.sendInterrupt [0x30])).2.trace =
      dataSent sampleInterrupt.trace ++ [[2, 0, 0x50, 0, 0xA1, 0x30]] := by
  have hany : sampleInterrupt.trace.any (fun entry =>
      entry.opensInterrupt && decide (entry.session.host.encryptedHandle = none)) = true := by
    decide +kernel
  obtain ⟨entry, hentry, h⟩ := List.any_eq_true.mp hany
  obtain ⟨hopened, hnone⟩ := (Bool.and_eq_true _ _).mp h
  refine ⟨sampleInterrupt_reachable, by decide +kernel, ⟨entry, hentry, ?_⟩, by decide +kernel⟩
  unfold Entry.opensInterrupt at hopened
  split at hopened
  · exact ⟨by assumption, of_decide_eq_true hnone⟩
  · cases hopened

end ClassicHid

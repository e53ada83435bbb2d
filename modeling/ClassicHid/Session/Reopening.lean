import ClassicHid.Session.Grammar
import ClassicHid.Session.Interrupt

/-!
# The channels a session knows

A session remembers the channels of its link by their identifiers: one for control, one for
interrupt, and any number for SDP. Each of them is a channel of the host for the same PSM. The
first HID channel that opens is the one the session keeps while the link lasts. It never learns
that the peer closed it, and leaves every later channel of the PSM alone.

## Main definitions

* `Remembers`: a property of what a session knows of its channels
* `Placed`: the channels the session knows are channels of the host
* `Stray`: a channel for the PSM of a HID channel that the session has already

## Main results

* `Turn.remembers`: every turn keeps what the session knows
* `Reachable.placed`: every reachable session knows channels of its host
* `first_channel_stays`: the first HID channel stays, and a later one is left alone
-/

namespace ClassicHid

open Foundation BackendSession World
open Std (ExtTreeMap)

variable {S : Type}

namespace ClassicHost

variable {host host' : ClassicHost S}

/-- A channel stays a channel for its PSM. -/
def KeepsPsms (host host' : ClassicHost S) : Prop :=
  ∀ cid c, host.channel? cid = some c → ∃ c', host'.channel? cid = some c' ∧ c'.psm = c.psm

/-- An update of the channels after which each is still there, for its PSM. -/
def StaysPut {α : Type} (m : ChannelManager.Update α) : Prop :=
  ∀ channels cid c, channels.channel cid = some c →
    ∃ c', (m channels).2.channel cid = some c' ∧ c'.psm = c.psm

theorem staysPut_of_proceeds {α : Type} {m : ChannelManager.Update α}
    (h : ∀ channels, ∃ announced, ChannelManager.Proceeds announced channels (m channels).2) :
    StaysPut m := by
  intro channels cid c hc
  obtain ⟨announced, hproceeds⟩ := h channels
  obtain ⟨c', hc', hbecomes⟩ := hproceeds.channel cid c hc
  exact ⟨c', hc', hbecomes.psm⟩

theorem CallStep.keepsPsms {α : Type} {m : ChannelManager.Update α} {r : Except HostError α}
    (h : CallStep m host r host') (hm : StaysPut m) : KeepsPsms host host' := by
  intro cid c hc
  obtain ⟨connection, hconnection, hc⟩ := channel?_eq_some.mp hc
  obtain ⟨c', hc', hpsm⟩ := hm connection.channels cid c hc
  refine ⟨c', channel?_eq_some.mpr ⟨connection.after m, ?_, ?_⟩, hpsm⟩
  · rw [h.connection, hconnection]
    rfl
  · rw [Connection.channel_after]
    exact hc'

theorem KeepsPsms.refl (host : ClassicHost S) : KeepsPsms host host := fun _ c hc => ⟨c, hc, rfl⟩

theorem keepsPsms_of_connection (h : host'.connection = host.connection) :
    KeepsPsms host host' := by
  intro cid c hc
  exact ⟨c, by rwa [channel?, h], rfl⟩

/-- The first request of the host is not about the link. -/
theorem KeepsLink.of_cons {item : HostOutput} {output : List HostOutput}
    (hout : host.output = item :: output) (hitem : item.changesLink = false)
    (h : ∀ other ∈ output, other.changesLink = false) : host.KeepsLink := by
  intro other hother
  rw [hout, List.mem_cons] at hother
  rcases hother with rfl | hother
  · exact hitem
  · exact h other hother

theorem KeepsLink.of_append {items : List HostOutput} (hout : host'.output = host.output ++ items)
    (h : host'.KeepsLink) : host.KeepsLink := by
  intro item hitem
  exact h item (by rw [hout]; exact List.mem_append_left _ hitem)

end ClassicHost

section Placement

variable [BondStore S] {w w' : World S}

/-- A call of the host after which its link is the same leaves every channel its PSM. -/
theorem hosted_keepsPsms {op : HostOp}
    (hop : w.Permits op ∨ ∃ psm spec, op = HostOp.connect psm spec)
    (h : (op.run w.session.host).2.KeepsLink) :
    ClassicHost.KeepsPsms w.session.host (op.run w.session.host).2 := by
  cases op with
  | event e =>
    have hstep := ClassicHost.handleEvent_step e w.session.host
    rw [HostOp.run] at h ⊢
    generalize ClassicHost.handleEvent e w.session.host = outcome at hstep h ⊢
    obtain ⟨r, host'⟩ := outcome
    cases hstep with
    | @established handle peer =>
      have hlink := h (.event (.connected peer handle)) (by simp)
      cases hlink
    | @disconnected handle reason connection =>
      have hlink := h (.event (.disconnected connection.peer reason))
        (by simp)
      cases hlink
    | @encrypted handle connection hconnection =>
      intro cid c hc
      rw [ClassicHost.channel?, hconnection] at hc
      exact ⟨c, hc, rfl⟩
    | _ => exact ClassicHost.keepsPsms_of_connection rfl
  | acl packet =>
    have hstep := ClassicHost.processAcl_step packet w.session.host
    rw [HostOp.run]
    generalize ClassicHost.processAcl packet w.session.host = outcome at hstep ⊢
    obtain ⟨r, host'⟩ := outcome
    cases hstep with
    | refused => exact ClassicHost.keepsPsms_of_connection rfl
    | fed => exact ClassicHost.keepsPsms_of_connection rfl
    | processed _ _ _ hcall =>
      have hkeeps := hcall.keepsPsms
        (ClassicHost.staysPut_of_proceeds (ChannelManager.processPdu_proceeds _))
      exact fun cid c hc => hkeeps cid c hc
  | send cid sdu =>
    exact (ClassicHost.callChannels_step _ _).keepsPsms
      (ClassicHost.staysPut_of_proceeds (ChannelManager.apply_proceeds (.send cid sdu)))
  | connect psm spec =>
    exact (ClassicHost.callChannels_step _ _).keepsPsms
      (ClassicHost.staysPut_of_proceeds (ChannelManager.apply_proceeds (.connect psm spec)))
  | take cid =>
    intro cid' c hc
    obtain ⟨connection, hconnection, hc⟩ := ClassicHost.channel?_eq_some.mp hc
    obtain ⟨_, hproceeds⟩ := ChannelManager.apply_proceeds (.popReceived cid) connection.channels
    obtain ⟨c', hc', hbecomes⟩ := hproceeds.channel cid' c hc
    refine ⟨c', ClassicHost.channel?_eq_some.mpr ⟨connection.taken cid, ?_, hc'⟩, hbecomes.psm⟩
    rw [HostOp.run, ClassicHost.connection_takeChannelSdu, hconnection]
    rfl
  | register | pop => exact hop.elim False.elim (by simp)

theorem hosted_keepsLink {op : HostOp}
    (hop : w.Permits op ∨ ∃ psm spec, op = HostOp.connect psm spec)
    (h : (op.run w.session.host).2.KeepsLink) : w.session.host.KeepsLink := by
  rcases hop with hop | ⟨psm, spec, rfl⟩
  · rcases hosted_link hop with hnone | ⟨hquiet, _, _⟩ | ⟨hquiet, _, _⟩ | ⟨hquiet, _⟩
    · obtain ⟨items, hout, _⟩ := hnone.output
      exact h.of_append hout
    · exact hquiet.keepsLink
    · exact hquiet.keepsLink
    · exact hquiet.keepsLink
  · obtain ⟨items, hout, _⟩ := (ClassicHost.callChannels_step
      (ChannelManager.connect psm spec) w.session.host).unlinked_link.1.output
    exact h.of_append hout

omit [BondStore S] in
/-- An announcement leaves the link and what the session knows. -/
theorem World.Announces.frame {channel : Channel} {cid : UInt16} (h : w.Announces channel cid w') :
    w'.session.host.connection = w.session.host.connection ∧
      w'.session.protocols = w.session.protocols ∧
      (w'.session.host.KeepsLink → w.session.host.KeepsLink) := by
  rcases h with ⟨output, hout, rfl⟩ | ⟨-, rfl⟩
  · exact ⟨rfl, rfl, .of_cons hout rfl⟩
  · exact ⟨rfl, rfl, id⟩

/-- What a session knows of its channels: a property that holds when it knows nothing, and that is
kept by whatever happens to its host and its channels while the link is the same. -/
structure Remembers (P : World S → Prop) (w : World S) : Prop where
  empty {w' : World S} : w'.session.protocols = {} → P w'
  frame {w₁ w₂ : World S} : P w₁ → w₂.session.protocols = w₁.session.protocols →
    w₂.session.host.connection = w₁.session.host.connection → P w₂
  hosted {op : HostOp} : (w.Permits op ∨ ∃ psm spec, op = HostOp.connect psm spec) →
    (op.run w.session.host).2.KeepsLink → P w →
    P (w.set ({ · with host := (op.run w.session.host).2 }))
  begun {channel : Channel} {cid : UInt16} {host : ClassicHost S} :
    ClassicHost.connectChannel channel.psm { mtu := classicServerMtu } w.session.host =
      (.ok cid, host) → P (w.set ({ · with host := host })) →
    P (w.set fun session => { session with
      host := host, protocols := session.protocols.setChannel channel ⟨cid, false⟩ })
  announced {channel : Channel} {cid mtu : UInt16} :
    w.session.host.channelInfo cid = some (channel.psm, mtu, true) → P w →
    P (w.set fun session => { session with protocols :=
      { session.protocols.setChannel channel ⟨cid, true⟩ with
        hidp := session.protocols.hidp.setPeerMtu channel mtu.toNat } })
  tended {protocols : ProtocolState} : w.MayTend protocols → P w →
    P (w.set ({ · with protocols := protocols }))

/-- **A turn** keeps what the session knows of its channels. -/
theorem Turn.remembers {P : World S → Prop} (hP : Remembers P w) (hturn : Turn w w')
    (h : w.session.host.KeepsLink → P w) (hlink : w'.session.host.KeepsLink) : P w' := by
  cases hturn with
  | noted => exact hP.frame (h hlink) rfl rfl
  | closed => exact hP.empty rfl
  | step _ hstep =>
    cases hstep with
    | hosted op hop =>
      have hhosted := hP.hosted (.inl hop) hlink (h (hosted_keepsLink (.inl hop) hlink))
      exact hP.frame hhosted rfl rfl
    | flushed hout hitem =>
      refine hP.frame (h (.of_cons hout ?_ hlink)) rfl rfl
      rcases hitem with ⟨_, rfl, -⟩ | ⟨_, rfl, -⟩ <;> rfl
    | skipped hout hitem => exact hP.frame (h (.of_cons hout hitem hlink)) rfl rfl
    | linked => exact hP.empty rfl
    | unlinked => exact hP.empty (protocols_enqueue _ _)
    | dismissed => exact hP.empty rfl
    | admitted | reported | failed =>
      rw [host_enqueue] at hlink
      exact hP.frame (h hlink) (protocols_enqueue _ _)
        (congrArg ClassicHost.connection (host_enqueue _ _))
    | @connecting channel cid host _ _ _ _ hconnect =>
      have hop : w.Permits (.connect channel.psm { mtu := classicServerMtu }) ∨
        ∃ psm spec, HostOp.connect channel.psm { mtu := classicServerMtu } = .connect psm spec :=
          .inr ⟨_, _, rfl⟩
      have hrun : (HostOp.run (.connect channel.psm { mtu := classicServerMtu })
          w.session.host).2 = host := by rw [HostOp.run, hconnect]
      have hlink' : host.KeepsLink := hlink
      rw [← hrun] at hlink'
      have hhosted := hP.hosted hop hlink' (h (hosted_keepsLink hop hlink'))
      rw [hrun] at hhosted
      exact hP.frame (hP.begun hconnect hhosted) rfl rfl
    | @announced channel cid mtu w₁ hannounces hinfo _ =>
      obtain ⟨hconnection, hprotocols, hkeeps⟩ := hannounces.frame
      rw [host_enqueue] at hlink
      refine hP.frame (hP.announced hinfo (h (hkeeps hlink))) ?_ ?_
      · rw [protocols_enqueue]
        simp only [World.set, hprotocols]
      · rw [host_enqueue]
        exact hconnection
    | tended htend => exact hP.tended htend (h hlink)
    | _ => exact hP.frame (h hlink) rfl rfl

/-- The channels a session knows are channels of its host, for their PSMs. -/
structure Placed (w : World S) : Prop where
  channel {channel : Channel} {recorded : ProtocolChannel} :
    w.session.protocols.channel channel = some recorded →
    ∃ c, w.session.host.channel? recorded.cid = some c ∧ c.psm = channel.psm
  sdp {cid : UInt16} {sdp : HidSdpChannel} : w.session.protocols.sdp[cid]? = some sdp →
    ∃ c, w.session.host.channel? cid = some c ∧ c.psm = sdpPsm

namespace Placed

omit [BondStore S] in
theorem of_empty (h : w.session.protocols = {}) : Placed w where
  channel {channel recorded} hrecorded := by
    rw [h] at hrecorded
    cases channel <;> cases hrecorded
  sdp {cid sdp} hsdp := by
    rw [h] at hsdp
    simp at hsdp

omit [BondStore S] in
/-- The session knows the same channels, and each is still there. -/
theorem congr (h : Placed w) (hprotocols : w'.session.protocols = w.session.protocols)
    (hhost : ClassicHost.KeepsPsms w.session.host w'.session.host) : Placed w' where
  channel {channel recorded} hrecorded := by
    rw [hprotocols] at hrecorded
    obtain ⟨c, hc, hpsm⟩ := h.channel hrecorded
    obtain ⟨c', hc', hpsm'⟩ := hhost _ c hc
    exact ⟨c', hc', hpsm'.trans hpsm⟩
  sdp {cid sdp} hsdp := by
    rw [hprotocols] at hsdp
    obtain ⟨c, hc, hpsm⟩ := h.sdp hsdp
    obtain ⟨c', hc', hpsm'⟩ := hhost _ c hc
    exact ⟨c', hc', hpsm'.trans hpsm⟩

omit [BondStore S] in
/-- The session learns of one channel. -/
theorem record (h : Placed w) (channel : Channel) (recorded : ProtocolChannel)
    (hhost : ClassicHost.KeepsPsms w.session.host w'.session.host)
    (hnew : ∃ c, w'.session.host.channel? recorded.cid = some c ∧ c.psm = channel.psm)
    (hchannel : ∀ channel', w'.session.protocols.channel channel' =
      if channel' = channel then some recorded else w.session.protocols.channel channel')
    (hsdp : w'.session.protocols.sdp = w.session.protocols.sdp) : Placed w' where
  channel {channel' recorded'} hrecorded := by
    rw [hchannel] at hrecorded
    split at hrecorded
    · rename_i heq
      subst heq
      cases hrecorded
      exact hnew
    · obtain ⟨c, hc, hpsm⟩ := h.channel hrecorded
      obtain ⟨c', hc', hpsm'⟩ := hhost _ c hc
      exact ⟨c', hc', hpsm'.trans hpsm⟩
  sdp {cid sdp} hknown := by
    rw [hsdp] at hknown
    obtain ⟨c, hc, hpsm⟩ := h.sdp hknown
    obtain ⟨c', hc', hpsm'⟩ := hhost _ c hc
    exact ⟨c', hc', hpsm'.trans hpsm⟩

omit [BondStore S] in
theorem tend (h : Placed w) {protocols : ProtocolState} (htend : w.MayTend protocols) :
    Placed (w.set ({ · with protocols := protocols })) where
  channel {channel recorded} hrecorded := h.channel ((htend.channel channel).symm.trans hrecorded)
  sdp {cid sdp} hsdp := by
    rcases htend.sdp hsdp with ⟨sdp', hsdp', _⟩ | hinfo
    · exact h.sdp hsdp'
    · obtain ⟨c, hc, hpsm, _⟩ := ClassicHost.channelInfo_eq_some.mp hinfo
      exact ⟨c, hc, hpsm⟩

end Placed

omit [BondStore S] in
/-- A channel that the session begins is a channel of its host. -/
theorem connectChannel_placed {psm : UInt32} {spec : ClassicChannelSpec}
    {host host' : ClassicHost S} {cid : UInt16}
    (h : ClassicHost.connectChannel psm spec host = (.ok cid, host')) :
    ∃ c, host'.channel? cid = some c ∧ c.psm = psm := by
  have hstep := ClassicHost.callChannels_step (ChannelManager.connect psm spec) host
  rw [← ClassicHost.connectChannel, h] at hstep
  have hafter := hstep.connection
  cases hstep with
  | @flushed connection channels _ packets hconnection hconnect =>
    rw [hconnection] at hafter
    refine ⟨.newOutgoing psm cid (.basic spec),
      ClassicHost.channel?_eq_some.mpr ⟨_, hafter, ?_⟩, rfl⟩
    rw [Connection.channel_after, hconnect]
    rcases ChannelManager.connect_cases psm spec connection.channels with
      ⟨error, hrun⟩ | ⟨cid', -, hrun, -⟩ <;> rw [hrun] at hconnect <;> cases hconnect
    exact ChannelManager.channel_insert_self _ _ _

/-- **What a session knows** stays in its place. -/
theorem placed_remembers (w : World S) : Remembers Placed w where
  empty := .of_empty
  frame h hprotocols hconnection :=
    h.congr hprotocols (ClassicHost.keepsPsms_of_connection hconnection)
  hosted hop hlink h := h.congr rfl (hosted_keepsPsms hop hlink)
  begun {channel cid host} hconnect h := by
    refine h.record channel ⟨cid, false⟩ (.refl _) (connectChannel_placed hconnect)
      (ProtocolState.channel_setChannel channel · _ _) ?_
    cases channel <;> rfl
  announced {channel cid mtu} hinfo h := by
    obtain ⟨c, hc, hpsm, _⟩ := ClassicHost.channelInfo_eq_some.mp hinfo
    refine h.record channel ⟨cid, true⟩ (.refl _) ⟨c, hc, hpsm⟩ (fun other => ?_) ?_
    · rw [← ProtocolState.channel_setChannel]
      cases other <;> rfl
    · cases channel <;> rfl
  tended htend h := h.tend htend

/-- **Every reachable session knows channels of its host.** -/
theorem Reachable.placed (h : Reachable w) (hlink : w.session.host.KeepsLink) : Placed w := by
  refine Reachable.induction (P := fun w => w.session.host.KeepsLink → Placed w)
    (fun w hw _ => ?_) (fun w w' hturn ih => hturn.remembers (placed_remembers w) ih) h hlink
  obtain ⟨_, _, _, _, _, _, -, hsession⟩ := hw
  exact .of_empty (by rw [hsession])

end Placement

/-! ### Channels that are left alone -/

namespace ClassicHost

variable {host host' : ClassicHost S} {cid cid' : UInt16}

theorem CallStep.channel? {α : Type} {m : ChannelManager.Update α} {r : Except HostError α}
    (h : CallStep m host r host')
    (hm : ∀ channels, (m channels).2.channel cid = channels.channel cid) :
    host'.channel? cid = host.channel? cid := by
  rw [ClassicHost.channel?, h.connection, ClassicHost.channel?]
  rcases host.connection with _ | connection
  · rfl
  · exact (Connection.channel_after m connection cid).trans (hm connection.channels)

/-- What is sent on one channel concerns no other. -/
theorem channel?_sendChannelSdu (hne : cid' ≠ cid) (sdu : Bytes) (host : ClassicHost S) :
    (sendChannelSdu cid' sdu host).2.channel? cid = host.channel? cid := by
  refine (callChannels_step (ChannelManager.send cid' sdu) host).channel? fun channels => ?_
  rcases hc : channels.channel cid' with _ | c
  · rw [ChannelManager.send, Exec.bind_error (ChannelManager.channelOr_none _ hc)]
  · rcases ChannelManager.send_cases hc sdu with ⟨_, error, hrun⟩ | ⟨_, ⟨_, _, _, _, hdata⟩, _⟩
    · rw [hrun]
    · rw [hdata]
      exact ChannelManager.channel_insert_ne _ _ hne

theorem channel?_takeChannelSdu (hne : cid' ≠ cid) (host : ClassicHost S) :
    (host.takeChannelSdu cid').2.channel? cid = host.channel? cid := by
  rw [channel?, connection_takeChannelSdu, channel?]
  rcases host.connection with _ | connection
  · rfl
  · exact (ChannelManager.channel_popReceived _ _ _).trans (if_neg hne)

/-- A new channel is none of those that were there. -/
theorem channel?_connectChannel (psm : UInt32) (spec : ClassicChannelSpec)
    {c : ClassicChannel} (hc : host.channel? cid = some c) :
    (connectChannel psm spec host).2.channel? cid = some c ∧
      (connectChannel psm spec host).1 ≠ .ok cid := by
  obtain ⟨connection, hconnection, hc⟩ := channel?_eq_some.mp hc
  have hmanager : (ChannelManager.connect psm spec connection.channels).2.channel cid = some c ∧
      (ChannelManager.connect psm spec connection.channels).1 ≠ .ok cid := by
    rcases ChannelManager.connect_cases psm spec connection.channels with
      ⟨error, hrun⟩ | ⟨cid', hnone, hrun, -⟩ <;> rw [hrun]
    · exact ⟨hc, nofun⟩
    · have hne : cid' ≠ cid := by
        rintro rfl
        rw [hc] at hnone
        cases hnone
      exact ⟨(ChannelManager.channel_insert_ne _ _ hne).trans hc,
        fun heq => hne (Except.ok.inj heq)⟩
  have hstep := callChannels_step (ChannelManager.connect psm spec) host
  rw [← connectChannel] at hstep
  constructor
  · rw [channel?, hstep.connection, hconnection]
    exact (Connection.channel_after _ _ _).trans hmanager.1
  · intro hok
    rw [hok] at hstep
    generalize (connectChannel psm spec host).2 = host' at hstep
    cases hstep with
    | flushed hconnection' hrun =>
      rw [hconnection] at hconnection'
      cases hconnection'
      exact hmanager.2 (by rw [hrun])

end ClassicHost

/-- How often a record announces a channel. -/
def announcements (channel : Channel) (trace : List (Entry S)) : ℕ :=
  trace.countP (·.action.announces channel)

/-- The session keeps the HID channel it has, does not announce it again, and leaves the strays, the
other channels for its PSM, as they are. -/
structure LeftAlone (channel : Channel) (recorded : ProtocolChannel)
    (strays : UInt16 → ClassicChannel → Prop) (n : ℕ) (w : World S) : Prop where
  link : w.session.host.KeepsLink
  kept : w.session.protocols.channel channel = some recorded
  count : announcements channel w.trace = n
  there {cid : UInt16} {c : ClassicChannel} : strays cid c → w.session.host.channel? cid = some c
  apart {cid : UInt16} {c : ClassicChannel} : strays cid c → ∀ (other : Channel)
    (known : ProtocolChannel), w.session.protocols.channel other = some known → known.cid ≠ cid
  sdp {cid : UInt16} {c : ClassicChannel} : strays cid c → w.session.protocols.sdp[cid]? = none

section Alone

variable {channel : Channel} {recorded : ProtocolChannel}
  {strays : UInt16 → ClassicChannel → Prop} {n : ℕ} {w w' : World S}

/-- The protocols, the announcements and the strays are what they were. -/
theorem LeftAlone.congr (h : LeftAlone channel recorded strays n w)
    (hlink : w'.session.host.KeepsLink) (hprotocols : w'.session.protocols = w.session.protocols)
    (hcount : announcements channel w'.trace = announcements channel w.trace)
    (hthere : ∀ cid c, strays cid c → w.session.host.channel? cid = some c →
      w'.session.host.channel? cid = some c) : LeftAlone channel recorded strays n w' where
  link := hlink
  kept := by rw [hprotocols, h.kept]
  count := hcount.trans h.count
  there hstray := hthere _ _ hstray (h.there hstray)
  apart hstray := by
    rw [hprotocols]
    exact h.apart hstray
  sdp hstray := by
    rw [hprotocols]
    exact h.sdp hstray

theorem announcements_cons {entry : Entry S} {trace : List (Entry S)}
    (h : entry.action.announces channel = false) :
    announcements channel (entry :: trace) = announcements channel trace := by
  simp [announcements, h]

theorem announcements_hosted (host : ClassicHost S) (w : World S) :
    announcements channel (BackendSession.hosted host w).trace =
      announcements channel w.trace := by
  obtain ⟨later, hlater, hupserted⟩ := trace_hosted w host
  have hnone : later.countP (fun entry => entry.action.announces channel) = 0 := by
    rw [List.countP_eq_zero]
    intro entry hentry
    obtain ⟨peer, bond, rfl⟩ := hupserted entry hentry
    exact Bool.false_ne_true
  rw [hlater, announcements, List.countP_append, hnone, Nat.zero_add]
  rfl

theorem announcements_enqueue (event : Event) (w : World S)
    (h : event ≠ .channelOpened channel) :
    announcements channel (w.enqueue event).trace = announcements channel w.trace := by
  rcases trace_enqueue event w with heq | heq <;> rw [heq]
  refine announcements_cons ?_
  cases event with
  | channelOpened other =>
    have hne : other ≠ channel := fun heq => h (by rw [heq])
    simp [Action.announces, hne]
  | _ => rfl

/-- A call of the host that leaves the strays alone. -/
theorem LeftAlone.hosted (h : LeftAlone channel recorded strays n w) {host : ClassicHost S}
    (hlink : host.KeepsLink) (hthere : ∀ cid c, strays cid c →
      w.session.host.channel? cid = some c → host.channel? cid = some c) :
    LeftAlone channel recorded strays n (BackendSession.hosted host w) :=
  h.congr hlink rfl (announcements_hosted host w) hthere

theorem LeftAlone.enqueue (h : LeftAlone channel recorded strays n w) {event : Event}
    (hevent : event ≠ .channelOpened channel) :
    LeftAlone channel recorded strays n (w.enqueue event) := by
  refine h.congr ?_ (protocols_enqueue event w) (announcements_enqueue event w hevent) ?_
  · rw [host_enqueue]
    exact h.link
  · rw [host_enqueue]
    exact fun _ _ _ => id

theorem sendPacket_alone (packet : Packet) :
    Exec.Keeps (LeftAlone (S := S) channel recorded strays n) (sendPacket packet) := by
  intro w h
  rcases hio : w.session.io with _ | io
  · simpa only [sendPacket, hio] using h
  · rw [sendPacket_logs packet hio]
    exact h.congr h.link rfl (announcements_cons rfl) fun _ _ _ => id

theorem sendChannelSdu_alone {cid : UInt16} (hcid : ∀ cid' c, strays cid' c → cid ≠ cid')
    (sdu : Bytes) :
    Exec.Keeps (LeftAlone (S := S) channel recorded strays n) (sendChannelSdu cid sdu) := by
  intro w h
  refine h.hosted ((ClassicHost.callChannels_step _ _).keepsLink h.link) fun cid' c hstray hc => ?_
  exact (ClassicHost.channel?_sendChannelSdu (hcid cid' c hstray) sdu _).trans hc

theorem takeChannelSdu_alone {cid : UInt16} (hcid : ∀ cid' c, strays cid' c → cid ≠ cid') :
    Exec.Keeps (LeftAlone (S := S) channel recorded strays n) (takeChannelSdu cid) := by
  intro w h
  refine h.congr ?_ rfl rfl fun cid' c hstray hc => ?_
  · intro item hitem
    exact h.link item (by rwa [← ClassicHost.output_takeChannelSdu cid])
  · exact (ClassicHost.channel?_takeChannelSdu (hcid cid' c hstray) _).trans hc

/-- SDP and HIDP keep a state of their own, which is no concern of the strays. -/
theorem protocolsUpdate_alone {f : ProtocolState → ProtocolState}
    (hchannel : ∀ protocols other,
      ProtocolState.channel (f protocols) other = ProtocolState.channel protocols other)
    (hsdp : ∀ protocols cid c, strays cid c →
      (f protocols).sdp[cid]? = protocols.sdp[cid]?) :
    Exec.Keeps (LeftAlone (S := S) channel recorded strays n) (protocolsUpdate f) := by
  intro w h
  refine ⟨h.link, (hchannel _ _).trans h.kept, h.count, h.there,
    fun hstray other known hknown => ?_, fun hstray => (hsdp _ _ _ hstray).trans (h.sdp hstray)⟩
  exact h.apart hstray other known ((hchannel _ _).symm.trans hknown)

theorem serve_alone {cid : UInt16} (hcid : ∀ cid' c, strays cid' c → cid ≠ cid')
    {handle : Bytes → Op S Unit}
    (hhandle : ∀ sdu, Exec.Keeps (LeftAlone (S := S) channel recorded strays n) (handle sdu)) :
    Exec.Keeps (LeftAlone (S := S) channel recorded strays n) (serve cid handle) := by
  refine Exec.loop_keeps (Exec.Keeps.bind (takeChannelSdu_alone hcid) fun sdu => ?_)
  cases sdu with
  | none => exact Exec.keeps_pure false
  | some sdu => exact Exec.Keeps.bind (hhandle sdu) fun _ => Exec.keeps_pure true

theorem serveSdp_alone {cid : UInt16} (hcid : ∀ cid' c, strays cid' c → cid ≠ cid') :
    Exec.Keeps (LeftAlone (S := S) channel recorded strays n) (serveSdp cid) := by
  refine serve_alone hcid fun sdu => ?_
  refine Exec.Keeps.bind (Exec.keeps_gets _) fun session => ?_
  rcases session.protocols.sdp[cid]? with _ | server
  · exact Exec.keeps_pure ()
  refine Exec.Keeps.bind (protocolsUpdate_alone (fun _ other => by cases other <;> rfl)
    fun protocols cid' c hstray => ?_) fun _ => ?_
  · rw [ExtTreeMap.getElem?_insert, if_neg]
    exact fun heq => hcid cid' c hstray (Std.LawfulEqCmp.eq_of_compare heq)
  · split
    · exact sendChannelSdu_alone hcid _
    · exact Exec.keeps_pure ()

/-- The answer to a control message goes to the control channel. -/
theorem applyHidpEvent_alone (event : HidpBridgeEvent) :
    Exec.Keeps (LeftAlone (S := S) channel recorded strays n) (applyHidpEvent event) := by
  cases event with
  | output other payload => exact fun w h => h.enqueue (by simp)
  | controlResponse response =>
    intro w h
    simp only [applyHidpEvent, Exec.gets_bind]
    rcases hcontrol : w.session.protocols.control with _ | control
    · exact h
    dsimp only
    split
    · exact sendChannelSdu_alone (fun cid' c hstray => h.apart hstray .control control hcontrol)
        response w h
    · exact h
  | _ => exact Exec.keeps_pure ()

theorem serveHidp_alone {other : Channel} {known : Option ProtocolChannel}
    (hknown : ∀ protocolChannel, known = some protocolChannel →
      ∀ cid c, strays cid c → protocolChannel.cid ≠ cid) :
    Exec.Keeps (LeftAlone (S := S) channel recorded strays n) (serveHidp other known) := by
  rcases known with _ | protocolChannel
  · exact Exec.keeps_pure ()
  have hcid := hknown protocolChannel rfl
  by_cases hopen : protocolChannel.open = true
  swap
  · rw [serveHidp, if_neg hopen]
    exact Exec.keeps_pure ()
  rw [serveHidp, if_pos hopen]
  refine serve_alone hcid fun sdu => Exec.Keeps.bind (Exec.keeps_gets _) fun session => ?_
  rcases HidpBridge.handle other sdu session.protocols.hidp with ⟨result, hidp⟩
  refine Exec.Keeps.bind (protocolsUpdate_alone (fun _ other => by cases other <;> rfl)
    fun _ _ _ _ => rfl) fun _ => ?_
  rcases result with error | events
  · rcases error with malformed | _ | _
    · cases malformed with
      | control =>
        dsimp only
        split
        · exact sendChannelSdu_alone hcid _
        · exact Exec.keeps_pure ()
      | interrupt => exact Exec.keeps_pure ()
    · exact Exec.keeps_pure ()
    · exact Exec.keeps_pure ()
  · exact Exec.forEach_keeps fun event _ => applyHidpEvent_alone event

/-- **What the session is sent** on its own channels is no concern of the strays. -/
theorem processProtocolInput_alone :
    Exec.Keeps (LeftAlone (S := S) channel recorded strays n) processProtocolInput := by
  intro w h
  rw [processProtocolInput, Exec.gets_bind]
  refine Exec.Keeps.bind_from (Exec.forEach_keeps (fun cid hmem => serveSdp_alone ?_) w h) ?_
  · intro cid' c hstray heq
    subst heq
    have hsdp := h.sdp hstray
    rw [ExtTreeMap.mem_keys, ExtTreeMap.mem_iff_isSome_getElem?, hsdp] at hmem
    cases hmem
  · intro _ w₁ h₁
    rw [Exec.gets_bind]
    refine Exec.Keeps.bind_from (serveHidp_alone (fun known hknown cid c hstray => ?_) w₁ h₁)
      fun _ => serveHidp_alone fun known hknown cid c hstray => ?_
    · exact h₁.apart hstray .control known hknown
    · exact h₁.apart hstray .interrupt known hknown

/-- The session learns of a channel of the other kind, which is no stray. -/
theorem LeftAlone.record (h : LeftAlone channel recorded strays n w) (other : Channel)
    (known : ProtocolChannel) (hother : other ≠ channel)
    (hknown : ∀ cid c, strays cid c → known.cid ≠ cid) (hhost : w'.session.host = w.session.host)
    (hcount : announcements channel w'.trace = announcements channel w.trace)
    (hchannel : ∀ other', w'.session.protocols.channel other' =
      if other' = other then some known else w.session.protocols.channel other')
    (hsdp : w'.session.protocols.sdp = w.session.protocols.sdp) :
    LeftAlone channel recorded strays n w' where
  link := by
    rw [hhost]
    exact h.link
  kept := by rw [hchannel, if_neg (Ne.symm hother), h.kept]
  count := hcount.trans h.count
  there hstray := by
    rw [hhost]
    exact h.there hstray
  apart {cid c} hstray other' known' hknown' := by
    rw [hchannel] at hknown'
    split at hknown'
    · cases hknown'
      exact hknown cid c hstray
    · exact h.apart hstray other' known' hknown'
  sdp hstray := by
    rw [hsdp]
    exact h.sdp hstray

/-- A channel that the session begins is none of the strays. -/
theorem connectHidChannel_alone (other : Channel) :
    Exec.Keeps (LeftAlone (S := S) channel recorded strays n) (connectHidChannel other) := by
  intro w h
  simp only [connectHidChannel, Exec.gets_bind]
  split
  swap
  · exact h
  rename_i hnone
  have hthere {cid : UInt16} {c : ClassicChannel} (hstray : strays cid c) :=
    ClassicHost.channel?_connectChannel other.psm { mtu := classicServerMtu } (h.there hstray)
  have hlink := (ClassicHost.callChannels_step
    (ChannelManager.connect other.psm { mtu := classicServerMtu }) w.session.host).keepsLink h.link
  rw [← ClassicHost.connectChannel] at hlink
  rcases hr : ClassicHost.connectChannel other.psm { mtu := classicServerMtu } w.session.host with
    ⟨error | cid, host⟩
  all_goals
    rw [hr] at hlink
    have hhosted : LeftAlone channel recorded strays n (BackendSession.hosted host w) := by
      refine h.hosted hlink fun cid c hstray hc => ?_
      have hc' := (hthere hstray).1
      rwa [hr] at hc'
  · rw [Exec.bind_error (by simp only [connectChannel, onHost, hr]; rfl)]
    exact hhosted
  · rw [Exec.bind_ok (by simp only [connectChannel, onHost, hr]; rfl)]
    have hother : other ≠ channel := by
      rintro rfl
      rw [h.kept] at hnone
      cases hnone.2
    refine hhosted.record other ⟨cid, false⟩ hother (fun cid' c hstray heq => ?_) rfl
      (announcements_cons rfl) (fun other' => ?_) ?_
    · have hne := (hthere hstray).2
      rw [hr] at hne
      exact hne (by rw [← heq])
    · exact ProtocolState.channel_setChannel other other' _ _
    · cases other <;> rfl

/-- **A channel that opens** is not one the session keeps in the place of the first. -/
theorem onChannelOpened_alone (hopen : recorded.open = true)
    (hpsm : ∀ cid c, strays cid c → c.psm = channel.psm) (psm : UInt32) (cid : UInt16) :
    Exec.Keeps (LeftAlone (S := S) channel recorded strays n) (onChannelOpened psm cid) := by
  intro w h
  simp only [onChannelOpened, Exec.gets_bind]
  rcases hinfo : w.session.host.channelInfo cid with _ | ⟨actual, mtu, isOpen⟩
  · exact h
  dsimp only
  split
  · exact h
  rename_i hmatch
  obtain ⟨rfl, rfl⟩ : isOpen = true ∧ actual = psm := by simpa using hmatch
  obtain ⟨c, hc, hactual, -, -⟩ := ClassicHost.channelInfo_eq_some.mp hinfo
  -- A channel for another PSM is no stray.
  have hne (hother : actual ≠ channel.psm) (cid' : UInt16) (c' : ClassicChannel)
      (hstray : strays cid' c') : cid ≠ cid' := by
    rintro rfl
    rw [h.there hstray] at hc
    cases hc
    exact hother (hactual.symm.trans (hpsm _ _ hstray))
  have hannounce (other : Channel) (hpsm' : actual = other.psm) :
      LeftAlone channel recorded strays n (announceChannel other cid mtu w).2 := by
    simp only [announceChannel, Exec.gets_bind]
    split
    swap
    · exact h
    rename_i hfirst
    have hother : other ≠ channel := by
      rintro rfl
      rw [h.kept] at hfirst
      simp [firstOpen, hopen] at hfirst
    have hapart := hne fun heq => hother (Channel.psm_injective (hpsm'.symm.trans heq))
    have hrecord : LeftAlone channel recorded strays n (w.set fun session => { session with
        protocols := { session.protocols.setChannel other ⟨cid, true⟩ with
          hidp := session.protocols.hidp.setPeerMtu other mtu.toNat } }) := by
      refine h.record other ⟨cid, true⟩ hother hapart rfl rfl (fun other' => ?_) ?_
      · rw [← ProtocolState.channel_setChannel]
        cases other' <;> rfl
      · cases other <;> rfl
    exact hrecord.enqueue fun heq => hother (by cases heq; rfl)
  split
  · rename_i hsdp
    refine protocolsUpdate_alone (fun _ other => by cases other <;> rfl)
      (fun protocols cid' c' hstray => ?_) w h
    have hapart := hne (by rw [hsdp]; cases channel <;> decide) cid' c' hstray
    rw [ExtTreeMap.getElem?_insertIfNew, if_neg]
    exact fun heq => hapart (Std.LawfulEqCmp.eq_of_compare heq.1)
  split
  · rename_i hcontrol
    exact Exec.Keeps.bind_from (hannounce .control hcontrol) fun _ =>
      connectHidChannel_alone .interrupt
  split
  · rename_i hinterrupt
    exact hannounce .interrupt hinterrupt
  · exact h

/-- What the host asks for is carried out. -/
theorem drainHostOutput_alone (hopen : recorded.open = true)
    (hpsm : ∀ cid c, strays cid c → c.psm = channel.psm) :
    Exec.Keeps (LeftAlone (S := S) channel recorded strays n) drainHostOutput := by
  refine Exec.loop_keeps fun w h => ?_
  rcases hout : w.session.host.output with _ | ⟨item, output⟩
  · simpa [drainOne, popOutput, ClassicHost.popOutput, hout, World.set] using h
  simp only [drainOne, popOutput, ClassicHost.popOutput, hout, Exec.update_bind]
  have hitem : item.changesLink = false := h.link item (by rw [hout]; exact List.mem_cons_self)
  have hpopped : LeftAlone channel recorded strays n
      (w.set fun session => { session with host := { w.session.host with output := output } }) :=
    h.congr (fun other hother => h.link other (by rw [hout]; exact List.mem_cons_of_mem _ hother))
      rfl rfl fun _ _ _ => id
  refine Exec.Keeps.bind_from ?_ fun _ => Exec.keeps_pure true
  cases item with
  | command command => exact sendPacket_alone (.command command) _ hpopped
  | acl packet => exact sendPacket_alone (.acl packet) _ hpopped
  | event event =>
    cases event with
    | connected | disconnected => cases hitem
    | encrypted => exact connectHidChannel_alone .control _ hpopped
    | channelOpened psm cid => exact onChannelOpened_alone hopen hpsm psm cid _ hpopped
    | bondStored => exact hpopped

theorem refreshOutgoingChannels_alone (hopen : recorded.open = true)
    (hpsm : ∀ cid c, strays cid c → c.psm = channel.psm) :
    Exec.Keeps (LeftAlone (S := S) channel recorded strays n) refreshOutgoingChannels := by
  have hrefresh (other : Channel) :
      Exec.Keeps (LeftAlone (S := S) channel recorded strays n) (refreshChannel other) := by
    refine Exec.Keeps.bind (Exec.keeps_gets _) fun session => ?_
    split
    · exact Exec.keeps_pure ()
    · split
      · exact onChannelOpened_alone hopen hpsm _ _
      · exact Exec.keeps_pure ()
  exact Exec.Keeps.bind (hrefresh .control) fun _ => hrefresh .interrupt

/-- **An ACL packet** is handled after the host has seen it. -/
theorem inbound_alone [BondStore S] {packet : AclPacket}
    (hactive : checkActive w.session = .ok ()) (hopen : recorded.open = true)
    (hpsm : ∀ cid c, strays cid c → c.psm = channel.psm)
    (h : LeftAlone channel recorded strays n (BackendSession.hosted
      (ClassicHost.processAcl packet w.session.host).2 (w.log (.received (.acl packet))))) :
    LeftAlone channel recorded strays n (w.inbound (.acl packet)).2 := by
  have hhandled : LeftAlone channel recorded strays n
      (handleAcl packet (w.log (.received (.acl packet)))).2 := by
    refine Exec.Keeps.bind_from (m := Exec.mapError mapHostError
      (onHost (ClassicHost.processAcl packet))) h fun _ => ?_
    refine Exec.Keeps.bind (drainHostOutput_alone hopen hpsm) fun _ => ?_
    refine Exec.Keeps.bind (refreshOutgoingChannels_alone hopen hpsm) fun _ => ?_
    exact Exec.Keeps.bind processProtocolInput_alone fun _ => drainHostOutput_alone hopen hpsm
  simp only [World.inbound, hactive, handlePolledPacket, handlePacket]
  rcases hrun : handleAcl packet (w.log (.received (.acl packet))) with ⟨error | _, w'⟩ <;>
    rw [hrun] at hhandled
  · exact hhandled.congr hhandled.link rfl rfl fun _ _ _ => id
  · dsimp only
    split <;> exact hhandled

end Alone

/-- The channels of the host for the PSM of a HID channel, but for the one the session has. -/
def Stray (channel : Channel) (recorded : ProtocolChannel) (host : ClassicHost S) (cid : UInt16)
    (c : ClassicChannel) : Prop :=
  cid ≠ recorded.cid ∧ host.channel? cid = some c ∧ c.psm = channel.psm

/-- The strays are none of the channels a session knows. -/
theorem Placed.leftAlone {w : World S} {host : ClassicHost S} {channel : Channel}
    {recorded : ProtocolChannel} (h : Placed w)
    (hrecorded : w.session.protocols.channel channel = some recorded) (hlink : host.KeepsLink)
    (hpsms : ClassicHost.KeepsPsms w.session.host host) (packet : AclPacket) :
    LeftAlone channel recorded (Stray channel recorded host) (announcements channel w.trace)
      (BackendSession.hosted host (w.log (.received (.acl packet)))) where
  link := hlink
  kept := hrecorded
  count := (announcements_hosted _ _).trans (announcements_cons rfl)
  there hstray := hstray.2.1
  apart {cid c} hstray other known hknown heq := by
    obtain ⟨c₀, hc₀, hpsm⟩ := h.channel hknown
    obtain ⟨c₁, hc₁, hpsm'⟩ := hpsms _ _ hc₀
    rw [heq, hstray.2.1] at hc₁
    cases hc₁
    obtain rfl : channel = other :=
      Channel.psm_injective (hstray.2.2.symm.trans (hpsm'.trans hpsm))
    have hsame : some recorded = some known := hrecorded.symm.trans hknown
    cases hsame
    exact hstray.1 heq.symm
  sdp {cid c} hstray := by
    rcases hsdp : w.session.protocols.sdp[cid]? with _ | sdp
    · exact hsdp
    obtain ⟨c₀, hc₀, hpsm⟩ := h.sdp hsdp
    obtain ⟨c₁, hc₁, hpsm'⟩ := hpsms _ _ hc₀
    rw [hstray.2.1] at hc₁
    cases hc₁
    have hsame : channel.psm = sdpPsm := hstray.2.2.symm.trans (hpsm'.trans hpsm)
    cases channel <;> exact absurd hsame (by decide)

/-- **The first HID channel stays**: whatever a packet of the link does to the channels, and whether
the peer has closed that channel or not, the session keeps it, announces no other one, and leaves
every other channel for its PSM as the host has it. -/
theorem first_channel_stays [BondStore S] {w : World S} (h : Reachable w)
    (hactive : checkActive w.session = .ok ()) {channel : Channel} {recorded : ProtocolChannel}
    (hrecorded : w.session.protocols.channel channel = some recorded)
    (hopen : recorded.open = true) (packet : AclPacket) :
    (w.inbound (.acl packet)).2.session.protocols.channel channel = some recorded ∧
      announcements channel (w.inbound (.acl packet)).2.trace = announcements channel w.trace ∧
      ∀ cid c, cid ≠ recorded.cid →
        (ClassicHost.processAcl packet w.session.host).2.channel? cid = some c →
        c.psm = channel.psm →
        (w.inbound (.acl packet)).2.session.host.channel? cid = some c := by
  have hquiet := h.settled.quiet hactive
  have hpermits : (w.log (.received (.acl packet))).Permits (.acl packet) :=
    ⟨hquiet, w.session, w.trace, rfl, rfl, rfl⟩
  have hlink : (ClassicHost.processAcl packet w.session.host).2.KeepsLink := by
    have hlink' := hquiet.keepsLink
    have hstep := ClassicHost.processAcl_step packet w.session.host
    generalize ClassicHost.processAcl packet w.session.host = outcome at hstep ⊢
    obtain ⟨r, host'⟩ := outcome
    cases hstep with
    | refused | fed => exact hlink'
    | processed _ _ _ hcall => exact hcall.keepsLink hlink'
  have hbegun := (h.placed hquiet.keepsLink).leftAlone hrecorded hlink
    (hosted_keepsPsms (w := w.log (.received (.acl packet))) (.inl hpermits) hlink) packet
  have hpsm (cid : UInt16) (c : ClassicChannel) (hstray : Stray channel recorded
    (ClassicHost.processAcl packet w.session.host).2 cid c) : c.psm = channel.psm := hstray.2.2
  have halone : LeftAlone channel recorded
      (Stray channel recorded (ClassicHost.processAcl packet w.session.host).2)
      (announcements channel w.trace) (w.inbound (.acl packet)).2 :=
    inbound_alone hactive hopen hpsm hbegun
  exact ⟨halone.kept, halone.count, fun cid c hne hc hpsm => halone.there ⟨hne, hc, hpsm⟩⟩

/-- The peer that closed its interrupt channel has asked for another one, and has configured its
side of it. -/
def sampleReopening : World MemoryBondStore :=
  ((sampleHungUp.inbound
      (.acl (signalPacket (.connectionRequest 4 hidInterruptPsm 0x51)))).2.inbound
    (.acl (signalPacket (.configureRequest 5 0x41 0 [])))).2

theorem sampleReopening_reachable : Reachable sampleReopening :=
  .received _ (.received _ (.received _ sampleInterrupt_reachable))

/-- The packet that opens the new channel. -/
def reopeningPacket : AclPacket := signalPacket (.configureResponse 2 0x41 0 0 [])

theorem first_channel_stays_sampleReopening :
    (sampleReopening.inbound (.acl reopeningPacket)).2.session.protocols.interrupt =
        some ⟨0x40, true⟩ ∧
      announcements .interrupt (sampleReopening.inbound (.acl reopeningPacket)).2.trace = 1 := by
  have hrecorded : sampleReopening.session.protocols.channel .interrupt = some ⟨0x40, true⟩ := by
    decide +kernel
  have hactive : checkActive sampleReopening.session = .ok () :=
    checkActive_eq_ok.mpr ⟨by decide +kernel, by decide +kernel⟩
  have hone : announcements .interrupt sampleReopening.trace = 1 := by decide +kernel
  obtain ⟨hkept, hcount, -⟩ := first_channel_stays sampleReopening_reachable hactive hrecorded rfl
    reopeningPacket
  exact ⟨hkept, hcount.trans hone⟩

/-- A channel that the peer opens in the place of the one it closed is not adopted. -/
theorem reopened_channel_not_adopted :
    Reachable sampleReopening ∧ checkActive sampleReopening.session = .ok () ∧
    sampleReopening.session.protocols.interrupt = some ⟨0x40, true⟩ ∧
    sampleReopening.session.host.channelInfo 0x40 = some (hidInterruptPsm, 48, false) ∧
    sampleReopening.session.host.channelInfo 0x41 = some (hidInterruptPsm, 48, false) ∧
    (sampleReopening.inbound (.acl reopeningPacket)).2.session.host.channelInfo 0x41 =
      some (hidInterruptPsm, 48, true) ∧
    (sampleReopening.inbound (.acl reopeningPacket)).2.session.protocols.interrupt ≠
      some ⟨0x41, true⟩ :=
  ⟨sampleReopening_reachable, checkActive_eq_ok.mpr ⟨by decide +kernel, by decide +kernel⟩,
    by decide +kernel, by decide +kernel, by decide +kernel, by decide +kernel, by decide +kernel⟩

end ClassicHid

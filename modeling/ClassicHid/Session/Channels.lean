import ClassicHid.L2cap.Specification
import ClassicHid.Session.Expected

/-!
# The channels of the link

Between two calls of its host, a session has a link whose channels are those of a basic server or a
basic connection, and everything they had to send is with the host already. A link with a handle
that does not fit into an ACL packet has no channel that ever heard from its peer.

## Main definitions

* `ClassicHost.channel?`: a channel of the host's link
* `Connection.after`: a link after a call of its channels
* `LinkInvariant`: a property of a link that every call of the host keeps
* `Plain`: the channels of a session's link

## Main results

* `Reachable.link_runs`: an invariant of the link holds in every world of a run
* `Reachable.plain`: the channels of the link are basic and have nothing left to send
-/

namespace ClassicHid

open Foundation BackendSession World

variable {S : Type}

/-! ### Calls of the channels -/

namespace ClassicHost

variable {host : ClassicHost S} {cid : UInt16} {c : ClassicChannel}

/-- A channel of the host's link. -/
def channel? (host : ClassicHost S) (cid : UInt16) : Option ClassicChannel :=
  host.connection.bind (·.channels.channel cid)

theorem channel?_eq_some : host.channel? cid = some c ↔ ∃ connection,
    host.connection = some connection ∧ connection.channels.channel cid = some c :=
  Option.bind_eq_some_iff

/-- What is known of an open channel. -/
theorem channelInfo_eq_some {psm : UInt32} {mtu : UInt16} :
    host.channelInfo cid = some (psm, mtu, true) ↔ ∃ c, host.channel? cid = some c ∧
      c.psm = psm ∧ c.peerMtu = mtu ∧ c.state = .open := by
  have hinfo : host.channelInfo cid =
      (host.channel? cid).map fun c => (c.psm, c.peerMtu, c.isOpen) := by
    rw [channelInfo, channel?]
    rcases host.connection with _ | connection
    · rfl
    · rcases hc : connection.channels.channel cid with _ | c <;> simp [hc]
  simp [hinfo, ClassicChannel.isOpen]

end ClassicHost

namespace Connection

/-- A link after a call of its channels. What they emitted is taken from them, unless they refused
the call. -/
def after {α : Type} (m : ChannelManager.Update α) (connection : Connection) : Connection :=
  match m connection.channels with
  | (.ok _, channels) => ClassicHost.drainedConnection { connection with channels := channels }
  | (.error _, channels) => { connection with channels := channels }

/-- A link after the next SDU of a channel was taken. -/
def taken (cid : UInt16) (connection : Connection) : Connection :=
  { connection with channels := connection.channels.popReceived cid }

end Connection

theorem ClassicHost.CallStep.connection {α : Type} {m : ChannelManager.Update α}
    {host host' : ClassicHost S} {r : Except HostError α} (h : ClassicHost.CallStep m host r host') :
    host'.connection = host.connection.map (Connection.after m) := by
  cases h with
  | unlinked hnone => simp [hnone]
  | refused hconnection hm => simp [ClassicHost.setChannels, hconnection, Connection.after, hm]
  | stuck hconnection hm => simp [hconnection, Connection.after, hm]
  | flushed hconnection hm => simp [ClassicHost.flushed, hconnection, Connection.after, hm]

theorem ClassicHost.connection_takeChannelSdu (cid : UInt16) (host : ClassicHost S) :
    (host.takeChannelSdu cid).2.connection = host.connection.map (·.taken cid) := by
  unfold takeChannelSdu
  rcases hconnection : host.connection with _ | connection
  · exact hconnection
  dsimp only
  rcases hchannel : connection.channels.channel cid with _ | c
  · simp [hconnection, Connection.taken, ChannelManager.popReceived, hchannel]
  · simp [setChannels, hconnection, Connection.taken, ChannelManager.popReceived, hchannel]

/-! ### Invariants of the link -/

/-- A property of a link that holds of every new one and that every call of the host keeps. A PDU
comes in ACL packets, so that the handle of its link fits into one. -/
structure LinkInvariant (I : Connection → Prop) : Prop where
  established (peer : BluetoothAddress) (handle : UInt16) {channels : ChannelManager} :
    ClassicHost.newChannels sessionServers = .ok channels →
      I { peer := peer, handle := handle, encrypted := false, channels := channels }
  encrypted {connection : Connection} : I connection → I { connection with encrypted := true }
  processed {connection : Connection} (pdu : L2capPdu) : connection.handle ≤ 0x0fff →
    I connection → I (connection.after (ChannelManager.processPdu pdu))
  sent {connection : Connection} (cid : UInt16) (sdu : Bytes) :
    I connection → I (connection.after (ChannelManager.send cid sdu))
  connected {connection : Connection} (psm : UInt32) (spec : ClassicChannelSpec) :
    I connection → I (connection.after (ChannelManager.connect psm spec))
  taken {connection : Connection} (cid : UInt16) : I connection → I (connection.taken cid)

namespace LinkInvariant

variable {I : Connection → Prop} {host host' : ClassicHost S}

/-- The link of a host, if there is one, has the property. -/
def Holds (I : Connection → Prop) (host : ClassicHost S) : Prop :=
  ∀ connection, host.connection = some connection → I connection

theorem holds_map {f : Connection → Connection} (h : Holds I host)
    (hf : ∀ connection, host.connection = some connection → I connection → I (f connection))
    (hconnection : host'.connection = host.connection.map f) : Holds I host' := by
  intro connection' hconnection'
  rw [hconnection, Option.map_eq_some_iff] at hconnection'
  obtain ⟨connection, hsome, rfl⟩ := hconnection'
  exact hf connection hsome (h connection hsome)

variable [BondStore S]

/-- **Every call of the host** keeps an invariant of the link. -/
theorem hosted (hI : LinkInvariant I) {w : World S} {op : HostOp}
    (hop : w.Permits op ∨ ∃ psm spec, op = HostOp.connect psm spec)
    (hservers : w.session.host.servers = sessionServers) (h : Holds I w.session.host) :
    Holds I (op.run w.session.host).2 := by
  cases op with
  | event e =>
    have hstep := ClassicHost.handleEvent_step e w.session.host
    rw [HostOp.run]
    generalize ClassicHost.handleEvent e w.session.host = outcome at hstep ⊢
    obtain ⟨r, host'⟩ := outcome
    cases hstep with
    | established hnew =>
      intro connection hconnection
      cases hconnection
      rw [hservers] at hnew
      exact hI.established _ _ hnew
    | encrypted hconnection =>
      intro connection' hconnection'
      cases hconnection'
      exact hI.encrypted (h _ hconnection)
    | disconnected =>
      intro connection hconnection
      cases hconnection
    | _ => exact h
  | acl packet =>
    have hstep := ClassicHost.processAcl_step packet w.session.host
    rw [HostOp.run]
    generalize ClassicHost.processAcl packet w.session.host = outcome at hstep ⊢
    obtain ⟨r, host'⟩ := outcome
    cases hstep with
    | refused => exact h
    | fed => exact h
    | processed hlink _ _ hcall =>
      refine holds_map h (fun connection hconnection hprop => hI.processed _ ?_ hprop)
        hcall.connection
      have hhandle : connection.handle = packet.connectionHandle := by
        rw [ClassicHost.link, hconnection] at hlink
        exact Option.some.inj hlink
      rw [hhandle]
      exact packet.handle_le
  | send cid sdu =>
    exact holds_map h (fun _ _ => hI.sent cid sdu)
      (ClassicHost.callChannels_step (ChannelManager.send cid sdu) w.session.host).connection
  | connect psm spec =>
    exact holds_map h (fun _ _ => hI.connected psm spec)
      (ClassicHost.callChannels_step (ChannelManager.connect psm spec) w.session.host).connection
  | take cid =>
    exact holds_map h (fun _ _ => hI.taken cid) (ClassicHost.connection_takeChannelSdu cid _)
  | register | pop => exact hop.elim False.elim (by simp)

end LinkInvariant

open LinkInvariant in
/-- **An invariant of the link** holds in every world of a run. -/
theorem Reachable.link_runs [BondStore S] {I : Connection → Prop} (hI : LinkInvariant I)
    {w w' : World S} (h : Reachable w) (hruns : Runs w w') : Holds I w'.session.host := by
  have hboth : w'.session.host.servers = sessionServers ∧ Holds I w'.session.host := by
    refine Reachable.induction_runs (P := fun w => w.session.host.servers = sessionServers ∧
      Holds I w.session.host) (fun w hw => ?_) (fun w w' hturn ih => ?_) h hruns
    · obtain ⟨_, _, _, _, _, _, -, hsession⟩ := hw
      rw [hsession]
      exact ⟨rfl, nofun⟩
    · refine ⟨hturn.servers.trans ih.1, ?_⟩
      rcases hturn.host with ⟨output, -, hhost⟩ | ⟨op, hop, hhost⟩ <;> rw [hhost]
      · exact ih.2
      · exact hI.hosted hop ih.1 ih.2
  exact hboth.2

theorem Reachable.link [BondStore S] {I : Connection → Prop} (hI : LinkInvariant I) {w : World S}
    (h : Reachable w) : LinkInvariant.Holds I w.session.host :=
  h.link_runs hI .refl

/-! ### Basic channels -/

namespace ChannelManager

variable {m m' : ChannelManager}

/-- Every server and every channel is in basic mode. -/
abbrev Basic (m : ChannelManager) : Prop := m.Specified (·.mode = .basic)

/-- A basic channel has no engine. -/
theorem Basic.ertm {cid : UInt16} {c : ClassicChannel} (h : m.Basic) (hc : m.channel cid = some c)
    (hsound : c.Sound cid) : c.ertm = none := by
  rcases hertm : c.ertm with _ | engine
  · rfl
  · have hmode := hsound.engine (by rw [hertm]; rfl)
    rw [hsound.specMode, h.channels cid c hc] at hmode
    cases hmode

/-- A connection is refused without a trace. -/
theorem connect_cases (psm : UInt32) (spec : ClassicChannelSpec) (m : ChannelManager) :
    (∃ error, connect psm spec m = (.error error, m)) ∨
      ∃ cid, m.channel cid = none ∧ connect psm spec m =
        (.ok cid, { react cid (.newOutgoing psm cid (.basic spec))
          [signal (.connectionRequest m.following psm cid)] [] m with
          identifier := m.following }) ∧ 0x0040 ≤ cid.toNat := by
  rw [connect]
  rcases validatePsm psm with error | _
  · exact .inl ⟨error, rfl⟩
  rcases validateSpec spec with error | _
  · exact .inl ⟨error, rfl⟩
  rcases connectWithSpec_cases psm (.basic spec) m with ⟨error, hrun⟩ | ⟨cid, hfree, hrun⟩
  · exact .inl ⟨error, hrun⟩
  · exact .inr ⟨cid, allocateCid_spec hfree, hrun, allocateCid_ge hfree⟩

theorem channel_popReceived (m : ChannelManager) (cid cid' : UInt16) :
    (m.popReceived cid).channel cid' =
      if cid = cid' then (m.channel cid).map (·.popReceived.2) else m.channel cid' := by
  rw [popReceived]
  rcases hc : m.channel cid with _ | c <;> dsimp only
  · by_cases heq : cid = cid'
    · rw [if_pos heq, ← heq]
      exact hc
    · rw [if_neg heq]
  · by_cases heq : cid = cid'
    · subst heq
      rw [if_pos rfl]
      exact channel_insert_self m cid _
    · rw [if_neg heq]
      exact channel_insert_ne m _ heq

/-- A PDU that basic channels refuse leaves nothing to send. -/
theorem processPdu_refused (hbasic : ∀ cid c, m.channel cid = some c → c.ertm = none)
    {pdu : L2capPdu} {error : L2capError} (h : processPdu pdu m = (.error error, m')) :
    m'.outbound = m.outbound := by
  rw [processPdu] at h
  split at h
  swap
  · rcases hc : m.channel pdu.cid with _ | c
    · rw [processData, Exec.bind_error (channelOr_none _ hc)] at h
      cases h
      rfl
    · rcases processData_cases hc pdu.payload with ⟨_, error', hrun⟩ | ⟨_, _, hplain⟩
      · rw [hrun] at h
        cases h
        rfl
      · rcases hplain (hbasic _ _ hc) with ⟨_, error', hrun⟩ | ⟨_, hrun⟩
        · rw [hrun] at h
          cases h
          rfl
        · rw [hrun] at h
          cases h
  rcases hframe : ControlFrame.fromBytes pdu.payload with error' | frame
  · rw [hframe] at h
    cases h
    rfl
  rw [hframe, Exec.lift_ok_bind] at h
  cases frame with
  | connectionRequest identifier psm remoteCid =>
    rcases onConnectionRequest_cases identifier psm remoteCid m with ⟨result, _, hrun⟩ |
      ⟨spec, localCid, _, _, hrun⟩ <;>
    · rw [processControl, hrun] at h
      cases h
  | connectionResponse identifier destinationCid cid result status =>
    rw [processControl] at h
    rcases hc : m.channel cid with _ | c
    · rw [onConnectionResponse, Exec.bind_error (channelOr_none _ hc)] at h
      cases h
      rfl
    rw [onConnectionResponse_eq hc] at h
    split at h
    · cases h
      rfl
    split at h <;> cases h
  | configureRequest identifier cid flags encoded =>
    rw [processControl] at h
    rcases hdecode : decodeConfigurationOptions encoded with error' | options
    · rw [onConfigureRequest, hdecode] at h
      cases h
      rfl
    rcases hc : m.channel cid with _ | c
    · rw [onConfigureRequest, hdecode, Exec.lift_ok_bind,
        Exec.bind_error (channelOr_none _ hc)] at h
      cases h
      rfl
    rw [onConfigureRequest_eq hc identifier flags hdecode] at h
    split at h
    · cases h
      exact List.append_nil _
    split at h
    · cases h
      exact List.append_nil _
    · cases h
  | configureResponse identifier cid flags result options =>
    rw [processControl] at h
    rcases hc : m.channel cid with _ | c
    · rw [onConfigureResponse, Exec.bind_error (channelOr_none _ hc)] at h
      cases h
      rfl
    rw [onConfigureResponse_eq hc] at h
    cases h
  | disconnectionRequest identifier cid remoteCid =>
    rw [processControl] at h
    rcases hc : m.channel cid with _ | c
    · rw [onDisconnectionRequest, Exec.bind_error (channelOr_none _ hc)] at h
      cases h
      rfl
    rw [onDisconnectionRequest_eq hc] at h
    split at h
    · cases h
      rfl
    · cases h
  | disconnectionResponse identifier destinationCid cid =>
    rw [processControl] at h
    rcases hc : m.channel cid with _ | c
    · rw [onDisconnectionResponse, Exec.bind_error (channelOr_none _ hc)] at h
      cases h
      rfl
    rw [onDisconnectionResponse_eq hc] at h
    split at h <;> cases h
    rfl
  | _ => cases h

end ChannelManager

/-! ### The link of a session -/

/-- The link of a session between two calls of its host: its channels are basic and sound, and have
nothing left to send; and only a link whose handle fits into a packet has heard from its peer. -/
structure Connection.Plain (connection : Connection) : Prop where
  basic : connection.channels.Basic
  sound : ∀ cid c, connection.channels.channel cid = some c → c.Sound cid
  outbound : connection.channels.outbound = []
  heard : connection.handle ≤ 0x0fff ∨
    ∀ cid c, connection.channels.channel cid = some c → c.state = .waitConnectResponse

namespace Connection

variable {α : Type} {m : ChannelManager.Update α} {connection : Connection}

@[simp] theorem channel_after (m : ChannelManager.Update α) (connection : Connection)
    (cid : UInt16) :
    (connection.after m).channels.channel cid = (m connection.channels).2.channel cid := by
  unfold after
  rcases m connection.channels with ⟨_ | _, channels⟩ <;> rfl

@[simp] theorem servers_after (m : ChannelManager.Update α) (connection : Connection) :
    (connection.after m).channels.servers = (m connection.channels).2.servers := by
  unfold after
  rcases m connection.channels with ⟨_ | _, channels⟩ <;> rfl

@[simp] theorem handle_after (m : ChannelManager.Update α) (connection : Connection) :
    (connection.after m).handle = connection.handle := by
  unfold after
  split <;> rfl

/-- What was emitted is taken, and a call that is refused emits nothing. -/
theorem outbound_after (h : connection.channels.outbound = [])
    (hrefused : ∀ error channels, m connection.channels = (.error error, channels) →
      channels.outbound = connection.channels.outbound) :
    (connection.after m).channels.outbound = [] := by
  unfold after
  split
  · rfl
  · rename_i error channels heq
    exact (hrefused error channels heq).trans h

/-- A call after which the link is as plain as before. -/
theorem Plain.after (h : connection.Plain) (hbasic : (m connection.channels).2.Basic)
    (hproceeds : ∃ announced, connection.channels.Proceeds announced (m connection.channels).2)
    (hrefused : ∀ error channels, m connection.channels = (.error error, channels) →
      channels.outbound = connection.channels.outbound)
    (hheard : connection.handle ≤ 0x0fff ∨
      ∀ cid c, (m connection.channels).2.channel cid = some c → c.state = .waitConnectResponse) :
    (connection.after m).Plain := by
  obtain ⟨announced, hproceeds⟩ := hproceeds
  refine ⟨⟨?_, ?_⟩, ?_, outbound_after h.outbound hrefused, ?_⟩
  · rw [servers_after]
    exact hbasic.servers
  · intro cid c hc
    rw [channel_after] at hc
    exact hbasic.channels cid c hc
  · intro cid c' hc'
    rw [channel_after] at hc'
    rcases hc : connection.channels.channel cid with _ | c
    · exact (hproceeds.fresh cid c' hc hc').1
    · obtain ⟨c₁, hc₁, hbecomes⟩ := hproceeds.channel cid c hc
      cases hc₁.symm.trans hc'
      exact hbecomes.sound cid (h.sound cid c hc)
  · simp only [handle_after, channel_after]
    exact hheard

end Connection

/-- **The link of a session** stays plain. -/
theorem plain_invariant : LinkInvariant Connection.Plain where
  established peer handle channels hnew := by
    obtain ⟨registered, rfl⟩ := ClassicHost.newChannels_eq_ok hnew
    have hnone (cid : UInt16) :
        { ChannelManager.new with servers := registered }.channel cid = none := by
      simp [ChannelManager.channel, ChannelManager.new]
    have hservers : { ChannelManager.new with servers := registered }.Basic := by
      refine ClassicHost.newChannels_keeps (I := ChannelManager.Basic) ?_ ⟨?_, ?_⟩ hnew
      · intro psm spec m hbasic
        rw [ChannelManager.registerServer]
        rcases validateSpec spec with error | _
        · exact hbasic
        · exact hbasic.registerServerWithSpec (.basic spec) rfl (some psm)
      · intro psm spec hserver
        simp [ChannelManager.new] at hserver
      · intro cid c hc
        simp [ChannelManager.channel, ChannelManager.new] at hc
    refine ⟨hservers, ?_, rfl, .inr ?_⟩
    · intro cid c hc
      cases (hnone cid).symm.trans hc
    · intro cid c hc
      cases (hnone cid).symm.trans hc
  encrypted h := ⟨h.basic, h.sound, h.outbound, h.heard⟩
  processed {connection} pdu hhandle h := by
    refine h.after (h.basic.processPdu pdu) (connection.channels.apply_proceeds (.processPdu pdu))
      (fun error channels hrun => ?_) (.inl hhandle)
    exact ChannelManager.processPdu_refused
      (fun cid c hc => h.basic.ertm hc (h.sound cid c hc)) hrun
  sent {connection} cid sdu h := by
    have hcases : (∃ error, ChannelManager.send cid sdu connection.channels =
        (.error error, connection.channels)) ∨ ∃ c, connection.channels.channel cid = some c ∧
          c.state = .open ∧ ChannelManager.send cid sdu connection.channels = (.ok (),
            ChannelManager.queued [{ cid := c.destinationCid, payload := sdu }]
              connection.channels) := by
      rcases hc : connection.channels.channel cid with _ | c
      · exact .inl ⟨_, by
          rw [ChannelManager.send, Exec.bind_error (ChannelManager.channelOr_none _ hc)]⟩
      rcases ChannelManager.send_cases hc sdu with ⟨_, hrun⟩ | ⟨hopen, _, hplain⟩
      · exact .inl hrun
      rcases hplain (h.basic.ertm hc (h.sound cid c hc)) with ⟨_, hrun⟩ | ⟨_, hrun⟩
      · exact .inl hrun
      · exact .inr ⟨c, rfl, hopen, hrun⟩
    refine h.after ?_ (connection.channels.apply_proceeds (.send cid sdu)) ?_ ?_
    · rcases hcases with ⟨error, hrun⟩ | ⟨c, _, _, hrun⟩ <;> rw [hrun]
      · exact h.basic
      · exact h.basic.same rfl rfl
    · rcases hcases with ⟨error, hrun⟩ | ⟨c, _, _, hrun⟩ <;> rw [hrun]
      · rintro _ _ ⟨⟩
        rfl
      · rintro _ _ ⟨⟩
    · rcases hcases with ⟨error, hrun⟩ | ⟨c, hc, hopen, hrun⟩ <;> rw [hrun]
      · exact h.heard
      · refine h.heard.imp id fun hwait => ?_
        rw [hwait cid c hc] at hopen
        cases hopen
  connected {connection} psm spec h := by
    have hcases := ChannelManager.connect_cases psm spec connection.channels
    refine h.after ?_ (connection.channels.apply_proceeds (.connect psm spec)) ?_ ?_
    · rcases hcases with ⟨error, hrun⟩ | ⟨cid, _, hrun, _⟩ <;> rw [hrun]
      · exact h.basic
      · exact h.basic.insert (c := .newOutgoing psm cid (.basic spec)) rfl rfl rfl
    · rcases hcases with ⟨error, hrun⟩ | ⟨cid, _, hrun, _⟩ <;> rw [hrun]
      · rintro _ _ ⟨⟩
        rfl
      · rintro _ _ ⟨⟩
    · refine h.heard.imp id fun hwait => ?_
      rcases hcases with ⟨error, hrun⟩ | ⟨cid, _, hrun, _⟩ <;> rw [hrun]
      · exact hwait
      · intro cid' c hc
        by_cases heq : cid = cid'
        · subst heq
          cases (ChannelManager.channel_insert_self connection.channels cid _).symm.trans hc
          rfl
        · exact hwait cid' c
            ((ChannelManager.channel_insert_ne connection.channels _ heq).symm.trans hc)
  taken {connection} cid h := by
    obtain ⟨announced, hproceeds⟩ := connection.channels.apply_proceeds (.popReceived cid)
    have houtbound : (connection.channels.popReceived cid).outbound =
        connection.channels.outbound := by
      unfold ChannelManager.popReceived
      split <;> rfl
    refine ⟨h.basic.popReceived cid, ?_, houtbound.trans h.outbound, ?_⟩
    · intro cid' c' hc'
      rcases hc : connection.channels.channel cid' with _ | c
      · exact (hproceeds.fresh cid' c' hc hc').1
      · obtain ⟨c₁, hc₁, hbecomes⟩ := hproceeds.channel cid' c hc
        cases hc₁.symm.trans hc'
        exact hbecomes.sound cid' (h.sound cid' c hc)
    · refine h.heard.imp id fun hwait cid' c' hc' => ?_
      have hc' : (connection.channels.popReceived cid).channel cid' = some c' := hc'
      rw [ChannelManager.channel_popReceived] at hc'
      split at hc'
      · obtain ⟨c, hc, rfl⟩ := Option.map_eq_some_iff.mp hc'
        rw [ClassicChannel.popReceived]
        split <;> exact hwait cid c hc
      · exact hwait cid' c' hc'

/-- **The channels of the link** in every reachable world. -/
theorem Reachable.plain [BondStore S] {w : World S} (h : Reachable w) {connection : Connection}
    (hconnection : w.session.host.connection = some connection) : connection.Plain :=
  h.link plain_invariant connection hconnection

end ClassicHid

import ClassicHid.L2cap.Renegotiation
import ClassicHid.Sdp.Answers
import ClassicHid.Session.Dismissal
import ClassicHid.Session.Reopening

/-!
# The MTUs a session remembers

A session copies the MTU of a channel when the channel opens: that of a HID channel into its HIDP
bridge, that of an SDP channel into a server of its own. It never looks again, although the peer may
change the MTU of an open channel. As long as no packet does so, the copies are right, and what the
bridge or a server has accepted is not too long for the channel.

## Main definitions

* `ProtocolState.Records`: a channel whose MTU the session remembers
* `MtusKept`: a record in which no packet changes the MTU of such a channel
* `BackendSession.Accepts`: what the bridge or a server has accepted for a channel

## Main results

* `Turn.mtusAgree`: every turn keeps the copies right
* `cached_mtus_agree`: the copies are right, and what was accepted is sent
* `stale_mtu_refused`: not so once the peer has changed an MTU
-/

namespace ClassicHid

open Foundation BackendSession World
open Std (ExtTreeMap)

variable {S : Type}

/-! ### The channels of the host -/

namespace ClassicHost

/-- Whether an ACL packet changes the MTU of the channel `cid`, which is open and stays so. -/
def renegotiates (packet : AclPacket) (cid : UInt16) (host : ClassicHost S) : Bool :=
  match host.connection, (host.aclAssembler.feed packet).1 with
  | some connection, .ok (some bytes) =>
    connection.handle = packet.connectionHandle &&
      match L2capPdu.fromBytes bytes with
      | .ok pdu => connection.channels.renegotiates pdu cid
      | .error _ => false
  | _, _ => false

/-- The channel `cid` has opened, and has the MTU `mtu` as long as it is open. -/
def HasOpened (cid : UInt16) (mtu : ℕ) (host : ClassicHost S) : Prop :=
  ∃ connection, host.connection = some connection ∧ connection.channels.HasOpened cid mtu

variable {host host' : ClassicHost S} {cid : UInt16} {mtu : ℕ}

theorem HasOpened.of_connection (h : host.HasOpened cid mtu)
    (hconnection : host'.connection = host.connection) : host'.HasOpened cid mtu := by
  rwa [HasOpened, hconnection]

/-- An update of the link that leaves the channel open with its MTU. -/
theorem HasOpened.map (h : host.HasOpened cid mtu) {f : Connection → Connection}
    (hconnection : host'.connection = host.connection.map f)
    (hf : ∀ connection, host.connection = some connection →
      connection.channels.HasOpened cid mtu → (f connection).channels.HasOpened cid mtu) :
    host'.HasOpened cid mtu := by
  obtain ⟨connection, hsome, hopened⟩ := h
  refine ⟨f connection, ?_, hf connection hsome hopened⟩
  rw [hconnection, hsome]
  rfl

theorem CallStep.hasOpened {α : Type} {m : ChannelManager.Update α} {r : Except HostError α}
    (hcall : CallStep m host r host') (h : host.HasOpened cid mtu)
    (hm : ∀ connection, host.connection = some connection →
      connection.channels.HasOpened cid mtu →
      (m connection.channels).2.HasOpened cid mtu) : host'.HasOpened cid mtu := by
  refine h.map hcall.connection fun connection hsome hopened => ?_
  obtain ⟨c, hc, hc'⟩ := hm connection hsome hopened
  exact ⟨c, (Connection.channel_after m connection cid).trans hc, hc'⟩

/-- The MTU of an open channel. -/
theorem HasOpened.channelInfo (h : host.HasOpened cid mtu) {psm : UInt32} {peerMtu : UInt16}
    (hinfo : host.channelInfo cid = some (psm, peerMtu, true)) : peerMtu.toNat = mtu := by
  obtain ⟨c, hc, -, hmtu, hopen⟩ := channelInfo_eq_some.mp hinfo
  obtain ⟨connection, hconnection, hc⟩ := channel?_eq_some.mp hc
  obtain ⟨connection', hconnection', hopened⟩ := h
  cases hconnection.symm.trans hconnection'
  rw [← hmtu]
  exact (hopened.openedWith hc).peerMtu hopen

theorem hasOpened_of_channelInfo {psm : UInt32} {peerMtu : UInt16}
    (hinfo : host.channelInfo cid = some (psm, peerMtu, true)) :
    host.HasOpened cid peerMtu.toNat := by
  obtain ⟨c, hc, -, hmtu, hopen⟩ := channelInfo_eq_some.mp hinfo
  obtain ⟨connection, hconnection, hc⟩ := channel?_eq_some.mp hc
  refine ⟨connection, hconnection, c, hc, Nat.le_of_eq (by rw [hopen]), fun _ => by rw [hmtu]⟩

/-- No channel of the host is open. -/
def Shut (host : ClassicHost S) : Prop :=
  ∀ cid c, host.channel? cid = some c → c.isOpen = false

theorem Shut.of_connection (h : host.Shut) (hconnection : host'.connection = host.connection) :
    host'.Shut := by
  intro cid c hc
  exact h cid c (by rwa [channel?, ← hconnection])

/-- An update of the channels that opens none. -/
theorem CallStep.shut {α : Type} {m : ChannelManager.Update α} {r : Except HostError α}
    (hcall : CallStep m host r host') (h : host.Shut)
    (hm : ∀ channels, ChannelManager.Opens none channels (m channels).2) : host'.Shut := by
  intro cid c' hc'
  rw [← Bool.not_eq_true]
  intro hopen
  obtain ⟨connection', hconnection', hc'⟩ := channel?_eq_some.mp hc'
  obtain ⟨connection, hconnection, rfl⟩ : ∃ connection, host.connection = some connection ∧
      connection.after m = connection' := by
    rw [hcall.connection] at hconnection'
    exact Option.map_eq_some_iff.mp hconnection'
  rw [Connection.channel_after] at hc'
  rcases (hm connection.channels).opened cid c' hc' hopen with hnone | ⟨c, hc, hopen⟩
  · cases hnone
  · rw [h cid c (channel?_eq_some.mpr ⟨connection, hconnection, hc⟩)] at hopen
    cases hopen

theorem Shut.takeChannelSdu (h : host.Shut) (cid : UInt16) : (host.takeChannelSdu cid).2.Shut := by
  intro cid' c' hc'
  obtain ⟨connection', hconnection', hc'⟩ := channel?_eq_some.mp hc'
  rw [connection_takeChannelSdu] at hconnection'
  obtain ⟨connection, hconnection, rfl⟩ := Option.map_eq_some_iff.mp hconnection'
  have hc' : (connection.channels.popReceived cid).channel cid' = some c' := hc'
  rw [ChannelManager.channel_popReceived] at hc'
  split at hc'
  · obtain ⟨c, hc, rfl⟩ := Option.map_eq_some_iff.mp hc'
    have hclosed := h cid c (channel?_eq_some.mpr ⟨connection, hconnection, hc⟩)
    rw [ClassicChannel.popReceived]
    split <;> exact hclosed
  · exact h cid' c' (channel?_eq_some.mpr ⟨connection, hconnection, hc'⟩)

end ClassicHost

section Calls

variable [BondStore S] {w : World S} {cid : UInt16} {mtu : ℕ}

/-- **A call of the host** leaves an open channel its MTU, unless the link is another one or a packet
changes the MTU. -/
theorem hosted_hasOpened {op : HostOp}
    (hop : w.Permits op ∨ ∃ psm spec, op = HostOp.connect psm spec)
    (hlink : (op.run w.session.host).2.KeepsLink)
    (hkept : ∀ packet, op = .acl packet → w.session.host.renegotiates packet cid = false)
    (h : w.session.host.HasOpened cid mtu) : (op.run w.session.host).2.HasOpened cid mtu := by
  cases op with
  | event e =>
    have hstep := ClassicHost.handleEvent_step e w.session.host
    rw [HostOp.run] at hlink ⊢
    generalize ClassicHost.handleEvent e w.session.host = outcome at hstep hlink ⊢
    obtain ⟨r, host'⟩ := outcome
    cases hstep with
    | @established handle peer => cases hlink (.event (.connected peer handle)) (by simp)
    | @disconnected _ reason connection =>
      cases hlink (.event (.disconnected connection.peer reason)) (by simp)
    | @encrypted _ connection hconnection =>
      obtain ⟨connection', hconnection', hopened⟩ := h
      cases hconnection.symm.trans hconnection'
      exact ⟨_, rfl, hopened⟩
    | _ => exact h.of_connection rfl
  | acl packet =>
    have hstep := ClassicHost.processAcl_step packet w.session.host
    rw [HostOp.run]
    generalize ClassicHost.processAcl packet w.session.host = outcome at hstep ⊢
    obtain ⟨r, host'⟩ := outcome
    cases hstep with
    | refused | fed => exact h.of_connection rfl
    | @processed assembler bytes pdu _ _ hpartner hfeed hpdu hcall =>
      refine hcall.hasOpened h fun connection hconnection hopened => ?_
      refine ChannelManager.processPdu_openedWith hopened ?_
      have hconnection : w.session.host.connection = some connection := hconnection
      have hhandle : connection.handle = packet.connectionHandle := by
        simpa [ClassicHost.link, hconnection] using hpartner
      have h := hkept packet rfl
      simpa [ClassicHost.renegotiates, hconnection, hfeed, hpdu, hhandle] using h
  | send cid' sdu =>
    exact (ClassicHost.callChannels_step _ _).hasOpened h fun _ _ hopened =>
      ChannelManager.send_openedWith hopened cid' sdu
  | connect psm spec =>
    have hcall := ClassicHost.callChannels_step (ChannelManager.connect psm spec) w.session.host
    exact hcall.hasOpened h fun _ _ hopened => ChannelManager.connect_openedWith hopened psm spec
  | take cid' =>
    exact h.map (ClassicHost.connection_takeChannelSdu cid' _) fun _ _ hopened =>
      ChannelManager.popReceived_openedWith hopened cid'
  | register | pop => exact hop.elim False.elim (by simp)

/-- A call of the host after which its link is another one leaves no channel open. -/
theorem hosted_shut {op : HostOp}
    (hop : w.Permits op ∨ ∃ psm spec, op = HostOp.connect psm spec)
    (h : ¬ w.session.host.KeepsLink → w.session.host.Shut)
    (hlink : ¬ (op.run w.session.host).2.KeepsLink) : (op.run w.session.host).2.Shut := by
  cases op with
  | event e =>
    have hstep := ClassicHost.handleEvent_step e w.session.host
    rw [HostOp.run] at hlink ⊢
    generalize ClassicHost.handleEvent e w.session.host = outcome at hstep hlink ⊢
    obtain ⟨r, host'⟩ := outcome
    -- What the host asks for besides does not change its link.
    have hbefore {items : List HostOutput} (hitems : ∀ item ∈ items, item.changesLink = false)
        (hout : host'.output = w.session.host.output ++ items) : w.session.host.Shut := by
      refine h fun hkeeps => hlink fun item hitem => ?_
      rw [hout] at hitem
      rcases List.mem_append.mp hitem with hitem | hitem
      · exact hkeeps item hitem
      · exact hitems item hitem
    cases hstep with
    | refused => exact hbefore (by simp) (List.append_nil _).symm
    | replied _ hitems =>
      refine (hbefore (fun item hitem => ?_) rfl).of_connection rfl
      obtain ⟨packet, rfl, -⟩ := hitems item hitem
      rfl
    | requested peer =>
      exact (hbefore (by simp [HostOutput.changesLink]) rfl).of_connection rfl
    | @established handle peer channels hchannels =>
      obtain ⟨registered, rfl⟩ := ClassicHost.newChannels_eq_ok hchannels
      intro cid c hc
      simp [ClassicHost.channel?, ChannelManager.channel, ChannelManager.new] at hc
    | forgotten => exact (hbefore (by simp) (List.append_nil _).symm).of_connection rfl
    | notified hitems =>
      refine (hbefore (fun item hitem => ?_) rfl).of_connection rfl
      rw [hitems item hitem]
      rfl
    | @encrypted _ connection hconnection =>
      have hshut := hbefore (by simp [HostOutput.changesLink]) rfl
      intro cid c hc
      exact hshut cid c (by rw [ClassicHost.channel?, hconnection]; exact hc)
    | completed => exact (hbefore (by simp [HostOutput.changesLink]) rfl).of_connection rfl
    | disconnected =>
      intro cid c hc
      cases hc
  | acl packet =>
    refine absurd ?_ hlink
    obtain ⟨hquiet, -⟩ := hop.resolve_right (by simp)
    have hstep := ClassicHost.processAcl_step packet w.session.host
    rw [HostOp.run]
    generalize ClassicHost.processAcl packet w.session.host = outcome at hstep ⊢
    obtain ⟨r, host'⟩ := outcome
    cases hstep with
    | refused | fed => exact hquiet.keepsLink
    | processed _ _ _ hcall => exact hcall.keepsLink hquiet.keepsLink
  | send cid sdu =>
    have hcall := ClassicHost.callChannels_step (ChannelManager.send cid sdu) w.session.host
    exact hcall.shut (h fun hkeeps => hlink (hcall.keepsLink hkeeps))
      (ChannelManager.send_opens cid sdu)
  | connect psm spec =>
    have hcall := ClassicHost.callChannels_step (ChannelManager.connect psm spec) w.session.host
    exact hcall.shut (h fun hkeeps => hlink (hcall.keepsLink hkeeps))
      (ChannelManager.connect_opens psm spec)
  | take cid =>
    refine ClassicHost.Shut.takeChannelSdu (h fun hkeeps => hlink fun item hitem => ?_) cid
    exact hkeeps item (by rwa [← ClassicHost.output_takeChannelSdu cid])
  | register | pop => exact hop.elim False.elim (by simp)

end Calls

/-! ### What the session remembers -/

/-- A channel whose MTU the session remembers. -/
def ProtocolState.Records (protocols : ProtocolState) (cid : UInt16) : Prop :=
  (∃ channel, protocols.channel channel = some ⟨cid, true⟩) ∨ protocols.sdp[cid]?.isSome = true

/-- A record in which no packet changes the MTU of a channel that the session remembers. -/
def MtusKept (trace : List (Entry S)) : Prop :=
  ∀ entry ∈ trace, ∀ packet, entry.action = .received (.acl packet) →
    ∀ cid, entry.session.protocols.Records cid →
      entry.session.host.renegotiates packet cid = false

/-- The MTUs that the session remembers are those of the channels of its host. -/
structure MtusAgree (w : World S) : Prop where
  channel {channel : Channel} {cid : UInt16} :
    w.session.protocols.channel channel = some ⟨cid, true⟩ →
    w.session.host.HasOpened cid (w.session.protocols.hidp.peerMtu channel)
  sdp {cid : UInt16} {sdp : HidSdpChannel} : w.session.protocols.sdp[cid]? = some sdp →
    w.session.host.HasOpened cid sdp.server.mtu.toNat

namespace MtusAgree

variable {w w' : World S}

theorem of_empty (h : w.session.protocols = {}) : MtusAgree w where
  channel {channel cid} hrecorded := by
    rw [h] at hrecorded
    cases channel <;> cases hrecorded
  sdp {cid sdp} hsdp := by
    rw [h] at hsdp
    simp at hsdp

/-- The session remembers the same, and each of its channels has its MTU still. -/
theorem congr (h : MtusAgree w) (hprotocols : w'.session.protocols = w.session.protocols)
    (hhost : ∀ cid mtu, w.session.protocols.Records cid → w.session.host.HasOpened cid mtu →
      w'.session.host.HasOpened cid mtu) : MtusAgree w' where
  channel {channel cid} hrecorded := by
    rw [hprotocols] at hrecorded ⊢
    exact hhost _ _ (.inl ⟨channel, hrecorded⟩) (h.channel hrecorded)
  sdp {cid sdp} hsdp := by
    rw [hprotocols] at hsdp
    exact hhost _ _ (.inr (by rw [hsdp]; rfl)) (h.sdp hsdp)

theorem tend (h : MtusAgree w) {protocols : ProtocolState} (htend : w.MayTend protocols) :
    MtusAgree (w.set ({ · with protocols := protocols })) where
  channel {channel cid} hrecorded := by
    have hmtu : protocols.hidp.peerMtu channel = w.session.protocols.hidp.peerMtu channel :=
      htend.peerMtu channel
    change w.session.host.HasOpened cid (protocols.hidp.peerMtu channel)
    rw [hmtu]
    exact h.channel ((htend.channel channel).symm.trans hrecorded)
  sdp {cid sdp} hsdp := by
    change w.session.host.HasOpened cid sdp.server.mtu.toNat
    rcases htend.sdp hsdp with ⟨sdp', hsdp', hmtu⟩ | hinfo
    · rw [hmtu]
      exact h.sdp hsdp'
    · exact ClassicHost.hasOpened_of_channelInfo hinfo

/-- A HID channel is begun, of which nothing is remembered yet. -/
theorem begin (h : MtusAgree w) (channel : Channel) (cid : UInt16)
    (hchannel : ∀ other, w'.session.protocols.channel other =
      if other = channel then some ⟨cid, false⟩ else w.session.protocols.channel other)
    (hmtu : w'.session.protocols.hidp = w.session.protocols.hidp)
    (hsdp : w'.session.protocols.sdp = w.session.protocols.sdp)
    (hhost : ∀ cid mtu, w.session.host.HasOpened cid mtu → w'.session.host.HasOpened cid mtu) :
    MtusAgree w' where
  channel {other cid'} hrecorded := by
    rw [hchannel] at hrecorded
    split at hrecorded
    · cases hrecorded
    · rw [hmtu]
      exact hhost _ _ (h.channel hrecorded)
  sdp {cid' sdp} hknown := by
    rw [hsdp] at hknown
    exact hhost _ _ (h.sdp hknown)

/-- A HID channel has opened, and its MTU is copied. -/
theorem announce (h : MtusAgree w) (channel : Channel) {cid mtu : UInt16}
    (hinfo : w.session.host.channelInfo cid = some (channel.psm, mtu, true))
    (hconnection : w'.session.host.connection = w.session.host.connection)
    (hchannel : ∀ other, w'.session.protocols.channel other =
      if other = channel then some ⟨cid, true⟩ else w.session.protocols.channel other)
    (hmtu : w'.session.protocols.hidp = w.session.protocols.hidp.setPeerMtu channel mtu.toNat)
    (hsdp : w'.session.protocols.sdp = w.session.protocols.sdp) : MtusAgree w' where
  channel {other cid'} hrecorded := by
    rw [hchannel] at hrecorded
    rw [hmtu, HidpBridge.peerMtu_setPeerMtu]
    split at hrecorded
    · rename_i heq
      cases hrecorded
      rw [if_pos heq]
      exact (ClassicHost.hasOpened_of_channelInfo hinfo).of_connection hconnection
    · rename_i hne
      rw [if_neg hne]
      exact (h.channel hrecorded).of_connection hconnection
  sdp {cid' sdp} hknown := by
    rw [hsdp] at hknown
    exact (h.sdp hknown).of_connection hconnection

end MtusAgree

section Runs

variable [BondStore S] {w w' : World S}

omit [BondStore S] in
theorem trace_suffix_enqueue {event : Event} (htrace : w'.trace = w.trace) :
    w.trace <:+ (w'.enqueue event).trace := by
  rcases trace_enqueue event w' with heq | heq
  · rw [heq, htrace]
  · rw [heq, ← htrace]
    exact List.suffix_cons _ _

/-- A record only grows. -/
theorem Turn.trace_suffix (hturn : Turn w w') : w.trace <:+ w'.trace := by
  cases hturn with
  | noted | closed => exact List.suffix_cons _ _
  | step _ hstep =>
    cases hstep with
    | hosted op _ =>
      obtain ⟨later, htrace, -⟩ := trace_hosted w (op.run w.session.host).2
      rw [htrace]
      exact List.suffix_append _ _
    | admitted | reported | unlinked | failed => exact trace_suffix_enqueue rfl
    | announced hannounces =>
      rcases hannounces with ⟨_, _, rfl⟩ | ⟨_, rfl⟩ <;> exact trace_suffix_enqueue rfl
    | received | commanded | flushed | linked | connecting | opened | delivered =>
      exact List.suffix_cons _ _
    | _ => exact List.suffix_refl _

omit [BondStore S] in
theorem MtusKept.of_suffix {earlier later : List (Entry S)} (h : MtusKept later)
    (hsuffix : earlier <:+ later) : MtusKept earlier :=
  fun entry hentry => h entry (hsuffix.mem hentry)

/-- **What a session remembers** stays right, unless a packet changes an MTU. -/
theorem mtusAgree_remembers (hkept : MtusKept w.trace) : Remembers MtusAgree w where
  empty := .of_empty
  frame h hprotocols hconnection :=
    h.congr hprotocols fun _ _ _ hopened => hopened.of_connection hconnection
  hosted {op} hop hlink h := by
    refine h.congr rfl fun cid mtu hrecords hopened => ?_
    refine hosted_hasOpened hop hlink (fun packet heq => ?_) hopened
    subst heq
    -- The packet has just been received, by the session as it is still.
    obtain ⟨-, session, earlier, hreceived, hhost, hprotocols⟩ := hop.resolve_right nofun
    have hentry := hkept ⟨session, .received (.acl packet)⟩ (by simp [hreceived]) packet rfl cid
    rw [hhost, hprotocols] at hentry
    exact hentry hrecords
  begun {channel cid host} _ h := by
    refine h.begin channel cid (ProtocolState.channel_setChannel channel · _ _) ?_ ?_ fun _ _ => id
    · cases channel <;> rfl
    · cases channel <;> rfl
  announced {channel cid mtu} hinfo h := by
    refine h.announce channel hinfo rfl (fun other => ?_) rfl ?_
    · rw [← ProtocolState.channel_setChannel]
      cases other <;> rfl
    · cases channel <;> rfl
  tended htend h := h.tend htend

/-- **Every turn** keeps the copies right, unless a packet changes the MTU. -/
theorem Turn.mtusAgree (hturn : Turn w w')
    (h : w.session.host.KeepsLink → MtusKept w.trace → MtusAgree w)
    (hlink : w'.session.host.KeepsLink) (hkept : MtusKept w'.trace) : MtusAgree w' := by
  have hbefore := hkept.of_suffix hturn.trace_suffix
  exact hturn.remembers (mtusAgree_remembers hbefore) (fun hlink => h hlink hbefore) hlink

/-- While the link is another one, no channel is open. -/
theorem Turn.shut (hturn : Turn w w') (h : ¬ w.session.host.KeepsLink → w.session.host.Shut)
    (hlink : ¬ w'.session.host.KeepsLink) : w'.session.host.Shut := by
  rcases hturn.host with ⟨output, hsuffix, hhost⟩ | ⟨op, hop, hhost⟩ <;> rw [hhost] at hlink ⊢
  · have hbefore : ¬ w.session.host.KeepsLink :=
      fun hkeeps => hlink fun item hitem => hkeeps item (hsuffix.mem hitem)
    exact (h hbefore).of_connection rfl
  · exact hosted_shut hop h hlink

/-- **The MTUs agree** in every world of a run in which a channel is open and no packet has changed
the MTU of a channel that the session remembers. -/
theorem Reachable.mtusAgree (h : Reachable w) (hruns : Runs w w') (hkept : MtusKept w'.trace)
    (hopen : ¬ w'.session.host.Shut) : MtusAgree w' := by
  have hboth : (w'.session.host.KeepsLink → MtusKept w'.trace → MtusAgree w') ∧
      (¬ w'.session.host.KeepsLink → w'.session.host.Shut) := by
    refine Reachable.induction_runs (P := fun w =>
      (w.session.host.KeepsLink → MtusKept w.trace → MtusAgree w) ∧
        (¬ w.session.host.KeepsLink → w.session.host.Shut))
      (fun w hw => ?_) (fun w w' hturn ih => ⟨hturn.mtusAgree ih.1, hturn.shut ih.2⟩) h hruns
    obtain ⟨_, _, _, _, _, _, -, hsession⟩ := hw
    refine ⟨fun _ _ => .of_empty (by rw [hsession]), fun _ cid c hc => ?_⟩
    rw [hsession] at hc
    cases hc
  by_cases hlink : w'.session.host.KeepsLink
  · exact hboth.1 hlink hkept
  · exact absurd (hboth.2 hlink) hopen

end Runs

/-! ### What is accepted for a channel -/

/-- What the bridge or a server of the session has accepted for a channel. -/
inductive BackendSession.Accepts (session : BackendSession S) (cid : UInt16) (sdu : Bytes) : Prop
  /-- A message for the control channel. -/
  | control {message : Message} : session.protocols.control = some ⟨cid, true⟩ →
      session.protocols.hidp.encodeControl message = .ok sdu → Accepts session cid sdu
  /-- A report for the interrupt channel. -/
  | report {payload : Bytes} : session.protocols.interrupt = some ⟨cid, true⟩ →
      session.protocols.hidp.encodeInput payload = .ok sdu → Accepts session cid sdu
  /-- The response of a server. -/
  | response {sdp : HidSdpChannel} {request : Bytes} :
      session.protocols.sdp[cid]? = some sdp → (sdp.handleSdu request).1 = some sdu →
      Accepts session cid sdu

theorem checkPeerMtu_eq_ok {channel : Channel} {encoded sdu : Bytes} {peerMtu : ℕ}
    (h : checkPeerMtu channel encoded peerMtu = .ok sdu) : sdu.length ≤ peerMtu := by
  unfold checkPeerMtu at h
  split at h
  · cases h
  · rename_i hlength
    cases h
    exact Nat.not_lt.mp hlength

namespace HidpBridge

variable {bridge : HidpBridge} {sdu : Bytes}

/-- What is encoded fits the MTU. -/
theorem length_encodeControl {message : Message} (h : bridge.encodeControl message = .ok sdu) :
    sdu.length ≤ bridge.peerMtu .control := by
  unfold encodeControl at h
  split at h
  · exact checkPeerMtu_eq_ok h
  · cases h

theorem length_encodeInput {payload : Bytes} (h : bridge.encodeInput payload = .ok sdu) :
    sdu.length ≤ bridge.peerMtu .interrupt := by
  unfold encodeInput at h
  split at h
  · exact checkPeerMtu_eq_ok h
  · cases h

end HidpBridge

/-- A server has a response for what carries a transaction identifier, and it fits the MTU. -/
theorem HidSdpChannel.length_response {sdp : HidSdpChannel} {request sdu : Bytes}
    (hmtu : 11 ≤ sdp.server.mtu.toNat) (h : (sdp.handleSdu request).1 = some sdu) :
    sdu.length ≤ sdp.server.mtu.toNat := by
  obtain ⟨-, hshort, hanswered⟩ := handleSdu_answered hmtu rfl request
  rcases request with _ | ⟨id, _ | ⟨t₁, _ | ⟨t₀, rest⟩⟩⟩
  · rw [hshort (by simp)] at h
    cases h
  · rw [hshort (by simp)] at h
    cases h
  · rw [hshort (by simp)] at h
    cases h
  · obtain ⟨response, hresponse, hlength, -⟩ := hanswered id t₁ t₀ rest rfl
    cases hresponse.symm.trans h
    exact hlength

section Results

variable [BondStore S] {w w' : World S}

/-- **The MTUs a session remembers are those of its channels**, as long as no packet changes the MTU
of a channel that it remembers: in every world of a run, the copy of an open channel is its MTU, and
the channel takes whatever the bridge or a server has accepted for it. -/
theorem cached_mtus_agree (h : Reachable w) (hruns : Runs w w') (hkept : MtusKept w'.trace)
    {cid : UInt16} {psm : UInt32} {mtu : UInt16}
    (hopen : w'.session.host.channelInfo cid = some (psm, mtu, true)) :
    (∀ channel, w'.session.protocols.channel channel = some ⟨cid, true⟩ →
      w'.session.protocols.hidp.peerMtu channel = mtu.toNat) ∧
    (∀ sdp, w'.session.protocols.sdp[cid]? = some sdp → sdp.server.mtu = mtu) ∧
    ∀ sdu, w'.session.Accepts cid sdu → ∃ connection, w'.session.host.connection = some connection ∧
      (ChannelManager.send cid sdu connection.channels).1 = .ok () := by
  obtain ⟨c, hchannel, -, hpeer, hstate⟩ := ClassicHost.channelInfo_eq_some.mp hopen
  have hagree : MtusAgree w' := by
    refine h.mtusAgree hruns hkept fun hshut => ?_
    have hclosed := hshut cid c hchannel
    rw [ClassicChannel.isOpen, hstate] at hclosed
    cases hclosed
  have hhid (channel : Channel) (hc : w'.session.protocols.channel channel = some ⟨cid, true⟩) :
      w'.session.protocols.hidp.peerMtu channel = mtu.toNat :=
    ((hagree.channel hc).channelInfo hopen).symm
  have hsdp (sdp : HidSdpChannel) (hs : w'.session.protocols.sdp[cid]? = some sdp) :
      sdp.server.mtu = mtu :=
    (UInt16.toNat_inj.mp ((hagree.sdp hs).channelInfo hopen)).symm
  refine ⟨hhid, hsdp, fun sdu haccepts => ?_⟩
  obtain ⟨connection, hconnection, hc⟩ := ClassicHost.channel?_eq_some.mp hchannel
  have hplain : connection.Plain := h.link_runs plain_invariant hruns connection hconnection
  have hsound := hplain.sound cid c hc
  have hlength : sdu.length ≤ c.peerMtu.toNat := by
    rw [hpeer]
    cases haccepts with
    | control hrecorded hencode =>
      rw [← hhid .control hrecorded]
      exact HidpBridge.length_encodeControl hencode
    | report hrecorded hencode =>
      rw [← hhid .interrupt hrecorded]
      exact HidpBridge.length_encodeInput hencode
    | @response sdp request hs hresponse =>
      have hmtu := hsdp sdp hs
      have hleast := hsound.peerMtu
      rw [hpeer] at hleast
      rw [← hmtu] at hleast ⊢
      exact HidSdpChannel.length_response (by omega) hresponse
  refine ⟨connection, hconnection, ?_⟩
  rcases ChannelManager.send_cases hc sdu with ⟨hshut, -⟩ | ⟨-, -, hsend⟩
  · exact absurd hstate hshut
  rcases hsend (hplain.basic.ertm hc hsound) with ⟨hlong, -⟩ | ⟨-, hrun⟩
  · exact absurd hlength (Nat.not_le.mpr hlong)
  · rw [hrun]

end Results

/-! ### Runs with and without another MTU -/

/-- A record of a session that knows of no channel but an interrupt channel, whose MTU no packet
changes. -/
theorem mtusKept_of_interrupt (cid : UInt16) {trace : List (Entry S)}
    (h : trace.all (fun entry =>
      match entry.action with
      | .received (.acl packet) => entry.session.protocols.control.isNone &&
        entry.session.protocols.interrupt.all (·.cid = cid) &&
        entry.session.protocols.sdp.isEmpty && !entry.session.host.renegotiates packet cid
      | _ => true) = true) : MtusKept trace := by
  intro entry hentry packet haction cid' hrecords
  have hone := List.all_eq_true.mp h entry hentry
  simp only [haction, Bool.and_eq_true, Option.isNone_iff_eq_none, Bool.not_eq_true'] at hone
  obtain ⟨⟨⟨hcontrol, hinterrupt⟩, hsdp⟩, hkept⟩ := hone
  rcases hrecords with ⟨channel, hchannel⟩ | hsome
  · cases channel with
    | control => cases hcontrol.symm.trans hchannel
    | interrupt =>
      have hsame : entry.session.protocols.interrupt = some ⟨cid', true⟩ := hchannel
      rw [hsame] at hinterrupt
      rw [show cid' = cid from of_decide_eq_true hinterrupt]
      exact hkept
  · rw [ExtTreeMap.isEmpty_iff.mp hsdp] at hsome
    simp at hsome

/-- The peer asks once more for the MTU that its interrupt channel has. -/
def sampleRepeated : World MemoryBondStore :=
  (sampleInterrupt.inbound (.acl (signalPacket (.configureRequest 3 0x40 0 [1, 2, 48, 0])))).2

theorem sampleRepeated_reachable : Reachable sampleRepeated := .received _ sampleInterrupt_reachable

theorem cached_mtus_agree_sampleRepeated :
    sampleRepeated.session.protocols.hidp.peerMtu .interrupt = 48 ∧
      ∃ connection, sampleRepeated.session.host.connection = some connection ∧
        (ChannelManager.send 0x40 [0xA1, 1] connection.channels).1 = .ok () := by
  have hkept : MtusKept sampleRepeated.trace :=
    mtusKept_of_interrupt 0x40 (by decide +kernel)
  have hopen : sampleRepeated.session.host.channelInfo 0x40 =
      some (hidInterruptPsm, 48, true) := by decide +kernel
  have hrecorded : sampleRepeated.session.protocols.channel .interrupt = some ⟨0x40, true⟩ := by
    decide +kernel
  have hencode : sampleRepeated.session.protocols.hidp.encodeInput [1] = .ok [0xA1, 1] :=
    encodeInput_eq_ok (by decide +kernel)
  obtain ⟨hmtu, -, htakes⟩ := cached_mtus_agree sampleRepeated_reachable .refl hkept hopen
  exact ⟨hmtu .interrupt hrecorded, htakes _ (.report hrecorded hencode)⟩

/-- The peer opens the interrupt channel with an MTU of 100, and then asks for one of 48. -/
def sampleShrunk : World MemoryBondStore :=
  ((((samplePaired.inbound (.acl (signalPacket (.connectionRequest 1 hidInterruptPsm 0x50)))).2.inbound
    (.acl (signalPacket (.configureRequest 2 0x40 0 [1, 2, 100, 0])))).2.inbound
      (.acl (signalPacket (.configureResponse 1 0x40 0 0 [])))).2.inbound
        (.acl (signalPacket (.configureRequest 3 0x40 0 [1, 2, 48, 0])))).2

theorem sampleShrunk_reachable : Reachable sampleShrunk :=
  .received _ (.received _ (.received _ (.received _ samplePaired_reachable)))

/-- **A report is refused for its size**: the bridge takes it for the MTU that the channel was opened
with, and the channel has another one by now. -/
theorem stale_mtu_refused :
    Reachable sampleShrunk ∧ sampleShrunk.session.terminal = none ∧
    sampleShrunk.session.protocols.interrupt = some ⟨0x40, true⟩ ∧
    sampleShrunk.session.host.channelInfo 0x40 = some (hidInterruptPsm, 48, true) ∧
    sampleShrunk.session.protocols.hidp.peerMtu .interrupt = 100 ∧
    sampleShrunk.session.Accepts 0x40 (0xA1 :: List.replicate 60 0) ∧
    sampleShrunk.session.host.connection.map (fun connection =>
      (ChannelManager.send 0x40 (0xA1 :: List.replicate 60 0) connection.channels).1) =
        some (.error (.invalidPacket "SDU exceeds peer MTU 48")) ∧
    (sampleShrunk.perform (.sendInterrupt (List.replicate 60 0))).1.isOk = false :=
  have hrecorded : sampleShrunk.session.protocols.interrupt = some ⟨0x40, true⟩ := by decide +kernel
  ⟨sampleShrunk_reachable, by decide +kernel, hrecorded, by decide +kernel, by decide +kernel,
    .report hrecorded (encodeInput_eq_ok (by decide +kernel)), by decide +kernel, by decide +kernel⟩

end ClassicHid

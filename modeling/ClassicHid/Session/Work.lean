import ClassicHid.Session.Step

/-!
# The loops of a session end

Carrying out a request of the host may make new requests: an announcement begins a channel, whose
request is put out as ACL packets and may release others. Handling a received SDU may send an
answer. Neither goes on for ever: each round of either loop leaves less work.

## Main results

* `drainOne_decreases`: a request carried out leaves the host with less work
* `serveOne_decreases`: an SDU handled leaves fewer SDUs
-/

namespace ClassicHid

open Foundation BackendSession
open Std (ExtTreeMap)

variable {S : Type}

/-! ### The output of the host -/

theorem length_fragmentAll_le {handle : UInt16} {size : ℕ} {pdus : List L2capPdu}
    {packets : List AclPacket} (h : fragmentAll handle size pdus = .ok packets) :
    packets.length ≤ (pdus.map fun pdu => (pdu.toBytes false).length).sum := by
  induction pdus generalizing packets with
  | nil =>
    cases h
    simp
  | cons pdu pdus ih =>
    rw [fragmentAll] at h
    rcases hf : fragmentL2capPdu handle 0 size (pdu.toBytes false) false with _ | first
    · simp [hf, bind, Except.bind] at h
    rcases hr : fragmentAll handle size pdus with _ | rest
    · simp [hf, hr, bind, Except.bind] at h
    simp only [hf, hr, bind, Except.bind, pure, Except.pure, Except.ok.injEq] at h
    subst h
    have hfirst := length_fragments_le hf
    have hrest := ih hr
    simp only [List.length_append, List.map_cons, List.sum_cons]
    omega

theorem sum_outputWeight_acl (packets : List AclPacket) :
    ((packets.map HostOutput.acl).map outputWeight).sum = packets.length := by
  induction packets with
  | nil => rfl
  | cons packet packets ih =>
    simp only [List.map_cons, List.sum_cons, List.length_cons, ih, outputWeight]
    omega

theorem sum_outputWeight_openedEvents (channels : ChannelManager) :
    ((ClassicHost.openedEvents channels).map outputWeight).sum ≤
      14 * channels.acceptedChannels.length := by
  have hlength : (ClassicHost.openedChannels channels).length ≤ channels.acceptedChannels.length :=
    List.length_filterMap_le _ _
  have hsum {f : UInt32 × UInt16 → HostOutput} (hf : ∀ entry, outputWeight (f entry) = 14)
      (l : List (UInt32 × UInt16)) : ((l.map f).map outputWeight).sum = 14 * l.length := by
    induction l with
    | nil => rfl
    | cons entry l ih =>
      simp only [List.map_cons, List.sum_cons, List.length_cons, ih, hf]
      omega
  rw [ClassicHost.openedEvents, hsum fun _ => rfl]
  omega

theorem length_connectionRequest (identifier : UInt8) (channel : Channel) (cid : UInt16) :
    (({ cid := l2capSignalingCid,
        payload := (ControlFrame.connectionRequest identifier channel.psm cid).toBytes } :
      L2capPdu).toBytes false).length = 12 := by
  have hpsm : (serializePsm channel.psm).length = 2 := by
    cases channel <;> decide +kernel
  simp [L2capPdu.length_toBytes, ControlFrame.toBytes, ControlFrame.payload, hpsm]

/-- A new channel makes little work. -/
theorem hostWork_connectChannel {channel : Channel} {spec : ClassicChannelSpec}
    {host host' : ClassicHost S} {cid : UInt16}
    (h : ClassicHost.connectChannel channel.psm spec host = (.ok cid, host')) :
    hostWork host' ≤ hostWork host + 12 := by
  have hstep := ClassicHost.callChannels_step (ChannelManager.connect channel.psm spec) host
  rw [← ClassicHost.connectChannel, h] at hstep
  cases hstep with
  | flushed hconnection hconnect hhandle hfragments =>
    rename_i connection channels packets
    rcases ChannelManager.connect_spec channel.psm spec connection.channels with
      ⟨error, hspec⟩ | ⟨cid', identifier, _, hspec⟩
    · rw [hspec] at hconnect
      cases hconnect
    rw [hspec] at hconnect
    cases hconnect
    have hpackets := length_fragmentAll_le hfragments
    have hevents := sum_outputWeight_openedEvents
      (ChannelManager.connecting channel.psm (.basic spec) cid identifier connection.channels)
    have hqueue := congrArg List.length (host.aclFlow.enqueue packets).flush_queue
    have hlength := length_connectionRequest identifier channel cid
    simp only [ChannelManager.connecting, List.map_append, List.sum_append, List.map_cons,
      List.map_nil, List.sum_cons, List.sum_nil, hlength] at hpackets
    simp only [ChannelManager.connecting] at hevents
    simp only [AclFlow.enqueue, List.length_append] at hqueue
    simp only [hostWork, ClassicHost.drainedConnection, List.map_append,
      List.sum_append, sum_outputWeight_acl, hconnection, Option.elim_some, AclFlow.enqueue,
      List.map_nil, List.sum_nil, List.length_nil, ChannelManager.connecting]
    omega

/-- A HID channel that an active reconnect begins makes little work. -/
theorem connectHidChannel_work (channel : Channel) {w w' : World S}
    (h : connectHidChannel channel w = (.ok (), w')) :
    hostWork w'.session.host ≤ hostWork w.session.host + 12 := by
  simp only [connectHidChannel, Exec.gets_bind] at h
  split at h
  · rcases hr : ClassicHost.connectChannel channel.psm { mtu := classicServerMtu } w.session.host with
      ⟨error | cid, host⟩
    · have hrun : connectChannel channel.psm w =
          (.error (mapHostError error), BackendSession.hosted host w) := by
        simp only [connectChannel, onHost, hr]
      rw [Exec.bind_error hrun] at h
      cases h
    · have hrun : ∃ trace, connectChannel channel.psm w = (.ok cid,
          { BackendSession.hosted host w with trace := trace }) := by
        simp only [connectChannel, onHost, hr]
        exact ⟨_, rfl⟩
      obtain ⟨trace, hrun⟩ := hrun
      rw [Exec.bind_ok hrun] at h
      cases h
      exact hostWork_connectChannel hr
  · cases h
    exact Nat.le_add_right _ _

theorem announceChannel_host (channel : Channel) (cid mtu : UInt16) (w : World S) :
    (announceChannel channel cid mtu w).1 = .ok () ∧
      (announceChannel channel cid mtu w).2.session.host = w.session.host := by
  simp only [announceChannel, Exec.gets_bind]
  split
  · exact ⟨rfl, World.host_enqueue _ _⟩
  · exact ⟨rfl, rfl⟩

theorem onChannelOpened_work {psm : UInt32} {cid : UInt16} {w w' : World S}
    (h : onChannelOpened psm cid w = (.ok (), w')) :
    hostWork w'.session.host ≤ hostWork w.session.host + 12 := by
  simp only [onChannelOpened, Exec.gets_bind] at h
  rcases hinfo : w.session.host.channelInfo cid with _ | ⟨actualPsm, mtu, isOpen⟩ <;>
    rw [hinfo] at h
  · cases h
  dsimp only at h
  split at h
  · cases h
  split at h
  · cases h
    exact Nat.le_add_right _ _
  split at h
  · obtain ⟨hok, hhost⟩ := announceChannel_host .control cid mtu w
    rw [Exec.bind_ok (Prod.ext hok rfl)] at h
    exact hhost ▸ connectHidChannel_work _ h
  split at h
  · obtain ⟨-, hhost⟩ := announceChannel_host .interrupt cid mtu w
    rw [h] at hhost
    rw [hhost]
    exact Nat.le_add_right _ _
  · cases h

theorem sendPacket_host (packet : Packet) (w : World S) :
    (sendPacket packet w).2.session.host = w.session.host := by
  unfold sendPacket
  split <;> rfl

theorem hideController_host [BondStore S] (w : World S) :
    (hideController w).2.session.host = w.session.host :=
  (hideController_keeps w (.refl w)).host

/-- A request carried out makes less work than it was counted for. -/
theorem handleOutput_work [BondStore S] {item : HostOutput} {w w' : World S}
    (h : handleOutput item w = (.ok (), w')) :
    hostWork w'.session.host < hostWork w.session.host + outputWeight item := by
  have hsame (heq : w'.session.host = w.session.host) :
      hostWork w'.session.host < hostWork w.session.host + outputWeight item := by
    have hpos : 0 < outputWeight item := by
      unfold outputWeight
      split <;> decide
    rw [heq]
    omega
  cases item with
  | command command =>
    refine hsame ?_
    have hhost := sendPacket_host (.command command) w
    rwa [show sendPacket (.command command) w = _ from h] at hhost
  | acl packet =>
    refine hsame ?_
    have hhost := sendPacket_host (.acl packet) w
    rwa [show sendPacket (.acl packet) w = _ from h] at hhost
  | event event =>
    cases event with
    | connected peer handle =>
      refine hsame ?_
      simp only [handleOutput, record, update, Exec.modify_bind] at h
      obtain ⟨_, w₁, hhide, h⟩ := Exec.bind_eq_ok.mp h
      have hhost := hideController_host ((w.log (.connected peer handle)).set fun session =>
        { session with connection := some (peer, handle), window := .connected, protocols := {} })
      rw [hhide] at hhost
      cases h
      exact (World.host_enqueue _ _).trans hhost
    | disconnected peer reason =>
      refine hsame ?_
      simp only [handleOutput, update, Exec.modify_bind] at h
      cases h
      exact World.host_enqueue _ _
    | encrypted peer =>
      have := connectHidChannel_work .control h
      simp only [outputWeight]
      omega
    | channelOpened psm cid =>
      have := onChannelOpened_work h
      simp only [outputWeight]
      omega
    | bondStored peer =>
      cases h
      exact hsame rfl

/-- **The host's requests come to an end**: each one carried out leaves less work. -/
theorem drainOne_decreases [BondStore S] :
    Exec.Decreases (fun w : World S => hostWork w.session.host) drainOne := by
  intro w w' h
  rcases hout : w.session.host.output with _ | ⟨item, output⟩
  · simp [drainOne, popOutput, ClassicHost.popOutput, hout] at h
  · simp only [drainOne, popOutput, ClassicHost.popOutput, hout, Exec.update_bind] at h
    obtain ⟨_, w₁, hhandle, h⟩ := Exec.bind_eq_ok.mp h
    cases h
    have hwork := handleOutput_work hhandle
    have hpopped : hostWork w.session.host =
        hostWork { w.session.host with output := output } + outputWeight item := by
      simp only [hostWork, hout, List.map_cons, List.sum_cons]
      omega
    change hostWork w'.session.host < hostWork w.session.host
    rw [hpopped]
    exact hwork

/-! ### Received SDUs -/

theorem ClassicChannel.backlog_popReceived {channel : ClassicChannel} {sdu : Bytes}
    (h : channel.popReceived.1 = some sdu) :
    channel.popReceived.2.backlog < channel.backlog := by
  unfold ClassicChannel.popReceived at h ⊢
  split at h
  · cases h
  · rename_i hreceived
    simp only [ClassicChannel.backlog, hreceived, List.length_cons]
    omega

theorem hostBacklog_takeChannelSdu {cid : UInt16} {host : ClassicHost S} {sdu : Bytes}
    (h : (host.takeChannelSdu cid).1 = some sdu) :
    hostBacklog cid (host.takeChannelSdu cid).2 < hostBacklog cid host := by
  unfold ClassicHost.takeChannelSdu at h ⊢
  rcases hconnection : host.connection with _ | connection
  · rw [hconnection] at h
    cases h
  rcases hchannel : connection.channels.channel cid with _ | channel
  · simp only [hconnection, hchannel] at h
    cases h
  simp only [hconnection, hchannel] at h ⊢
  simp only [hostBacklog, ClassicHost.setChannels, hconnection, Option.map_some, Option.elim_some,
    ChannelManager.channel_insert_self, hchannel]
  exact ClassicChannel.backlog_popReceived h

theorem ChannelManager.Same.backlog {m m' : ChannelManager}
    (h : Same ChannelManager.sendView m m') (cid : UInt16) :
    (m'.channel cid).elim 0 (·.backlog) = (m.channel cid).elim 0 (·.backlog) := by
  have hchannel := congrArg (fun o : Option (ClassicChannel × ℕ) => o.elim 0 (·.2)) (h.channel cid)
  rw [Option.elim_map, Option.elim_map] at hchannel
  exact hchannel

theorem hostBacklog_sendChannelSdu (cid cid' : UInt16) (sdu : Bytes) (host : ClassicHost S) :
    hostBacklog cid (ClassicHost.sendChannelSdu cid' sdu host).2 = hostBacklog cid host := by
  have hstep := ClassicHost.callChannels_step (ChannelManager.send cid' sdu) host
  rw [← ClassicHost.sendChannelSdu] at hstep
  generalize ClassicHost.sendChannelSdu cid' sdu host = outcome at hstep ⊢
  obtain ⟨r, host'⟩ := outcome
  have hsame {connection : Connection} {channels : ChannelManager} {r : Except L2capError Unit}
      (h : ChannelManager.send cid' sdu connection.channels = (r, channels)) :
      (channels.channel cid).elim 0 (·.backlog) =
        (connection.channels.channel cid).elim 0 (·.backlog) := by
    have hkeeps := ChannelManager.send_keeps cid' sdu connection.channels (.refl _)
    rw [h] at hkeeps
    exact hkeeps.backlog cid
  cases hstep with
  | unlinked => rfl
  | refused hconnection hsend =>
    simp only [hostBacklog, hconnection]
    exact (hsame hsend :)
  | stuck hconnection hsend =>
    simp only [hostBacklog, hconnection]
    exact (hsame hsend :)
  | flushed hconnection hsend =>
    simp only [hostBacklog, hconnection]
    exact (hsame hsend :)

/-- An operation that takes nothing from what waits on a channel, and adds nothing to it. -/
def KeepsBacklog (cid : UInt16) {α : Type} (m : Op S α) : Prop :=
  ∀ n, Exec.Keeps (fun w : World S => hostBacklog cid w.session.host = n) m

theorem KeepsBacklog.bind {cid : UInt16} {α β : Type} {m : Op S α} {f : α → Op S β}
    (hm : KeepsBacklog cid m) (hf : ∀ a, KeepsBacklog cid (f a)) : KeepsBacklog cid (m >>= f) :=
  fun n => Exec.Keeps.bind (hm n) fun a => hf a n

theorem keepsBacklog_pure {cid : UInt16} {α : Type} (a : α) :
    KeepsBacklog cid (pure a : Op S α) := fun _ _ h => h

theorem keepsBacklog_update {cid : UInt16} {f : BackendSession S → BackendSession S}
    (h : ∀ session, (f session).host = session.host) : KeepsBacklog cid (update f) := by
  intro n w hw
  change hostBacklog cid (f w.session).host = n
  rwa [h]

theorem keepsBacklog_sendChannelSdu (cid cid' : UInt16) (sdu : Bytes) :
    KeepsBacklog (S := S) cid (sendChannelSdu cid' sdu) := by
  intro n w hw
  change hostBacklog cid (ClassicHost.sendChannelSdu cid' sdu w.session.host).2 = n
  rwa [hostBacklog_sendChannelSdu]

theorem keepsBacklog_enqueueEvent (cid : UInt16) (event : Event) :
    KeepsBacklog (S := S) cid (enqueueEvent event) := by
  intro n w hw
  change hostBacklog cid (w.enqueue event).session.host = n
  rwa [World.host_enqueue]

theorem keepsBacklog_handleSdp (cid cid' : UInt16) (request : Bytes) :
    KeepsBacklog (S := S) cid (handleSdp cid' request) := by
  refine KeepsBacklog.bind (fun _ _ h => h) fun session => ?_
  split
  · exact keepsBacklog_pure ()
  · refine KeepsBacklog.bind (keepsBacklog_update fun _ => rfl) fun _ => ?_
    split
    · exact keepsBacklog_sendChannelSdu _ _ _
    · exact keepsBacklog_pure ()

theorem keepsBacklog_applyHidpEvent (cid : UInt16) (event : HidpBridgeEvent) :
    KeepsBacklog (S := S) cid (applyHidpEvent event) := by
  cases event with
  | output channel payload => exact keepsBacklog_enqueueEvent _ _
  | controlResponse response =>
    refine KeepsBacklog.bind (fun _ _ h => h) fun session => ?_
    split
    · split
      · exact keepsBacklog_sendChannelSdu _ _ _
      · exact keepsBacklog_pure ()
    · exact keepsBacklog_pure ()
  | _ => exact keepsBacklog_pure ()

theorem keepsBacklog_handleHidp (cid : UInt16) (channel : Channel) (cid' : UInt16) (sdu : Bytes) :
    KeepsBacklog (S := S) cid (handleHidp channel cid' sdu) := by
  refine KeepsBacklog.bind (fun _ _ h => h) fun session => ?_
  refine KeepsBacklog.bind (keepsBacklog_update fun _ => rfl) fun _ => ?_
  split
  · exact fun n => Exec.forEach_keeps fun event _ => keepsBacklog_applyHidpEvent cid event n
  · split
    · exact keepsBacklog_sendChannelSdu _ _ _
    · exact keepsBacklog_pure ()
  · exact keepsBacklog_pure ()

/-- **The received SDUs come to an end**: each one handled leaves fewer. -/
theorem serveOne_decreases {cid : UInt16} {handle : Bytes → Op S Unit}
    (h : ∀ sdu, KeepsBacklog cid (handle sdu)) :
    Exec.Decreases (fun w : World S => hostBacklog cid w.session.host) (serveOne cid handle) := by
  intro w w' hrun
  simp only [serveOne, takeChannelSdu, Exec.update_bind] at hrun
  rcases htake : (w.session.host.takeChannelSdu cid).1 with _ | sdu <;> rw [htake] at hrun
  · cases hrun
  · obtain ⟨_, w₁, hhandle, hrun⟩ := Exec.bind_eq_ok.mp hrun
    cases hrun
    have hkeeps := h sdu _ (w.set ({ · with host := (w.session.host.takeChannelSdu cid).2 })) rfl
    rw [hhandle] at hkeeps
    change hostBacklog cid w'.session.host = _ at hkeeps
    change hostBacklog cid w'.session.host < hostBacklog cid w.session.host
    rw [hkeeps]
    exact hostBacklog_takeChannelSdu htake

end ClassicHid

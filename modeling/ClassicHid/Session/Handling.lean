import ClassicHid.Session.Work

/-!
# Handling a packet is a sequence of steps

A packet that arrives while the host is quiet is handled in steps: it is screened, the host is
told, what the host asks for is carried out and the channels are served. Unless that ends the
session, the host is quiet again.

## Main definitions

* `Tends`: an operation that is a sequence of steps and keeps a property when it returns
* `Admissible`, `Screened`: events the host may be given, and what screening leaves

## Main results

* `drainHostOutput_moves`: carrying out what the host asks for
* `processProtocolInput_tends`: serving the channels
* `handlePolledPacket_steps`: a packet
-/

namespace ClassicHid

open Foundation BackendSession World
open Std (ExtTreeMap)

variable {S : Type} [BondStore S]

/-! ### The output of the host -/

theorem sendPacket_flushed {w : World S} {item : HostOutput} {output : List HostOutput}
    {packet : Packet} (hout : w.session.host.output = item :: output)
    (hitem : (∃ command, item = .command command ∧ packet = .command command) ∨
      ∃ acl, item = .acl acl ∧ packet = .acl acl) :
    Steps w (sendPacket packet (w.popped output)).2 := by
  rcases hio : w.session.io with _ | io
  · have hnone : (w.popped output).session.io = none := hio
    simp only [sendPacket, hnone]
    refine .single (.skipped w hout ?_)
    rcases hitem with ⟨_, rfl, -⟩ | ⟨_, rfl, -⟩ <;> rfl
  · have hsome : (w.popped output).session.io = some io := hio
    simp only [sendPacket, hsome]
    refine .single (.flushed w hout hitem ?_)
    rw [hio]
    exact uses_send packet io

/-- Carrying out a request of the host is a sequence of steps. -/
theorem handleOutput_steps {w : World S} {item : HostOutput} {output : List HostOutput}
    (hout : w.session.host.output = item :: output) (hclear : Clear w) :
    Steps w (handleOutput item (w.popped output)).2 ∧
      ((handleOutput item (w.popped output)).1.isOk = true →
        Clear (handleOutput item (w.popped output)).2) := by
  have hpopped : Clear (w.popped output) := hclear
  cases item with
  | command command =>
    refine ⟨sendPacket_flushed hout (.inl ⟨command, rfl, rfl⟩), fun _ => ?_⟩
    rw [handleOutput, Clear, sendPacket_host]
    exact hpopped
  | acl packet =>
    refine ⟨sendPacket_flushed hout (.inr ⟨packet, rfl, rfl⟩), fun _ => ?_⟩
    rw [handleOutput, Clear, sendPacket_host]
    exact hpopped
  | event event =>
    cases event with
    | connected peer handle =>
      simp only [handleOutput, record, update, Exec.modify_bind]
      have hlinked := Step.linked w hout
      have hsends := hideController_keeps _ (Sends.refl
        (((w.popped output).log (.connected peer handle)).set fun session =>
          { session with connection := some (peer, handle), window := .connected, protocols := {} }))
      rcases hrun : hideController (((w.popped output).log (.connected peer handle)).set fun session =>
        { session with connection := some (peer, handle), window := .connected, protocols := {} })
        with ⟨error | _, w₁⟩ <;> rw [hrun] at hsends
      · rw [Exec.bind_error hrun]
        exact ⟨.head hlinked hsends.steps, fun h => by cases h⟩
      · rw [Exec.bind_ok hrun]
        obtain ⟨io, hio⟩ := hsends.session
        refine ⟨.head hlinked (hsends.steps.tail (.admitted _ handle ?_ ?_ ?_ ?_)), fun _ => ?_⟩
        · exact hsends.follows ⟨[], _, _, rfl, by simp⟩
        · exact congrArg (·.connection) hio
        · exact congrArg (·.window) hio
        · exact congrArg (·.protocols) hio
        · change (w₁.enqueue (.connected peer)).session.host.accepted = []
          rw [host_enqueue, hsends.host]
          exact hpopped
    | disconnected peer reason =>
      refine ⟨.single (.unlinked w hout), fun _ => ?_⟩
      simp only [handleOutput, update, Exec.modify_bind, enqueueEvent, Exec.modify_apply]
      rw [Clear, host_enqueue]
      exact hpopped
    | encrypted peer =>
      obtain ⟨hsteps, hpost⟩ := connectHidChannel_moves .control (w.popped output)
        ⟨hpopped, fun h => by cases h⟩
      exact ⟨.head (.skipped w hout rfl) hsteps, hpost⟩
    | channelOpened psm cid =>
      exact onChannelOpened_steps (.inl ⟨output, hout, rfl⟩) hclear
    | bondStored peer => exact ⟨.single (.skipped w hout rfl), fun _ => hpopped⟩

/-- **Carrying out what the host asks for** is a sequence of steps, after which it asks for
nothing. -/
theorem drainHostOutput_moves :
    Exec.Moves Step (Clear (S := S)) drainHostOutput fun r w =>
      r.isOk = true → w.session.host.output = [] ∧ Clear w := by
  refine Exec.moves_loop (fun w hclear => ?_) fun w w' _ h => drainOne_decreases w w' h
  rcases hout : w.session.host.output with _ | ⟨item, output⟩
  · simp only [drainOne, popOutput, ClassicHost.popOutput, hout, Exec.update_bind]
    exact ⟨.refl, fun _ => ⟨hout, hclear⟩⟩
  · obtain ⟨hsteps, hpost⟩ := handleOutput_steps hout hclear
    have hrun : drainOne w = (do
        handleOutput item
        pure true : Op S Bool) (w.popped output) := by
      simp only [drainOne, popOutput, ClassicHost.popOutput, hout, Exec.update_bind]
      rfl
    rw [hrun]
    rcases hhandle : handleOutput item (w.popped output) with ⟨error | _, w'⟩ <;>
      rw [hhandle] at hsteps hpost
    · rw [Exec.bind_error hhandle]
      exact ⟨hsteps, fun h => by cases h⟩
    · rw [Exec.bind_ok hhandle]
      exact ⟨hsteps, hpost rfl⟩

/-! ### SDP and HIDP -/

/-- An operation that is a sequence of steps and, when it returns, keeps `P`. -/
abbrev Tends (P : World S → Prop) {α : Type} (m : Op S α) : Prop :=
  Exec.Moves Step P m fun r w => r.isOk = true → P w

theorem Tends.bind {P : World S → Prop} {α β : Type} {m : Op S α} {f : α → Op S β}
    (hm : Tends P m) (hf : ∀ a, Tends P (f a)) : Tends P (m >>= f) := by
  intro w hw
  obtain ⟨hsteps, hpost⟩ := hm w hw
  rw [Exec.bind_apply]
  rcases hrun : m w with ⟨error | a, w'⟩ <;> rw [hrun] at hsteps hpost
  · exact ⟨hsteps, fun h => by cases h⟩
  · obtain ⟨hsteps', hpost'⟩ := hf a w' (hpost rfl)
    exact ⟨hsteps.trans hsteps', hpost'⟩

theorem tends_pure {P : World S → Prop} {α : Type} (a : α) : Tends P (pure a : Op S α) :=
  fun _ hw => ⟨.refl, fun _ => hw⟩

theorem tends_gets {P : World S → Prop} {α : Type} (g : World S → α) :
    Tends P (Exec.gets g : Op S α) :=
  fun _ hw => ⟨.refl, fun _ => hw⟩

theorem tends_forEach {P : World S → Prop} {α : Type} {f : α → Op S Unit} {l : List α}
    (hf : ∀ a ∈ l, Tends P (f a)) : Tends P (Exec.forEach f l) := by
  induction l with
  | nil => exact tends_pure ()
  | cons a l ih =>
    exact Tends.bind (hf a (by simp)) fun _ => ih fun b hb => hf b (by simp [hb])

/-- The link and the HID channels of the session stay as they are while it serves them. -/
structure Serves (channels : Channel → Option ProtocolChannel) (w : World S) : Prop where
  clear : Clear w
  link : w.session.host.KeepsLink
  channel (channel : Channel) : w.session.protocols.channel channel = channels channel

variable {channels : Channel → Option ProtocolChannel}

omit [BondStore S] in
theorem ClassicHost.accepted_sendChannelSdu {cid : UInt16} {sdu : Bytes} {host host' : ClassicHost S}
    (h : ClassicHost.sendChannelSdu cid sdu host = (.ok (), host')) : host'.accepted = [] := by
  have hstep := ClassicHost.callChannels_step (ChannelManager.send cid sdu) host
  rw [← ClassicHost.sendChannelSdu, h] at hstep
  cases hstep
  rfl

theorem sendChannelSdu_tends (cid : UInt16) (sdu : Bytes) :
    Tends (S := S) (Serves channels) (sendChannelSdu cid sdu) := by
  intro w hw
  refine ⟨.single (.hosted w (.send cid sdu) hw.clear), fun hok =>
    ⟨?_, (ClassicHost.callChannels_step (ChannelManager.send cid sdu) _).keepsLink hw.link,
      hw.channel⟩⟩
  rcases hr : ClassicHost.sendChannelSdu cid sdu w.session.host with ⟨error | _, host⟩
  · simp [sendChannelSdu, onHost, hr, Except.mapError, Except.isOk, Except.toBool] at hok
  · change (ClassicHost.sendChannelSdu cid sdu w.session.host).2.accepted = []
    rw [hr]
    exact ClassicHost.accepted_sendChannelSdu hr

omit [BondStore S] in
theorem ClassicHost.frame_takeChannelSdu (cid : UInt16) (host : ClassicHost S) :
    (host.takeChannelSdu cid).2.accepted = host.accepted ∧
      (host.takeChannelSdu cid).2.bonds = host.bonds := by
  unfold ClassicHost.takeChannelSdu
  split
  · exact ⟨rfl, rfl⟩
  · rename_i connection hconnection
    split
    · exact ⟨rfl, rfl⟩
    · refine ⟨?_, rfl⟩
      simp only [ClassicHost.accepted, ClassicHost.setChannels, hconnection]
      rfl

omit [BondStore S] in
theorem ClassicHost.output_takeChannelSdu (cid : UInt16) (host : ClassicHost S) :
    (host.takeChannelSdu cid).2.output = host.output := by
  unfold takeChannelSdu
  split
  · rfl
  · split <;> rfl

theorem takeChannelSdu_tends (cid : UInt16) :
    Tends (S := S) (Serves channels) (takeChannelSdu cid) := by
  intro w hw
  obtain ⟨haccepted, hbonds⟩ := ClassicHost.frame_takeChannelSdu cid w.session.host
  have hstep := Step.hosted w (.take cid) trivial
  simp only [HostOp.run] at hstep
  rw [hosted_eq_set hbonds] at hstep
  refine ⟨.single hstep, fun _ => ⟨haccepted.trans hw.clear, ?_, hw.channel⟩⟩
  intro item hitem
  exact hw.link item (by rwa [← ClassicHost.output_takeChannelSdu cid])

theorem serve_tends {cid : UInt16} {handle : Bytes → Op S Unit}
    (hhandle : ∀ sdu, Tends (Serves channels) (handle sdu))
    (hbacklog : ∀ sdu, KeepsBacklog cid (handle sdu)) :
    Tends (Serves channels) (serve cid handle) := by
  refine Exec.moves_loop (fun w hw => ?_) fun w w' _ h => serveOne_decreases hbacklog w w' h
  have hone : Tends (Serves channels) (serveOne cid handle) := by
    refine Tends.bind (takeChannelSdu_tends cid) fun sdu => ?_
    cases sdu with
    | none => exact tends_pure false
    | some sdu => exact Tends.bind (hhandle sdu) fun _ => tends_pure true
  obtain ⟨hsteps, hpost⟩ := hone w hw
  rcases hrun : serveOne cid handle w with ⟨error | more, w'⟩ <;> rw [hrun] at hsteps hpost
  · exact ⟨hsteps, fun h => by cases h⟩
  · cases more with
    | true => exact ⟨hsteps, hpost rfl⟩
    | false => exact ⟨hsteps, fun _ => hpost rfl⟩

/-- SDP and HIDP change their own state in one step. -/
theorem protocolsUpdate_tends {f : ProtocolState → ProtocolState} {α : Type} {m : Op S α}
    (hm : Tends (Serves channels) m) {w : World S} (hw : Serves channels w)
    (hf : w.MayTend (f w.session.protocols)) :
    Steps w ((do protocolsUpdate f; m) w).2 ∧ (((do protocolsUpdate f; m) w).1.isOk = true →
      Serves channels ((do protocolsUpdate f; m) w).2) := by
  obtain ⟨hsteps, hpost⟩ := hm (w.set fun session =>
    { session with protocols := f session.protocols })
    ⟨hw.clear, hw.link, fun channel => (hf.channel channel).trans (hw.channel channel)⟩
  exact ⟨.head (.tended w hf) hsteps, hpost⟩

theorem handleSdp_tends (cid : UInt16) (request : Bytes) :
    Tends (S := S) (Serves channels) (handleSdp cid request) := by
  intro w hw
  simp only [handleSdp, Exec.gets_bind]
  rcases hserver : w.session.protocols.sdp[cid]? with _ | server
  · exact ⟨.refl, fun _ => hw⟩
  refine protocolsUpdate_tends ?_ hw ⟨fun channel => by cases channel <;> rfl, fun _ => rfl,
    fun {cid' sdp} hsdp => .inl ?_⟩
  · rcases (server.handleSdu request).1 with _ | response
    · exact tends_pure ()
    · exact sendChannelSdu_tends _ _
  · rw [ExtTreeMap.getElem?_insert] at hsdp
    split at hsdp
    · rename_i heq
      obtain rfl : cid = cid' := Std.LawfulEqCmp.eq_of_compare heq
      cases hsdp
      exact ⟨server, hserver, server.mtu_handleSdu request⟩
    · exact ⟨sdp, hsdp, rfl⟩

/-- Every result of a successful `mapM` was made from an element. -/
theorem exists_of_mem_mapM {α β ε : Type} {f : α → Except ε β} {l : List α} {bs : List β}
    (h : l.mapM f = .ok bs) : ∀ b ∈ bs, ∃ a ∈ l, f a = .ok b := by
  induction l generalizing bs with
  | nil =>
    cases h
    exact fun _ hb => absurd hb List.not_mem_nil
  | cons a l ih =>
    rw [List.mapM_cons] at h
    rcases hhead : f a with error | b <;> rw [hhead] at h
    · cases h
    rcases htail : l.mapM f with error | bs' <;> rw [htail] at h
    · cases h
    cases h
    rw [List.forall_mem_cons]
    refine ⟨⟨a, List.mem_cons_self, hhead⟩, fun b hb => ?_⟩
    obtain ⟨a, ha, hfa⟩ := ih htail b hb
    exact ⟨a, List.mem_cons_of_mem _ ha, hfa⟩

/-- A report is passed on for the channel it came on. -/
theorem HidpBridge.channel_of_output {channel channel' : Channel} {sdu payload : Bytes}
    {bridge bridge' : HidpBridge} {events : List HidpBridgeEvent}
    (h : HidpBridge.handle channel sdu bridge = (.ok events, bridge'))
    (hmem : .output channel' payload ∈ events) : channel' = channel := by
  obtain ⟨bridge₁, deviceEvents, htranslate⟩ :
      ∃ (bridge₁ : HidpBridge) (deviceEvents : List DeviceEvent),
      deviceEvents.mapM (bridge₁.translateEvent channel) = .ok events := by
    unfold HidpBridge.handle at h
    cases channel <;>
    · obtain ⟨deviceEvents, bridge₁, -, h⟩ := Exec.bind_eq_ok.mp h
      simp only [Exec.get_bind, Exec.lift_apply, Prod.mk.injEq] at h
      exact ⟨bridge₁, deviceEvents, h.1⟩
  obtain ⟨event, -, hevent⟩ := exists_of_mem_mapM htranslate _ hmem
  cases event with
  | sendControl message =>
    simp only [HidpBridge.translateEvent] at hevent
    rcases hencode : bridge₁.encodeControl message with error | response <;>
      simp [hencode, bind, Except.bind, pure, Except.pure] at hevent
  | controlData reportType data | interruptData reportType data =>
    simp only [HidpBridge.translateEvent, pure, Except.pure, Except.ok.injEq] at hevent
    split at hevent <;> cases hevent
    rfl
  | _ => cases hevent

theorem applyHidpEvents_tends {channel : Channel} {protocolChannel : ProtocolChannel}
    (hchannel : channels channel = some protocolChannel) (hopen : protocolChannel.open = true)
    {events : List HidpBridgeEvent}
    (h : ∀ channel' payload, .output channel' payload ∈ events → channel' = channel) :
    Tends (S := S) (Serves channels) (applyHidpEvents events) := by
  refine tends_forEach fun event hevent => ?_
  cases event with
  | output channel' payload =>
    intro w hw
    rw [h channel' payload hevent]
    have hc := (hw.channel channel).trans hchannel
    refine ⟨.single (.reported w payload hc hopen hw.link), fun _ => ⟨?_, ?_, fun c => ?_⟩⟩
    · change (w.enqueue _).session.host.accepted = []
      rw [host_enqueue]
      exact hw.clear
    · change (w.enqueue _).session.host.KeepsLink
      rw [host_enqueue]
      exact hw.link
    · change (w.enqueue _).session.protocols.channel c = _
      rw [protocols_enqueue]
      exact hw.channel c
  | controlResponse response =>
    refine Tends.bind (tends_gets _) fun session => ?_
    split
    · split
      · exact sendChannelSdu_tends _ _
      · exact tends_pure ()
    · exact tends_pure ()
  | _ => exact tends_pure ()

theorem handleHidp_tends {channel : Channel} {protocolChannel : ProtocolChannel}
    (hchannel : channels channel = some protocolChannel) (hopen : protocolChannel.open = true)
    (cid : UInt16) (sdu : Bytes) :
    Tends (S := S) (Serves channels) (handleHidp channel cid sdu) := by
  intro w hw
  simp only [handleHidp, Exec.gets_bind]
  have hmtu (channel' : Channel) :=
    HidpBridge.peerMtu_handle channel channel' sdu w.session.protocols.hidp
  rcases hhandle : HidpBridge.handle channel sdu w.session.protocols.hidp with ⟨result, hidp⟩
  rw [hhandle] at hmtu
  refine protocolsUpdate_tends ?_ hw
    ⟨fun channel => by cases channel <;> rfl, hmtu, fun hsdp => .inl ⟨_, hsdp, rfl⟩⟩
  rcases result with error | events
  · rcases error with channel' | _ | _
    · cases channel' with
      | control =>
        dsimp only
        split
        · exact sendChannelSdu_tends _ _
        · exact tends_pure ()
      | interrupt => exact tends_pure ()
    · exact tends_pure ()
    · exact tends_pure ()
  · exact applyHidpEvents_tends hchannel hopen fun _ _ hmem =>
      HidpBridge.channel_of_output hhandle hmem

theorem serveHidp_tends {channel : Channel} {protocolChannel : Option ProtocolChannel}
    (hchannel : channels channel = protocolChannel) :
    Tends (S := S) (Serves channels) (serveHidp channel protocolChannel) := by
  cases protocolChannel with
  | none => exact tends_pure ()
  | some protocolChannel =>
    simp only [serveHidp]
    split
    · rename_i hopen
      exact serve_tends (fun sdu => handleHidp_tends hchannel hopen _ sdu)
        fun sdu => keepsBacklog_handleHidp _ _ _ sdu
    · exact tends_pure ()

/-- The host has nothing to announce, and its link stays. -/
def Calm (w : World S) : Prop := Clear w ∧ w.session.host.KeepsLink

/-- **Serving the channels** is a sequence of steps. -/
theorem processProtocolInput_tends : Tends (Calm (S := S)) processProtocolInput := by
  intro w hw
  have hserves : Serves w.session.protocols.channel w := ⟨hw.1, hw.2, fun _ => rfl⟩
  have hinput : Tends (Serves w.session.protocols.channel) (do
      Exec.forEach serveSdp w.session.protocols.sdp.keys
      let protocols ← Exec.gets (·.session.protocols)
      serveHidp .control protocols.control
      serveHidp .interrupt protocols.interrupt : Op S Unit) := by
    refine Tends.bind (tends_forEach fun cid _ => serve_tends (fun sdu => handleSdp_tends cid sdu)
      fun sdu => keepsBacklog_handleSdp _ _ sdu) fun _ w' hw' => ?_
    simp only [Exec.gets_bind]
    exact Tends.bind (serveHidp_tends (hw'.channel .control).symm)
      (fun _ => serveHidp_tends (hw'.channel .interrupt).symm) w' hw'
  obtain ⟨hsteps, hpost⟩ := hinput w hserves
  exact ⟨hsteps, fun h => ⟨(hpost h).clear, (hpost h).link⟩⟩

omit [BondStore S] in
theorem connectHidChannel_keepsLink (channel : Channel) :
    Exec.Keeps (fun w : World S => w.session.host.KeepsLink) (connectHidChannel channel) := by
  intro w hw
  have hlink := (ClassicHost.callChannels_step
    (ChannelManager.connect channel.psm { mtu := classicServerMtu }) w.session.host).keepsLink hw
  rw [← ClassicHost.connectChannel] at hlink
  simp only [connectHidChannel, Exec.gets_bind]
  split
  · rcases hr : ClassicHost.connectChannel channel.psm { mtu := classicServerMtu } w.session.host with
      ⟨error | cid, host⟩ <;> rw [hr] at hlink
    · rw [Exec.bind_error (by simp only [connectChannel, onHost, hr]; rfl)]
      exact hlink
    · rw [Exec.bind_ok (by simp only [connectChannel, onHost, hr]; rfl)]
      exact hlink
  · exact hw

omit [BondStore S] in
theorem announceChannel_keepsLink (channel : Channel) (cid mtu : UInt16) :
    Exec.Keeps (fun w : World S => w.session.host.KeepsLink) (announceChannel channel cid mtu) := by
  intro w hw
  simp only [announceChannel, Exec.gets_bind]
  split
  · change (World.enqueue _ _).session.host.KeepsLink
    rw [host_enqueue]
    exact hw
  · exact hw

omit [BondStore S] in
/-- A channel that opens leaves the link. -/
theorem onChannelOpened_keepsLink (psm : UInt32) (cid : UInt16) :
    Exec.Keeps (fun w : World S => w.session.host.KeepsLink) (onChannelOpened psm cid) := by
  intro w hw
  simp only [onChannelOpened, Exec.gets_bind]
  rcases w.session.host.channelInfo cid with _ | ⟨actualPsm, mtu, isOpen⟩
  · exact hw
  dsimp only
  split
  · exact hw
  split
  · exact hw
  split
  · exact Exec.Keeps.bind (announceChannel_keepsLink .control _ _)
      (fun _ => connectHidChannel_keepsLink .interrupt) w hw
  split
  · exact announceChannel_keepsLink .interrupt _ _ w hw
  · exact hw

theorem refreshChannel_tends (channel : Channel) :
    Tends (Calm (S := S)) (refreshChannel channel) := by
  intro w hw
  simp only [refreshChannel, Exec.gets_bind]
  rcases hc : w.session.protocols.channel channel with _ | protocolChannel
  · exact ⟨.refl, fun _ => hw⟩
  dsimp only
  split
  · rename_i hrefresh
    have hopen : protocolChannel.open = false := by simpa using hrefresh.1
    have hsource : Source w channel.psm protocolChannel.cid w :=
      .inr ⟨channel, rfl, by rw [hc, ← hopen], rfl⟩
    obtain ⟨hsteps, hclear⟩ := onChannelOpened_steps hsource hw.1
    exact ⟨hsteps, fun hok => ⟨hclear hok, onChannelOpened_keepsLink _ _ w hw.2⟩⟩
  · exact ⟨.refl, fun _ => hw⟩

/-! ### Packets -/

theorem requireLen_eq_ok {parameters : Bytes} {expected : ℕ} {field : String}
    (h : requireLen parameters expected field = .ok ()) : parameters.length = expected := by
  rw [requireLen] at h
  split at h
  · assumption
  · cases h

/-- The events an HCI event stands for: credits, or one event that says what the HCI event
says. -/
inductive Decodes (event : EventPacket) : List ClassicEvent → Prop
  | nothing : Decodes event []
  | credits {events : List ClassicEvent} :
      (∀ e ∈ events, ∃ handle completed, e = .numberOfCompletedPackets handle completed) →
      Decodes event events
  | request {peer : BluetoothAddress} : event.eventCode = eventConnectionRequest →
      addressAt event.parameters 0 = .ok peer → Decodes event [.connectionRequest peer]
  | complete {peer : BluetoothAddress} : event.eventCode = eventConnectionComplete →
      event.parameters.length = 11 → addressAt event.parameters 3 = .ok peer →
      Decodes event [.connectionComplete (event.parameters.getD 0 0)
        (le16At event.parameters 1) peer]
  | notification {peer : BluetoothAddress} {linkKey : Bytes} {linkKeyType : UInt8}
      {h : linkKey.length = 16} : event.eventCode = eventLinkKeyNotification →
      Decodes event [.linkKeyNotification peer linkKey linkKeyType h]
  | encryption {status : UInt8} {handle : UInt16} {enabled : Bool} :
      event.eventCode = eventEncryptionChange →
      Decodes event [.encryptionChange status handle enabled]
  | disconnection : event.eventCode = eventDisconnectionComplete → event.parameters.length = 4 →
      event.parameters.getD 0 0 = 0 →
      Decodes event [.disconnectionComplete (le16At event.parameters 1) (event.parameters.getD 3 0)]
  | other {e : ClassicEvent} : ClassicHost.isAnswered e = true →
      (∀ status handle enabled, e ≠ .encryptionChange status handle enabled) → Decodes event [e]

theorem peerEvent_eq_ok {parameters : Bytes} {length : ℕ} {field : String}
    {make : BluetoothAddress → ClassicEvent} {events : List ClassicEvent}
    (h : peerEvent parameters length field make = .ok events) :
    ∃ peer, addressAt parameters 0 = .ok peer ∧ events = [make peer] := by
  obtain ⟨_, -, h⟩ := except_bind_eq_ok.mp h
  obtain ⟨peer, haddress, h⟩ := except_bind_eq_ok.mp h
  cases h
  exact ⟨peer, haddress, rfl⟩

theorem completedPacketEvents_eq_ok {parameters : Bytes} {events : List ClassicEvent}
    (h : completedPacketEvents parameters = .ok events) :
    ∀ e ∈ events, ∃ handle completed, e = .numberOfCompletedPackets handle completed := by
  cases parameters with
  | nil => cases h
  | cons count entries =>
    obtain ⟨_, -, h⟩ := except_bind_eq_ok.mp h
    cases h
    intro e he
    obtain ⟨entry, -, rfl⟩ := List.mem_map.mp he
    exact ⟨_, _, rfl⟩

theorem decodeLinkKeyNotification_eq_ok {parameters : Bytes} {events : List ClassicEvent}
    (h : decodeLinkKeyNotification parameters = .ok events) :
    ∃ peer linkKey linkKeyType hlen,
      events = [.linkKeyNotification peer linkKey linkKeyType hlen] := by
  rw [decodeLinkKeyNotification] at h
  split at h
  · obtain ⟨peer, -, h⟩ := except_bind_eq_ok.mp h
    cases h
    exact ⟨_, _, _, _, rfl⟩
  · obtain ⟨_, hlen, -⟩ := except_bind_eq_ok.mp h
    exact absurd (requireLen_eq_ok hlen) ‹_›

theorem decodeClassicEvent_decodes {event : EventPacket} {events : List ClassicEvent}
    (h : decodeClassicEvent event = .ok events) : Decodes event events := by
  unfold decodeClassicEvent at h
  dsimp only at h
  by_cases hcode : event.eventCode = eventConnectionRequest
  · rw [if_pos hcode] at h
    obtain ⟨peer, haddress, rfl⟩ := peerEvent_eq_ok h
    exact .request hcode haddress
  rw [if_neg hcode] at h
  clear hcode
  by_cases hcode : event.eventCode = eventConnectionComplete
  · rw [if_pos hcode] at h
    obtain ⟨_, hlen, h⟩ := except_bind_eq_ok.mp h
    obtain ⟨peer, haddress, h⟩ := except_bind_eq_ok.mp h
    cases h
    exact .complete hcode (requireLen_eq_ok hlen) haddress
  rw [if_neg hcode] at h
  clear hcode
  by_cases hcode : event.eventCode = eventLinkKeyRequest
  · rw [if_pos hcode] at h
    obtain ⟨peer, -, rfl⟩ := peerEvent_eq_ok h
    exact .other rfl (by simp)
  rw [if_neg hcode] at h
  clear hcode
  by_cases hcode : event.eventCode = eventLinkKeyNotification
  · rw [if_pos hcode] at h
    obtain ⟨peer, linkKey, linkKeyType, hlen, rfl⟩ := decodeLinkKeyNotification_eq_ok h
    exact .notification hcode
  rw [if_neg hcode] at h
  clear hcode
  by_cases hcode : event.eventCode = eventIoCapabilityRequest
  · rw [if_pos hcode] at h
    obtain ⟨peer, -, rfl⟩ := peerEvent_eq_ok h
    exact .other rfl (by simp)
  rw [if_neg hcode] at h
  clear hcode
  by_cases hcode : event.eventCode = eventUserConfirmationRequest
  · rw [if_pos hcode] at h
    obtain ⟨peer, -, rfl⟩ := peerEvent_eq_ok h
    exact .other rfl (by simp)
  rw [if_neg hcode] at h
  clear hcode
  by_cases hcode : event.eventCode = eventAuthenticationComplete
  · rw [if_pos hcode] at h
    obtain ⟨_, -, h⟩ := except_bind_eq_ok.mp h
    cases h
    exact .other rfl (by simp)
  rw [if_neg hcode] at h
  clear hcode
  by_cases hcode : event.eventCode = eventEncryptionChange
  · rw [if_pos hcode] at h
    obtain ⟨_, -, h⟩ := except_bind_eq_ok.mp h
    cases h
    exact .encryption hcode
  rw [if_neg hcode] at h
  clear hcode
  by_cases hcode : event.eventCode = eventNumberOfCompletedPackets
  · rw [if_pos hcode] at h
    exact .credits (completedPacketEvents_eq_ok h)
  rw [if_neg hcode] at h
  clear hcode
  by_cases hcode : event.eventCode = eventDisconnectionComplete
  · rw [if_pos hcode] at h
    obtain ⟨_, hlen, h⟩ := except_bind_eq_ok.mp h
    cases h
    split
    · exact .disconnection hcode (requireLen_eq_ok hlen) ‹_›
    · exact .nothing
  rw [if_neg hcode] at h
  clear hcode
  cases h
  exact .nothing

omit [BondStore S] in
/-- What the registration of a server keeps holds of the channels of a new link. -/
theorem ClassicHost.newChannels_keeps {I : ChannelManager → Prop}
    (hI : ∀ psm spec, Exec.Keeps I (ChannelManager.registerServer (some psm) spec))
    (hnew : I .new) {servers : ExtTreeMap UInt32 ClassicChannelSpec} {channels : ChannelManager}
    (h : ClassicHost.newChannels servers = .ok channels) : I channels := by
  rw [ClassicHost.newChannels] at h
  generalize hrun : Exec.forEach _ servers.toList ChannelManager.new = outcome at h
  have hkept : I outcome.2 := by
    rw [← hrun]
    refine Exec.forEach_keeps ?_ _ hnew
    rintro ⟨psm, spec⟩ _
    exact Exec.Keeps.bind (hI psm spec) fun _ => Exec.keeps_pure ()
  rcases outcome with ⟨error | _, m⟩
  · cases h
  · cases h
    exact hkept

omit [BondStore S] in
/-- The channels of a new link are none but its servers. -/
theorem ClassicHost.newChannels_eq_ok {servers : ExtTreeMap UInt32 ClassicChannelSpec}
    {channels : ChannelManager} (h : ClassicHost.newChannels servers = .ok channels) :
    ∃ registered, channels = { ChannelManager.new with servers := registered } := by
  refine newChannels_keeps
    (I := fun m => ∃ registered, m = { ChannelManager.new with servers := registered })
    (fun psm spec m hm => ?_) ⟨_, rfl⟩ h
  obtain ⟨registered, rfl⟩ := hm
  rcases ChannelManager.registerServer_cases psm spec
    { ChannelManager.new with servers := registered } with ⟨error, h⟩ | h <;> rw [h]
  · exact ⟨registered, rfl⟩
  · exact ⟨_, rfl⟩

/-- An event leaves a host with nothing to announce. -/
theorem ClassicHost.accepted_handleEvent (event : ClassicEvent) {host : ClassicHost S}
    (h : host.accepted = []) : (ClassicHost.handleEvent event host).2.accepted = [] := by
  have hstep := ClassicHost.handleEvent_step event host
  generalize ClassicHost.handleEvent event host = outcome at hstep ⊢
  obtain ⟨r, host'⟩ := outcome
  cases hstep with
  | established hchannels =>
    obtain ⟨registered, rfl⟩ := ClassicHost.newChannels_eq_ok hchannels
    rfl
  | disconnected => rfl
  | encrypted hconnection =>
    simp only [ClassicHost.accepted, hconnection] at h
    exact h
  | _ => exact h

/-- Events that the host may be given now. -/
def Admissible (event : EventPacket) (w : World S) : Prop :=
  w.session.host.Quiet ∧ ∀ events, decodeClassicEvent event = .ok events →
    (∀ e ∈ events, ∃ handle completed, e = .numberOfCompletedPackets handle completed) ∨
      ∃ e, events = [e] ∧ w.Permits (.event e)

omit [BondStore S] in
theorem permits_of_isAnswered {e : ClassicEvent} (h : ClassicHost.isAnswered e = true)
    (hne : ∀ status handle enabled, e ≠ .encryptionChange status handle enabled)
    (w : World S) : w.Permits (.event e) := by
  cases e with
  | linkKeyRequest | ioCapabilityRequest | userConfirmationRequest | authenticationComplete =>
    trivial
  | encryptionChange status handle enabled => exact absurd rfl (hne status handle enabled)
  | _ => cases h

theorem tellHost_steps {e : ClassicEvent} {w : World S} (hclear : Clear w)
    (h : w.Permits (.event e)) : Steps w (tellHost e w).2 ∧ Clear (tellHost e w).2 :=
  ⟨.single (.hosted w (.event e) h), ClassicHost.accepted_handleEvent e hclear⟩

/-- **Handing an event to the host** is a sequence of steps. -/
theorem forwardEvent_moves (event : EventPacket) :
    Exec.Moves Step (Admissible (S := S) event) (forwardEvent event) fun r w =>
      r.isOk = true → w.session.host.Quiet := by
  intro w ⟨hquiet, hpermits⟩
  rw [forwardEvent]
  rcases hdecode : decodeClassicEvent event with error | events
  · exact ⟨.refl, fun h => by cases h⟩
  rw [Exec.lift_ok_bind]
  have hevents : Steps w (Exec.forEach tellHost events w).2 ∧
      ((Exec.forEach tellHost events w).1.isOk = true → Clear (Exec.forEach tellHost events w).2) := by
    rcases hpermits events hdecode with hcredits | ⟨e, rfl, he⟩
    · refine tends_forEach (P := Clear) (fun e hmem w' hw' => ?_) w hquiet.accepted
      obtain ⟨handle, completed, rfl⟩ := hcredits e hmem
      obtain ⟨hsteps, hpost⟩ := tellHost_steps hw' (e := .numberOfCompletedPackets handle completed)
        trivial
      exact ⟨hsteps, fun _ => hpost⟩
    · obtain ⟨hsteps, hpost⟩ := tellHost_steps hquiet.accepted he
      rw [Exec.forEach, Exec.bind_apply]
      rcases hrun : tellHost e w with ⟨error | _, w'⟩ <;> rw [hrun] at hsteps hpost
      · exact ⟨hsteps, fun h => by cases h⟩
      · exact ⟨hsteps, fun _ => hpost⟩
  obtain ⟨hsteps, hpost⟩ := hevents
  rcases hrun : Exec.forEach tellHost events w with ⟨error | _, w'⟩ <;> rw [hrun] at hsteps hpost
  · rw [Exec.bind_error hrun]
    exact ⟨hsteps, fun h => by cases h⟩
  · rw [Exec.bind_ok hrun]
    obtain ⟨hdrain, hdrained⟩ := drainHostOutput_moves w' (hpost rfl)
    refine ⟨hsteps.trans hdrain, fun h => ?_⟩
    obtain ⟨hout, hclear⟩ := hdrained h
    exact ⟨by rw [hout]; simp, hclear⟩

/-- The world in which a packet has just arrived. -/
def World.arrived (packet : Packet) (io : Option HciIo) (w : World S) : World S :=
  (w.log (.received packet)).set ({ · with io := io })

/-- The world in which a packet has just arrived and has fixed the peer of a pairing window. -/
def World.latched (packet : Packet) (io : Option HciIo) (w : World S) : World S :=
  (w.log (.received packet)).set fun session =>
    { session with io := io, window := session.window.latch packet }

section Arrival

variable {w : World S} {io : Option HciIo}

/-- A packet arrives, and the window stays as it is. -/
theorem arrived_steps {packet : Packet} (h : w.session.window.latch packet = w.session.window) :
    Steps (w.latched packet io) (w.arrived packet io) := by
  have heq : w.latched packet io = w.arrived packet io := by
    simp only [World.latched, World.arrived, World.set, World.log, h]
  rw [heq]

omit [BondStore S] in
theorem latch_of_ne {event : EventPacket} (window : ConnectionWindow)
    (h : ¬ (event.eventCode = eventConnectionRequest ∧ event.parameters.length = 10 ∧
      event.parameters.getD 9 0 = 0x01)) : window.latch (.event event) = window := by
  simp only [ConnectionWindow.latch, if_neg h]

omit [BondStore S] in
theorem expected_of_accept {peer : BluetoothAddress} {window : ConnectionWindow}
    (h : (window.accept peer).1 = true) : (window.accept peer).2.expected = some peer := by
  cases window with
  | idle | connected => cases h
  | pairing latched =>
    cases latched with
    | none => rfl
    | some expected =>
      simp only [ConnectionWindow.accept, decide_eq_true_eq] at h
      simp only [ConnectionWindow.accept, ConnectionWindow.expected, h]
  | reconnecting expected =>
    simp only [ConnectionWindow.accept, decide_eq_true_eq] at h
    simp only [ConnectionWindow.accept, ConnectionWindow.expected, h]

/-- What screening an event leaves: steps lead there, the host has not been called, and an event
that goes on to the host is one it may be given. -/
def Screened (w : World S) (io : Option HciIo) (event : EventPacket)
    (outcome : Except Error Bool × World S) : Prop :=
  Steps (w.latched (.event event) io) outcome.2 ∧ outcome.2.session.host = w.session.host ∧
    (outcome.1 = .ok true → Admissible event outcome.2)

theorem screenConnectionRequest_screened {event : EventPacket}
    (hcode : event.eventCode = eventConnectionRequest) (hquiet : w.session.host.Quiet) :
    Screened w io event
      (screenConnectionRequest event.parameters (w.arrived (.event event) io)) := by
  rw [screenConnectionRequest]
  rcases hlen : requireLen event.parameters 10 "connection request" with error | _
  · have hne : event.parameters.length ≠ 10 := by
      intro h
      simp [requireLen, h] at hlen
    exact ⟨arrived_steps (latch_of_ne _ fun h => hne h.2.1), rfl, fun h => by cases h⟩
  rw [Exec.lift_ok_bind]
  rcases haddress : addressAt event.parameters 0 with error | peer
  · refine ⟨arrived_steps ?_, rfl, fun h => by cases h⟩
    simp only [ConnectionWindow.latch, haddress, ite_self]
  rw [Exec.lift_ok_bind, Exec.gets_bind]
  -- The rejection of a request in the world the window has settled in.
  have hreject (w' : World S) (hsteps : Steps (w.latched (.event event) io) w')
      (hhost : w'.session.host = w.session.host) :
      Screened w io event ((do
        sendCommand hciRejectConnectionRequest
          (peer.asLeBytes ++ [connectionRejectedUnacceptableAddress])
        pure false : Op S Bool) w') := by
    have hsends := sendCommand_keeps
      (peer.asLeBytes ++ [connectionRejectedUnacceptableAddress])
      (show hciRejectConnectionRequest ≠ hciAcceptConnectionRequest by decide) w' (.refl w')
    rcases hrun : sendCommand hciRejectConnectionRequest
      (peer.asLeBytes ++ [connectionRejectedUnacceptableAddress]) w' with ⟨error | _, w''⟩ <;>
      rw [hrun] at hsends
    · rw [Exec.bind_error hrun]
      exact ⟨hsteps.trans hsends.steps, hsends.host.trans hhost, fun h => by cases h⟩
    · rw [Exec.bind_ok hrun]
      exact ⟨hsteps.trans hsends.steps, hsends.host.trans hhost, fun h => by cases h⟩
  by_cases hlink : event.parameters.getD 9 0 = 0x01
  · have hlatch : w.session.window.latch (.event event) = (w.session.window.accept peer).2 := by
      simp only [ConnectionWindow.latch, hcode, requireLen_eq_ok hlen, hlink, haddress, and_self,
        if_true]
    have hsteps : Steps (w.latched (.event event) io) ((w.arrived (.event event) io).set
        ({ · with window := (w.session.window.accept peer).2 })) := by
      simp only [World.latched, World.arrived, World.set, World.log, hlatch]
      exact .refl
    simp only [hlink, if_true, update, Exec.modify_bind]
    split
    · exact hreject _ hsteps rfl
    · rename_i haccepted
      refine ⟨hsteps, rfl, fun _ => ⟨hquiet, fun events hdecode => ?_⟩⟩
      rw [Bool.not_eq_true', Bool.not_eq_false] at haccepted
      have hadmitted : (w.session.window.accept peer).1 = true := haccepted
      cases decodeClassicEvent_decodes hdecode with
      | nothing => exact .inl (by simp)
      | credits h => exact .inl h
      | request hcode' haddress' =>
        rw [haddress] at haddress'
        cases haddress'
        exact .inr ⟨_, rfl, expected_of_accept hadmitted, hquiet⟩
      | complete hcode' => exact absurd (hcode.symm.trans hcode') (by decide)
      | notification hcode' => exact absurd (hcode.symm.trans hcode') (by decide)
      | encryption hcode' => exact absurd (hcode.symm.trans hcode') (by decide)
      | disconnection hcode' => exact absurd (hcode.symm.trans hcode') (by decide)
      | other hanswered hne => exact .inr ⟨_, rfl, permits_of_isAnswered hanswered hne _⟩
  · simp only [hlink, if_false, update, Exec.modify_bind]
    exact hreject ((w.arrived (.event event) io).set ({ · with window := w.session.window }))
      (arrived_steps (latch_of_ne _ fun h => hlink h.2.2)) rfl

/-- A window is closed after commands that hide the controller, unless one of them fails. -/
theorem endConnectionWindow_cases (w : World S) :
    ∃ w', Sends w w' ∧ ((∃ error, endConnectionWindow w = (.error error, w')) ∨
      endConnectionWindow w = (.ok (), w'.set ({ · with window := .idle }))) := by
  simp only [endConnectionWindow, Exec.gets_bind]
  split
  · rename_i hidle
    refine ⟨w, .refl w, .inr ?_⟩
    simp only [Exec.pure_apply, World.set, ← hidle]
  · have hsends := hideController_keeps w (Sends.refl w)
    rcases hrun : hideController w with ⟨error | _, w'⟩ <;> rw [hrun] at hsends
    · exact ⟨w', hsends, .inl ⟨error, by rw [Exec.bind_error hrun]⟩⟩
    · exact ⟨w', hsends, .inr (by rw [Exec.bind_ok hrun]; rfl)⟩

theorem screenConnectionComplete_screened {event : EventPacket}
    (hcode : event.eventCode = eventConnectionComplete) (hquiet : w.session.host.Quiet) :
    Screened w io event
      (screenConnectionComplete event.parameters (w.arrived (.event event) io)) := by
  have harrived : Steps (w.latched (.event event) io) (w.arrived (.event event) io) := arrived_steps
    (latch_of_ne _ fun h => absurd (hcode.symm.trans h.1) (by decide))
  rw [screenConnectionComplete]
  rcases hlen : requireLen event.parameters 11 "connection complete" with error | _
  · exact ⟨harrived, rfl, fun h => by cases h⟩
  rw [Exec.lift_ok_bind]
  rcases haddress : addressAt event.parameters 3 with error | peer
  · exact ⟨harrived, rfl, fun h => by cases h⟩
  rw [Exec.lift_ok_bind, Exec.gets_bind]
  -- The event may go on when the window expects the peer, or when it reports a failure.
  have hadmissible {w' : World S} (hhost : w'.session.host = w.session.host)
      (h : event.parameters.getD 0 0 = 0 → w'.session.window.expected = some peer) :
      Admissible event w' := by
    refine ⟨by rw [hhost]; exact hquiet, fun events hdecode => ?_⟩
    cases decodeClassicEvent_decodes hdecode with
    | nothing => exact .inl (by simp)
    | credits h => exact .inl h
    | request hcode' => exact absurd (hcode.symm.trans hcode') (by decide)
    | complete _ _ haddress' =>
      rw [haddress] at haddress'
      cases haddress'
      exact .inr ⟨_, rfl, fun hstatus => ⟨h hstatus, by rw [hhost]; exact hquiet⟩⟩
    | notification hcode' => exact absurd (hcode.symm.trans hcode') (by decide)
    | encryption hcode' => exact absurd (hcode.symm.trans hcode') (by decide)
    | disconnection hcode' => exact absurd (hcode.symm.trans hcode') (by decide)
    | other hanswered hne => exact .inr ⟨_, rfl, permits_of_isAnswered hanswered hne _⟩
  split
  · -- The link is refused.
    have hsends := sendCommand_keeps (toLe16 (le16At event.parameters 1) ++ [authenticationFailure])
      (show hciDisconnect ≠ hciAcceptConnectionRequest by decide) _
      (Sends.refl (w.arrived (.event event) io))
    rcases hrun : sendCommand hciDisconnect
      (toLe16 (le16At event.parameters 1) ++ [authenticationFailure])
      (w.arrived (.event event) io) with ⟨error | _, w'⟩ <;> rw [hrun] at hsends
    · rw [Exec.bind_error hrun]
      exact ⟨harrived.trans hsends.steps, hsends.host, fun h => by cases h⟩
    · rw [Exec.bind_ok hrun]
      exact ⟨(harrived.trans hsends.steps).tail (.refused w' _), hsends.host, fun h => by cases h⟩
  · rename_i hexpected
    split
    · -- The connection failed.
      rename_i hstatus
      obtain ⟨w', hsends, ⟨error, hrun⟩ | hrun⟩ :=
        endConnectionWindow_cases (w.arrived (.event event) io)
      · rw [Exec.bind_error hrun]
        exact ⟨harrived.trans hsends.steps, hsends.host, fun h => by cases h⟩
      · rw [Exec.bind_ok hrun]
        simp only [update, enqueueEvent, Exec.modify_bind, Exec.pure_apply]
        have hquiet' : w'.session.host.Quiet := by
          rw [hsends.host]
          exact hquiet
        refine ⟨(harrived.trans hsends.steps).tail (.failed w' _ hquiet'), ?_, fun _ => ?_⟩
        · rw [host_enqueue]
          exact hsends.host
        · refine hadmissible ?_ fun h => absurd h hstatus
          rw [host_enqueue]
          exact hsends.host
    · rename_i hstatus
      rw [not_not] at hstatus
      refine ⟨harrived, rfl, fun _ => hadmissible rfl fun _ => ?_⟩
      by_contra hne
      exact hexpected ⟨hstatus, .inl hne⟩

theorem screenDisconnectionComplete_screened {event : EventPacket}
    (hcode : event.eventCode = eventDisconnectionComplete) (hquiet : w.session.host.Quiet) :
    Screened w io event
      (screenDisconnectionComplete event.parameters (w.arrived (.event event) io)) := by
  have harrived : Steps (w.latched (.event event) io) (w.arrived (.event event) io) := arrived_steps
    (latch_of_ne _ fun h => absurd (hcode.symm.trans h.1) (by decide))
  rw [screenDisconnectionComplete]
  rcases hlen : requireLen event.parameters 4 "disconnection complete" with error | _
  · exact ⟨harrived, rfl, fun h => by cases h⟩
  rw [Exec.lift_ok_bind, Exec.gets_bind]
  split
  · exact ⟨harrived.tail (.refused _ _), rfl, fun h => by cases h⟩
  · refine ⟨harrived, rfl, fun _ => ⟨hquiet, fun events hdecode => ?_⟩⟩
    cases decodeClassicEvent_decodes hdecode with
    | nothing => exact .inl (by simp)
    | credits h => exact .inl h
    | request hcode' => exact absurd (hcode.symm.trans hcode') (by decide)
    | complete hcode' => exact absurd (hcode.symm.trans hcode') (by decide)
    | notification hcode' => exact absurd (hcode.symm.trans hcode') (by decide)
    | encryption hcode' => exact absurd (hcode.symm.trans hcode') (by decide)
    | disconnection => exact .inr ⟨_, rfl, hquiet⟩
    | other hanswered hne => exact .inr ⟨_, rfl, permits_of_isAnswered hanswered hne _⟩

/-- **Screening an event**: what goes on to the host is what it may be given. -/
theorem screenEvent_screened (event : EventPacket) (hquiet : w.session.host.Quiet) :
    Screened w io event (screenEvent event (w.arrived (.event event) io)) := by
  rw [screenEvent]
  by_cases hrequest : event.eventCode = eventConnectionRequest
  · rw [if_pos hrequest]
    exact screenConnectionRequest_screened hrequest hquiet
  rw [if_neg hrequest]
  by_cases hcomplete : event.eventCode = eventConnectionComplete
  · rw [if_pos hcomplete]
    exact screenConnectionComplete_screened hcomplete hquiet
  rw [if_neg hcomplete]
  by_cases hdisconnection : event.eventCode = eventDisconnectionComplete
  · rw [if_pos hdisconnection]
    exact screenDisconnectionComplete_screened hdisconnection hquiet
  rw [if_neg hdisconnection]
  refine ⟨arrived_steps (latch_of_ne _ fun h => hrequest h.1), rfl, fun _ =>
    ⟨hquiet, fun events hdecode => ?_⟩⟩
  have hdecodes := decodeClassicEvent_decodes hdecode
  cases hdecodes with
  | nothing => exact .inl (by simp)
  | credits h => exact .inl h
  | request hcode => exact absurd hcode hrequest
  | complete hcode => exact absurd hcode hcomplete
  | notification => exact .inr ⟨_, rfl, event, w.session, w.trace, rfl, hdecode⟩
  | encryption => exact .inr ⟨_, rfl, hquiet, event, w.session, w.trace, rfl, hdecode⟩
  | disconnection hcode => exact absurd hcode hdisconnection
  | other hanswered hne => exact .inr ⟨_, rfl, permits_of_isAnswered hanswered hne _⟩

theorem handleEvent_steps (event : EventPacket) (hquiet : w.session.host.Quiet) :
    Steps (w.latched (.event event) io) (handleEvent event (w.arrived (.event event) io)).2 ∧
      ((handleEvent event (w.arrived (.event event) io)).1.isOk = true →
        (handleEvent event (w.arrived (.event event) io)).2.session.host.Quiet) := by
  obtain ⟨hsteps, hhost, hpermits⟩ := screenEvent_screened event hquiet
  rw [handleEvent]
  rcases hrun : screenEvent event (w.arrived (.event event) io) with ⟨error | passes, w'⟩ <;>
    rw [hrun] at hsteps hhost hpermits
  · rw [Exec.bind_error hrun]
    exact ⟨hsteps, fun h => by cases h⟩
  rw [Exec.bind_ok hrun]
  cases passes with
  | false =>
    refine ⟨hsteps, fun _ => ?_⟩
    change w'.session.host = w.session.host at hhost
    simp only [Bool.false_eq_true, if_false, Exec.pure_apply, hhost]
    exact hquiet
  | true =>
    obtain ⟨hforward, hpost⟩ := forwardEvent_moves event w' (hpermits rfl)
    exact ⟨hsteps.trans hforward, hpost⟩

omit [BondStore S] in
/-- A packet that the host took leaves it with nothing to announce. -/
theorem ClassicHost.accepted_processAcl {packet : AclPacket} {host host' : ClassicHost S}
    (haccepted : host.accepted = []) (h : ClassicHost.processAcl packet host = (.ok (), host')) :
    host'.accepted = [] := by
  have hstep := ClassicHost.processAcl_step packet host
  rw [h] at hstep
  cases hstep with
  | fed => exact haccepted
  | processed _ _ _ hcall =>
    cases hcall
    rfl

omit [BondStore S] in
theorem mapError_onHost {α : Type} (f : HostError → Error) (m : ClassicHost.Op S α) (w : World S) :
    Exec.mapError f (onHost m) w =
      ((m w.session.host).1.mapError f, BackendSession.hosted (m w.session.host).2 w) := rfl

theorem handleAcl_steps (packet : AclPacket) (hquiet : w.session.host.Quiet) :
    Steps (w.latched (.acl packet) io) (handleAcl packet (w.arrived (.acl packet) io)).2 ∧
      ((handleAcl packet (w.arrived (.acl packet) io)).1.isOk = true →
        (handleAcl packet (w.arrived (.acl packet) io)).2.session.host.Quiet) := by
  have harrived : Steps (w.latched (.acl packet) io) (w.arrived (.acl packet) io) := arrived_steps rfl
  have hpermits : (w.arrived (.acl packet) io).Permits (.acl packet) :=
    ⟨hquiet, w.session, w.trace, rfl, rfl, rfl⟩
  have hsteps := harrived.tail (.hosted _ (.acl packet) hpermits)
  rw [handleAcl, Exec.bind_apply, mapError_onHost]
  rw [HostOp.run] at hsteps
  rcases hr : ClassicHost.processAcl packet (w.arrived (.acl packet) io).session.host with
    ⟨error | _, host⟩ <;> rw [hr] at hsteps
  · exact ⟨hsteps, fun h => by cases h⟩
  · have hclear : Clear (BackendSession.hosted host (w.arrived (.acl packet) io)) :=
      ClassicHost.accepted_processAcl hquiet.accepted hr
    have hdrain : Exec.Moves Step (Clear (S := S)) drainHostOutput fun r w =>
        r.isOk = true → Calm w := by
      refine drainHostOutput_moves.mono (fun _ h => h) fun _ _ h hok => ?_
      obtain ⟨hout, hclear⟩ := h hok
      exact ⟨hclear, by rw [ClassicHost.KeepsLink, hout]; simp⟩
    have hrest : Exec.Moves Step (Clear (S := S)) (do
        drainHostOutput
        refreshOutgoingChannels
        processProtocolInput
        drainHostOutput) fun r w => r.isOk = true → w.session.host.Quiet := by
      refine Exec.Moves.bind hdrain (fun _ => ?_) fun _ _ _ h => by cases h
      refine Exec.Moves.bind (Q := fun r w => r.isOk = true → Calm w) ?_ (fun _ => ?_)
        fun _ _ _ h => by cases h
      · exact (Tends.bind (refreshChannel_tends .control) fun _ =>
          refreshChannel_tends .interrupt).mono (fun _ h => h rfl) fun _ _ h => h
      refine Exec.Moves.bind (Q := fun r w => r.isOk = true → Calm w)
        (processProtocolInput_tends.mono (fun _ h => h rfl) fun _ _ h => h) (fun _ => ?_)
        fun _ _ _ h => by cases h
      refine drainHostOutput_moves.mono (fun _ h => (h rfl).1) fun _ _ h hok => ?_
      obtain ⟨hout, hclear⟩ := h hok
      exact ⟨by rw [hout]; simp, hclear⟩
    obtain ⟨hsteps', hpost⟩ := hrest _ hclear
    exact ⟨hsteps.trans hsteps', hpost⟩

/-- **A packet** is handled in steps; afterwards the session is over or its host is quiet. -/
theorem handlePolledPacket_steps (packet : Packet) (io : Option HciIo)
    (hquiet : w.session.host.Quiet) :
    Steps (w.latched packet io) (handlePolledPacket packet (w.arrived packet io)).2 ∧
      ((handlePolledPacket packet (w.arrived packet io)).2.session.terminal = none →
        (handlePolledPacket packet (w.arrived packet io)).2.session.host.Quiet) := by
  have hpacket : Steps (w.latched packet io) (handlePacket packet (w.arrived packet io)).2 ∧
      ((handlePacket packet (w.arrived packet io)).1.isOk = true →
        (handlePacket packet (w.arrived packet io)).2.session.host.Quiet) := by
    cases packet with
    | event event => exact handleEvent_steps event hquiet
    | acl packet => exact handleAcl_steps packet hquiet
    | command command => exact ⟨arrived_steps rfl, fun h => by cases h⟩
  obtain ⟨hsteps, hpost⟩ := hpacket
  rw [handlePolledPacket]
  rcases hrun : handlePacket packet (w.arrived packet io) with ⟨error | _, w'⟩ <;>
    rw [hrun] at hsteps hpost
  · exact ⟨hsteps.tail (.terminated w' error), fun h => by cases h⟩
  · rcases hterminal : w'.session.terminal with _ | error
    · simp only [hterminal]
      exact ⟨hsteps, fun _ => hpost rfl⟩
    · simp only [hterminal]
      exact ⟨hsteps, fun h => by cases h⟩

end Arrival

end ClassicHid

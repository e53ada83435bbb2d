import ClassicHid.L2cap.Channel

/-!
# What moves a channel

Data changes neither the state of a channel nor the list of the channels to announce; a new
outgoing channel leaves every other channel as it is; and a channel opens only on the configuration
request or response that completes its configuration.

## Main definitions

* `ClassicChannel.signaling`: a channel without its data
* `ClassicChannel.origin`: what a channel keeps from its beginning
* `ChannelManager.Same view m m'`: two managers whose channels differ in nothing that `view` shows
* `ChannelManager.completes`: the channel whose configuration a PDU completes

## Main results

* `ChannelManager.send_keeps`, `ChannelManager.processData_keeps`: data keeps the signaling
* `ChannelManager.connect_spec`: an outgoing channel is new, and its request is one PDU
* `ChannelManager.processPdu_opens`: a channel opens only when its configuration completes
-/

namespace ClassicHid

open Foundation
open Std (ExtTreeMap)

/-- A channel without its data: what signaling decides. -/
def ClassicChannel.signaling (channel : ClassicChannel) : ClassicChannel :=
  { channel with ertm := none, received := [] }

/-- What a channel keeps from its beginning: its PSM, and whether the peer has asked for it. -/
def ClassicChannel.origin (channel : ClassicChannel) : UInt32 × Bool :=
  (channel.psm, channel.incoming)

namespace ErtmEngine

/-- Numbering and queueing what is to be sent leaves what was received alone. -/
theorem queueSegments_keeps {r : List Bytes} (sdu : Bytes) (mps : ℕ) (l : List (Bytes × ℕ)) :
    Exec.Keeps (fun engine : ErtmEngine => engine.received = r) (queueSegments sdu mps l) := by
  induction l with
  | nil => exact Exec.keeps_pure ()
  | cons entry l ih =>
    obtain ⟨chunk, index⟩ := entry
    refine Exec.Keeps.bind (fun _ h => h) fun _ => Exec.Keeps.bind (fun _ h => h) fun _ => ih

theorem processOutputLoop_keeps {r : List Bytes} (n : ℕ) :
    Exec.Keeps (fun engine : ErtmEngine => engine.received = r) (processOutputLoop n) := by
  induction n with
  | zero => exact Exec.keeps_pure ()
  | succ n ih =>
    refine Exec.Keeps.bind Exec.keeps_get fun engine => ?_
    split
    · split
      · exact Exec.keeps_pure ()
      · refine Exec.Keeps.bind (fun _ h => h) fun _ => Exec.Keeps.bind (Exec.keeps_lift _) fun _ => ?_
        exact Exec.Keeps.bind (fun _ h => h) fun _ => Exec.Keeps.bind (fun _ h => h) fun _ => ih
    · exact Exec.keeps_pure ()

theorem processOutput_keeps {r : List Bytes} :
    Exec.Keeps (fun engine : ErtmEngine => engine.received = r) processOutput := by
  refine Exec.Keeps.bind (Exec.keeps_gets _) fun busy => ?_
  split
  · exact Exec.keeps_pure ()
  · exact Exec.Keeps.bind (Exec.keeps_gets _) fun n =>
      Exec.Keeps.bind (processOutputLoop_keeps n) fun _ _ h => h

theorem ensureActive_keeps {r : List Bytes} :
    Exec.Keeps (fun engine : ErtmEngine => engine.received = r) ensureActive := by
  refine Exec.Keeps.bind (Exec.keeps_gets _) fun failed => ?_
  split
  · exact Exec.keeps_fail _
  · exact Exec.keeps_pure ()

/-- Sending leaves what was received alone. -/
theorem sendSdu_keeps {r : List Bytes} (sdu : Bytes) :
    Exec.Keeps (fun engine : ErtmEngine => engine.received = r) (sendSdu sdu) := by
  refine Exec.Keeps.bind ensureActive_keeps fun _ => ?_
  refine Exec.Keeps.bind (Exec.keeps_gets _) fun config => ?_
  split
  · exact Exec.keeps_fail _
  · dsimp only
    split
    · exact Exec.Keeps.bind (fun _ h => h) fun _ =>
        Exec.Keeps.bind (fun _ h => h) fun _ => processOutput_keeps
    · split
      · exact Exec.Keeps.bind (Exec.keeps_fail _) fun _ => processOutput_keeps
      · exact Exec.Keeps.bind (queueSegments_keeps _ _ _) fun _ => processOutput_keeps

end ErtmEngine

namespace ChannelManager

/-! ### Data -/

section View

variable {β : Type} {view : ClassicChannel → β}

/-- Two managers that show the same of their channels. -/
structure Same (view : ClassicChannel → β) (m m' : ChannelManager) : Prop where
  accepted : m'.acceptedChannels = m.acceptedChannels
  channel : ∀ cid, (m'.channel cid).map view = (m.channel cid).map view

theorem channel_insert_self (m : ChannelManager) (cid : UInt16) (channel : ClassicChannel) :
    ({ m with channels := m.channels.insert cid channel } : ChannelManager).channel cid =
      some channel := by
  simp [ChannelManager.channel]

theorem channel_insert_ne (m : ChannelManager) {cid cid' : UInt16} (channel : ClassicChannel)
    (h : cid ≠ cid') :
    ({ m with channels := m.channels.insert cid channel } : ChannelManager).channel cid' =
      m.channel cid' := by
  simp [ChannelManager.channel, ExtTreeMap.getElem?_insert, h]

namespace Same

variable {m m' m'' : ChannelManager}

theorem refl (m : ChannelManager) : Same view m m := ⟨rfl, fun _ => rfl⟩

theorem trans (h : Same view m m') (h' : Same view m' m'') : Same view m m'' :=
  ⟨h'.accepted.trans h.accepted, fun cid => (h'.channel cid).trans (h.channel cid)⟩

theorem outbound (h : Same view m m') (outbound : List L2capPdu) :
    Same view m { m' with outbound := outbound } := ⟨h.accepted, h.channel⟩

/-- A channel that shows the same may be replaced. -/
theorem insert (h : Same view m m') {cid : UInt16} {channel channel' : ClassicChannel}
    (hc : m'.channel cid = some channel) (hv : view channel' = view channel) :
    Same view m { m' with channels := m'.channels.insert cid channel' } := by
  refine h.trans ⟨rfl, fun cid' => ?_⟩
  by_cases heq : cid = cid'
  · subst heq
    rw [channel_insert_self, hc, Option.map_some, Option.map_some, hv]
  · rw [channel_insert_ne _ _ heq]

end Same

/-- A channel is there, and the manager goes on with it, or the call fails. -/
theorem channelOr_cases (message : String) (cid : UInt16) (m : ChannelManager) :
    (∃ channel, m.channel cid = some channel ∧ channelOr message cid m = (.ok channel, m)) ∨
      ∃ error, channelOr message cid m = (.error error, m) := by
  rcases h : m.channel cid with _ | channel
  · exact .inr ⟨_, by simp only [channelOr, h]; rfl⟩
  · exact .inl ⟨channel, rfl, by simp only [channelOr, h]⟩

variable {m₀ : ChannelManager}

theorem queueFrame_keeps (destinationCid : UInt16) (fcsEnabled : Bool) (frame : Bytes) :
    Exec.Keeps (Same view m₀) (queueFrame destinationCid fcsEnabled frame) := by
  have hpush (payload : Bytes) :
      Exec.Keeps (Same view m₀) (pushOutbound { cid := destinationCid, payload := payload }) :=
    fun m h => h.outbound _
  rw [queueFrame]
  split
  · exact Exec.Keeps.bind (Exec.keeps_lift _) hpush
  · exact Exec.Keeps.bind (Exec.keeps_pure _) hpush

/-- A view that does not see an engine hand over what it received. -/
def SeesNoDrain (view : ClassicChannel → β) : Prop :=
  ∀ channel engine, channel.ertm = some engine →
    view { channel with ertm := some engine.drain.2,
                        received := channel.received ++ engine.received } = view channel

theorem flushErtm_keeps (hv : SeesNoDrain view) (cid : UInt16) :
    Exec.Keeps (Same view m₀) (flushErtm cid) := by
  intro m h
  rcases channelOr_cases "channel not found for CID" cid m with ⟨channel, hc, hr⟩ | ⟨error, hr⟩
  · rw [flushErtm, Exec.bind_ok hr]
    rcases hengine : channel.ertm with _ | engine
    · exact h
    · simp only [setChannel, Exec.modify_bind]
      exact Exec.forEach_keeps (fun frame _ => queueFrame_keeps _ _ frame) _
        (h.insert hc (hv channel engine hengine))
  · rw [flushErtm, Exec.bind_error hr]
    exact h

end View

/-- What sending leaves alone: the signaling of a channel and what waits on it. -/
def sendView (channel : ClassicChannel) : ClassicChannel × ℕ :=
  (channel.signaling, channel.backlog)

theorem signaling_seesNoDrain : SeesNoDrain ClassicChannel.signaling := fun _ _ _ => rfl

theorem sendView_seesNoDrain : SeesNoDrain sendView := by
  intro channel engine h
  simp [sendView, ClassicChannel.signaling, ClassicChannel.backlog, ErtmEngine.drain, h]

variable {m₀ : ChannelManager}

/-- **Data keeps the signaling**: sending, which also takes nothing from what waits. -/
theorem send_keeps (cid : UInt16) (sdu : Bytes) : Exec.Keeps (Same sendView m₀) (send cid sdu) := by
  intro m h
  rcases channelOr_cases "channel not found for CID" cid m with ⟨channel, hc, hr⟩ | ⟨error, hr⟩
  · rw [send, Exec.bind_ok hr]
    split
    · exact h
    · rcases hengine : channel.ertm with _ | engine
      · dsimp only
        split
        · exact h
        · exact h.outbound _
      · refine Exec.Keeps.bind_from (h.insert hc ?_) fun _ =>
          flushErtm_keeps sendView_seesNoDrain cid
        have hreceived := ErtmEngine.sendSdu_keeps (r := engine.received) sdu engine rfl
        simp [sendView, ClassicChannel.signaling, ClassicChannel.backlog, hengine, hreceived]
  · rw [send, Exec.bind_error hr]
    exact h

/-- **Data keeps the signaling**: receiving. -/
theorem processData_keeps (cid : UInt16) (payload : Bytes) :
    Exec.Keeps (Same ClassicChannel.signaling m₀) (processData cid payload) := by
  intro m h
  rcases channelOr_cases "channel not found for CID" cid m with ⟨channel, hc, hr⟩ | ⟨error, hr⟩
  · rw [processData, Exec.bind_ok hr]
    split
    · exact h
    · rcases hengine : channel.ertm with _ | engine
      · dsimp only
        split
        · exact h
        · exact h.insert hc rfl
      · have hreceive (frame : Bytes) : Same ClassicChannel.signaling m₀ ((do
            withEngine cid channel engine (ErtmEngine.receiveFrame frame)
            flushErtm cid : Update Unit) m).2 :=
          Exec.Keeps.bind_from (h.insert hc rfl) fun _ => flushErtm_keeps signaling_seesNoDrain cid
        dsimp only
        split
        · rcases verifyAndStripFcs cid payload with error | frame
          · exact h
          · exact hreceive frame
        · exact hreceive payload
  · rw [processData, Exec.bind_error hr]
    exact h

/-! ### Servers -/

/-- A server is registered, or the call fails and changes nothing. -/
theorem registerServerWithSpec_cases (psm : Option UInt32) (spec : ChannelSpec)
    (m : ChannelManager) :
    (∃ error, registerServerWithSpec psm spec m = (.error error, m)) ∨
      ∃ psm', (∀ asked, psm = some asked → psm' = asked) ∧ registerServerWithSpec psm spec m =
        (.ok psm', { m with servers := m.servers.insert psm' spec }) := by
  have hinsert (psm : UInt32) : (∃ error, (do
      if m.servers.contains psm then
        Exec.fail (.invalidPacket s!"PSM {hex 1 psm.toNat} is already in use")
      else
        Exec.modify fun manager => { manager with servers := manager.servers.insert psm spec }
        pure psm : Update UInt32) m = (.error error, m)) ∨ (do
      if m.servers.contains psm then
        Exec.fail (.invalidPacket s!"PSM {hex 1 psm.toNat} is already in use")
      else
        Exec.modify fun manager => { manager with servers := manager.servers.insert psm spec }
        pure psm : Update UInt32) m =
          (.ok psm, { m with servers := m.servers.insert psm spec }) := by
    split
    · exact .inl ⟨_, rfl⟩
    · exact .inr rfl
  rw [registerServerWithSpec, Exec.get_bind]
  rcases psm with _ | psm
  · dsimp only
    rcases freePsm m.servers 0x1001 0x7800 with _ | psm
    · exact .inl ⟨_, rfl⟩
    · exact (hinsert psm).imp_right fun h => ⟨psm, nofun, h⟩
  · dsimp only
    rcases validatePsm psm with error | _
    · exact .inl ⟨error, rfl⟩
    · refine (hinsert psm).imp_right fun h => ⟨psm, ?_, h⟩
      rintro asked ⟨⟩
      rfl

theorem registerServer_cases (psm : UInt32) (spec : ClassicChannelSpec) (m : ChannelManager) :
    (∃ error, registerServer (some psm) spec m = (.error error, m)) ∨
      registerServer (some psm) spec m =
        (.ok psm, { m with servers := m.servers.insert psm (.basic spec) }) := by
  rw [registerServer]
  rcases validateSpec spec with error | _
  · exact .inl ⟨error, rfl⟩
  rw [Exec.lift_ok_bind]
  rcases registerServerWithSpec_cases (some psm) (.basic spec) m with hfail | ⟨psm', hpsm, hrun⟩
  · exact .inl hfail
  · rw [hpsm psm rfl] at hrun
    exact .inr hrun

/-! ### Outgoing channels -/

theorem freeCid_spec {channels : ExtTreeMap UInt16 ClassicChannel} {cid n : ℕ} {c : UInt16}
    (h : freeCid channels cid n = some c) : channels[c]? = none := by
  induction n generalizing cid with
  | zero => cases h
  | succ n ih =>
    rw [freeCid] at h
    split at h
    · exact ih h
    · rename_i hfree
      cases h
      simpa using hfree

theorem allocateCid_spec {m : ChannelManager} {cid : UInt16} (h : m.allocateCid = .ok cid) :
    m.channel cid = none := by
  rw [allocateCid] at h
  split at h
  · rename_i hfree
    cases h
    exact freeCid_spec hfree
  · cases h

/-- A manager with an outgoing channel and the request for it. -/
def connecting (psm : UInt32) (spec : ChannelSpec) (cid : UInt16) (identifier : UInt8)
    (m : ChannelManager) : ChannelManager :=
  { m with
    channels := m.channels.insert cid (.newOutgoing psm cid spec)
    identifier := identifier
    outbound := m.outbound ++
      [{ cid := l2capSignalingCid,
         payload := (ControlFrame.connectionRequest identifier psm cid).toBytes }] }

/-- **An outgoing channel is new**: `connect` fails and changes nothing, or it adds a channel with
an identifier not in use and one PDU. -/
theorem connect_spec (psm : UInt32) (spec : ClassicChannelSpec) (m : ChannelManager) :
    (∃ error, connect psm spec m = (.error error, m)) ∨
      ∃ cid identifier, m.channel cid = none ∧
        connect psm spec m = (.ok cid, connecting psm (.basic spec) cid identifier m) := by
  rw [connect]
  rcases validatePsm psm with error | _
  · exact .inl ⟨error, rfl⟩
  rcases validateSpec spec with error | _
  · exact .inl ⟨error, rfl⟩
  rcases h : m.allocateCid with error | cid
  · refine .inl ⟨error, ?_⟩
    simp only [Exec.lift_ok_bind, connectWithSpec, Exec.get_bind, h]
    rfl
  · refine .inr ⟨cid, if m.identifier + 1 = 0 then 1 else m.identifier + 1, allocateCid_spec h, ?_⟩
    simp only [Exec.lift_ok_bind, connectWithSpec, Exec.get_bind, h]
    rfl

/-! ### Configuration -/

/-- Two managers that differ in one channel. -/
structure Replaces (cid : UInt16) (channel : ClassicChannel) (m m' : ChannelManager) : Prop where
  accepted : m'.acceptedChannels = m.acceptedChannels
  self : m'.channel cid = some channel
  other : ∀ cid', cid ≠ cid' → m'.channel cid' = m.channel cid'

theorem replaces_insert (cid : UInt16) (channel : ClassicChannel) (m : ChannelManager) :
    Replaces cid channel m { m with channels := m.channels.insert cid channel } :=
  ⟨rfl, channel_insert_self m cid channel, fun _ h => channel_insert_ne m channel h⟩

theorem Replaces.trans {cid : UInt16} {channel channel' : ClassicChannel}
    {m m' m'' : ChannelManager} (h : Replaces cid channel m m') (h' : Replaces cid channel' m' m'') :
    Replaces cid channel' m m'' :=
  ⟨h'.accepted.trans h.accepted, h'.self,
    fun cid' hne => (h'.other cid' hne).trans (h.other cid' hne)⟩

/-- Whether the options of a final request agree with the mode of a channel. -/
def configurationAgrees (channel : ClassicChannel) (scan : ConfigurationScan) : Bool :=
  match channel.spec.ertm?, scan.peerErtm with
  | some spec, some parameters =>
    scan.peerFcs.getD false = spec.fcsEnabled &&
      (ErtmEngine.new (negotiatedErtmConfig spec parameters)).isOk
  | some _, none => false
  | none, peerErtm => !(peerErtm.isSome || scan.peerFcs.getD false)

/-- Whether a configuration request opens a channel: it waits for nothing but the peer's
configuration, and this request brings it or comes after it. -/
def opensOnRequest (flags : UInt16) (encodedOptions : Bytes) (channel : ClassicChannel) : Bool :=
  match decodeConfigurationOptions encodedOptions with
  | .error _ => false
  | .ok options =>
    let scan := scanOptions channel.mode { peerMtu := channel.peerMtu } options
    channel.state = .configuring && channel.configurationResponseReceived &&
      if scan.result = configurationSuccess ∧ flags &&& 1 = 0 then configurationAgrees channel scan
      else channel.peerConfigurationReceived

/-- Whether a configuration response opens a channel. -/
def opensOnResponse (result : UInt16) (channel : ClassicChannel) : Bool :=
  channel.state = .configuring && channel.peerConfigurationReceived && result = configurationSuccess

/-- The channel whose configuration a signaling frame completes. -/
def completesFrame (m : ChannelManager) : ControlFrame → Option UInt16
  | .configureRequest _ cid flags options =>
    if (m.channel cid).any (opensOnRequest flags options) then some cid else none
  | .configureResponse _ cid _ result _ =>
    if (m.channel cid).any (opensOnResponse result) then some cid else none
  | _ => none

/-- The channel whose configuration a PDU completes. -/
def completes (m : ChannelManager) (pdu : L2capPdu) : Option UInt16 :=
  if pdu.cid = l2capSignalingCid then
    match ControlFrame.fromBytes pdu.payload with
    | .ok frame => m.completesFrame frame
    | .error _ => none
  else none

theorem exists_of_completes {m : ChannelManager} {pdu : L2capPdu} {cid : UInt16}
    (h : m.completes pdu = some cid) : ∃ channel, m.channel cid = some channel := by
  have hany {p : ClassicChannel → Bool} {cid' : UInt16}
      (h : (if (m.channel cid').any p then some cid' else none) = some cid) :
      ∃ channel, m.channel cid = some channel := by
    split at h
    · rename_i hany
      cases h
      obtain ⟨channel, hchannel, -⟩ := (Option.any_eq_true p _).mp hany
      exact ⟨channel, hchannel⟩
    · cases h
  rw [completes] at h
  split at h
  · rcases hframe : ControlFrame.fromBytes pdu.payload with error | frame <;> rw [hframe] at h
    · cases h
    · cases frame with
      | configureRequest | configureResponse => exact hany h
      | _ => cases h
  · cases h

/-! ### What a PDU opens -/

/-- What may happen to the channels when none but `target` opens. Only a channel that the peer asked
for is announced. -/
structure Opens (target : Option UInt16) (m m' : ChannelManager) : Prop where
  accepted : m'.acceptedChannels = m.acceptedChannels ∨
    ∃ cid channel', target = some cid ∧ m'.channel cid = some channel' ∧
      channel'.incoming = true ∧ m'.acceptedChannels = m.acceptedChannels ++ [cid]
  origin : ∀ cid channel, m.channel cid = some channel →
    ∃ channel', m'.channel cid = some channel' ∧ channel'.origin = channel.origin
  opened : ∀ cid channel', m'.channel cid = some channel' → channel'.isOpen = true →
    target = some cid ∨ ∃ channel, m.channel cid = some channel ∧ channel.isOpen = true

namespace Opens

variable {target : Option UInt16} {m m' m'' : ChannelManager}

theorem of_same (h : Same ClassicChannel.signaling m m') : Opens target m m' where
  accepted := .inl h.accepted
  origin cid channel hc := by
    have := h.channel cid
    rw [hc, Option.map_some, Option.map_eq_some_iff] at this
    obtain ⟨channel', hc', hs⟩ := this
    exact ⟨channel', hc', congrArg (fun c => (c.psm, c.incoming)) hs⟩
  opened cid channel' hc' hopen := by
    have := h.channel cid
    rw [hc', Option.map_some, eq_comm, Option.map_eq_some_iff] at this
    obtain ⟨channel, hc, hs⟩ := this
    refine .inr ⟨channel, hc, ?_⟩
    have hstate : channel.state = channel'.state := congrArg (·.state) hs
    rwa [ClassicChannel.isOpen, hstate]

/-- What opens in two steps, of which the first opens nothing. -/
theorem trans (h : Opens none m m') (h' : Opens target m' m'') : Opens target m m'' := by
  -- The first step announces nothing, since nothing opens in it.
  have haccepted : m'.acceptedChannels = m.acceptedChannels := by
    rcases h.accepted with heq | ⟨cid, _, hcid, _⟩
    · exact heq
    · cases hcid
  refine ⟨by rw [← haccepted]; exact h'.accepted, fun cid channel hc => ?_,
    fun cid channel' hc' hopen => ?_⟩
  · obtain ⟨channel', hc', ho⟩ := h.origin cid channel hc
    obtain ⟨channel'', hc'', ho'⟩ := h'.origin cid channel' hc'
    exact ⟨channel'', hc'', ho'.trans ho⟩
  · rcases h'.opened cid channel' hc' hopen with htarget | ⟨channel, hc, hchannel⟩
    · exact .inl htarget
    · rcases h.opened cid channel hc hchannel with htarget | hbefore
      · cases htarget
      · exact .inr hbefore

theorem mono {target' : Option UInt16} (h : Opens target m m')
    (ht : ∀ cid, target = some cid → target' = some cid) : Opens target' m m' where
  accepted := h.accepted.imp id fun ⟨cid, channel', hcid, h⟩ => ⟨cid, channel', ht cid hcid, h⟩
  origin := h.origin
  opened cid channel' hc hopen := (h.opened cid channel' hc hopen).imp (ht cid) id

theorem of_none (h : Opens none m m') : Opens target m m' := h.mono fun _ ht => by cases ht

/-- One channel changed and did not open. -/
theorem of_replaces {cid : UInt16} {channel : ClassicChannel} (h : Replaces cid channel m m')
    (horigin : ∀ c, m.channel cid = some c → channel.origin = c.origin)
    (hopen : channel.isOpen = true → ∃ c, m.channel cid = some c ∧ c.isOpen = true) :
    Opens target m m' := by
  -- Every other channel is as it was.
  refine ⟨.inl h.accepted, fun cid' c hc => ?_, fun cid' c hc ho => .inr ?_⟩
  · by_cases heq : cid = cid'
    · subst heq
      exact ⟨channel, h.self, horigin c hc⟩
    · exact ⟨c, by rw [h.other cid' heq, hc], rfl⟩
  · by_cases heq : cid = cid'
    · subst heq
      rw [h.self] at hc
      cases hc
      exact hopen ho
    · exact ⟨c, by rw [← h.other cid' heq, hc], ho⟩

end Opens

variable {target : Option UInt16} {m : ChannelManager}

theorem queueControl_same (frame : ControlFrame) (m : ChannelManager) :
    Same ClassicChannel.signaling m (queueControl frame m).2 :=
  (Same.refl m).outbound _

theorem queueConfigureRequest_keeps (cid : UInt16) :
    Exec.Keeps (Same ClassicChannel.signaling m₀) (queueConfigureRequest cid) := by
  intro m h
  rcases channelOr_cases "channel not found for CID" cid m with ⟨channel, hc, hr⟩ | ⟨error, hr⟩
  · rw [queueConfigureRequest, Exec.bind_ok hr, nextIdentifier, Exec.update_bind]
    rcases encodeConfigurationOptions (configurationOptions channel.spec) with error | options
    · exact ⟨h.accepted, h.channel⟩
    · exact ⟨h.accepted, h.channel⟩
  · rw [queueConfigureRequest, Exec.bind_error hr]
    exact h

theorem onConnectionRequest_opens (identifier : UInt8) (psm : UInt32) (remoteCid : UInt16)
    (m : ChannelManager) : Opens target m (onConnectionRequest identifier psm remoteCid m).2 := by
  rw [onConnectionRequest, Exec.get_bind]
  rcases m.servers[psm]? with _ | spec
  · exact .of_same (queueControl_same _ m)
  rcases halloc : m.allocateCid with error | localCid
  · exact .of_same (queueControl_same _ m)
  -- The new channel waits for its configuration, and its identifier was free.
  have hnew := replaces_insert localCid (.newIncoming psm localCid remoteCid spec) m
  refine Opens.trans (.of_replaces hnew (fun c hc => ?_) (fun h => by cases h)) (.of_same ?_)
  · rw [allocateCid_spec halloc] at hc
    cases hc
  · change Same _ _ ((do
      queueControl (.connectionResponse identifier localCid remoteCid connectionSuccessful 0)
      queueConfigureRequest localCid : Update Unit) _).2
    exact Exec.Keeps.bind_from (queueControl_same _ _) fun _ => queueConfigureRequest_keeps _

theorem onConnectionResponse_opens (destinationCid sourceCid result : UInt16)
    (m : ChannelManager) :
    Opens target m (onConnectionResponse destinationCid sourceCid result m).2 := by
  rcases channelOr_cases "connection response for unknown CID" sourceCid m with
    ⟨channel, hc, hr⟩ | ⟨error, hr⟩
  · have horigin (c : ClassicChannel) (h : m.channel sourceCid = some c) :
        channel.origin = c.origin := by
      rw [hc] at h
      cases h
      rfl
    rw [onConnectionResponse, Exec.bind_ok hr]
    split
    · exact .of_same (.refl m)
    · split
      · exact .of_replaces (replaces_insert _ _ m) horigin (fun h => by cases h)
      · refine Opens.trans
          (.of_replaces (replaces_insert sourceCid
            { channel with connectionResult := some result, destinationCid := destinationCid,
                           state := .configuring } m) horigin (fun h => by cases h))
          (.of_same ?_)
        exact queueConfigureRequest_keeps sourceCid _ (.refl _)
  · rw [onConnectionResponse, Exec.bind_error hr]
    exact .of_same (.refl m)

theorem onDisconnectionRequest_opens (identifier : UInt8) (localCid remoteCid : UInt16)
    (m : ChannelManager) :
    Opens target m (onDisconnectionRequest identifier localCid remoteCid m).2 := by
  rcases channelOr_cases "disconnection request for unknown CID" localCid m with
    ⟨channel, hc, hr⟩ | ⟨error, hr⟩
  · rw [onDisconnectionRequest, Exec.bind_ok hr]
    split
    · exact .of_same (.refl m)
    · refine Opens.trans (.of_replaces (replaces_insert localCid
        { channel with state := .closed } m) (fun c h => ?_) (fun h => by cases h))
        (.of_same (queueControl_same _ _))
      rw [hc] at h
      cases h
      rfl
  · rw [onDisconnectionRequest, Exec.bind_error hr]
    exact .of_same (.refl m)

theorem onDisconnectionResponse_opens (destinationCid sourceCid : UInt16) (m : ChannelManager) :
    Opens target m (onDisconnectionResponse destinationCid sourceCid m).2 := by
  rcases channelOr_cases "disconnection response for unknown CID" sourceCid m with
    ⟨channel, hc, hr⟩ | ⟨error, hr⟩
  · rw [onDisconnectionResponse, Exec.bind_ok hr]
    split
    · exact .of_same (.refl m)
    · refine .of_replaces (replaces_insert sourceCid { channel with state := .closed } m)
        (fun c h => ?_) (fun h => by cases h)
      rw [hc] at h
      cases h
      rfl
  · rw [onDisconnectionResponse, Exec.bind_error hr]
    exact .of_same (.refl m)

/-- A channel that opens was configured on both sides. -/
theorem maybeOpen_opens (cid : UInt16) (m : ChannelManager) :
    Opens (if (m.channel cid).any fun channel => channel.state = .configuring &&
        channel.configurationResponseReceived && channel.peerConfigurationReceived
      then some cid else none) m (maybeOpen cid m).2 := by
  rcases hc : m.channel cid with _ | channel
  · rw [maybeOpen, hc]
    exact .of_same (.refl m)
  by_cases h : channel.peerConfigurationReceived ∧ channel.configurationResponseReceived ∧
      channel.state = .configuring
  · have hopen (accepted : List UInt16) (channel' : ClassicChannel)
        (horigin : channel'.origin = channel.origin)
        (haccepted : accepted = m.acceptedChannels ∨
          channel'.incoming = true ∧ accepted = m.acceptedChannels ++ [cid]) :
        Opens (some cid) m { m with
          channels := m.channels.insert cid channel', acceptedChannels := accepted } := by
      have hreplaces := replaces_insert cid channel' m
      refine ⟨haccepted.imp id fun h => ⟨cid, channel', rfl, hreplaces.self, h⟩,
        fun cid' c h' => ?_, fun cid' c h' ho => ?_⟩
      · by_cases heq : cid = cid'
        · subst heq
          rw [hc] at h'
          cases h'
          exact ⟨channel', hreplaces.self, horigin⟩
        · exact ⟨c, (hreplaces.other cid' heq).trans h', rfl⟩
      · by_cases heq : cid = cid'
        · exact .inl (congrArg some heq)
        · exact .inr ⟨c, (hreplaces.other cid' heq).symm.trans h', ho⟩
    rw [maybeOpen, hc]
    dsimp only
    rw [if_pos h, if_pos (by simp [h.1, h.2.1, h.2.2])]
    -- The channel opens in both branches, and is announced in the first one.
    split
    · rename_i hannounced
      exact hopen _ _ rfl (.inr ⟨hannounced.1, rfl⟩)
    · exact hopen _ _ rfl (.inl rfl)
  · rw [maybeOpen, hc]
    dsimp only
    rw [if_neg h]
    exact .of_same (.refl m)

/-- The channel after its final configuration request: closed, or configured by the peer when the
request agrees with it. -/
theorem completeConfiguration_spec (cid : UInt16) (channel : ClassicChannel)
    (scan : ConfigurationScan) (m : ChannelManager) :
    ∃ channel', Replaces cid channel' m (completeConfiguration cid channel scan m).2 ∧
      channel'.origin = channel.origin ∧
      (channel'.state = .closed ∨ channel'.state = channel.state ∧
        channel'.configurationResponseReceived = channel.configurationResponseReceived ∧
        ((completeConfiguration cid channel scan m).1.isOk → configurationAgrees channel scan)) := by
  have hrefuse (options : List ConfigurationOption) : ∃ channel',
      Replaces cid channel' m (refuseConfiguration cid channel options m).2 ∧
        channel'.origin = channel.origin ∧ channel'.state = .closed :=
    ⟨_, replaces_insert cid _ m, rfl, rfl⟩
  -- The two sides use the retransmission mode or not; they agree only if both or neither do.
  rcases hspec : channel.spec.ertm? with _ | spec <;> rcases herm : scan.peerErtm with _ | parameters
  · by_cases hfcs : scan.peerFcs.getD false = true
    · obtain ⟨channel', h, horigin, hclosed⟩ := hrefuse scan.responseOptions
      refine ⟨channel', ?_, horigin, .inl hclosed⟩
      simpa [completeConfiguration, hspec, herm, hfcs] using h
    · refine ⟨{ channel with peerConfigurationReceived := true }, ?_, rfl, .inr ⟨rfl, rfl, ?_⟩⟩
      · have h := replaces_insert cid { channel with peerConfigurationReceived := true } m
        simpa [completeConfiguration, hspec, herm, hfcs, acceptConfiguration, setChannel] using h
      · simp [configurationAgrees, hspec, herm, hfcs]
  · obtain ⟨channel', h, horigin, hclosed⟩ := hrefuse scan.responseOptions
    refine ⟨channel', ?_, horigin, .inl hclosed⟩
    simpa [completeConfiguration, hspec, herm] using h
  · obtain ⟨channel', h, horigin, hclosed⟩ := hrefuse
      [.new configurationOptionRetransmissionAndFlowControl (encodeErtmOption spec)]
    refine ⟨channel', ?_, horigin, .inl hclosed⟩
    simpa [completeConfiguration, hspec, herm] using h
  · by_cases hfcs : scan.peerFcs.getD false = spec.fcsEnabled
    · let agreed := { channel with peerMps := parameters.mps, fcsEnabled := spec.fcsEnabled }
      have hagreed := replaces_insert cid agreed m
      rcases hengine : ErtmEngine.new (negotiatedErtmConfig spec parameters) with error | engine
      · -- The call fails, but what was agreed stays in the channel.
        refine ⟨agreed, ?_, rfl, .inr ⟨rfl, rfl, ?_⟩⟩
        · simpa [completeConfiguration, hspec, herm, hfcs, hengine, setChannel] using hagreed
        · simp [completeConfiguration, hspec, herm, hfcs, hengine, setChannel, Except.isOk,
            Except.toBool]
      · refine ⟨{ agreed with ertm := some engine, peerConfigurationReceived := true }, ?_, rfl,
          .inr ⟨rfl, rfl, ?_⟩⟩
        · simpa [completeConfiguration, hspec, herm, hfcs, hengine, setChannel,
            acceptConfiguration] using hagreed.trans (replaces_insert cid
              { agreed with ertm := some engine, peerConfigurationReceived := true } _)
        · simp [configurationAgrees, hspec, herm, hfcs, hengine, Except.isOk, Except.toBool]
    · obtain ⟨channel', h, horigin, hclosed⟩ := hrefuse
        [.new configurationOptionFcs [spec.fcsEnabled.toUInt8]]
      refine ⟨channel', ?_, horigin, .inl hclosed⟩
      simpa [completeConfiguration, hspec, herm, hfcs] using h

/-- The end of a configuration exchange: the channel, as the exchange left it, may open. -/
theorem maybeOpen_after {m₁ : ChannelManager} {cid : UInt16} {channel : ClassicChannel}
    (h : Opens none m m₁) (hc : m₁.channel cid = some channel)
    (ht : channel.state = .configuring → channel.configurationResponseReceived = true →
      channel.peerConfigurationReceived = true → target = some cid) :
    Opens target m (maybeOpen cid m₁).2 := by
  refine h.trans ((maybeOpen_opens cid m₁).mono fun cid' h' => ?_)
  rw [hc] at h'
  split at h'
  · rename_i hflags
    cases h'
    simp only [Option.any_some, Bool.and_eq_true, decide_eq_true_eq] at hflags
    exact ht hflags.1.1 hflags.1.2 hflags.2
  · cases h'

/-- A configuration response opens a channel only when it completes its configuration. -/
theorem onConfigureResponse_opens (identifier : UInt8) (cid flags result : UInt16)
    (options : Bytes) (m : ChannelManager) :
    Opens (m.completesFrame (.configureResponse identifier cid flags result options)) m
      (onConfigureResponse cid result m).2 := by
  rcases channelOr_cases "configuration response for unknown CID" cid m with
    ⟨channel, hc, hr⟩ | ⟨error, hr⟩
  · rw [onConfigureResponse, Exec.bind_ok hr, setChannel, Exec.modify_bind]
    have hreplaces := replaces_insert cid (if result = configurationSuccess then
      { channel with configurationResponseReceived := true }
      else { channel with connectionResult := some result, state := .closed }) m
    refine maybeOpen_after (.of_replaces hreplaces (fun c h => ?_) (fun h => ?_)) hreplaces.self
      fun hstate hlocal hpeer => ?_
    · rw [hc] at h
      cases h
      split <;> rfl
    · refine ⟨channel, hc, ?_⟩
      split at h
      · exact h
      · cases h
    · split at hstate
      · rename_i hresult
        rw [if_pos hresult] at hpeer
        rw [completesFrame, if_pos]
        simp only [hc, Option.any_some, opensOnResponse, Bool.and_eq_true, decide_eq_true_eq]
        exact ⟨⟨hstate, hpeer⟩, hresult⟩
      · cases hstate
  · rw [onConfigureResponse, Exec.bind_error hr]
    exact .of_same (.refl m)

/-- A configuration request opens a channel only when it completes its configuration. -/
theorem onConfigureRequest_opens (identifier : UInt8) (cid flags : UInt16) (encoded : Bytes)
    (m : ChannelManager) :
    Opens (m.completesFrame (.configureRequest identifier cid flags encoded)) m
      (onConfigureRequest identifier cid flags encoded m).2 := by
  rcases hdecode : decodeConfigurationOptions encoded with error | options
  · rw [onConfigureRequest, hdecode]
    exact .of_same (.refl m)
  rcases channelOr_cases "configuration request for unknown CID" cid m with
    ⟨channel, hc, hr⟩ | ⟨error, hr⟩
  swap
  · rw [onConfigureRequest, hdecode, Exec.lift_ok_bind, Exec.bind_error hr]
    exact .of_same (.refl m)
  rw [onConfigureRequest, hdecode, Exec.lift_ok_bind, Exec.bind_ok hr]
  let scan := scanOptions channel.mode { peerMtu := channel.peerMtu } options
  let channel₁ := { channel with peerMtu := scan.peerMtu }
  let m₁ : ChannelManager := { m with channels := m.channels.insert cid channel₁ }
  have hreplaces₁ : Replaces cid channel₁ m m₁ := replaces_insert cid channel₁ m
  -- What is left to do once the request has been judged.
  have hrest (m₂ : ChannelManager) (channel₂ : ClassicChannel) (h₂ : Replaces cid channel₂ m m₂)
      (horigin : channel₂.origin = channel.origin)
      (hstate : channel₂.state = .closed ∨ channel₂.state = channel.state)
      (hcompletes : channel₂.state = .configuring → channel₂.configurationResponseReceived = true →
        channel₂.peerConfigurationReceived = true → opensOnRequest flags encoded channel = true)
      (result : UInt16) (responseOptions : List ConfigurationOption) :
      Opens (m.completesFrame (.configureRequest identifier cid flags encoded)) m ((do
        let options ← Exec.lift (encodeConfigurationOptions responseOptions)
        queueControl (.configureResponse identifier channel.destinationCid 0 result options)
        maybeOpen cid : Update Unit) m₂).2 := by
    have hopens : Opens none m m₂ := by
      refine .of_replaces h₂ (fun c h => ?_) fun h => ⟨channel, hc, ?_⟩
      · rw [hc] at h
        cases h
        exact horigin
      · rcases hstate with hclosed | hsame
        · simp [ClassicChannel.isOpen, hclosed] at h
        · rwa [ClassicChannel.isOpen, hsame] at h
    rcases encodeConfigurationOptions responseOptions with error | options
    · exact hopens.of_none
    · refine maybeOpen_after (hopens.trans (.of_same (queueControl_same _ m₂))) h₂.self
        fun hstate hlocal hpeer => ?_
      rw [completesFrame, if_pos]
      simpa [hc] using hcompletes hstate hlocal hpeer
  by_cases hfinal : scan.result = configurationSuccess ∧ flags &&& 1 = 0
  · obtain ⟨channel₂, h₂, horigin, hjudged⟩ := completeConfiguration_spec cid channel₁ scan m₁
    have hstate : channel₂.state = .closed ∨ channel₂.state = channel.state :=
      hjudged.imp id fun h => h.1
    simp only [setChannel, Exec.modify_bind]
    rw [if_pos hfinal]
    rcases hresult : completeConfiguration cid channel₁ scan m₁ with ⟨error | ⟨result, response⟩, m₂⟩
    · rw [Exec.bind_error hresult]
      rw [hresult] at h₂
      refine .of_replaces (hreplaces₁.trans h₂) (fun c h => ?_) fun h => ⟨channel, hc, ?_⟩
      · rw [hc] at h
        cases h
        exact horigin
      · rcases hstate with hclosed | hsame
        · simp [ClassicChannel.isOpen, hclosed] at h
        · rwa [ClassicChannel.isOpen, hsame] at h
    · rw [Exec.bind_ok hresult]
      rw [hresult] at h₂ hjudged
      refine hrest m₂ channel₂ (hreplaces₁.trans h₂) horigin hstate (fun hs hlocal _ => ?_)
        result response
      rcases hjudged with hclosed | ⟨hsame, hresponse, hagrees⟩
      · rw [hclosed] at hs
        cases hs
      · have hconfiguring : channel.state = .configuring := hsame.symm.trans hs
        have hreceived : channel.configurationResponseReceived = true := hresponse.symm.trans hlocal
        have hagree : configurationAgrees channel scan = true := hagrees rfl
        simp only [opensOnRequest, hdecode]
        rw [if_pos hfinal, hagree, hconfiguring, hreceived]
        rfl
  · -- A request that is not the last one leaves the configuration where it was.
    simp only [setChannel, Exec.modify_bind]
    rw [if_neg hfinal, Exec.pure_bind]
    refine hrest m₁ channel₁ hreplaces₁ rfl (.inr rfl) (fun hs hlocal hpeer => ?_) _ _
    have hconfiguring : channel.state = .configuring := hs
    have hreceived : channel.configurationResponseReceived = true := hlocal
    have hconfigured : channel.peerConfigurationReceived = true := hpeer
    simp only [opensOnRequest, hdecode]
    rw [if_neg hfinal, hconfigured, hconfiguring, hreceived]
    rfl

theorem processControl_opens (frame : ControlFrame) (m : ChannelManager) :
    Opens (m.completesFrame frame) m (processControl frame m).2 := by
  cases frame with
  | connectionRequest identifier psm sourceCid => exact onConnectionRequest_opens _ _ _ m
  | connectionResponse _ destinationCid sourceCid result _ =>
    exact onConnectionResponse_opens _ _ _ m
  | configureRequest identifier cid flags options => exact onConfigureRequest_opens _ _ _ _ m
  | configureResponse identifier cid flags result options =>
    exact onConfigureResponse_opens identifier cid flags result options m
  | disconnectionRequest identifier destinationCid sourceCid =>
    exact onDisconnectionRequest_opens _ _ _ m
  | disconnectionResponse _ destinationCid sourceCid => exact onDisconnectionResponse_opens _ _ m
  | _ => exact .of_same ⟨rfl, fun _ => rfl⟩

/-- **A channel opens only when its configuration completes.** -/
theorem processPdu_opens (pdu : L2capPdu) (m : ChannelManager) :
    Opens (m.completes pdu) m (processPdu pdu m).2 := by
  rw [processPdu, completes]
  split
  · rcases ControlFrame.fromBytes pdu.payload with error | frame
    · exact .of_same (.refl m)
    · exact processControl_opens frame m
  · exact .of_same (processData_keeps _ _ m (.refl m))

end ChannelManager

end ClassicHid

import ClassicHid.L2cap.Handlers

/-!
# The life of a channel

Whatever the peer sends and whatever the owner of a link asks of it, a channel moves through its
states in one direction, opens only when it is configured on both sides, and is announced at most
once.

## Main definitions

* `ManagerOp`, `ChannelManager.apply`: the operations of a link
* `ClassicChannel.Sound`: what holds of every channel
* `ClassicChannel.Becomes`: what one operation may do to a channel
* `ManagerHistory`: a link with all channels it has announced

## Main results

* `ChannelManager.apply_proceeds`: what every operation does to the channels
* `ManagerHistory.channels_live_once`: what holds after any operations
-/

namespace ClassicHid

open Foundation
open Std (ExtTreeMap)

/-- The order in which a channel passes its states. -/
def ClassicChannelState.rank : ClassicChannelState → ℕ
  | waitConnectResponse => 0
  | configuring => 1
  | «open» => 2
  | waitDisconnect => 3
  | closed => 4

theorem ClassicChannelState.rank_le_closed (state : ClassicChannelState) :
    state.rank ≤ rank closed := by
  cases state <;> decide

/-- An operation on a link. -/
inductive ManagerOp
  | registerServer (psm : Option UInt32) (spec : ClassicChannelSpec)
  | registerErtmServer (psm : Option UInt32) (spec : ErtmChannelSpec)
  | unregisterServer (psm : UInt32)
  | connect (psm : UInt32) (spec : ClassicChannelSpec)
  | connectErtm (psm : UInt32) (spec : ErtmChannelSpec)
  | send (sourceCid : UInt16) (sdu : Bytes)
  | disconnect (sourceCid : UInt16)
  | tick (ticks : UInt32)
  | setReceiverBusy (sourceCid : UInt16) (busy : Bool)
  | requestInformation (infoType : UInt16)
  | processPdu (pdu : L2capPdu)
  | processBytes (bytes : Bytes)
  | pollAcceptedChannel
  | pollOutbound
  | drainOutbound
  | pollInformationResponse
  | drainInformationResponses
  | popReceived (sourceCid : UInt16)

namespace ChannelManager

/-- The link after the next received SDU of a channel was taken. -/
def popReceived (m : ChannelManager) (cid : UInt16) : ChannelManager :=
  match m.channel cid with
  | none => m
  | some c => { m with channels := m.channels.insert cid c.popReceived.2 }

/-- The link after an operation, whether it returned or failed. -/
def apply (op : ManagerOp) (m : ChannelManager) : ChannelManager :=
  match op with
  | .registerServer psm spec => (ChannelManager.registerServer psm spec m).2
  | .registerErtmServer psm spec => (ChannelManager.registerErtmServer psm spec m).2
  | .unregisterServer psm => (ChannelManager.unregisterServer psm m).2
  | .connect psm spec => (ChannelManager.connect psm spec m).2
  | .connectErtm psm spec => (ChannelManager.connectErtm psm spec m).2
  | .send sourceCid sdu => (ChannelManager.send sourceCid sdu m).2
  | .disconnect sourceCid => (ChannelManager.disconnect sourceCid m).2
  | .tick ticks => (ChannelManager.tick ticks m).2
  | .setReceiverBusy sourceCid busy => (ChannelManager.setReceiverBusy sourceCid busy m).2
  | .requestInformation infoType => (ChannelManager.requestInformation infoType m).2
  | .processPdu pdu => (ChannelManager.processPdu pdu m).2
  | .processBytes bytes => (ChannelManager.processBytes bytes m).2
  | .pollAcceptedChannel => { m with acceptedChannels := m.acceptedChannels.tail }
  | .pollOutbound => { m with outbound := m.outbound.tail }
  | .drainOutbound => { m with outbound := [] }
  | .pollInformationResponse => { m with informationResponses := m.informationResponses.tail }
  | .drainInformationResponses => { m with informationResponses := [] }
  | .popReceived sourceCid => m.popReceived sourceCid

end ChannelManager

namespace ClassicChannel

/-! ### One channel -/

/-- What holds of the channel with the local identifier `cid`. -/
structure Sound (cid : UInt16) (c : ClassicChannel) : Prop where
  source : c.sourceCid = cid
  dynamic : 0x0040 ≤ cid.toNat
  peerMtu : 48 ≤ c.peerMtu.toNat
  specMode : c.mode = c.spec.mode
  engine : c.ertm.isSome = true → c.mode = .enhancedRetransmission
  configured : c.peerConfigurationReceived = true → c.mode = .enhancedRetransmission →
    c.ertm.isSome = true
  opened : c.state = .open →
    c.peerConfigurationReceived = true ∧ c.configurationResponseReceived = true

/-- What one operation may do to a channel; `announced` says whether it announced it. -/
structure Becomes (announced : Bool) (c c' : ClassicChannel) : Prop where
  state : c.state.rank ≤ c'.state.rank
  incoming : c'.incoming = c.incoming
  psm : c'.psm = c.psm
  openAnnounced : c'.openAnnounced = (c.openAnnounced || announced)
  entersOpen : announced = true → c.incoming = true ∧ c.openAnnounced = false ∧
    c.state = .configuring ∧ c'.state = .open
  sound : ∀ cid, Sound cid c → Sound cid c'

variable {c c' c'' : ClassicChannel}

theorem Becomes.refl (c : ClassicChannel) : Becomes false c c :=
  ⟨Nat.le_refl _, rfl, rfl, by simp, nofun, fun _ => id⟩

/-- Two changes, of which the first announces nothing. -/
theorem Becomes.trans {announced : Bool} (h : Becomes false c c')
    (hstate : c'.state = .closed ∨ c'.state = c.state) (h' : Becomes announced c' c'') :
    Becomes announced c c'' where
  state := Nat.le_trans h.state h'.state
  incoming := h'.incoming.trans h.incoming
  psm := h'.psm.trans h.psm
  openAnnounced := by rw [h'.openAnnounced, h.openAnnounced, Bool.or_false]
  entersOpen hannounced := by
    obtain ⟨hincoming, hopen, hconfiguring, hopened⟩ := h'.entersOpen hannounced
    rw [h.incoming] at hincoming
    rw [h.openAnnounced, Bool.or_false] at hopen
    refine ⟨hincoming, hopen, ?_, hopened⟩
    rcases hstate with hclosed | hsame
    · cases hclosed.symm.trans hconfiguring
    · exact hsame.symm.trans hconfiguring
  sound cid hsound := h'.sound cid (h.sound cid hsound)

/-- Data changes nothing that counts here. -/
theorem Becomes.data {engine : Option ErtmEngine} (hengine : engine.isSome = c.ertm.isSome)
    (received : List Bytes) : Becomes false c { c with ertm := engine, received := received } where
  state := Nat.le_refl _
  incoming := rfl
  psm := rfl
  openAnnounced := by simp
  entersOpen := nofun
  sound cid h := by
    refine ⟨h.source, h.dynamic, h.peerMtu, h.specMode, ?_, ?_, h.opened⟩
    · rw [hengine]
      exact h.engine
    · intro hpeer hmode
      exact hengine.trans (h.configured hpeer hmode)

/-- A channel may close at any time. -/
theorem Becomes.close (result : Option UInt16) :
    Becomes false c { c with connectionResult := result, state := .closed } where
  state := c.state.rank_le_closed
  incoming := rfl
  psm := rfl
  openAnnounced := by simp
  entersOpen := nofun
  sound cid h := ⟨h.source, h.dynamic, h.peerMtu, h.specMode, h.engine, h.configured, nofun⟩

/-- A channel that is configured on both sides opens. -/
theorem becomes_settled (c : ClassicChannel) : Becomes c.announces c c.settled := by
  rcases hconfigured : c.configured with _ | _
  · have hannounces : c.announces = false := by simp [announces, hconfigured]
    rw [hannounces, settled, hconfigured]
    exact .refl c
  · have hflags : c.peerConfigurationReceived = true ∧ c.configurationResponseReceived = true ∧
        c.state = .configuring := by
      simpa [configured, and_assoc] using hconfigured
    have hannounces : c.announces = (c.incoming && !c.openAnnounced) := by
      simp [announces, hconfigured]
    rw [hannounces, settled, if_pos hconfigured]
    refine ⟨?_, rfl, rfl, ?_, ?_, ?_⟩
    · rw [hflags.2.2]
      exact Nat.le_succ 1
    · cases c.incoming <;> cases c.openAnnounced <;> rfl
    · intro hannounced
      simp only [Bool.and_eq_true, Bool.not_eq_true'] at hannounced
      exact ⟨hannounced.1, hannounced.2, hflags.2.2, rfl⟩
    · intro cid h
      exact ⟨h.source, h.dynamic, h.peerMtu, h.specMode, h.engine, h.configured,
        fun _ => ⟨hflags.1, hflags.2.1⟩⟩

/-- A configuration response. -/
theorem becomes_answered (c : ClassicChannel) (result : UInt16) :
    Becomes false c (c.answered result) := by
  rw [answered]
  split
  · refine ⟨Nat.le_refl _, rfl, rfl, by simp, nofun, ?_⟩
    intro cid h
    exact ⟨h.source, h.dynamic, h.peerMtu, h.specMode, h.engine, h.configured,
      fun hopen => ⟨(h.opened hopen).1, rfl⟩⟩
  · exact .close _

/-- The options of a request never lower the MTU below the least one. -/
theorem scanOptions_peerMtu (mode : ClassicChannelMode) (options : List ConfigurationOption)
    {scan : ConfigurationScan} (h : 48 ≤ scan.peerMtu.toNat) :
    48 ≤ (scanOptions mode scan options).peerMtu.toNat := by
  induction options generalizing scan with
  | nil => exact h
  | cons option options ih =>
    rw [scanOptions]
    split
    · split
      · exact h
      split
      · exact h
      · rename_i hmtu
        apply ih
        rw [UInt16.lt_iff_toNat_lt] at hmtu
        exact Nat.not_lt.mp hmtu
    split
    · split
      · exact h
      split
      · exact h
      · exact ih h
    split
    · split
      · exact h
      · exact ih h
    split
    · exact h
    · exact ih h

theorem ertm?_isSome (spec : ChannelSpec) :
    spec.ertm?.isSome = true ↔ spec.mode = .enhancedRetransmission := by
  cases spec <;> simp [ChannelSpec.ertm?, ChannelSpec.mode]

/-- The end of a final request. -/
theorem becomes_complete (c : ClassicChannel) (scan : ConfigurationScan) :
    Becomes false c (c.complete scan).2 := by
  rcases hspec : c.spec.ertm? with _ | spec <;> rcases herm : scan.peerErtm with _ | parameters
  · have hbasic (cid : UInt16) (h : Sound cid c) : c.mode ≠ .enhancedRetransmission := by
      rw [h.specMode, ne_eq, ← ertm?_isSome, hspec]
      rintro ⟨⟩
    simp only [complete, hspec, herm]
    split
    · exact .close _
    · refine ⟨Nat.le_refl _, rfl, rfl, by simp, (by rintro ⟨⟩), ?_⟩
      intro cid h
      exact ⟨h.source, h.dynamic, h.peerMtu, h.specMode, h.engine,
        fun _ hmode => absurd hmode (hbasic cid h), fun hopen => ⟨rfl, (h.opened hopen).2⟩⟩
  · simp only [complete, hspec, herm, Option.isSome_some, true_or, if_true]
    exact .close _
  · simp only [complete, hspec, herm]
    exact .close _
  · have hmode (cid : UInt16) (h : Sound cid c) : c.mode = .enhancedRetransmission := by
      rw [h.specMode, ← ertm?_isSome, hspec]
      rfl
    simp only [complete, hspec, herm]
    split
    · exact .close _
    · rcases ErtmEngine.new (ChannelManager.negotiatedErtmConfig spec parameters) with
        error | engine
      · refine ⟨Nat.le_refl _, rfl, rfl, by simp, (by rintro ⟨⟩), ?_⟩
        intro cid h
        exact ⟨h.source, h.dynamic, h.peerMtu, h.specMode, h.engine, h.configured, h.opened⟩
      · refine ⟨Nat.le_refl _, rfl, rfl, by simp, (by rintro ⟨⟩), ?_⟩
        intro cid h
        exact ⟨h.source, h.dynamic, h.peerMtu, h.specMode, fun _ => hmode cid h,
          fun _ _ => rfl, fun hopen => ⟨rfl, (h.opened hopen).2⟩⟩

theorem complete_state (c : ClassicChannel) (scan : ConfigurationScan) :
    (c.complete scan).2.state = .closed ∨ (c.complete scan).2.state = c.state := by
  unfold complete
  split
  · split
    · exact .inl rfl
    · dsimp only
      split <;> exact .inr rfl
  · exact .inl rfl
  · split
    · exact .inl rfl
    · exact .inr rfl

/-- Until it settles, a configuration request leaves the state of a channel or closes it. -/
theorem judge_state (c : ClassicChannel) (flags : UInt16) (options : List ConfigurationOption) :
    (c.judge flags options).2.state = .closed ∨ (c.judge flags options).2.state = c.state := by
  unfold judge
  dsimp only
  split
  · exact complete_state _ _
  · exact .inr rfl

theorem becomes_judge (c : ClassicChannel) (flags : UInt16) (options : List ConfigurationOption) :
    Becomes false c (c.judge flags options).2 := by
  have hmtu : Becomes false c { c with
      peerMtu := (scanOptions c.mode { peerMtu := c.peerMtu } options).peerMtu } := by
    refine ⟨Nat.le_refl _, rfl, rfl, by simp, nofun, ?_⟩
    intro cid h
    exact ⟨h.source, h.dynamic, scanOptions_peerMtu _ _ h.peerMtu, h.specMode, h.engine,
      h.configured, h.opened⟩
  unfold judge
  dsimp only
  split
  · exact hmtu.trans (.inr rfl) (becomes_complete _ _)
  · exact hmtu

/-- A channel without its data, and whether it has an engine. -/
def dataView (c : ClassicChannel) : ClassicChannel × Bool := (c.signaling, c.ertm.isSome)

theorem becomes_of_dataView (h : c'.dataView = c.dataView) : Becomes false c c' := by
  have hsignaling : c'.signaling = c.signaling := congrArg Prod.fst h
  have heq : c' = { c with ertm := c'.ertm, received := c'.received } := by
    cases c
    cases c'
    simp only [signaling, mk.injEq] at hsignaling ⊢
    simp [hsignaling]
  rw [heq]
  exact .data (congrArg Prod.snd h) _

end ClassicChannel

namespace ChannelManager

/-! ### A link -/

variable {m m' : ChannelManager} {cid : UInt16} {c c' : ClassicChannel}

/-- What one operation may do to the channels of a link; `announced` are those it announces. -/
structure Proceeds (announced : List UInt16) (m m' : ChannelManager) : Prop where
  accepted : m'.acceptedChannels.drop m.acceptedChannels.length = announced
  once : announced.length ≤ 1
  known : ∀ cid ∈ announced, ∃ c, m.channel cid = some c
  channel : ∀ cid c, m.channel cid = some c →
    ∃ c', m'.channel cid = some c' ∧ c.Becomes (announced.contains cid) c'
  fresh : ∀ cid c', m.channel cid = none → m'.channel cid = some c' →
    c'.Sound cid ∧ c'.openAnnounced = false

/-- Nothing but data changed. -/
theorem Proceeds.of_same (h : Same ClassicChannel.dataView m m') : Proceeds [] m m' where
  accepted := by rw [h.accepted, List.drop_length]
  once := Nat.zero_le _
  known := nofun
  channel cid c hc := by
    have hview := h.channel cid
    rw [hc, Option.map_some, Option.map_eq_some_iff] at hview
    obtain ⟨c', hc', hview⟩ := hview
    exact ⟨c', hc', ClassicChannel.becomes_of_dataView hview⟩
  fresh cid c' hnone hsome := by
    have hview := h.channel cid
    rw [hnone, hsome] at hview
    cases hview

theorem Proceeds.refl (m : ChannelManager) : Proceeds [] m m := .of_same (.refl m)

/-- One channel changed. -/
theorem Proceeds.of_react {announced : Bool} (h : m.channel cid = some c)
    (hbecomes : c.Becomes announced c') (pdus : List L2capPdu) :
    Proceeds (if announced then [cid] else []) m
      (react cid c' pdus (if announced then [cid] else []) m) where
  accepted := List.drop_left
  once := by split <;> simp
  known cid' hmem := by
    split at hmem
    · rw [List.mem_singleton.mp hmem]
      exact ⟨c, h⟩
    · cases hmem
  channel cid' c₁ hc₁ := by
    by_cases heq : cid = cid'
    · subst heq
      rw [h] at hc₁
      cases hc₁
      refine ⟨c', channel_react_self _ _, ?_⟩
      have hcontains : (if announced = true then [cid] else []).contains cid = announced := by
        cases announced <;> simp
      rw [hcontains]
      exact hbecomes
    · refine ⟨c₁, (channel_react_ne heq _ _).trans hc₁, ?_⟩
      have hcontains : (if announced = true then [cid] else []).contains cid' = false := by
        cases announced <;> simp [Ne.symm heq]
      rw [hcontains]
      exact .refl c₁
  fresh cid' c₁ hnone hsome := by
    by_cases heq : cid = cid'
    · subst heq
      cases h.symm.trans hnone
    · rw [channel_react_ne heq] at hsome
      cases hsome.symm.trans hnone

/-- One channel is new. -/
theorem Proceeds.of_new (hnone : m.channel cid = none) (hsound : c.Sound cid)
    (hannounced : c.openAnnounced = false) (pdus : List L2capPdu) :
    Proceeds [] m (react cid c pdus [] m) where
  accepted := List.drop_left
  once := Nat.zero_le _
  known := nofun
  channel cid' c₁ hc₁ := by
    have hne : cid ≠ cid' := by
      rintro rfl
      cases hnone.symm.trans hc₁
    exact ⟨c₁, (channel_react_ne hne _ _).trans hc₁, .refl c₁⟩
  fresh cid' c₁ hnone' hsome := by
    by_cases heq : cid = cid'
    · subst heq
      rw [channel_react_self] at hsome
      cases hsome
      exact ⟨hsound, hannounced⟩
    · rw [channel_react_ne heq] at hsome
      cases hsome.symm.trans hnone'

theorem DataStep.same (h : m.channel cid = some c) (hdata : DataStep cid c m m') :
    Same ClassicChannel.dataView m m' := by
  obtain ⟨engine, received, payloads, hengine, rfl⟩ := hdata
  refine ⟨by rw [react, List.append_nil], fun cid' => ?_⟩
  by_cases heq : cid = cid'
  · subst heq
    rw [channel_react_self, h, Option.map_some, Option.map_some]
    simp [ClassicChannel.dataView, ClassicChannel.signaling, hengine]
  · rw [channel_react_ne heq]

theorem tick_same (ticks : UInt32) (m : ChannelManager) :
    Same ClassicChannel.dataView m (tick ticks m).2 := by
  have hchannel (cid : UInt16) :
      Exec.Keeps (Same ClassicChannel.dataView m) (tickChannel ticks cid) := by
    intro m' h
    rcases hc : m'.channel cid with _ | c
    · rw [tickChannel, Exec.bind_error (channelOr_none _ hc)]
      exact h
    · exact h.trans ((tickChannel_cases hc ticks).same hc)
  rw [tick, Exec.get_bind]
  exact Exec.forEach_keeps (fun cid _ => hchannel cid) m (.refl m)

/-! ### Identifiers -/

theorem freeCid_ge {channels : ExtTreeMap UInt16 ClassicChannel} {first n : ℕ}
    (hrange : first + n ≤ 2 ^ 16) (h : freeCid channels first n = some cid) :
    first ≤ cid.toNat := by
  induction n generalizing first with
  | zero => cases h
  | succ n ih =>
    rw [freeCid] at h
    split at h
    · have := ih (by omega) h
      omega
    · cases h
      rw [UInt16.toNat_ofNat']
      omega

/-- A new identifier is not in use and in the dynamic range. -/
theorem allocateCid_ge (h : m.allocateCid = .ok cid) : 0x0040 ≤ cid.toNat := by
  rw [allocateCid] at h
  split at h
  · rename_i hfree
    cases h
    exact freeCid_ge (by decide) hfree
  · cases h

/-! ### The operations -/

theorem connectWithSpec_proceeds (psm : UInt32) (spec : ChannelSpec) (m : ChannelManager) :
    Proceeds [] m (connectWithSpec psm spec m).2 := by
  rcases connectWithSpec_cases psm spec m with ⟨error, hrun⟩ | ⟨cid, halloc, hrun⟩
  · rw [hrun]
    exact .refl m
  · rw [hrun]
    have hsound : (ClassicChannel.newOutgoing psm cid spec).Sound cid :=
      ⟨rfl, allocateCid_ge halloc, Nat.le_refl _, rfl, nofun, nofun, nofun⟩
    have hnew := Proceeds.of_new (allocateCid_spec halloc) hsound rfl
      [signal (.connectionRequest m.following psm cid)]
    exact ⟨hnew.accepted, hnew.once, hnew.known, hnew.channel, hnew.fresh⟩

theorem registerServerWithSpec_proceeds (psm : Option UInt32) (spec : ChannelSpec)
    (m : ChannelManager) : Proceeds [] m (registerServerWithSpec psm spec m).2 := by
  rcases registerServerWithSpec_cases psm spec m with ⟨error, hrun⟩ | ⟨psm', _, hrun⟩
  · rw [hrun]
    exact .refl m
  · rw [hrun]
    exact .of_same ⟨rfl, fun _ => rfl⟩

theorem onConnectionRequest_proceeds (identifier : UInt8) (psm : UInt32) (remoteCid : UInt16)
    (m : ChannelManager) :
    Proceeds [] m (onConnectionRequest identifier psm remoteCid m).2 := by
  rcases onConnectionRequest_cases identifier psm remoteCid m with
    ⟨result, _, hrun⟩ | ⟨spec, cid, _, halloc, hrun⟩
  · rw [hrun]
    exact .of_same ⟨rfl, fun _ => rfl⟩
  · rw [hrun]
    have hsound : (ClassicChannel.newIncoming psm cid remoteCid spec).Sound cid :=
      ⟨rfl, allocateCid_ge halloc, Nat.le_refl _, rfl, nofun, nofun, nofun⟩
    have hnew := Proceeds.of_new (allocateCid_spec halloc) hsound rfl
      [signal (.connectionResponse identifier cid remoteCid connectionSuccessful 0),
        signal (.configureRequest m.following remoteCid 0 (configurationBytes spec))]
    exact ⟨hnew.accepted, hnew.once, hnew.known, hnew.channel, hnew.fresh⟩

theorem onConnectionResponse_proceeds (destinationCid sourceCid result : UInt16)
    (m : ChannelManager) :
    Proceeds [] m (onConnectionResponse destinationCid sourceCid result m).2 := by
  rcases hc : m.channel sourceCid with _ | c
  · rw [onConnectionResponse, Exec.bind_error (channelOr_none _ hc)]
    exact .refl m
  rw [onConnectionResponse_eq hc]
  split
  · exact .refl m
  rename_i hwait
  split
  · exact Proceeds.of_react hc (.close _) []
  · have hbecomes : c.Becomes false { c with
        connectionResult := some result, destinationCid := destinationCid,
        state := .configuring } := by
      refine ⟨?_, rfl, rfl, by simp, (by rintro ⟨⟩), ?_⟩
      · rw [not_not.mp hwait]
        exact Nat.zero_le _
      · intro cid h
        exact ⟨h.source, h.dynamic, h.peerMtu, h.specMode, h.engine, h.configured, (by rintro ⟨⟩)⟩
    have hreact := Proceeds.of_react hc hbecomes
      [signal (.configureRequest m.following destinationCid 0 (configurationBytes c.spec))]
    exact ⟨hreact.accepted, hreact.once, hreact.known, hreact.channel, hreact.fresh⟩

/-- A configuration request announces its channel when it opens it. -/
theorem onConfigureRequest_proceeds (identifier : UInt8) (cid flags : UInt16) (encoded : Bytes)
    (m : ChannelManager) :
    ∃ announced, Proceeds announced m (onConfigureRequest identifier cid flags encoded m).2 := by
  rcases hdecode : decodeConfigurationOptions encoded with error | options
  · rw [onConfigureRequest, hdecode]
    exact ⟨[], .refl m⟩
  rcases hc : m.channel cid with _ | c
  · rw [onConfigureRequest, hdecode, Exec.lift_ok_bind, Exec.bind_error (channelOr_none _ hc)]
    exact ⟨[], .refl m⟩
  have hjudge := c.becomes_judge flags options
  rw [onConfigureRequest_eq hc identifier flags hdecode]
  split
  · exact ⟨[], Proceeds.of_react hc hjudge []⟩
  split
  · exact ⟨[], Proceeds.of_react hc hjudge []⟩
  · exact ⟨_, Proceeds.of_react hc
      (hjudge.trans (c.judge_state flags options) (ClassicChannel.becomes_settled _)) _⟩

/-- A configuration response announces its channel when it opens it. -/
theorem onConfigureResponse_proceeds (cid result : UInt16) (m : ChannelManager) :
    ∃ announced, Proceeds announced m (onConfigureResponse cid result m).2 := by
  rcases hc : m.channel cid with _ | c
  · rw [onConfigureResponse, Exec.bind_error (channelOr_none _ hc)]
    exact ⟨[], .refl m⟩
  have hstate : (c.answered result).state = .closed ∨ (c.answered result).state = c.state := by
    rw [ClassicChannel.answered]
    split
    · exact .inr rfl
    · exact .inl rfl
  rw [onConfigureResponse_eq hc]
  exact ⟨_, Proceeds.of_react hc
    ((c.becomes_answered result).trans hstate (ClassicChannel.becomes_settled _)) _⟩

theorem onDisconnectionRequest_proceeds (identifier : UInt8) (cid remoteCid : UInt16)
    (m : ChannelManager) :
    Proceeds [] m (onDisconnectionRequest identifier cid remoteCid m).2 := by
  rcases hc : m.channel cid with _ | c
  · rw [onDisconnectionRequest, Exec.bind_error (channelOr_none _ hc)]
    exact .refl m
  rw [onDisconnectionRequest_eq hc]
  split
  · exact .refl m
  · exact Proceeds.of_react hc (.close _) _

theorem onDisconnectionResponse_proceeds (destinationCid cid : UInt16) (m : ChannelManager) :
    Proceeds [] m (onDisconnectionResponse destinationCid cid m).2 := by
  rcases hc : m.channel cid with _ | c
  · rw [onDisconnectionResponse, Exec.bind_error (channelOr_none _ hc)]
    exact .refl m
  rw [onDisconnectionResponse_eq hc]
  split
  · exact .refl m
  · exact Proceeds.of_react hc (.close _) _

theorem disconnect_proceeds (cid : UInt16) (m : ChannelManager) :
    Proceeds [] m (disconnect cid m).2 := by
  rcases hc : m.channel cid with _ | c
  · rw [disconnect, Exec.bind_error (channelOr_none _ hc)]
    exact .refl m
  rw [disconnect_eq hc]
  split
  · exact .refl m
  rename_i hopen
  have hbecomes : c.Becomes false { c with state := .waitDisconnect } := by
    refine ⟨?_, rfl, rfl, by simp, (by rintro ⟨⟩), ?_⟩
    · rw [not_not.mp hopen]
      exact Nat.le_succ 2
    · intro cid h
      exact ⟨h.source, h.dynamic, h.peerMtu, h.specMode, h.engine, h.configured, (by rintro ⟨⟩)⟩
  have hreact := Proceeds.of_react hc hbecomes
    [signal (.disconnectionRequest m.following c.destinationCid cid)]
  exact ⟨hreact.accepted, hreact.once, hreact.known, hreact.channel, hreact.fresh⟩

/-- Every PDU. -/
theorem processPdu_proceeds (pdu : L2capPdu) (m : ChannelManager) :
    ∃ announced, Proceeds announced m (processPdu pdu m).2 := by
  rw [processPdu]
  split
  · rcases ControlFrame.fromBytes pdu.payload with error | frame
    · exact ⟨[], .refl m⟩
    rw [Exec.lift_ok_bind]
    cases frame with
    | connectionRequest => exact ⟨[], onConnectionRequest_proceeds _ _ _ m⟩
    | connectionResponse => exact ⟨[], onConnectionResponse_proceeds _ _ _ m⟩
    | configureRequest => exact onConfigureRequest_proceeds _ _ _ _ m
    | configureResponse => exact onConfigureResponse_proceeds _ _ m
    | disconnectionRequest => exact ⟨[], onDisconnectionRequest_proceeds _ _ _ m⟩
    | disconnectionResponse => exact ⟨[], onDisconnectionResponse_proceeds _ _ m⟩
    | _ => exact ⟨[], .of_same ⟨rfl, fun _ => rfl⟩⟩
  · rcases hc : m.channel pdu.cid with _ | c
    · rw [processData, Exec.bind_error (channelOr_none _ hc)]
      exact ⟨[], .refl m⟩
    · rcases processData_cases hc pdu.payload with ⟨_, error, hrun⟩ | ⟨_, hdata, _⟩
      · rw [hrun]
        exact ⟨[], .refl m⟩
      · exact ⟨[], .of_same (hdata.same hc)⟩

/-- **What every operation does to the channels of a link.** -/
theorem apply_proceeds (op : ManagerOp) (m : ChannelManager) :
    ∃ announced, Proceeds announced m (m.apply op) := by
  cases op with
  | registerServer psm spec =>
    rw [apply, ChannelManager.registerServer]
    rcases validateSpec spec with error | _
    · exact ⟨[], .refl m⟩
    · exact ⟨[], registerServerWithSpec_proceeds psm _ m⟩
  | registerErtmServer psm spec =>
    rw [apply, ChannelManager.registerErtmServer]
    rcases validateErtmSpec spec with error | _
    · exact ⟨[], .refl m⟩
    · exact ⟨[], registerServerWithSpec_proceeds psm _ m⟩
  | connect psm spec =>
    rw [apply, ChannelManager.connect]
    rcases validatePsm psm with error | _
    · exact ⟨[], .refl m⟩
    rcases validateSpec spec with error | _
    · exact ⟨[], .refl m⟩
    · exact ⟨[], connectWithSpec_proceeds psm _ m⟩
  | connectErtm psm spec =>
    rw [apply, ChannelManager.connectErtm]
    rcases validatePsm psm with error | _
    · exact ⟨[], .refl m⟩
    rcases validateErtmSpec spec with error | _
    · exact ⟨[], .refl m⟩
    · exact ⟨[], connectWithSpec_proceeds psm _ m⟩
  | send cid sdu =>
    rw [apply]
    rcases hc : m.channel cid with _ | c
    · rw [ChannelManager.send, Exec.bind_error (channelOr_none _ hc)]
      exact ⟨[], .refl m⟩
    · rcases send_cases hc sdu with ⟨_, error, hrun⟩ | ⟨_, hdata, _⟩
      · rw [hrun]
        exact ⟨[], .refl m⟩
      · exact ⟨[], .of_same (hdata.same hc)⟩
  | disconnect cid => exact ⟨[], disconnect_proceeds cid m⟩
  | tick ticks => exact ⟨[], .of_same (tick_same ticks m)⟩
  | setReceiverBusy cid busy =>
    rw [apply]
    rcases hc : m.channel cid with _ | c
    · rw [ChannelManager.setReceiverBusy, Exec.bind_error (channelOr_none _ hc)]
      exact ⟨[], .refl m⟩
    · exact ⟨[], .of_same ((setReceiverBusy_cases hc busy).same hc)⟩
  | processPdu pdu => exact processPdu_proceeds pdu m
  | processBytes bytes =>
    rw [apply, ChannelManager.processBytes]
    rcases L2capPdu.fromBytes bytes with error | pdu
    · exact ⟨[], .refl m⟩
    · exact processPdu_proceeds pdu m
  | pollAcceptedChannel =>
    have hsame := Proceeds.refl m
    refine ⟨[], ?_, hsame.once, hsame.known, hsame.channel, hsame.fresh⟩
    exact List.drop_eq_nil_of_le (by simp [apply])
  | popReceived cid =>
    rw [apply, ChannelManager.popReceived]
    rcases hc : m.channel cid with _ | c
    · exact ⟨[], .refl m⟩
    · refine ⟨[], .of_same ((Same.refl m).insert hc ?_)⟩
      rw [ClassicChannel.popReceived]
      split <;> rfl
  | _ => exact ⟨[], .of_same ⟨rfl, fun _ => rfl⟩⟩

/-- The channels that an operation announces. -/
def announcedBy (op : ManagerOp) (m : ChannelManager) : List UInt16 :=
  (m.apply op).acceptedChannels.drop m.acceptedChannels.length

end ChannelManager

/-! ### Histories -/

/-- A link with all channels it has announced, taken from its queue or not. -/
structure ManagerHistory where
  manager : ChannelManager
  announced : List UInt16 := []

namespace ManagerHistory

def step (op : ManagerOp) (history : ManagerHistory) : ManagerHistory :=
  { manager := history.manager.apply op
    announced := history.announced ++ history.manager.announcedBy op }

def run (ops : List ManagerOp) (history : ManagerHistory) : ManagerHistory :=
  ops.foldl (fun history op => history.step op) history

/-- The invariant of a link: its channels are sound, and what was announced is marked. -/
structure Sound (history : ManagerHistory) : Prop where
  channels : ∀ cid c, history.manager.channel cid = some c → c.Sound cid
  nodup : history.announced.Nodup
  marked : ∀ cid ∈ history.announced,
    ∃ c, history.manager.channel cid = some c ∧ c.openAnnounced = true

variable {history : ManagerHistory}

theorem Sound.step (h : Sound history) (op : ManagerOp) : Sound (history.step op) := by
  obtain ⟨announced, hproceeds⟩ := history.manager.apply_proceeds op
  have hannounced : history.manager.announcedBy op = announced := hproceeds.accepted
  refine ⟨?_, ?_, ?_⟩
  · intro cid c' hc'
    rcases hc : history.manager.channel cid with _ | c
    · exact (hproceeds.fresh cid c' hc hc').1
    · obtain ⟨c₁, hc₁, hbecomes⟩ := hproceeds.channel cid c hc
      cases hc₁.symm.trans hc'
      exact hbecomes.sound cid (h.channels cid c hc)
  · -- A channel that is announced now was not marked before.
    rw [ManagerHistory.step, hannounced, List.nodup_append]
    refine ⟨h.nodup, ?_, ?_⟩
    · have honce := hproceeds.once
      rcases announced with _ | ⟨cid, _ | ⟨cid', rest⟩⟩
      · exact List.nodup_nil
      · exact List.nodup_cons.mpr ⟨List.not_mem_nil, List.nodup_nil⟩
      · simp at honce
    · rintro cid hold _ hnew rfl
      obtain ⟨c, hc, hmarked⟩ := h.marked cid hold
      obtain ⟨c', _, hbecomes⟩ := hproceeds.channel cid c hc
      rw [List.contains_iff_mem.mpr hnew] at hbecomes
      rw [(hbecomes.entersOpen rfl).2.1] at hmarked
      cases hmarked
  · intro cid hmem
    rw [ManagerHistory.step, hannounced] at hmem
    rcases List.mem_append.mp hmem with hold | hnew
    · obtain ⟨c, hc, hmarked⟩ := h.marked cid hold
      obtain ⟨c', hc', hbecomes⟩ := hproceeds.channel cid c hc
      exact ⟨c', hc', by rw [hbecomes.openAnnounced, hmarked, Bool.true_or]⟩
    · obtain ⟨c, hc⟩ := hproceeds.known cid hnew
      obtain ⟨c', hc', hbecomes⟩ := hproceeds.channel cid c hc
      refine ⟨c', hc', ?_⟩
      rw [hbecomes.openAnnounced, List.contains_iff_mem.mpr hnew, Bool.or_true]

theorem Sound.run (h : Sound history) (ops : List ManagerOp) : Sound (history.run ops) := by
  induction ops generalizing history with
  | nil => exact h
  | cons op ops ih => exact ih (h.step op)

theorem sound_new (information : InformationCapabilities) :
    Sound { manager := .withInformationCapabilities information } := by
  have hnone (cid : UInt16) :
      (ChannelManager.withInformationCapabilities information).channel cid = none := by
    simp [ChannelManager.channel, ChannelManager.withInformationCapabilities]
  refine ⟨?_, List.nodup_nil, (by rintro _ ⟨⟩)⟩
  intro cid c hc
  cases (hnone cid).symm.trans hc

/-- A channel stays, and moves forward only. -/
theorem run_state (history : ManagerHistory) (ops : List ManagerOp) {cid : UInt16}
    {c : ClassicChannel} (hc : history.manager.channel cid = some c) :
    ∃ c', (history.run ops).manager.channel cid = some c' ∧ c.state.rank ≤ c'.state.rank := by
  induction ops generalizing history c with
  | nil => exact ⟨c, hc, Nat.le_refl _⟩
  | cons op ops ih =>
    obtain ⟨announced, hproceeds⟩ := history.manager.apply_proceeds op
    obtain ⟨c₁, hc₁, hbecomes⟩ := hproceeds.channel cid c hc
    obtain ⟨c', hc', hrank⟩ := ih (history.step op) hc₁
    exact ⟨c', hc', Nat.le_trans hbecomes.state hrank⟩

/-- **Channels under a hostile peer.** After any operations on a link and any PDUs: every channel
is stored under its own identifier, in the dynamic range, with a peer MTU no less than the least
one; it opens only when both sides are configured, and then has an engine exactly in retransmission
mode; whatever happens later, it moves forward through its states and a closed one stays closed;
and over the whole run no identifier is announced twice, and only an incoming channel is, when it
goes from configuration to open. -/
theorem channels_live_once (information : InformationCapabilities) (ops : List ManagerOp) :
    let history := run ops { manager := .withInformationCapabilities information }
    (∀ cid c, history.manager.channel cid = some c →
      (c.sourceCid = cid ∧ 0x0040 ≤ cid.toNat ∧ cid.toNat ≤ 0xffff ∧ 48 ≤ c.peerMtu.toNat) ∧
      (c.state = .open → c.peerConfigurationReceived = true ∧
        c.configurationResponseReceived = true ∧
        (c.ertm.isSome = true ↔ c.mode = .enhancedRetransmission)) ∧
      ∀ later, ∃ c', (history.run later).manager.channel cid = some c' ∧
        c.state.rank ≤ c'.state.rank ∧ (c.state = .closed → c'.state = .closed)) ∧
    history.announced.Nodup ∧
    ∀ op, ∀ cid ∈ history.manager.announcedBy op, ∃ c c', history.manager.channel cid = some c ∧
      (history.manager.apply op).channel cid = some c' ∧ c.incoming = true ∧
      c.state = .configuring ∧ c'.state = .open := by
  intro history
  have h : Sound history := (sound_new information).run ops
  refine ⟨?_, h.nodup, ?_⟩
  · intro cid c hc
    have hsound := h.channels cid c hc
    refine ⟨⟨hsound.source, hsound.dynamic, Nat.le_of_lt_succ cid.toNat_lt, hsound.peerMtu⟩,
      ?_, ?_⟩
    · intro hopen
      obtain ⟨hpeer, hanswered⟩ := hsound.opened hopen
      exact ⟨hpeer, hanswered, hsound.engine, hsound.configured hpeer⟩
    · intro later
      obtain ⟨c', hc', hrank⟩ := run_state history later hc
      refine ⟨c', hc', hrank, ?_⟩
      intro hclosed
      rw [hclosed] at hrank
      cases hstate : c'.state with
      | closed => rfl
      | _ =>
        rw [hstate] at hrank
        revert hrank
        decide
  · intro op cid hmem
    obtain ⟨announced, hproceeds⟩ := history.manager.apply_proceeds op
    have hannounced : history.manager.announcedBy op = announced := hproceeds.accepted
    rw [hannounced] at hmem
    obtain ⟨c, hc⟩ := hproceeds.known cid hmem
    obtain ⟨c', hc', hbecomes⟩ := hproceeds.channel cid c hc
    obtain ⟨hincoming, _, hconfiguring, hopen⟩ :=
      hbecomes.entersOpen (List.contains_iff_mem.mpr hmem)
    exact ⟨c, c', hc, hc', hincoming, hconfiguring, hopen⟩

end ManagerHistory

end ClassicHid

import ClassicHid.L2cap.Lifecycle

/-!
# Another MTU for an open channel

A channel opens with the MTU that its peer has asked for. The peer may ask for its configuration
again at any time, and a request that changes the MTU of an open channel takes effect at once. No
other PDU does so: an open channel keeps the MTU it was opened with until such a request comes.

## Main definitions

* `ClassicChannel.renegotiates`: a request that changes the MTU of an open channel
* `ChannelManager.renegotiates`: a PDU with such a request
* `ClassicChannel.OpenedWith`: a channel that has opened, with an MTU it has as long as it is open

## Main results

* `ChannelManager.processPdu_openedWith`: every other PDU leaves the MTU
* `ChannelManager.send_openedWith`, `ChannelManager.popReceived_openedWith`,
  `ChannelManager.connect_openedWith`: so do the calls of a session
-/

namespace ClassicHid

open Foundation

namespace ClassicChannel

/-- Whether a peer asks for what the specification of the channel rules out. -/
def excludes (c : ClassicChannel) (scan : ConfigurationScan) : Bool :=
  match c.spec.ertm?, scan.peerErtm with
  | some spec, some _ => scan.peerFcs.getD false ≠ spec.fcsEnabled
  | some _, none => true
  | none, peerErtm => peerErtm.isSome || scan.peerFcs.getD false

/-- Whether a configuration request changes the MTU of a channel that is open and stays so. The
last request closes the channel when each of its options is acceptable and the channel excludes
them all the same. -/
def renegotiates (c : ClassicChannel) (flags : UInt16) (options : List ConfigurationOption) : Bool :=
  let scan := scanOptions c.mode { peerMtu := c.peerMtu } options
  c.isOpen && scan.peerMtu != c.peerMtu &&
    !(scan.result = configurationSuccess && flags &&& 1 = 0 && c.excludes scan)

/-- A channel that has opened; as long as it is open, `mtu` is the MTU of its peer. -/
structure OpenedWith (mtu : ℕ) (c : ClassicChannel) : Prop where
  reached : ClassicChannelState.rank .open ≤ c.state.rank
  peerMtu : c.state = .open → c.peerMtu.toNat = mtu

variable {c : ClassicChannel} {mtu : ℕ}

theorem OpenedWith.of_closed (h : c.state = .closed) : c.OpenedWith mtu where
  reached := by
    rw [h]
    decide
  peerMtu hopen := by
    rw [h] at hopen
    cases hopen

/-- The state and the MTU are all that counts. -/
theorem OpenedWith.congr {c' : ClassicChannel} (h : c.OpenedWith mtu) (hstate : c'.state = c.state)
    (hmtu : c'.peerMtu = c.peerMtu) : c'.OpenedWith mtu := by
  refine ⟨?_, fun hopen => ?_⟩
  · rw [hstate]
    exact h.reached
  · rw [hmtu]
    exact h.peerMtu (hstate.symm.trans hopen)

/-- A channel that has opened does not open again. -/
theorem OpenedWith.settled (h : c.OpenedWith mtu) : c.settled = c := by
  rw [ClassicChannel.settled, if_neg]
  intro hconfigured
  have hstate : c.state = .configuring := by
    simp only [configured, Bool.and_eq_true, decide_eq_true_eq] at hconfigured
    exact hconfigured.2
  have hreached := h.reached
  rw [hstate] at hreached
  revert hreached
  decide

theorem complete_peerMtu (c : ClassicChannel) (scan : ConfigurationScan) :
    (c.complete scan).2.peerMtu = c.peerMtu := by
  unfold complete
  split
  · split
    · rfl
    · dsimp only
      split <;> rfl
  · rfl
  · split <;> rfl

/-- The end of a request that the channel excludes. -/
theorem complete_excluded {scan : ConfigurationScan} (h : c.excludes scan = true) :
    (c.complete scan).2.state = .closed := by
  rcases hspec : c.spec.ertm? with _ | spec <;> rcases herm : scan.peerErtm with _ | parameters <;>
    simp only [excludes, hspec, herm] at h
  · have hfcs : scan.peerFcs.getD false = true := by simpa using h
    simp only [complete, hspec, herm, hfcs, or_true, if_true]
    rfl
  · simp only [complete, hspec, herm, Option.isSome_some, true_or, if_true]
    rfl
  · simp only [complete, hspec, herm]
    rfl
  · have hfcs : scan.peerFcs.getD false ≠ spec.fcsEnabled := of_decide_eq_true h
    simp only [complete, hspec, herm, if_pos hfcs]
    rfl

/-- A request that does not change the MTU of an open channel. -/
theorem OpenedWith.judge (h : c.OpenedWith mtu) {flags : UInt16}
    {options : List ConfigurationOption} (hkept : c.renegotiates flags options = false) :
    (c.judge flags options).2.OpenedWith mtu := by
  rcases c.judge_state flags options with hclosed | hsame
  · exact .of_closed hclosed
  by_cases hopen : c.state = .open
  swap
  · refine ⟨by rw [hsame]; exact h.reached, fun hjudged => ?_⟩
    exact absurd (hsame.symm.trans hjudged) hopen
  by_cases hmtu : (scanOptions c.mode { peerMtu := c.peerMtu } options).peerMtu = c.peerMtu
  · refine h.congr hsame ?_
    unfold ClassicChannel.judge
    dsimp only
    split
    · rw [complete_peerMtu]
      exact hmtu
    · exact hmtu
  · -- The MTU is another one, so that the request has closed the channel.
    have hexcluded : (scanOptions c.mode { peerMtu := c.peerMtu } options).result =
        configurationSuccess ∧ flags &&& 1 = 0 ∧
        c.excludes (scanOptions c.mode { peerMtu := c.peerMtu } options) = true := by
      simpa [renegotiates, isOpen, hopen, hmtu, and_assoc] using hkept
    obtain ⟨hresult, hfinal, hexcludes⟩ := hexcluded
    refine .of_closed ?_
    unfold ClassicChannel.judge
    dsimp only
    rw [if_pos ⟨hresult, hfinal⟩]
    exact complete_excluded hexcludes

end ClassicChannel

namespace ChannelManager

/-- Whether a PDU changes the MTU of the channel `cid`, which is open and stays so. -/
def renegotiates (pdu : L2capPdu) (cid : UInt16) (m : ChannelManager) : Bool :=
  pdu.cid = l2capSignalingCid &&
    match ControlFrame.fromBytes pdu.payload, m.channel cid with
    | .ok (.configureRequest _ localCid flags encoded), some c =>
      localCid = cid &&
        match decodeConfigurationOptions encoded with
        | .ok options => c.renegotiates flags options
        | .error _ => false
    | _, _ => false

/-- The channel `cid` has opened, and has the MTU `mtu` as long as it is open. -/
def HasOpened (cid : UInt16) (mtu : ℕ) (m : ChannelManager) : Prop :=
  ∃ c, m.channel cid = some c ∧ c.OpenedWith mtu

variable {m m' : ChannelManager} {cid cid' : UInt16} {c : ClassicChannel} {mtu : ℕ}

/-- One channel is replaced. -/
theorem HasOpened.insert (h : m.HasOpened cid mtu)
    (hchannel : cid' = cid → c.OpenedWith mtu)
    (hchannels : m'.channels = m.channels.insert cid' c) : m'.HasOpened cid mtu := by
  have hinsert (k : UInt16) : m'.channel k = (react cid' c [] [] m).channel k := by
    rw [channel, hchannels]
    rfl
  by_cases heq : cid' = cid
  · refine ⟨c, ?_, hchannel heq⟩
    rw [hinsert, ← heq]
    exact channel_react_self _ _
  · obtain ⟨c₀, hc₀, hopened⟩ := h
    refine ⟨c₀, ?_, hopened⟩
    rw [hinsert, channel_react_ne heq]
    exact hc₀

theorem HasOpened.same (h : m.HasOpened cid mtu) (hchannels : m'.channels = m.channels) :
    m'.HasOpened cid mtu := by
  obtain ⟨c, hc, hopened⟩ := h
  exact ⟨c, by rwa [channel, hchannels], hopened⟩

theorem HasOpened.openedWith (h : m.HasOpened cid mtu) (hc : m.channel cid = some c) :
    c.OpenedWith mtu := by
  obtain ⟨c₀, hc₀, hopened⟩ := h
  cases hc.symm.trans hc₀
  exact hopened

/-- Data leaves the MTU. -/
theorem HasOpened.dataStep (h : m.HasOpened cid mtu) (hc : m.channel cid' = some c)
    (hdata : DataStep cid' c m m') : m'.HasOpened cid mtu := by
  obtain ⟨engine, received, payloads, -, rfl⟩ := hdata
  have hopened (heq : cid' = cid) :
      ({ c with ertm := engine, received := received } : ClassicChannel).OpenedWith mtu := by
    subst heq
    exact (h.openedWith hc).congr rfl rfl
  exact h.insert hopened rfl

/-- A new channel has an identifier of its own. -/
theorem HasOpened.new (h : m.HasOpened cid mtu) (hnone : m.channel cid' = none)
    (hchannels : m'.channels = m.channels.insert cid' c) : m'.HasOpened cid mtu := by
  refine h.insert (fun heq => ?_) hchannels
  obtain ⟨c₀, hc₀, -⟩ := h
  rw [heq, hc₀] at hnone
  cases hnone

/-- **A PDU** leaves the MTU of an open channel, unless it is a request that changes it. -/
theorem processPdu_openedWith (h : m.HasOpened cid mtu) {pdu : L2capPdu}
    (hkept : m.renegotiates pdu cid = false) : (processPdu pdu m).2.HasOpened cid mtu := by
  rw [processPdu]
  split
  swap
  · rcases hc : m.channel pdu.cid with _ | c
    · rw [processData, Exec.bind_error (channelOr_none _ hc)]
      exact h
    · rcases processData_cases hc pdu.payload with ⟨_, error, hrun⟩ | ⟨_, hdata, _⟩
      · rw [hrun]
        exact h
      · exact h.dataStep hc hdata
  rename_i hsignaling
  rcases hframe : ControlFrame.fromBytes pdu.payload with error | frame
  · exact h
  rw [Exec.lift_ok_bind]
  cases frame with
  | connectionRequest identifier psm remoteCid =>
    rcases onConnectionRequest_cases identifier psm remoteCid m with ⟨result, _, hrun⟩ |
      ⟨spec, localCid, _, halloc, hrun⟩
    · rw [processControl, hrun]
      exact h.same rfl
    · rw [processControl, hrun]
      exact h.new (c := .newIncoming psm localCid remoteCid spec) (allocateCid_spec halloc) rfl
  | connectionResponse identifier destinationCid localCid result status =>
    rw [processControl]
    rcases hc : m.channel localCid with _ | c
    · rw [onConnectionResponse, Exec.bind_error (channelOr_none _ hc)]
      exact h
    rw [onConnectionResponse_eq hc]
    split
    · exact h
    rename_i hwaits
    rw [not_not] at hwaits
    -- The channel waits for the response, so that it is not the one that has opened.
    have hother : localCid ≠ cid := by
      rintro rfl
      have hreached := (h.openedWith hc).reached
      rw [hwaits] at hreached
      revert hreached
      decide
    split
    · exact h.insert (c := { c with connectionResult := some result, state := .closed })
        (fun heq => absurd heq hother) rfl
    · exact h.insert (c := { c with
        connectionResult := some result
        destinationCid := destinationCid
        state := .configuring }) (fun heq => absurd heq hother) rfl
  | configureRequest identifier localCid flags encoded =>
    rw [processControl]
    rcases hdecode : decodeConfigurationOptions encoded with error | options
    · rw [onConfigureRequest, hdecode]
      exact h
    rcases hc : m.channel localCid with _ | c
    · rw [onConfigureRequest, hdecode, Exec.lift_ok_bind, Exec.bind_error (channelOr_none _ hc)]
      exact h
    have hjudged (heq : localCid = cid) : (c.judge flags options).2.OpenedWith mtu := by
      subst heq
      refine (h.openedWith hc).judge ?_
      simpa [renegotiates, hsignaling, hframe, hc, hdecode] using hkept
    have hsettled (heq : localCid = cid) : (c.judge flags options).2.settled.OpenedWith mtu := by
      rw [(hjudged heq).settled]
      exact hjudged heq
    rw [onConfigureRequest_eq hc identifier flags hdecode]
    split
    · exact h.insert hjudged rfl
    split
    · exact h.insert hjudged rfl
    · exact h.insert hsettled rfl
  | configureResponse identifier localCid flags result options =>
    rw [processControl]
    rcases hc : m.channel localCid with _ | c
    · rw [onConfigureResponse, Exec.bind_error (channelOr_none _ hc)]
      exact h
    have hanswered (heq : localCid = cid) : (c.answered result).OpenedWith mtu := by
      subst heq
      rw [ClassicChannel.answered]
      split
      · exact (h.openedWith hc).congr rfl rfl
      · exact .of_closed rfl
    rw [onConfigureResponse_eq hc]
    refine h.insert (c := (c.answered result).settled) (fun heq => ?_) rfl
    rw [(hanswered heq).settled]
    exact hanswered heq
  | disconnectionRequest identifier localCid remoteCid =>
    rw [processControl]
    rcases hc : m.channel localCid with _ | c
    · rw [onDisconnectionRequest, Exec.bind_error (channelOr_none _ hc)]
      exact h
    rw [onDisconnectionRequest_eq hc]
    split
    · exact h
    · exact h.insert (c := { c with state := .closed }) (fun _ => .of_closed rfl) rfl
  | disconnectionResponse identifier destinationCid localCid =>
    rw [processControl]
    rcases hc : m.channel localCid with _ | c
    · rw [onDisconnectionResponse, Exec.bind_error (channelOr_none _ hc)]
      exact h
    rw [onDisconnectionResponse_eq hc]
    split
    · exact h
    · exact h.insert (c := { c with state := .closed }) (fun _ => .of_closed rfl) rfl
  | _ => exact h.same rfl

theorem send_openedWith (h : m.HasOpened cid mtu) (cid' : UInt16) (sdu : Bytes) :
    (send cid' sdu m).2.HasOpened cid mtu := by
  rcases hc : m.channel cid' with _ | c
  · rw [send, Exec.bind_error (channelOr_none _ hc)]
    exact h
  · rcases send_cases hc sdu with ⟨_, error, hrun⟩ | ⟨_, hdata, _⟩
    · rw [hrun]
      exact h
    · exact h.dataStep hc hdata

theorem connect_openedWith (h : m.HasOpened cid mtu) (psm : UInt32) (spec : ClassicChannelSpec) :
    (connect psm spec m).2.HasOpened cid mtu := by
  rw [connect]
  rcases validatePsm psm with error | _
  · exact h
  rcases validateSpec spec with error | _
  · exact h
  rcases connectWithSpec_cases psm (.basic spec) m with ⟨error, hrun⟩ | ⟨localCid, halloc, hrun⟩
  · exact (congrArg (HasOpened cid mtu ·.2) hrun).mpr h
  · refine (congrArg (HasOpened cid mtu ·.2) hrun).mpr ?_
    exact h.new (c := .newOutgoing psm localCid (.basic spec)) (allocateCid_spec halloc) rfl

theorem popReceived_openedWith (h : m.HasOpened cid mtu) (cid' : UInt16) :
    (m.popReceived cid').HasOpened cid mtu := by
  rw [popReceived]
  rcases hc : m.channel cid' with _ | c
  · exact h
  refine h.insert (c := c.popReceived.2) (fun heq => ?_) rfl
  subst heq
  refine (h.openedWith hc).congr ?_ ?_ <;> rw [ClassicChannel.popReceived] <;> split <;> rfl

end ChannelManager

end ClassicHid

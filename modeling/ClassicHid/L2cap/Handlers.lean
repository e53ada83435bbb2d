import ClassicHid.L2cap.Signaling

/-!
# What the handlers of a link do

Each handler of a link replaces one channel, queues PDUs and announces channels. What becomes of
the channel does not depend on the rest of the link, so it is stated of the channel alone.

## Main definitions

* `ClassicChannel.settled`: a channel after the last step of a configuration exchange
* `ClassicChannel.judge`: a channel after a configuration request, and the answer
* `ClassicChannel.answered`: a channel after a configuration response
* `ChannelManager.react`: a link with one channel replaced, PDUs queued and channels announced

## Main results

* `ChannelManager.onConnectionRequest_cases`, `ChannelManager.onConnectionResponse_eq`,
  `ChannelManager.onConfigureRequest_eq`, `ChannelManager.onConfigureResponse_eq`: connection and
  configuration
* `ChannelManager.processData_cases`, `ChannelManager.send_cases`, `ChannelManager.tick_cases`,
  `ChannelManager.setReceiverBusy_cases`: data
-/

namespace ClassicHid

open Foundation
open Std (ExtTreeMap)

namespace ClassicChannel

/-! ### One channel -/

/-- Whether a channel is configured on both sides and about to open. -/
def configured (c : ClassicChannel) : Bool :=
  c.peerConfigurationReceived && c.configurationResponseReceived && c.state = .configuring

/-- The channel after the last step of a configuration exchange: open, when it is configured. -/
def settled (c : ClassicChannel) : ClassicChannel :=
  if c.configured then { c with state := .open, openAnnounced := c.incoming || c.openAnnounced }
  else c

/-- Whether the channel is announced when it opens. -/
def announces (c : ClassicChannel) : Bool :=
  c.configured && c.incoming && !c.openAnnounced

/-- The channel after its peer's configuration was refused. -/
def refused (c : ClassicChannel) : ClassicChannel :=
  { c with state := .closed, connectionResult := some configurationUnacceptableParameters }

/-- The channel and the answer after a final request whose options were all acceptable. -/
def complete (c : ClassicChannel) (scan : ConfigurationScan) :
    Except L2capError (UInt16 × List ConfigurationOption) × ClassicChannel :=
  match c.spec.ertm?, scan.peerErtm with
  | some spec, some parameters =>
    if scan.peerFcs.getD false ≠ spec.fcsEnabled then
      (.ok (configurationUnacceptableParameters,
        [.new configurationOptionFcs [spec.fcsEnabled.toUInt8]]), c.refused)
    else
      let c := { c with peerMps := parameters.mps, fcsEnabled := spec.fcsEnabled }
      match ErtmEngine.new (ChannelManager.negotiatedErtmConfig spec parameters) with
      | .error error => (.error error, c)
      | .ok engine => (.ok (configurationSuccess, scan.responseOptions),
          { c with ertm := some engine, peerConfigurationReceived := true })
  | some spec, none =>
    (.ok (configurationUnacceptableParameters,
      [.new configurationOptionRetransmissionAndFlowControl (encodeErtmOption spec)]), c.refused)
  | none, peerErtm =>
    if peerErtm.isSome ∨ scan.peerFcs.getD false then
      (.ok (configurationUnacceptableParameters, scan.responseOptions), c.refused)
    else
      (.ok (configurationSuccess, scan.responseOptions), { c with peerConfigurationReceived := true })

/-- The channel and the answer after a configuration request. -/
def judge (c : ClassicChannel) (flags : UInt16) (options : List ConfigurationOption) :
    Except L2capError (UInt16 × List ConfigurationOption) × ClassicChannel :=
  let scan := scanOptions c.mode { peerMtu := c.peerMtu } options
  let c := { c with peerMtu := scan.peerMtu }
  if scan.result = configurationSuccess ∧ flags &&& 1 = 0 then c.complete scan
  else (.ok (scan.result, scan.responseOptions), c)

/-- The channel after a configuration response. -/
def answered (c : ClassicChannel) (result : UInt16) : ClassicChannel :=
  if result = configurationSuccess then { c with configurationResponseReceived := true }
  else { c with connectionResult := some result, state := .closed }

/-- What opening leaves alone. -/
theorem settled_keeps (c : ClassicChannel) :
    c.settled.spec = c.spec ∧ c.settled.mode = c.mode ∧ c.settled.mtu = c.mtu ∧
      c.settled.incoming = c.incoming ∧ c.settled.psm = c.psm ∧
      c.settled.destinationCid = c.destinationCid ∧
      c.settled.configurationResponseReceived = c.configurationResponseReceived ∧
      c.settled.peerConfigurationReceived = c.peerConfigurationReceived ∧
      c.settled.fcsEnabled = c.fcsEnabled ∧ c.settled.peerMtu = c.peerMtu ∧
      c.settled.peerMps = c.peerMps ∧ c.settled.ertm = c.ertm := by
  unfold settled
  split <;> simp

/-- What an answer leaves alone. -/
theorem answered_keeps (c : ClassicChannel) (result : UInt16) :
    (c.answered result).spec = c.spec ∧ (c.answered result).mode = c.mode ∧
      (c.answered result).mtu = c.mtu ∧ (c.answered result).incoming = c.incoming ∧
      (c.answered result).psm = c.psm ∧ (c.answered result).destinationCid = c.destinationCid ∧
      (c.answered result).peerConfigurationReceived = c.peerConfigurationReceived ∧
      (c.answered result).fcsEnabled = c.fcsEnabled ∧ (c.answered result).peerMtu = c.peerMtu ∧
      (c.answered result).peerMps = c.peerMps ∧ (c.answered result).ertm = c.ertm := by
  unfold answered
  split <;> simp

end ClassicChannel

namespace ChannelManager

/-! ### A link with one channel replaced -/

/-- A signaling frame as a PDU. -/
def signal (frame : ControlFrame) : L2capPdu :=
  { cid := l2capSignalingCid, payload := frame.toBytes }

/-- The link with the channel `cid` replaced, PDUs queued and channels announced. -/
def react (cid : UInt16) (c : ClassicChannel) (pdus : List L2capPdu) (announced : List UInt16)
    (m : ChannelManager) : ChannelManager :=
  { m with
    channels := m.channels.insert cid c
    outbound := m.outbound ++ pdus
    acceptedChannels := m.acceptedChannels ++ announced }

variable {m : ChannelManager} {cid : UInt16} {c c' : ClassicChannel}

@[simp] theorem channel_react_self (pdus : List L2capPdu) (announced : List UInt16) :
    (react cid c pdus announced m).channel cid = some c :=
  channel_insert_self m cid c

theorem channel_react_ne {cid' : UInt16} (h : cid ≠ cid') (pdus : List L2capPdu)
    (announced : List UInt16) : (react cid c pdus announced m).channel cid' = m.channel cid' :=
  channel_insert_ne m c h

theorem insert_self (h : m.channel cid = some c) : m.channels.insert cid c = m.channels := by
  apply ExtTreeMap.ext_getElem?
  intro k
  rw [ExtTreeMap.getElem?_insert]
  split
  · rename_i heq
    rw [← Std.LawfulEqCmp.eq_of_compare heq]
    exact h.symm
  · rfl

theorem insert_insert (channels : ExtTreeMap UInt16 ClassicChannel) :
    (channels.insert cid c).insert cid c' = channels.insert cid c' := by
  apply ExtTreeMap.ext_getElem?
  intro k
  rw [ExtTreeMap.getElem?_insert, ExtTreeMap.getElem?_insert, ExtTreeMap.getElem?_insert]
  split <;> rfl

/-- A channel may be replaced by itself. -/
theorem react_self (h : m.channel cid = some c) : react cid c [] [] m = m := by
  rw [react, insert_self h, List.append_nil, List.append_nil]

/-- Replacing a channel twice. -/
theorem react_react (pdus pdus' : List L2capPdu) (announced announced' : List UInt16) :
    react cid c' pdus' announced' (react cid c pdus announced m) =
      react cid c' (pdus ++ pdus') (announced ++ announced') m := by
  simp only [react, insert_insert, List.append_assoc]

theorem channelOr_some (message : String) (h : m.channel cid = some c) :
    channelOr message cid m = (.ok c, m) := by
  simp only [channelOr, h]

theorem channelOr_none (message : String) (h : m.channel cid = none) :
    channelOr message cid m =
      (.error (.invalidPacket s!"{message} {hex 4 cid.toNat}"), m) := by
  simp only [channelOr, h]

theorem setChannel_eq : setChannel cid c m = (.ok (), react cid c [] [] m) := by
  simp only [setChannel, Exec.modify_apply, react, List.append_nil]

/-! ### Configuration -/

theorem maybeOpen_eq (h : m.channel cid = some c) :
    maybeOpen cid m =
      (.ok (), react cid c.settled [] (if c.announces then [cid] else []) m) := by
  have hcond : (c.peerConfigurationReceived = true ∧ c.configurationResponseReceived = true ∧
      c.state = .configuring) ↔ c.configured = true := by
    simp [ClassicChannel.configured, and_assoc]
  simp only [maybeOpen, h, hcond]
  rcases hconfigured : c.configured with _ | _
  · simp only [Bool.false_eq_true, if_false, ClassicChannel.settled, ClassicChannel.announces,
      hconfigured, Bool.false_and, react_self h]
  · rcases hincoming : c.incoming with _ | _ <;> rcases hannounced : c.openAnnounced with _ | _ <;>
      simp [ClassicChannel.settled, ClassicChannel.announces, hconfigured, hincoming, hannounced,
        react]

theorem refuseConfiguration_eq (options : List ConfigurationOption) :
    refuseConfiguration cid c options m =
      (.ok (configurationUnacceptableParameters, options), react cid c.refused [] [] m) := by
  rw [refuseConfiguration, Exec.bind_ok setChannel_eq]
  rfl

theorem completeConfiguration_eq (cid : UInt16) (scan : ConfigurationScan) :
    completeConfiguration cid c scan m =
      ((c.complete scan).1, react cid (c.complete scan).2 [] [] m) := by
  rcases hspec : c.spec.ertm? with _ | spec <;> rcases herm : scan.peerErtm with _ | parameters
  · by_cases hfcs : scan.peerFcs.getD false = true
    · simp only [completeConfiguration, ClassicChannel.complete, hspec, herm, hfcs, or_true, if_true,
        refuseConfiguration_eq]
    · simp only [completeConfiguration, ClassicChannel.complete, hspec, herm, hfcs,
        Option.isSome_none, Bool.false_eq_true, or_false, if_false, acceptConfiguration,
        Exec.bind_ok setChannel_eq]
      rfl
  · simp only [completeConfiguration, ClassicChannel.complete, hspec, herm, Option.isSome_some,
      true_or, if_true, refuseConfiguration_eq]
  · simp only [completeConfiguration, ClassicChannel.complete, hspec, herm, refuseConfiguration_eq]
  · by_cases hfcs : scan.peerFcs.getD false = spec.fcsEnabled
    · rcases hengine : ErtmEngine.new (negotiatedErtmConfig spec parameters) with error | engine
      · simp only [completeConfiguration, ClassicChannel.complete, hspec, herm, hfcs, ne_eq,
          not_true, if_false, Exec.bind_ok setChannel_eq, hengine, Exec.lift_error_bind]
      · simp only [completeConfiguration, ClassicChannel.complete, hspec, herm, hfcs, ne_eq,
          not_true, if_false, Exec.bind_ok setChannel_eq, hengine, Exec.lift_ok_bind,
          acceptConfiguration, Exec.pure_apply, react_react, List.append_nil]
    · simp only [completeConfiguration, ClassicChannel.complete, hspec, herm, ne_eq, hfcs,
        not_false_eq_true, if_true, refuseConfiguration_eq]

/-- **A configuration request**: the channel is judged, and the answer queued. -/
theorem onConfigureRequest_eq (h : m.channel cid = some c) (identifier : UInt8) (flags : UInt16)
    {encoded : Bytes} {options : List ConfigurationOption}
    (hdecode : decodeConfigurationOptions encoded = .ok options) :
    onConfigureRequest identifier cid flags encoded m =
      match (c.judge flags options).1 with
      | .error error => (.error error, react cid (c.judge flags options).2 [] [] m)
      | .ok (result, responseOptions) =>
        match encodeConfigurationOptions responseOptions with
        | .error error => (.error error, react cid (c.judge flags options).2 [] [] m)
        | .ok answer =>
          (.ok (), react cid (c.judge flags options).2.settled
            [signal (.configureResponse identifier c.destinationCid 0 result answer)]
            (if (c.judge flags options).2.announces then [cid] else []) m) := by
  -- What is left to do once the request has been judged.
  have hrest (c₁ : ClassicChannel) (result : UInt16) (response : List ConfigurationOption) :
      (do
        let options ← Exec.lift (encodeConfigurationOptions response)
        queueControl (.configureResponse identifier c.destinationCid 0 result options)
        maybeOpen cid : Update Unit) (react cid c₁ [] [] m) =
      match encodeConfigurationOptions response with
      | .error error => (.error error, react cid c₁ [] [] m)
      | .ok answer =>
        (.ok (), react cid c₁.settled
          [signal (.configureResponse identifier c.destinationCid 0 result answer)]
          (if c₁.announces then [cid] else []) m) := by
    rcases encodeConfigurationOptions response with error | answer
    · rfl
    · have hqueue : queueControl (.configureResponse identifier c.destinationCid 0 result answer)
          (react cid c₁ [] [] m) = (.ok (), react cid c₁
            [signal (.configureResponse identifier c.destinationCid 0 result answer)] [] m) := by
        simp [queueControl, pushOutbound, react, signal]
      rw [Exec.lift_ok_bind, Exec.bind_ok hqueue, maybeOpen_eq (channel_react_self _ _),
        react_react]
      rfl
  rw [onConfigureRequest, hdecode, Exec.lift_ok_bind, Exec.bind_ok (channelOr_some _ h),
    Exec.bind_ok setChannel_eq]
  unfold ClassicChannel.judge
  dsimp only
  split
  · rename_i hfinal
    have hcomplete := completeConfiguration_eq (m := react cid { c with
      peerMtu := (scanOptions c.mode { peerMtu := c.peerMtu } options).peerMtu } [] [] m)
      (c := { c with peerMtu := (scanOptions c.mode { peerMtu := c.peerMtu } options).peerMtu }) cid
      (scanOptions c.mode { peerMtu := c.peerMtu } options)
    rw [react_react] at hcomplete
    rcases hresult : (ClassicChannel.complete { c with
      peerMtu := (scanOptions c.mode { peerMtu := c.peerMtu } options).peerMtu }
      (scanOptions c.mode { peerMtu := c.peerMtu } options)) with ⟨error | ⟨result, response⟩, c₁⟩
    · rw [hresult] at hcomplete
      exact Exec.bind_error hcomplete
    · rw [hresult] at hcomplete
      rw [Exec.bind_ok hcomplete]
      exact hrest c₁ result response
  · rw [Exec.pure_bind]
    exact hrest _ _ _

/-- **A configuration response.** -/
theorem onConfigureResponse_eq (h : m.channel cid = some c) (result : UInt16) :
    onConfigureResponse cid result m =
      (.ok (), react cid (c.answered result).settled []
        (if (c.answered result).announces then [cid] else []) m) := by
  rw [onConfigureResponse, Exec.bind_ok (channelOr_some _ h), Exec.bind_ok setChannel_eq,
    maybeOpen_eq (channel_react_self _ _), react_react]
  rfl

/-! ### Connection -/

/-- The identifier of the next request. -/
def following (m : ChannelManager) : UInt8 :=
  if m.identifier + 1 = 0 then 1 else m.identifier + 1

/-- A link with PDUs queued. -/
def queued (pdus : List L2capPdu) (m : ChannelManager) : ChannelManager :=
  { m with outbound := m.outbound ++ pdus }

/-- The options of a local configuration request on the wire. -/
def configurationBytes (spec : ChannelSpec) : Bytes :=
  [configurationOptionMtu, 2] ++ toLe16 spec.mtu ++
    match spec.ertm? with
    | none => []
    | some ertm =>
      [configurationOptionRetransmissionAndFlowControl, 9] ++ encodeErtmOption ertm ++
        if ertm.fcsEnabled then [configurationOptionFcs, 1, 1] else []

theorem encodeConfigurationOptions_cons (optionType : UInt8) (value : Bytes)
    (hlength : value.length ≤ 255) (options : List ConfigurationOption) :
    encodeConfigurationOptions (.new optionType value :: options) =
      (encodeConfigurationOptions options).map fun encoded =>
        (optionType &&& 0x7f) :: UInt8.ofNat value.length :: value ++ encoded := by
  rw [encodeConfigurationOptions]
  simp only [ConfigurationOption.new, gt_iff_lt, Nat.not_lt.mpr hlength, if_false,
    Bool.false_eq_true, UInt8.or_zero]
  cases encodeConfigurationOptions options <;> rfl

theorem encode_configurationOptions (spec : ChannelSpec) :
    encodeConfigurationOptions (configurationOptions spec) = .ok (configurationBytes spec) := by
  cases spec with
  | basic spec =>
    rw [configurationOptions, encodeConfigurationOptions_cons _ _ (by simp)]
    rfl
  | ertm spec =>
    have hlength : (encodeErtmOption spec).length ≤ 255 := by simp [encodeErtmOption]
    rw [configurationOptions, encodeConfigurationOptions_cons _ _ (by simp)]
    simp only [ChannelSpec.ertm?, configurationBytes]
    rw [encodeConfigurationOptions_cons _ _ hlength]
    rcases spec.fcsEnabled with _ | _
    · rfl
    · rw [if_pos rfl, if_pos rfl, encodeConfigurationOptions_cons _ _ (by simp)]
      rfl

theorem queueConfigureRequest_eq (h : m.channel cid = some c) :
    queueConfigureRequest cid m = (.ok (), { m with
      identifier := m.following
      outbound := m.outbound ++ [signal (.configureRequest m.following c.destinationCid 0
        (configurationBytes c.spec))] }) := by
  simp only [queueConfigureRequest, Exec.bind_ok (channelOr_some _ h), nextIdentifier,
    Exec.update_bind, encode_configurationOptions, Exec.lift_ok_bind]
  rfl

/-- **A connection request** is refused, or it creates a channel with a new identifier, and the
channel's configuration is requested at once. -/
theorem onConnectionRequest_cases (identifier : UInt8) (psm : UInt32) (remoteCid : UInt16)
    (m : ChannelManager) :
    (∃ result, result ≠ connectionSuccessful ∧ onConnectionRequest identifier psm remoteCid m =
        (.ok (), queued [signal (.connectionResponse identifier 0 remoteCid result 0)] m)) ∨
      ∃ spec localCid, m.servers[psm]? = some spec ∧ m.allocateCid = .ok localCid ∧
        onConnectionRequest identifier psm remoteCid m = (.ok (), {
          react localCid (.newIncoming psm localCid remoteCid spec)
            [signal (.connectionResponse identifier localCid remoteCid connectionSuccessful 0),
             signal (.configureRequest m.following remoteCid 0 (configurationBytes spec))] [] m with
          identifier := m.following }) := by
  simp only [onConnectionRequest, Exec.get_bind]
  rcases hserver : m.servers[psm]? with _ | spec
  · exact .inl ⟨connectionRefusedPsmNotSupported, by decide, rfl⟩
  rcases halloc : m.allocateCid with error | localCid
  · exact .inl ⟨connectionRefusedNoResourcesAvailable, by decide, rfl⟩
  refine .inr ⟨spec, localCid, rfl, rfl, ?_⟩
  dsimp only
  rw [Exec.bind_ok setChannel_eq]
  have hqueue : queueControl (.connectionResponse identifier localCid remoteCid
      connectionSuccessful 0) (react localCid (.newIncoming psm localCid remoteCid spec) [] [] m) =
        (.ok (), react localCid (.newIncoming psm localCid remoteCid spec)
          [signal (.connectionResponse identifier localCid remoteCid connectionSuccessful 0)]
          [] m) := by
    simp [queueControl, pushOutbound, react, signal]
  rw [Exec.bind_ok hqueue, queueConfigureRequest_eq (channel_react_self _ _)]
  simp [react, following, ClassicChannel.newIncoming]

/-- **A connection response** to a channel that waits for one. -/
theorem onConnectionResponse_eq (h : m.channel cid = some c) (destinationCid result : UInt16) :
    onConnectionResponse destinationCid cid result m =
      if c.state ≠ .waitConnectResponse then
        (.error (.invalidPacket "connection response in invalid state"), m)
      else if result ≠ connectionSuccessful then
        (.ok (), react cid { c with connectionResult := some result, state := .closed } [] [] m)
      else
        (.ok (), { react cid { c with
            connectionResult := some result, destinationCid := destinationCid,
            state := .configuring }
          [signal (.configureRequest m.following destinationCid 0 (configurationBytes c.spec))] [] m
          with identifier := m.following }) := by
  rw [onConnectionResponse, Exec.bind_ok (channelOr_some _ h)]
  split
  · rfl
  split
  · exact setChannel_eq
  · rw [Exec.bind_ok setChannel_eq, queueConfigureRequest_eq (channel_react_self _ _)]
    simp [react, following]

/-- **An outgoing channel**: there is no free identifier, or one that is not in use is taken and
the connection requested. -/
theorem connectWithSpec_cases (psm : UInt32) (spec : ChannelSpec) (m : ChannelManager) :
    (∃ error, connectWithSpec psm spec m = (.error error, m)) ∨
      ∃ localCid, m.allocateCid = .ok localCid ∧ connectWithSpec psm spec m =
        (.ok localCid, { react localCid (.newOutgoing psm localCid spec)
          [signal (.connectionRequest m.following psm localCid)] [] m with
          identifier := m.following }) := by
  simp only [connectWithSpec, Exec.get_bind]
  rcases m.allocateCid with error | localCid
  · exact .inl ⟨error, rfl⟩
  · refine .inr ⟨localCid, rfl, ?_⟩
    simp [nextIdentifier, setChannel, queueControl, pushOutbound, react, signal, following]

/-! ### Disconnection -/

theorem onDisconnectionRequest_eq (h : m.channel cid = some c) (identifier : UInt8)
    (remoteCid : UInt16) :
    onDisconnectionRequest identifier cid remoteCid m =
      if c.destinationCid ≠ remoteCid then
        (.error (.invalidPacket "disconnection CID mismatch"), m)
      else (.ok (), react cid { c with state := .closed }
        [signal (.disconnectionResponse identifier cid remoteCid)] [] m) := by
  rw [onDisconnectionRequest, Exec.bind_ok (channelOr_some _ h)]
  split
  · rfl
  · simp [setChannel, queueControl, pushOutbound, react, signal]

theorem onDisconnectionResponse_eq (h : m.channel cid = some c) (destinationCid : UInt16) :
    onDisconnectionResponse destinationCid cid m =
      if c.destinationCid ≠ destinationCid then
        (.error (.invalidPacket "disconnection CID mismatch"), m)
      else (.ok (), react cid { c with state := .closed } [] [] m) := by
  rw [onDisconnectionResponse, Exec.bind_ok (channelOr_some _ h)]
  split
  · rfl
  · exact setChannel_eq

theorem disconnect_eq (h : m.channel cid = some c) :
    disconnect cid m =
      if c.state ≠ .open then (.error (.invalidPacket "channel not open"), m)
      else (.ok (), { react cid { c with state := .waitDisconnect }
        [signal (.disconnectionRequest m.following c.destinationCid cid)] [] m with
        identifier := m.following }) := by
  rw [disconnect, Exec.bind_ok (channelOr_some _ h)]
  split
  · rfl
  · simp [setChannel, nextIdentifier, queueControl, pushOutbound, react, signal, following]

/-! ### Data -/

/-- What data changes: the engine of a channel, what it received, and the PDUs to its peer. -/
def DataStep (cid : UInt16) (c : ClassicChannel) (m m' : ChannelManager) : Prop :=
  ∃ (engine : Option ErtmEngine) (received payloads : List Bytes),
    engine.isSome = c.ertm.isSome ∧
    m' = react cid { c with ertm := engine, received := received }
      (payloads.map fun payload => { cid := c.destinationCid, payload := payload }) [] m

theorem DataStep.refl (h : m.channel cid = some c) : DataStep cid c m m :=
  ⟨c.ertm, c.received, [], rfl, (react_self h).symm⟩

theorem length_appendFcs {destinationCid : UInt16} {frame payload : Bytes}
    (h : appendFcs destinationCid frame = .ok payload) : payload.length ≤ 65535 := by
  rw [appendFcs] at h
  split at h
  · cases h
  · cases h
    rw [List.length_append, length_toLe16]
    omega

/-- The frames of an engine that are queued before one is too long. Only a frame with a check
sequence can be. -/
theorem queueFrames_cases (destinationCid : UInt16) (fcsEnabled : Bool) (frames : List Bytes)
    (m : ChannelManager) :
    ∃ payloads : List Bytes, (Exec.forEach (queueFrame destinationCid fcsEnabled) frames m).2 =
        queued (payloads.map fun payload => { cid := destinationCid, payload := payload }) m ∧
      ∀ payload ∈ payloads, fcsEnabled = true ∧ payload.length ≤ 65535 ∨
        fcsEnabled = false ∧ payload ∈ frames := by
  induction frames generalizing m with
  | nil => exact ⟨[], by simp [Exec.forEach, queued], by simp⟩
  | cons frame frames ih =>
    rw [Exec.forEach]
    have hpush (payload : Bytes) (hframe : queueFrame destinationCid fcsEnabled frame m =
        (.ok (), queued [{ cid := destinationCid, payload := payload }] m))
        (hpayload : fcsEnabled = true ∧ payload.length ≤ 65535 ∨
          fcsEnabled = false ∧ payload ∈ frame :: frames) :
        ∃ payloads : List Bytes, ((do
          queueFrame destinationCid fcsEnabled frame
          Exec.forEach (queueFrame destinationCid fcsEnabled) frames : Update Unit) m).2 =
            queued (payloads.map fun payload => { cid := destinationCid, payload := payload }) m ∧
          ∀ payload ∈ payloads, fcsEnabled = true ∧ payload.length ≤ 65535 ∨
            fcsEnabled = false ∧ payload ∈ frame :: frames := by
      obtain ⟨payloads, hrest, hlengths⟩ :=
        ih (queued [{ cid := destinationCid, payload := payload }] m)
      refine ⟨payload :: payloads, ?_, ?_⟩
      · rw [Exec.bind_ok hframe, hrest]
        simp [queued]
      · intro payload' hmem
        rcases List.mem_cons.mp hmem with rfl | hmem
        · exact hpayload
        · exact (hlengths payload' hmem).imp id fun h =>
            ⟨h.1, List.mem_cons_of_mem _ h.2⟩
    cases fcsEnabled with
    | false => exact hpush frame rfl (.inr ⟨rfl, List.mem_cons_self⟩)
    | true =>
      rcases hfcs : appendFcs destinationCid frame with error | payload
      · refine ⟨[], ?_, by simp⟩
        have hframe : queueFrame destinationCid true frame m = (.error error, m) := by
          simp [queueFrame, hfcs]
        rw [Exec.bind_error hframe]
        simp [queued]
      · refine hpush payload ?_ (.inl ⟨rfl, length_appendFcs hfcs⟩)
        simp only [queueFrame, if_true, hfcs, Exec.lift_ok_bind]
        rfl

/-- An update of the engine of a channel, and what it leaves to be moved. -/
theorem withEngine_flushErtm_cases (cid : UInt16) (c : ClassicChannel) (engine : ErtmEngine)
    (update : ErtmEngine.Update Unit) (m : ChannelManager) :
    ∃ (engine' : ErtmEngine) (received payloads : List Bytes),
      ((do
        withEngine cid c engine update
        flushErtm cid : Update Unit) m).2 =
        react cid { c with ertm := some engine', received := received }
          (payloads.map fun payload => { cid := c.destinationCid, payload := payload }) [] m ∧
      (engine' = (update engine).2 ∨
        engine' = { (update engine).2 with outbound := [], received := [] }) ∧
      ∀ payload ∈ payloads, c.fcsEnabled = true ∧ payload.length ≤ 65535 ∨
        c.fcsEnabled = false ∧ payload ∈ (update engine).2.outbound := by
  have hwith : withEngine cid c engine update m =
      ((update engine).1, react cid { c with ertm := some (update engine).2 } [] [] m) := by
    rw [withEngine, Exec.bind_ok setChannel_eq]
    rfl
  rcases hupdate : (update engine).1 with error | _
  · rw [hupdate] at hwith
    rw [Exec.bind_error hwith]
    exact ⟨(update engine).2, c.received, [], by simp, .inl rfl, nofun⟩
  · rw [hupdate] at hwith
    rw [Exec.bind_ok hwith, flushErtm, Exec.bind_ok (channelOr_some _ (channel_react_self _ _))]
    simp only [ErtmEngine.drain, Exec.bind_ok setChannel_eq, react_react]
    obtain ⟨payloads, hqueued, hlengths⟩ := queueFrames_cases c.destinationCid c.fcsEnabled
      (update engine).2.outbound (react cid { c with
        ertm := some { (update engine).2 with outbound := [], received := [] }
        received := c.received ++ (update engine).2.received } [] [] m)
    refine ⟨{ (update engine).2 with outbound := [], received := [] },
      c.received ++ (update engine).2.received, payloads, hqueued.trans ?_, .inr rfl, hlengths⟩
    simp [queued, react]

theorem withEngine_flushErtm {engine : ErtmEngine} (hengine : c.ertm = some engine)
    (update : ErtmEngine.Update Unit) :
    DataStep cid c m ((do
      withEngine cid c engine update
      flushErtm cid : Update Unit) m).2 := by
  obtain ⟨engine', received, payloads, hrun, _, _⟩ :=
    withEngine_flushErtm_cases cid c engine update m
  exact ⟨some engine', received, payloads, by rw [hengine]; rfl, hrun⟩

/-- **Receiving data.** -/
theorem processData_cases (h : m.channel cid = some c) (payload : Bytes) :
    (c.state ≠ .open ∧ ∃ error, processData cid payload m = (.error error, m)) ∨
      c.state = .open ∧ DataStep cid c m (processData cid payload m).2 ∧
        (c.ertm = none → c.mtu.toNat < payload.length ∧
            (∃ error, processData cid payload m = (.error error, m)) ∨
          payload.length ≤ c.mtu.toNat ∧ processData cid payload m =
            (.ok (), react cid { c with received := c.received ++ [payload] } [] [] m)) := by
  rw [processData, Exec.bind_ok (channelOr_some _ h)]
  by_cases hstate : c.state = .open
  swap
  · exact .inl ⟨hstate, by rw [if_pos hstate]; exact ⟨_, rfl⟩⟩
  refine .inr ⟨hstate, ?_⟩
  rw [if_neg (not_not.mpr hstate)]
  rcases hengine : c.ertm with _ | engine
  · dsimp only
    split
    · rename_i hlong
      exact ⟨.refl h, fun _ => .inl ⟨hlong, _, rfl⟩⟩
    · rename_i hlong
      rw [setChannel_eq]
      exact ⟨⟨none, c.received ++ [payload], [], by rw [hengine], rfl⟩,
        fun _ => .inr ⟨Nat.not_lt.mp hlong, rfl⟩⟩
  · refine ⟨?_, (by rintro ⟨⟩)⟩
    dsimp only
    split
    · rcases verifyAndStripFcs cid payload with error | frame
      · exact .refl h
      · exact withEngine_flushErtm hengine _
    · exact withEngine_flushErtm hengine _

/-- **Sending data.** -/
theorem send_cases (h : m.channel cid = some c) (sdu : Bytes) :
    (c.state ≠ .open ∧ ∃ error, send cid sdu m = (.error error, m)) ∨
      c.state = .open ∧ DataStep cid c m (send cid sdu m).2 ∧
        (c.ertm = none → c.peerMtu.toNat < sdu.length ∧
            (∃ error, send cid sdu m = (.error error, m)) ∨
          sdu.length ≤ c.peerMtu.toNat ∧ send cid sdu m =
            (.ok (), queued [{ cid := c.destinationCid, payload := sdu }] m)) := by
  rw [send, Exec.bind_ok (channelOr_some _ h)]
  by_cases hstate : c.state = .open
  swap
  · exact .inl ⟨hstate, by rw [if_pos hstate]; exact ⟨_, rfl⟩⟩
  refine .inr ⟨hstate, ?_⟩
  rw [if_neg (not_not.mpr hstate)]
  rcases hengine : c.ertm with _ | engine
  · dsimp only
    split
    · rename_i hlong
      exact ⟨.refl h, fun _ => .inl ⟨hlong, _, rfl⟩⟩
    · rename_i hlong
      refine ⟨⟨c.ertm, c.received, [sdu], rfl, ?_⟩, fun _ => .inr ⟨Nat.not_lt.mp hlong, rfl⟩⟩
      rw [react, insert_self h]
      simp [pushOutbound]
  · exact ⟨withEngine_flushErtm hengine _, (by rintro ⟨⟩)⟩

/-- The clock of one channel. -/
theorem tickChannel_cases (h : m.channel cid = some c) (ticks : UInt32) :
    DataStep cid c m (tickChannel ticks cid m).2 := by
  rw [tickChannel, Exec.bind_ok (channelOr_some _ h)]
  rcases hengine : c.ertm with _ | engine
  · exact .refl h
  · exact withEngine_flushErtm hengine _

/-- **Flow control.** -/
theorem setReceiverBusy_cases (h : m.channel cid = some c) (busy : Bool) :
    DataStep cid c m (setReceiverBusy cid busy m).2 := by
  rw [setReceiverBusy, Exec.bind_ok (channelOr_some _ h)]
  rcases hengine : c.ertm with _ | engine
  · exact .refl h
  · exact withEngine_flushErtm hengine _

end ChannelManager

end ClassicHid

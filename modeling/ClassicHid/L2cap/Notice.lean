import ClassicHid.L2cap.ControlCodec
import ClassicHid.L2cap.Lifecycle

/-!
# What a PDU tells its addressee

Between two links, a PDU either asks for a new channel or is addressed to one channel of its
receiver. Signaling frames survive the wire, and the configuration a link requests is read back as
it was meant.

## Main definitions

* `Notice`, `L2capPdu.notice`: what a PDU tells the channel it is addressed to
* `L2capPdu.request`: the PSM and the channel of a connection request
* `ChannelSpec.Valid`: a specification that a link accepts
* `ChannelSpec.accepts`, `ClassicChannel.heard`: the judgement of a valid configuration

## Main results

* `ClassicChannel.judge_configuration`: a valid configuration is judged by the two specifications
-/

namespace ClassicHid

open Foundation

/-! ### The frames that links exchange -/

namespace ControlFrame

variable (identifier : UInt8) (destinationCid sourceCid result status : UInt16)

theorem connectionResponse_faithful :
    Faithful (.connectionResponse identifier destinationCid sourceCid result status) :=
  Representable.faithful ⟨by simp [payload], nofun, nofun⟩

theorem configureRequest_faithful (flags : UInt16) {options : Bytes}
    (h : options.length ≤ 255) :
    Faithful (.configureRequest identifier destinationCid flags options) :=
  Representable.faithful ⟨by simp [payload]; omega, nofun, nofun⟩

theorem configureResponse_faithful (flags : UInt16) {options : Bytes}
    (h : options.length ≤ 255) :
    Faithful (.configureResponse identifier sourceCid flags result options) :=
  Representable.faithful ⟨by simp [payload]; omega, nofun, nofun⟩

theorem disconnectionRequest_faithful :
    Faithful (.disconnectionRequest identifier destinationCid sourceCid) :=
  Representable.faithful ⟨by simp [payload], nofun, nofun⟩

theorem disconnectionResponse_faithful :
    Faithful (.disconnectionResponse identifier destinationCid sourceCid) :=
  Representable.faithful ⟨by simp [payload], nofun, nofun⟩

theorem informationRequest_faithful (infoType : UInt16) :
    Faithful (.informationRequest identifier infoType) :=
  Representable.faithful ⟨by simp [payload], nofun, nofun⟩

theorem informationResponse_faithful (infoType : UInt16) {data : Bytes} (h : data.length ≤ 255) :
    Faithful (.informationResponse identifier infoType result data) :=
  Representable.faithful ⟨by simp [payload]; omega, nofun, nofun⟩

/-- The high byte of a valid PSM is even. -/
theorem even_of_validatePsm {psm : UInt32} (h : validatePsm psm = .ok ()) :
    psm.toNat / 256 % 2 = 0 := by
  rw [validatePsm] at h
  split at h
  · cases h
  split at h
  · rename_i heven
    rw [evenBytes] at heven
    split at heven
    · omega
    split at heven
    · cases heven
    · omega
  · cases h

theorem connectionRequest_faithful {psm : UInt32} (h : psm.toNat < 2 ^ 16)
    (hvalid : validatePsm psm = .ok ()) :
    Faithful (.connectionRequest identifier psm sourceCid) := by
  have hlength : (serializePsm psm).length = 2 := by
    rw [serializePsm, psmExtension, if_pos (by omega), List.append_nil, length_toLe16]
  refine Representable.faithful ⟨by simp [payload, hlength], (by rintro _ _ _ ⟨⟩), ?_⟩
  rintro _ _ _ heq
  cases heq
  exact ⟨Nat.le_of_lt_succ h, even_of_validatePsm hvalid⟩

end ControlFrame

/-! ### Notices -/

/-- What a PDU tells the channel it is addressed to. -/
inductive Notice
  | connected (peer : UInt16)
  | refused (result : UInt16)
  | configure (flags : UInt16) (options : Bytes)
  | configured (result : UInt16)
  | data (payload : Bytes)
  | disconnect (peer : UInt16)
  | disconnected (peer : UInt16)
  deriving DecidableEq, Repr

/-- The channel a signaling frame is addressed to, and what it is told. -/
def ControlFrame.notice : ControlFrame → Option (UInt16 × Notice)
  | .connectionResponse _ destinationCid sourceCid result _ =>
    some (sourceCid,
      if result = connectionSuccessful then .connected destinationCid else .refused result)
  | .configureRequest _ destinationCid flags options =>
    some (destinationCid, .configure flags options)
  | .configureResponse _ sourceCid _ result _ => some (sourceCid, .configured result)
  | .disconnectionRequest _ destinationCid sourceCid =>
    some (destinationCid, .disconnect sourceCid)
  | .disconnectionResponse _ destinationCid sourceCid =>
    some (sourceCid, .disconnected destinationCid)
  | _ => none

/-- The PSM and the channel of a connection request. -/
def ControlFrame.request : ControlFrame → Option (UInt32 × UInt16)
  | .connectionRequest _ psm sourceCid => some (psm, sourceCid)
  | _ => none

namespace L2capPdu

/-- The channel a PDU is addressed to, and what it is told. -/
def notice (pdu : L2capPdu) : Option (UInt16 × Notice) :=
  if pdu.cid = l2capSignalingCid then
    match ControlFrame.fromBytes pdu.payload with
    | .ok frame => frame.notice
    | .error _ => none
  else some (pdu.cid, .data pdu.payload)

/-- The PSM and the channel of a PDU that asks for a new channel. -/
def request (pdu : L2capPdu) : Option (UInt32 × UInt16) :=
  if pdu.cid = l2capSignalingCid then
    match ControlFrame.fromBytes pdu.payload with
    | .ok frame => frame.request
    | .error _ => none
  else none

/-- A PDU of an information exchange. -/
def IsInformation (pdu : L2capPdu) : Prop :=
  pdu.cid = l2capSignalingCid ∧
    ((∃ identifier infoType, ControlFrame.fromBytes pdu.payload =
        .ok (.informationRequest identifier infoType)) ∨
      ∃ identifier infoType result data, ControlFrame.fromBytes pdu.payload =
        .ok (.informationResponse identifier infoType result data))

/-- A PDU that is addressed to none of the channels of its receiver. -/
def Unaddressed (pdu : L2capPdu) : Prop :=
  (∃ request, pdu.request = some request) ∨ pdu.IsInformation

theorem notice_signal {frame : ControlFrame} (h : frame.Faithful) :
    (ChannelManager.signal frame).notice = frame.notice := by
  have h : ControlFrame.fromBytes frame.toBytes = .ok frame := h
  simp only [notice, ChannelManager.signal, if_true, h]

theorem request_signal {frame : ControlFrame} (h : frame.Faithful) :
    (ChannelManager.signal frame).request = frame.request := by
  have h : ControlFrame.fromBytes frame.toBytes = .ok frame := h
  simp only [request, ChannelManager.signal, if_true, h]

theorem informationRequest_isInformation (identifier : UInt8) (infoType : UInt16) :
    (ChannelManager.signal (.informationRequest identifier infoType)).IsInformation :=
  ⟨rfl, .inl ⟨_, _, ControlFrame.informationRequest_faithful identifier infoType⟩⟩

/-- The answer to an information request has little data. -/
theorem response_eq (information : InformationCapabilities) (identifier : UInt8)
    (infoType : UInt16) : ∃ (result : UInt16) (data : Bytes), data.length ≤ 255 ∧
      information.response identifier infoType =
        .informationResponse identifier infoType result data := by
  unfold InformationCapabilities.response
  split
  · exact ⟨_, _, by simp, rfl⟩
  · exact ⟨_, _, by simp [toLe32], rfl⟩
  · exact ⟨_, _, by simp [toLe64], rfl⟩
  · exact ⟨_, _, by simp, rfl⟩

/-- The answer to an information request survives the wire. -/
theorem response_isInformation (information : InformationCapabilities) (identifier : UInt8)
    (infoType : UInt16) :
    (ChannelManager.signal (information.response identifier infoType)).IsInformation := by
  obtain ⟨result, data, hlength, hanswer⟩ := response_eq information identifier infoType
  rw [hanswer]
  exact ⟨rfl, .inr ⟨_, _, _, _,
    ControlFrame.informationResponse_faithful identifier result infoType hlength⟩⟩

end L2capPdu

/-! ### Specifications -/

namespace ChannelSpec

/-- A specification that a link accepts. -/
def Valid : ChannelSpec → Prop
  | basic spec => validateSpec spec = .ok ()
  | ertm spec => validateErtmSpec spec = .ok ()

/-- Whether two specifications go together. -/
def accepts (own peer : ChannelSpec) : Bool :=
  match own.ertm?, peer.ertm? with
  | none, none => true
  | some own, some peer => own.fcsEnabled = peer.fcsEnabled
  | _, _ => false

theorem accepts_comm (own peer : ChannelSpec) : own.accepts peer = peer.accepts own := by
  cases own <;> cases peer <;> simp only [accepts, ertm?]
  exact decide_eq_decide.mpr eq_comm

/-- Whether a channel closes when it judges a configuration. A channel in basic mode that is asked
for retransmission only says that it cannot. -/
def closesOn (own peer : ChannelSpec) : Bool := own.ertm?.isSome && !own.accepts peer

theorem mtu_of_valid (spec : ChannelSpec) (h : spec.Valid) : 48 ≤ spec.mtu.toNat := by
  have hmtu (mtu : UInt16) (h : validateSpec { mtu := mtu } = .ok ()) : 48 ≤ mtu.toNat := by
    rw [validateSpec] at h
    split at h
    · cases h
    · rename_i hmtu
      rw [UInt16.lt_iff_toNat_lt] at hmtu
      exact Nat.not_lt.mp hmtu
  cases spec with
  | basic spec => exact hmtu spec.mtu h
  | ertm spec =>
    rw [Valid, validateErtmSpec, except_bind_eq_ok] at h
    obtain ⟨_, hvalid, _⟩ := h
    exact hmtu spec.mtu hvalid

/-- What a valid retransmission specification promises. -/
theorem ertm_of_valid {spec : ErtmChannelSpec} (h : validateErtmSpec spec = .ok ()) :
    spec.mps ≠ 0 ∧ (1 ≤ spec.txWindowSize ∧ spec.txWindowSize < 64) ∧
      spec.retransmissionTimeoutMs ≠ 0 := by
  rw [validateErtmSpec, except_bind_eq_ok] at h
  obtain ⟨_, _, h⟩ := h
  have hmps : spec.mps ≠ 0 := by
    intro hzero
    rw [if_pos hzero] at h
    cases h
  rw [if_neg hmps] at h
  have hwindow : 1 ≤ spec.txWindowSize ∧ spec.txWindowSize < 64 := by
    by_contra hwindow
    rw [if_pos hwindow] at h
    cases h
  rw [if_neg (not_not.mpr hwindow)] at h
  refine ⟨hmps, hwindow, ?_⟩
  intro hzero
  rw [if_pos (.inl hzero)] at h
  cases h

end ChannelSpec

/-! ### The judgement of a configuration -/

/-- The retransmission parameters a specification asks for. -/
def ErtmChannelSpec.parameters (spec : ErtmChannelSpec) : ErtmOption :=
  { mode := retransmissionModeEnhanced, txWindowSize := spec.txWindowSize,
    maxRetransmissions := spec.maxRetransmissions, mps := spec.mps }

theorem decodeErtmOption_encodeErtmOption (spec : ErtmChannelSpec) :
    decodeErtmOption (encodeErtmOption spec) = some spec.parameters := by
  have hmps : le16At (encodeErtmOption spec) 7 = spec.mps := fromLe16_toLe16 spec.mps
  have hlength : (encodeErtmOption spec).length = 9 := rfl
  rw [decodeErtmOption, if_pos hlength]
  exact congrArg (fun mps => some { spec.parameters with mps := mps }) hmps

/-- The first option of a frame. -/
theorem decodeConfigurationOptions_cons (optionType : UInt8) (value : Bytes) (rest : Bytes)
    (hlength : value.length ≤ 255) (htype : optionType &&& 0x7f = optionType)
    (hhint : optionType &&& 0x80 = 0) :
    decodeConfigurationOptions (optionType :: UInt8.ofNat value.length :: value ++ rest) =
      (decodeConfigurationOptions rest).map fun options => .new optionType value :: options := by
  have hcount : (UInt8.ofNat value.length).toNat = value.length := by
    rw [UInt8.toNat_ofNat']
    omega
  rw [List.cons_append, List.cons_append, decodeConfigurationOptions, hcount,
    if_neg (by rw [List.length_append]; omega), List.drop_left, List.take_left]
  simp only [htype, hhint, ne_eq, not_true, decide_false]
  cases decodeConfigurationOptions rest with
  | error error => rfl
  | ok options =>
    simp only [Except.map, ConfigurationOption.new, htype]
    rfl

/-- A link reads the configuration another link requests. -/
theorem decode_configurationBytes (spec : ChannelSpec) :
    decodeConfigurationOptions (ChannelManager.configurationBytes spec) =
      .ok (ChannelManager.configurationOptions spec) := by
  have hnil : decodeConfigurationOptions [] = .ok [] := by rw [decodeConfigurationOptions]
  have hfcs := decodeConfigurationOptions_cons configurationOptionFcs [1] [] (by decide) (by decide)
    (by decide)
  have hmtu (rest : Bytes) := decodeConfigurationOptions_cons configurationOptionMtu
    (toLe16 spec.mtu) rest (by simp) (by decide) (by decide)
  cases spec with
  | basic spec =>
    refine (hmtu []).trans ?_
    rw [hnil]
    rfl
  | ertm spec =>
    have hertm (rest : Bytes) := decodeConfigurationOptions_cons
      configurationOptionRetransmissionAndFlowControl (encodeErtmOption spec) rest
      (by simp [encodeErtmOption]) (by decide) (by decide)
    refine (hmtu _).trans ?_
    simp only [ChannelSpec.ertm?, ChannelManager.configurationOptions]
    rcases hflag : spec.fcsEnabled with _ | _
    · refine (congrArg (Except.map _) (hertm _)).trans ?_
      rw [if_neg (by decide), hnil]
      rfl
    · refine (congrArg (Except.map _) (hertm _)).trans ?_
      rw [if_pos rfl, if_pos rfl]
      refine (congrArg (fun r => Except.map _ (Except.map _ r)) hfcs).trans ?_
      rw [hnil]
      rfl

/-- The result of the judgement of a valid configuration. -/
def ChannelSpec.verdict (own peer : ChannelSpec) : UInt16 :=
  if own.accepts peer then configurationSuccess else configurationUnacceptableParameters

/-- A channel after it has judged a valid configuration. -/
def ClassicChannel.heard (c : ClassicChannel) (peer : ChannelSpec) : ClassicChannel :=
  if c.spec.accepts peer then
    match c.spec.ertm?, peer.ertm? with
    | some own, some asked =>
      { c with
        peerMtu := peer.mtu
        peerMps := asked.mps
        fcsEnabled := own.fcsEnabled
        ertm := some { config := ChannelManager.negotiatedErtmConfig own asked.parameters }
        peerConfigurationReceived := true }
    | _, _ => { c with peerMtu := peer.mtu, peerConfigurationReceived := true }
  else if c.spec.closesOn peer then { c with peerMtu := peer.mtu }.refused
  else { c with peerMtu := peer.mtu }

theorem parameters_acceptable {spec : ErtmChannelSpec} (h : validateErtmSpec spec = .ok ()) :
    spec.parameters.acceptable .enhancedRetransmission = true := by
  obtain ⟨hmps, ⟨hlow, hhigh⟩, _⟩ := ChannelSpec.ertm_of_valid h
  have hzero : spec.txWindowSize ≠ 0 := by
    intro hzero
    rw [hzero] at hlow
    exact absurd hlow (by decide)
  have hlarge : ¬ spec.txWindowSize ≥ 64 := by
    rw [ge_iff_le, UInt8.le_iff_toNat_le, Nat.not_le]
    exact UInt8.lt_iff_toNat_lt.mp hhigh
  simp [ErtmOption.acceptable, ErtmChannelSpec.parameters, hmps, hzero, hlarge]

theorem new_negotiated {own asked : ErtmChannelSpec} (hown : validateErtmSpec own = .ok ())
    (hasked : validateErtmSpec asked = .ok ()) :
    ErtmEngine.new (ChannelManager.negotiatedErtmConfig own asked.parameters) =
      .ok { config := ChannelManager.negotiatedErtmConfig own asked.parameters } := by
  obtain ⟨hmps, _, htimeout⟩ := ChannelSpec.ertm_of_valid hown
  obtain ⟨hpeerMps, hwindow, _⟩ := ChannelSpec.ertm_of_valid hasked
  have hticks : own.retransmissionTimeoutMs.toUInt32 ≠ 0 := by
    intro hzero
    apply htimeout
    apply UInt16.toNat_inj.mp
    have := congrArg UInt32.toNat hzero
    simpa using this
  simp only [ErtmEngine.new, ErtmConfig.validate, ChannelManager.negotiatedErtmConfig,
    ErtmChannelSpec.parameters, ertmSequenceModulus, hmps, hpeerMps, hticks, hwindow]
  rfl

section Scan

variable {mode : ClassicChannelMode} {scan : ConfigurationScan}

theorem scanOptions_mtu {mtu : UInt16} (h : 48 ≤ mtu.toNat) (options : List ConfigurationOption) :
    scanOptions mode scan (.new configurationOptionMtu (toLe16 mtu) :: options) =
      scanOptions mode { scan with
        peerMtu := mtu
        responseOptions := scan.responseOptions ++ [.new configurationOptionMtu (toLe16 mtu)] }
        options := by
  have hread : le16At (toLe16 mtu) 0 = mtu := le16At_toLe16 mtu []
  have htype : (ConfigurationOption.new configurationOptionMtu (toLe16 mtu)).optionType =
      configurationOptionMtu := rfl
  have hvalue : (ConfigurationOption.new configurationOptionMtu (toLe16 mtu)).value =
      toLe16 mtu := rfl
  have hlow : ¬ mtu < l2capMinBrEdrMtu := by
    rw [UInt16.lt_iff_toNat_lt]
    exact Nat.not_lt.mpr h
  rw [scanOptions, if_pos htype, hvalue, if_neg (not_not.mpr (length_toLe16 mtu)), hread,
    if_neg hlow]

theorem scanOptions_ertm (spec : ErtmChannelSpec) (options : List ConfigurationOption) :
    scanOptions mode scan
        (.new configurationOptionRetransmissionAndFlowControl (encodeErtmOption spec) :: options) =
      if spec.parameters.acceptable mode then
        scanOptions mode { scan with
          peerErtm := some spec.parameters
          responseOptions := scan.responseOptions ++
            [.new configurationOptionRetransmissionAndFlowControl (encodeErtmOption spec)] } options
      else scan.refuse configurationUnacceptableParameters
        [.new configurationOptionRetransmissionAndFlowControl (encodeErtmOption spec)] := by
  have htype : (ConfigurationOption.new configurationOptionRetransmissionAndFlowControl
      (encodeErtmOption spec)).optionType = configurationOptionRetransmissionAndFlowControl := rfl
  have hvalue : (ConfigurationOption.new configurationOptionRetransmissionAndFlowControl
      (encodeErtmOption spec)).value = encodeErtmOption spec := rfl
  rw [scanOptions, htype, if_neg (by decide), if_pos rfl, hvalue,
    decodeErtmOption_encodeErtmOption]
  dsimp only
  rcases hacceptable : spec.parameters.acceptable mode with _ | _ <;> simp

theorem scanOptions_fcs :
    scanOptions mode scan [.new configurationOptionFcs [1]] = { scan with
      peerFcs := some true
      responseOptions := scan.responseOptions ++ [.new configurationOptionFcs [1]] } := by
  rfl

end Scan

/-- The options of a valid configuration in the order they are read. -/
theorem scanOptions_configuration (mode : ClassicChannelMode) (peerMtu : UInt16)
    {peer : ErtmChannelSpec} (hpeer : validateErtmSpec peer = .ok ()) :
    scanOptions mode { peerMtu := peerMtu }
        (ChannelManager.configurationOptions (.ertm peer)) =
      match mode with
      | .basic => {
          peerMtu := peer.mtu
          result := configurationUnacceptableParameters
          responseOptions :=
            [.new configurationOptionRetransmissionAndFlowControl (encodeErtmOption peer)] }
      | .enhancedRetransmission => {
          peerMtu := peer.mtu
          peerErtm := some peer.parameters
          peerFcs := if peer.fcsEnabled then some true else none
          responseOptions := ChannelManager.configurationOptions (.ertm peer) } := by
  have hmtu : 48 ≤ peer.mtu.toNat := ChannelSpec.mtu_of_valid (.ertm peer) hpeer
  refine (scanOptions_mtu hmtu _).trans ((scanOptions_ertm peer _).trans ?_)
  cases mode with
  | basic => rfl
  | enhancedRetransmission =>
    rw [if_pos (parameters_acceptable hpeer)]
    dsimp only
    rcases hfcs : peer.fcsEnabled with _ | _
    · simp [ChannelManager.configurationOptions, ChannelSpec.ertm?, hfcs, scanOptions,
        ChannelSpec.mtu]
    · simp [ChannelManager.configurationOptions, ChannelSpec.ertm?, hfcs, scanOptions_fcs,
        ChannelSpec.mtu]

theorem length_configurationBytes (spec : ChannelSpec) :
    (ChannelManager.configurationBytes spec).length ≤ 255 := by
  cases spec with
  | basic spec => simp [ChannelManager.configurationBytes, ChannelSpec.ertm?]
  | ertm spec =>
    simp only [ChannelManager.configurationBytes, ChannelSpec.ertm?, encodeErtmOption]
    split <;> simp

/-- **The judgement of a valid configuration** depends on the two specifications only. -/
theorem ClassicChannel.judge_configuration {c : ClassicChannel} {peer : ChannelSpec}
    (hmode : c.mode = c.spec.mode) (hown : c.spec.Valid) (hpeer : peer.Valid) :
    ∃ options answer, c.judge 0 (ChannelManager.configurationOptions peer) =
        (.ok (c.spec.verdict peer, options), c.heard peer) ∧
      encodeConfigurationOptions options = .ok answer ∧ answer.length ≤ 255 := by
  have hencode := ChannelManager.encode_configurationOptions peer
  have hsuccess : ¬ configurationUnacceptableParameters = configurationSuccess := by decide
  have hone (optionType : UInt8) (value : Bytes) (hvalue : value.length ≤ 250) :
      ∃ answer, encodeConfigurationOptions [.new optionType value] = .ok answer ∧
        answer.length ≤ 255 := by
    rw [ChannelManager.encodeConfigurationOptions_cons _ _ (by omega)]
    refine ⟨_, rfl, ?_⟩
    simp
    omega
  have hertmLength (spec : ErtmChannelSpec) : (encodeErtmOption spec).length ≤ 250 := by
    simp [encodeErtmOption]
  rcases hspec : c.spec with own | own <;> rcases peer with peer | peer
  · -- Neither side asks for retransmission.
    have hscan : scanOptions c.mode { peerMtu := c.peerMtu }
        (ChannelManager.configurationOptions (.basic peer)) = {
          peerMtu := peer.mtu
          responseOptions := ChannelManager.configurationOptions (.basic peer) } :=
      scanOptions_mtu (ChannelSpec.mtu_of_valid _ hpeer) []
    refine ⟨_, _, ?_, hencode, length_configurationBytes _⟩
    simp [judge, hscan, complete, hspec, ChannelSpec.ertm?, heard, ChannelSpec.accepts,
      ChannelSpec.verdict, ChannelSpec.mtu]
  · -- The options are refused one by one, and the channel stays as it is.
    rw [hspec] at hmode
    have hscan := scanOptions_configuration c.mode c.peerMtu hpeer
    simp only [hmode, ChannelSpec.mode] at hscan
    obtain ⟨answer, hanswer, hlength⟩ :=
      hone configurationOptionRetransmissionAndFlowControl _ (hertmLength peer)
    refine ⟨_, _, ?_, hanswer, hlength⟩
    simp [judge, hmode, ChannelSpec.mode, hscan, hsuccess, hspec, ChannelSpec.ertm?, heard,
      ChannelSpec.accepts, ChannelSpec.verdict, ChannelSpec.closesOn, ChannelSpec.mtu]
  · have hscan : scanOptions c.mode { peerMtu := c.peerMtu }
        (ChannelManager.configurationOptions (.basic peer)) = {
          peerMtu := peer.mtu
          responseOptions := ChannelManager.configurationOptions (.basic peer) } :=
      scanOptions_mtu (ChannelSpec.mtu_of_valid _ hpeer) []
    obtain ⟨answer, hanswer, hlength⟩ :=
      hone configurationOptionRetransmissionAndFlowControl _ (hertmLength own)
    refine ⟨_, _, ?_, hanswer, hlength⟩
    simp [judge, hscan, complete, hspec, ChannelSpec.ertm?, heard, ChannelSpec.accepts,
      ChannelSpec.verdict, ChannelSpec.closesOn, ChannelSpec.mtu, refused]
  · rw [hspec] at hmode hown
    have hscan := scanOptions_configuration c.mode c.peerMtu hpeer
    simp only [hmode, ChannelSpec.mode] at hscan
    have hfcs : (if peer.fcsEnabled then some true else none).getD false = peer.fcsEnabled := by
      cases peer.fcsEnabled <;> rfl
    by_cases hagree : own.fcsEnabled = peer.fcsEnabled
    · have hmps : peer.parameters.mps = peer.mps := rfl
      refine ⟨_, _, ?_, hencode, length_configurationBytes _⟩
      simp [judge, hmode, ChannelSpec.mode, hscan, complete, hspec, ChannelSpec.ertm?, heard,
        ChannelSpec.accepts, ChannelSpec.verdict, ChannelSpec.mtu, hfcs, hagree,
        new_negotiated hown hpeer, hmps]
    · obtain ⟨answer, hanswer, hlength⟩ :=
        hone configurationOptionFcs [own.fcsEnabled.toUInt8] (by simp)
      refine ⟨_, _, ?_, hanswer, hlength⟩
      simp [judge, hmode, ChannelSpec.mode, hscan, complete, hspec, ChannelSpec.ertm?, heard,
        ChannelSpec.accepts, ChannelSpec.verdict, ChannelSpec.closesOn, ChannelSpec.mtu, refused,
        hfcs, hagree, Ne.symm hagree]

end ClassicHid

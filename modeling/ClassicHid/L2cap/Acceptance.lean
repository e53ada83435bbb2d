import ClassicHid.L2cap.Exchange
import ClassicHid.L2cap.OptionCodec
import ClassicHid.L2cap.Specification

/-!
# What a link accepts

A link judges the options of a configuration one by one and then together. The second judgement
refuses some of what the first one took: a channel in basic mode is asked for basic mode, or a
channel that checks its frames is not asked to. The answer to a connection request is judged once:
one that only says that the connection is pending ends the channel.

## Main definitions

* `ClassicChannel.Welcomes`: an option that a channel can take
* `ChannelManager.Accepted`: a configuration request was accepted
* `ChannelManager.Transparent`: answers to a connection request leave no trace

## Main results

* `ManagerHistory.specified_run`: the specifications of a link are valid
* `ClassicChannel.scanOptions_welcome`: the options a channel can take, read one by one
* `ClassicChannel.judge_welcome`: the options a channel can take, judged together
* `ManagerHistory.welcome_configuration_accepted_iff`: when such options are accepted
* `ChannelManager.pending_transparent_iff`: when pending answers leave no trace
-/

namespace ClassicHid

open Foundation

/-! ### Specifications -/

namespace ChannelManager

variable {m : ChannelManager}

/-- **Every operation checks the specification it is given.** -/
theorem Specified.apply (h : m.Specified ChannelSpec.Valid) (op : ManagerOp) :
    (m.apply op).Specified ChannelSpec.Valid := by
  cases op with
  | registerServer psm spec =>
    rw [ChannelManager.apply, ChannelManager.registerServer]
    rcases hvalid : validateSpec spec with error | _
    · exact h
    · exact h.registerServerWithSpec (.basic spec) hvalid psm
  | registerErtmServer psm spec =>
    rw [ChannelManager.apply, ChannelManager.registerErtmServer]
    rcases hvalid : validateErtmSpec spec with error | _
    · exact h
    · exact h.registerServerWithSpec (.ertm spec) hvalid psm
  | unregisterServer psm =>
    exact ⟨server_erase h.servers, h.channels⟩
  | connect psm spec =>
    rw [ChannelManager.apply, ChannelManager.connect]
    rcases validatePsm psm with error | _
    · exact h
    rcases hvalid : validateSpec spec with error | _
    · exact h
    · exact h.connectWithSpec (.basic spec) hvalid psm
  | connectErtm psm spec =>
    rw [ChannelManager.apply, ChannelManager.connectErtm]
    rcases validatePsm psm with error | _
    · exact h
    rcases hvalid : validateErtmSpec spec with error | _
    · exact h
    · exact h.connectWithSpec (.ertm spec) hvalid psm
  | send cid sdu =>
    rw [ChannelManager.apply]
    rcases hc : m.channel cid with _ | c
    · rw [ChannelManager.send, Exec.bind_error (channelOr_none _ hc)]
      exact h
    · rcases send_cases hc sdu with ⟨_, error, hrun⟩ | ⟨_, hdata, _⟩
      · rw [hrun]
        exact h
      · exact h.dataStep hc hdata
  | disconnect cid =>
    rw [ChannelManager.apply]
    rcases hc : m.channel cid with _ | c
    · rw [ChannelManager.disconnect, Exec.bind_error (channelOr_none _ hc)]
      exact h
    rw [disconnect_eq hc]
    split
    · exact h
    · exact h.insert (c := { c with state := .waitDisconnect }) (h.channels cid c hc) rfl rfl
  | tick ticks => exact h.tick ticks
  | setReceiverBusy cid busy =>
    rw [ChannelManager.apply]
    rcases hc : m.channel cid with _ | c
    · rw [ChannelManager.setReceiverBusy, Exec.bind_error (channelOr_none _ hc)]
      exact h
    · exact h.dataStep hc (setReceiverBusy_cases hc busy)
  | processPdu pdu => exact h.processPdu pdu
  | processBytes bytes =>
    rw [ChannelManager.apply, ChannelManager.processBytes]
    rcases L2capPdu.fromBytes bytes with error | pdu
    · exact h
    · exact h.processPdu pdu
  | popReceived cid => exact h.popReceived cid
  | _ => exact h.same rfl rfl

end ChannelManager

/-- **The specifications of a link are valid**, after any operations and any PDUs. -/
theorem ManagerHistory.specified_run {history : ManagerHistory}
    (h : history.manager.Specified ChannelSpec.Valid) (ops : List ManagerOp) :
    (history.run ops).manager.Specified ChannelSpec.Valid := by
  induction ops generalizing history with
  | nil => exact h
  | cons op ops ih => exact ih (h.apply op)

theorem ManagerHistory.specified_new (information : InformationCapabilities) :
    (ChannelManager.withInformationCapabilities information).Specified ChannelSpec.Valid := by
  refine ⟨?_, ?_⟩
  · intro psm spec hserver
    simp [ChannelManager.withInformationCapabilities] at hserver
  · intro cid c hc
    simp [ChannelManager.channel, ChannelManager.withInformationCapabilities] at hc

/-! ### Options, one by one -/

namespace ConfigurationOption

/-- An option that asks for a mode of transmission. -/
def asksMode (option : ConfigurationOption) : Bool :=
  option.optionType = configurationOptionRetransmissionAndFlowControl

/-- An option that says whether frames are checked. -/
def asksFcs (option : ConfigurationOption) : Bool := option.optionType = configurationOptionFcs

end ConfigurationOption

namespace ClassicChannel

/-- An option that a channel can take: an MTU that is large enough, the channel's own mode, the
channel's own frame check, or an option that is only a hint. -/
inductive Welcomes (c : ClassicChannel) (option : ConfigurationOption) : Prop
  | mtu (htype : option.optionType = configurationOptionMtu) (hlength : option.value.length = 2)
      (hmtu : 48 ≤ (le16At option.value 0).toNat)
  | mode (htype : option.asksMode = true) (parameters : ErtmOption)
      (hdecode : decodeErtmOption option.value = some parameters)
      (hmode : match c.mode with
        | .basic => parameters.mode = 0
        | .enhancedRetransmission => parameters.mode = 3 ∧ 1 ≤ parameters.txWindowSize.toNat ∧
            parameters.txWindowSize.toNat ≤ 63 ∧ parameters.mps ≠ 0)
  | fcs (htype : option.asksFcs = true) (hvalue : option.value = [c.spec.fcs.toUInt8])
  | hint (hmtu : option.optionType ≠ configurationOptionMtu) (hmode : option.asksMode = false)
      (hfcs : option.asksFcs = false) (hhint : option.hint = true)

variable {c : ClassicChannel}

/-- What a scan of welcome options has read. -/
structure Scanned (c : ClassicChannel) (options : List ConfigurationOption)
    (scan scan' : ConfigurationScan) : Prop where
  result : scan'.result = scan.result
  asked : scan'.peerErtm.isSome = (scan.peerErtm.isSome || options.any (·.asksMode))
  acceptable : ∀ parameters, scan'.peerErtm = some parameters →
    scan.peerErtm = some parameters ∨ parameters.acceptable c.mode = true
  fcs : scan'.peerFcs = if options.any (·.asksFcs) then some c.spec.fcs else scan.peerFcs
  answer : ∀ option ∈ scan'.responseOptions, option ∈ scan.responseOptions ∨ option ∈ options

/-- The parameters of the channel's own mode are acceptable. -/
theorem acceptable_of_mode {parameters : ErtmOption}
    (h : match c.mode with
      | .basic => parameters.mode = 0
      | .enhancedRetransmission => parameters.mode = 3 ∧ 1 ≤ parameters.txWindowSize.toNat ∧
          parameters.txWindowSize.toNat ≤ 63 ∧ parameters.mps ≠ 0) :
    parameters.acceptable c.mode = true := by
  rcases hmode : c.mode with _ | _ <;> rw [hmode] at h
  · have hmode : parameters.mode = 0 := h
    simp [ErtmOption.acceptable, hmode, retransmissionModeEnhanced]
  · obtain ⟨hmode, hlow, hhigh, hmps⟩ := h
    have hzero : parameters.txWindowSize ≠ 0 := by
      intro hzero
      rw [hzero] at hlow
      exact absurd hlow (by decide)
    have hlarge : ¬ parameters.txWindowSize ≥ 64 := by
      rw [ge_iff_le, UInt8.le_iff_toNat_le, Nat.not_le]
      exact Nat.lt_succ_of_le hhigh
    simp [ErtmOption.acceptable, hmode, retransmissionModeEnhanced, hzero, hlarge, hmps]

/-- **The options a channel can take, read one by one**, do not end the scan. -/
theorem scanOptions_welcome {options : List ConfigurationOption}
    (h : ∀ option ∈ options, c.Welcomes option) (scan : ConfigurationScan) :
    c.Scanned options scan (scanOptions c.mode scan options) := by
  induction options generalizing scan with
  | nil => exact ⟨rfl, by simp [scanOptions], fun _ => .inl, by simp [scanOptions], fun _ => .inl⟩
  | cons option options ih =>
    have hrest := ih fun option hmem => h option (List.mem_cons_of_mem _ hmem)
    have hanswer {l : List ConfigurationOption} {o : ConfigurationOption}
        (hmem : o ∈ l ++ [option] ∨ o ∈ options) : o ∈ l ∨ o ∈ option :: options := by
      rcases hmem with hmem | hmem
      · exact (List.mem_append.mp hmem).imp id fun hmem =>
          List.mem_cons.mpr (.inl (List.mem_singleton.mp hmem))
      · exact .inr (List.mem_cons_of_mem _ hmem)
    cases h option List.mem_cons_self with
    | mtu htype hlength hmtu =>
      have hlow : ¬ le16At option.value 0 < l2capMinBrEdrMtu := by
        rw [UInt16.lt_iff_toNat_lt]
        exact Nat.not_lt.mpr hmtu
      have hmode : option.asksMode = false := by
        rw [ConfigurationOption.asksMode, htype]
        rfl
      have hfcs : option.asksFcs = false := by
        rw [ConfigurationOption.asksFcs, htype]
        rfl
      rw [scanOptions, if_pos htype, if_neg (not_not.mpr hlength), if_neg hlow]
      have hscan := hrest { scan with
        peerMtu := le16At option.value 0
        responseOptions := scan.responseOptions ++ [option] }
      refine ⟨hscan.result, ?_, hscan.acceptable, ?_, fun o hmem => hanswer (hscan.answer o hmem)⟩
      · rw [List.any_cons, hmode, Bool.false_or]
        exact hscan.asked
      · rw [List.any_cons, hfcs, Bool.false_or]
        exact hscan.fcs
    | mode htype parameters hdecode hmode =>
      have hacceptable := acceptable_of_mode hmode
      have htype' : option.optionType = configurationOptionRetransmissionAndFlowControl :=
        of_decide_eq_true htype
      have hfcs : option.asksFcs = false := by
        rw [ConfigurationOption.asksFcs, htype']
        rfl
      rw [scanOptions, htype', if_neg (by decide), if_pos rfl, hdecode]
      dsimp only
      rw [hacceptable, if_neg (by decide)]
      have hscan := hrest { scan with
        peerErtm := some parameters
        responseOptions := scan.responseOptions ++ [option] }
      refine ⟨hscan.result, ?_, ?_, ?_, fun o hmem => hanswer (hscan.answer o hmem)⟩
      · rw [List.any_cons, htype, Bool.true_or, Bool.or_true]
        exact hscan.asked
      · intro parameters' hsome
        rcases hscan.acceptable parameters' hsome with hsame | hacceptable'
        · cases hsame
          exact .inr hacceptable
        · exact .inr hacceptable'
      · rw [List.any_cons, hfcs, Bool.false_or]
        exact hscan.fcs
    | fcs htype hvalue =>
      have htype' : option.optionType = configurationOptionFcs := of_decide_eq_true htype
      have hmode : option.asksMode = false := by
        rw [ConfigurationOption.asksMode, htype']
        rfl
      have hread : decide (option.value.getD 0 0 ≠ 0) = c.spec.fcs := by
        rw [hvalue]
        cases c.spec.fcs <;> rfl
      have hshape : ¬ (option.value.length ≠ 1 ∨ option.value.getD 0 0 > 1) := by
        rw [hvalue]
        cases c.spec.fcs <;> decide
      rw [scanOptions, htype', if_neg (by decide), if_neg (by decide), if_pos rfl, if_neg hshape]
      have hscan := hrest { scan with
        peerFcs := some (option.value.getD 0 0 ≠ 0)
        responseOptions := scan.responseOptions ++ [option] }
      refine ⟨hscan.result, ?_, hscan.acceptable, ?_, fun o hmem => hanswer (hscan.answer o hmem)⟩
      · rw [List.any_cons, hmode, Bool.false_or]
        exact hscan.asked
      · rw [hscan.fcs, List.any_cons, htype, Bool.true_or, if_pos rfl, hread]
        split <;> rfl
    | hint hmtu hmode hfcs hhint =>
      rw [scanOptions, if_neg hmtu, if_neg (of_decide_eq_false hmode),
        if_neg (of_decide_eq_false hfcs), hhint, if_neg (by decide)]
      have hscan := hrest scan
      refine ⟨hscan.result, ?_, hscan.acceptable, ?_, ?_⟩
      · rw [List.any_cons, hmode, Bool.false_or]
        exact hscan.asked
      · rw [List.any_cons, hfcs, Bool.false_or]
        exact hscan.fcs
      · intro o hmem
        exact (hscan.answer o hmem).imp id (List.mem_cons_of_mem _)

/-! ### Options, together -/

/-- What is judged of the options together: a channel in basic mode is not asked for a mode, and a
channel that checks its frames is told so. -/
def takesTogether (c : ClassicChannel) (options : List ConfigurationOption) : Bool :=
  match c.mode with
  | .basic => !options.any (·.asksMode)
  | .enhancedRetransmission => !c.spec.fcs || options.any (·.asksFcs)

theorem new_of_acceptable {own : ErtmChannelSpec} {parameters : ErtmOption}
    (hown : validateErtmSpec own = .ok ())
    (hacceptable : parameters.acceptable .enhancedRetransmission = true) :
    ErtmEngine.new (ChannelManager.negotiatedErtmConfig own parameters) =
      .ok { config := ChannelManager.negotiatedErtmConfig own parameters } := by
  obtain ⟨hmps, _, htimeout⟩ := ChannelSpec.ertm_of_valid hown
  have hticks : own.retransmissionTimeoutMs.toUInt32 ≠ 0 := by
    intro hzero
    apply htimeout
    apply UInt16.toNat_inj.mp
    have := congrArg UInt32.toNat hzero
    simpa using this
  simp only [ErtmOption.acceptable, Bool.not_eq_true', Bool.or_eq_false_iff, Bool.and_eq_false_iff,
    decide_eq_false_iff_not, ne_eq, not_not, ge_iff_le, UInt8.not_le] at hacceptable
  obtain ⟨hmode, hfalse | ⟨⟨hwindow, hlarge⟩, hpeerMps⟩⟩ := hacceptable
  · exact absurd hmode hfalse
  have hlow : 1 ≤ parameters.txWindowSize := by
    rw [UInt8.le_iff_toNat_le]
    have hpos : parameters.txWindowSize.toNat ≠ 0 := fun hzero =>
      hwindow (UInt8.toNat_inj.mp hzero)
    exact Nat.one_le_iff_ne_zero.mpr hpos
  simp only [ErtmEngine.new, ErtmConfig.validate, ChannelManager.negotiatedErtmConfig,
    ertmSequenceModulus, hmps, hpeerMps, hticks, hlow, hlarge]
  rfl

/-- **The judgement of options that a channel can take** depends on the options together. -/
theorem judge_welcome {options : List ConfigurationOption} {flags : UInt16}
    (hvalid : c.spec.Valid) (hmode : c.mode = c.spec.mode)
    (hwelcome : ∀ option ∈ options, c.Welcomes option) (hfinal : flags &&& 1 = 0)
    (hasked : c.mode = .enhancedRetransmission → ∃ option ∈ options, option.asksMode = true) :
    ∃ response c', (∀ option ∈ response, c.takesTogether options = true → option ∈ options) ∧
      c.judge flags options =
        (.ok (if c.takesTogether options then configurationSuccess
          else configurationUnacceptableParameters, response), c') ∧
      c'.state = if c.takesTogether options then c.state else .closed := by
  have hscan := scanOptions_welcome hwelcome { peerMtu := c.peerMtu }
  set scan := scanOptions c.mode { peerMtu := c.peerMtu } options with hscan'
  have hresult : scan.result = configurationSuccess := hscan.result
  have hanswer (option : ConfigurationOption) (hmem : option ∈ scan.responseOptions) :
      option ∈ options :=
    (hscan.answer option hmem).resolve_left List.not_mem_nil
  have hjudge : c.judge flags options = { c with peerMtu := scan.peerMtu }.complete scan := by
    rw [judge, ← hscan']
    exact if_pos ⟨hresult, hfinal⟩
  rw [hjudge]
  obtain ⟨own, hspec⟩ | ⟨own, hspec⟩ : (∃ own, c.spec = .basic own) ∨ ∃ own, c.spec = .ertm own := by
    cases c.spec with
    | basic own => exact .inl ⟨own, rfl⟩
    | ertm own => exact .inr ⟨own, rfl⟩
  · -- Basic mode: no option may ask for a mode, not even for this one.
    have hbasic : c.mode = .basic := by
      rw [hmode, hspec]
      rfl
    have hfcs : scan.peerFcs.getD false = false := by
      rw [hscan.fcs, hspec]
      split <;> rfl
    have hsome : scan.peerErtm.isSome = options.any (·.asksMode) := hscan.asked
    have htakes : c.takesTogether options = !options.any (·.asksMode) := by
      rw [takesTogether, hbasic]
    rcases hany : options.any (·.asksMode) with _ | _
    · refine ⟨scan.responseOptions,
        { c with peerMtu := scan.peerMtu, peerConfigurationReceived := true },
        fun option hmem _ => hanswer option hmem, ?_, ?_⟩
      · simp [complete, hspec, ChannelSpec.ertm?, hsome, hany, hfcs, htakes]
      · simp [htakes, hany]
    · refine ⟨scan.responseOptions, { c with peerMtu := scan.peerMtu }.refused,
        fun option hmem _ => hanswer option hmem, ?_, ?_⟩
      · simp [complete, hspec, ChannelSpec.ertm?, hsome, hany, htakes]
      · simp [htakes, hany, refused]
  · have hertm : c.mode = .enhancedRetransmission := by
      rw [hmode, hspec]
      rfl
    rw [hspec] at hvalid
    obtain ⟨asking, hmem, hasks⟩ := hasked hertm
    have hany : options.any (·.asksMode) = true := List.any_eq_true.mpr ⟨asking, hmem, hasks⟩
    obtain ⟨parameters, hparameters⟩ : ∃ parameters, scan.peerErtm = some parameters := by
      rw [← Option.isSome_iff_exists, hscan.asked, hany]
      rfl
    have hacceptable : parameters.acceptable .enhancedRetransmission = true := by
      rw [← hertm]
      exact (hscan.acceptable parameters hparameters).resolve_left (by rintro ⟨⟩)
    have hnew := new_of_acceptable hvalid hacceptable
    have hown : c.spec.fcs = own.fcsEnabled := by
      rw [hspec]
      rfl
    rcases htakes : c.takesTogether options with _ | _
    · have hfcs : scan.peerFcs.getD false ≠ own.fcsEnabled := by
        simp only [takesTogether, hertm, Bool.or_eq_false_iff, Bool.not_eq_false'] at htakes
        rw [hscan.fcs, htakes.2, ← hown, htakes.1]
        exact Bool.false_ne_true
      refine ⟨[.new configurationOptionFcs [own.fcsEnabled.toUInt8]],
        { c with peerMtu := scan.peerMtu }.refused, (by rintro _ _ ⟨⟩), ?_, ?_⟩
      · simp [complete, hspec, ChannelSpec.ertm?, hparameters, hfcs]
      · rfl
    · have hfcs : scan.peerFcs.getD false = own.fcsEnabled := by
        simp only [takesTogether, hertm, Bool.or_eq_true, Bool.not_eq_true'] at htakes
        rw [hscan.fcs, ← hown]
        rcases htakes with htakes | htakes
        · rw [htakes]
          split <;> rfl
        · rw [htakes]
          rfl
      refine ⟨scan.responseOptions, { c with
        peerMtu := scan.peerMtu
        peerMps := parameters.mps
        fcsEnabled := own.fcsEnabled
        ertm := some { config := ChannelManager.negotiatedErtmConfig own parameters }
        peerConfigurationReceived := true }, fun option hmem _ => hanswer option hmem, ?_, ?_⟩
      · simp [complete, hspec, ChannelSpec.ertm?, hparameters, hfcs, hnew]
      · rfl

end ClassicChannel

/-! ### A configuration request -/

namespace ChannelManager

variable {m : ChannelManager} {cid : UInt16} {c : ClassicChannel}

/-- A configuration request is accepted: it is answered with success, and its channel is not
closed. -/
def Accepted (m : ChannelManager) (identifier : UInt8) (cid flags : UInt16) (encoded : Bytes) :
    Prop :=
  ∃ m' c c' answer,
    processControl (.configureRequest identifier cid flags encoded) m = (.ok (), m') ∧
    m.channel cid = some c ∧ m'.channel cid = some c' ∧ c'.state ≠ .closed ∧
    m'.outbound = m.outbound ++
      [signal (.configureResponse identifier c.destinationCid 0 configurationSuccess answer)]

/-- Options that a channel can take are accepted when it can take them together. -/
theorem accepted_iff_takesTogether (hc : m.channel cid = some c) (hsound : c.Sound cid)
    (hvalid : c.spec.Valid) (hstate : c.state = .configuring) (identifier : UInt8)
    {flags : UInt16} {encoded : Bytes} {options : List ConfigurationOption}
    (hfinal : flags &&& 1 = 0) (hdecode : decodeConfigurationOptions encoded = .ok options)
    (hwelcome : ∀ option ∈ options, c.Welcomes option)
    (hasked : c.mode = .enhancedRetransmission → ∃ option ∈ options, option.asksMode = true) :
    m.Accepted identifier cid flags encoded ↔ c.takesTogether options = true := by
  obtain ⟨response, c', hresponse, hjudge, hstate'⟩ :=
    ClassicChannel.judge_welcome hvalid hsound.specMode hwelcome hfinal hasked
  have hrun := onConfigureRequest_eq hc identifier flags hdecode
  rw [hjudge] at hrun
  dsimp only at hrun
  constructor
  · rintro ⟨m', c₀, c₁, answer, hok, _, hc₁, hopen, _⟩
    -- A refused channel is closed, whatever is answered.
    rcases htakes : c.takesTogether options with _ | _
    · exfalso
      rw [htakes] at hstate'
      rw [processControl, hrun] at hok
      rcases hencode : encodeConfigurationOptions response with error | encodedResponse
      · rw [hencode] at hok
        cases hok
      · rw [hencode] at hok
        cases hok
        rw [channel_react_self] at hc₁
        cases hc₁
        apply hopen
        have hconfigured : c'.configured = false := by
          simp [ClassicChannel.configured, hstate']
        rw [ClassicChannel.settled, hconfigured, if_neg Bool.false_ne_true, hstate']
        rfl
    · rfl
  · intro htakes
    obtain ⟨answer, hanswer⟩ := encodeConfigurationOptions_ok fun option hmem =>
      decodeConfigurationOptions_length hdecode option (hresponse option hmem htakes)
    rw [hanswer, htakes, if_pos rfl] at hrun
    refine ⟨_, c, _, answer, hrun, hc, channel_react_self _ _, ?_, rfl⟩
    rw [htakes, if_pos rfl, hstate] at hstate'
    rw [ClassicChannel.settled]
    split
    · rintro ⟨⟩
    · rw [hstate']
      rintro ⟨⟩

end ChannelManager

/-- **Options that a channel can take are accepted** exactly when no option asks a basic channel
for a mode and some option tells a channel that checks its frames so. -/
theorem ManagerHistory.welcome_configuration_accepted_iff (information : InformationCapabilities)
    (ops : List ManagerOp) {cid : UInt16} {c : ClassicChannel}
    (hc : (run ops { manager := .withInformationCapabilities information }).manager.channel cid =
      some c) (hstate : c.state = .configuring) (identifier : UInt8) {flags : UInt16}
    (hfinal : flags &&& 1 = 0) {encoded : Bytes} {options : List ConfigurationOption}
    (hdecode : decodeConfigurationOptions encoded = .ok options)
    (hwelcome : ∀ option ∈ options, c.Welcomes option)
    (hasked : c.mode = .enhancedRetransmission → ∃ option ∈ options, option.asksMode = true) :
    (run ops { manager := .withInformationCapabilities information }).manager.Accepted
        identifier cid flags encoded ↔
      (c.mode = .basic → ∀ option ∈ options, option.asksMode = false) ∧
      (c.spec.fcs = true → ∃ option ∈ options, option.asksFcs = true) := by
  have hsound := ((sound_new information).run ops).channels cid c hc
  have hvalid := (specified_run (specified_new information) ops).channels cid c hc
  rw [ChannelManager.accepted_iff_takesTogether hc hsound hvalid hstate identifier hfinal hdecode
    hwelcome hasked, ClassicChannel.takesTogether]
  have hmode := hsound.specMode
  cases hspec : c.spec with
  | basic own =>
    rw [hspec] at hmode
    have hmode : c.mode = .basic := hmode
    simp [hmode, ChannelSpec.fcs, ChannelSpec.ertm?]
  | ertm own =>
    rw [hspec] at hmode
    have hmode : c.mode = .enhancedRetransmission := hmode
    rw [hmode]
    simp [Bool.or_eq_true, ← Bool.not_eq_true, ← imp_iff_not_or]

/-- A server is registered for PSM 17, and the peer asks for a channel. -/
def sampleRequested (server : ManagerOp) : List ManagerOp :=
  [server, .processPdu (ChannelManager.signal (.connectionRequest 1 17 0x0050))]

theorem ManagerHistory.welcome_configuration_accepted_checked :
    (run (sampleRequested (.registerErtmServer (some 17) { fcsEnabled := true }))
      { manager := .withInformationCapabilities {} }).manager.Accepted 2 0x0040 0
      [1, 2, 0, 1, 4, 9, 3, 63, 1, 0, 0, 0, 0, 100, 0, 5, 1, 1] := by
  have hdecode : decodeConfigurationOptions
      [1, 2, 0, 1, 4, 9, 3, 63, 1, 0, 0, 0, 0, 100, 0, 5, 1, 1] =
        .ok [.new 1 [0, 1], .new 4 [3, 63, 1, 0, 0, 0, 0, 100, 0], .new 5 [1]] := by
    simp [decodeConfigurationOptions]
    decide
  refine (welcome_configuration_accepted_iff {}
    (sampleRequested (.registerErtmServer (some 17) { fcsEnabled := true }))
    (c := .newIncoming 17 0x0040 0x0050 (.ertm { fcsEnabled := true })) (by decide +kernel) rfl 2
    (by decide) hdecode ?_ ?_).mpr ⟨(by rintro ⟨⟩), ?_⟩
  · intro option hmem
    simp only [List.mem_cons, List.not_mem_nil, or_false] at hmem
    rcases hmem with rfl | rfl | rfl
    · exact .mtu rfl rfl (by decide)
    · exact .mode rfl ⟨3, 63, 1, 100⟩ rfl ⟨rfl, by decide, by decide, by decide⟩
    · exact .fcs rfl rfl
  · exact fun _ => ⟨.new 4 [3, 63, 1, 0, 0, 0, 0, 100, 0], by simp, rfl⟩
  · exact fun _ => ⟨.new 5 [1], by simp, rfl⟩

/-- A basic channel is asked for basic mode. -/
theorem ManagerHistory.basic_mode_refused :
    let m := (run (sampleRequested (.registerServer (some 17) {}))
      { manager := .withInformationCapabilities {} }).manager
    let encoded : Bytes := [4, 9, 0, 0, 0, 0, 0, 0, 0, 0, 0]
    ∃ c options, m.channel 0x0040 = some c ∧ c.state = .configuring ∧ c.mode = .basic ∧
      decodeConfigurationOptions encoded = .ok options ∧
      (∀ option ∈ options, c.Welcomes option) ∧ ¬ m.Accepted 2 0x0040 0 encoded := by
  refine ⟨.newIncoming 17 0x0040 0x0050 (.basic {}), [.new 4 [0, 0, 0, 0, 0, 0, 0, 0, 0]],
    by decide +kernel, rfl, rfl, ?_, ?_, ?_⟩
  · simp [decodeConfigurationOptions]
    decide
  · intro option hmem
    cases List.mem_singleton.mp hmem
    exact .mode rfl ⟨0, 0, 0, 0⟩ rfl rfl
  · rintro ⟨m', c, c', answer, hrun, _, hc', hopen, _⟩
    apply hopen
    have hclosed : ((ChannelManager.processControl (.configureRequest 2 0x0040 0
        [4, 9, 0, 0, 0, 0, 0, 0, 0, 0, 0])
        (run (sampleRequested (.registerServer (some 17) {}))
          { manager := .withInformationCapabilities {} }).manager).2.channel 0x0040).map (·.state) =
        some .closed := by
      decide +kernel
    rw [hrun, hc'] at hclosed
    exact Option.some.inj hclosed

/-! ### A pending connection -/

def connectionPending : UInt16 := 1

namespace ChannelManager

variable {m : ChannelManager} {cid : UInt16} {c : ClassicChannel}

/-- The answers before the last one leave no trace: no answer is an error, and the channel and the
outbound queue are as after the last answer alone. -/
structure Transparent (m : ChannelManager) (cid : UInt16) (answers : List ControlFrame)
    (last : ControlFrame) : Prop where
  ok : (Exec.forEach processControl (answers ++ [last]) m).1 = .ok ()
  channel : (Exec.forEach processControl (answers ++ [last]) m).2.channel cid =
    (processControl last m).2.channel cid
  outbound : (Exec.forEach processControl (answers ++ [last]) m).2.outbound =
    (processControl last m).2.outbound

/-- A connection response is an error for a channel that does not wait for one. -/
theorem connectionResponse_unexpected (hc : m.channel cid = some c)
    (hstate : c.state ≠ .waitConnectResponse) (identifier : UInt8)
    (destinationCid result status : UInt16) :
    processControl (.connectionResponse identifier destinationCid cid result status) m =
      (.error (.invalidPacket "connection response in invalid state"), m) := by
  rw [processControl, onConnectionResponse_eq hc, if_pos hstate]

/-- A connection response is no error for a channel that waits for one. -/
theorem connectionResponse_ok (hc : m.channel cid = some c)
    (hstate : c.state = .waitConnectResponse) (identifier : UInt8)
    (destinationCid result status : UInt16) :
    (processControl (.connectionResponse identifier destinationCid cid result status) m).1 =
      .ok () := by
  rw [processControl, onConnectionResponse_eq hc, if_neg (not_not.mpr hstate)]
  split <;> rfl

/-- **A pending connection ends the channel**, so that pending answers leave no trace exactly when
there are none. -/
theorem pending_transparent_iff (hc : m.channel cid = some c)
    (hstate : c.state = .waitConnectResponse) {pending : List ControlFrame}
    (hpending : ∀ frame ∈ pending, ∃ identifier destinationCid status,
      frame = .connectionResponse identifier destinationCid cid connectionPending status)
    (identifier : UInt8) (destinationCid result status : UInt16) :
    m.Transparent cid pending
        (.connectionResponse identifier destinationCid cid result status) ↔ pending = [] := by
  constructor
  · intro h
    rcases pending with _ | ⟨first, rest⟩
    · rfl
    exfalso
    obtain ⟨identifier₁, destinationCid₁, status₁, rfl⟩ := hpending first List.mem_cons_self
    have hfirst : processControl (.connectionResponse identifier₁ destinationCid₁ cid
        connectionPending status₁) m = (.ok (), react cid
          { c with connectionResult := some connectionPending, state := .closed } [] [] m) := by
      rw [processControl, onConnectionResponse_eq hc, if_neg (not_not.mpr hstate),
        if_pos (by decide)]
    -- Whichever answer comes next, it finds the channel closed.
    obtain ⟨identifier₂, destinationCid₂, result₂, status₂, later, hnext⟩ :
        ∃ identifier₂ destinationCid₂ result₂ status₂ later,
          rest ++ [.connectionResponse identifier destinationCid cid result status] =
            .connectionResponse identifier₂ destinationCid₂ cid result₂ status₂ :: later := by
      rcases rest with _ | ⟨second, rest⟩
      · exact ⟨_, _, _, _, _, rfl⟩
      · obtain ⟨identifier₂, destinationCid₂, status₂, rfl⟩ :=
          hpending second (List.mem_cons_of_mem _ List.mem_cons_self)
        exact ⟨_, _, _, _, _, rfl⟩
    have hok := h.ok
    rw [List.cons_append, Exec.forEach, Exec.bind_ok hfirst, hnext, Exec.forEach,
      Exec.bind_error
        (connectionResponse_unexpected (channel_react_self _ _) (by simp) _ _ _ _)] at hok
    cases hok
  · rintro rfl
    have hok := connectionResponse_ok hc hstate identifier destinationCid result status
    rcases hrun : processControl (.connectionResponse identifier destinationCid cid result status) m
      with ⟨_ | _, m'⟩
    · rw [hrun] at hok
      cases hok
    have hlast : Exec.forEach processControl
        ([] ++ [.connectionResponse identifier destinationCid cid result status]) m =
          (.ok (), m') := by
      rw [List.nil_append, Exec.forEach, Exec.bind_ok hrun]
      rfl
    exact ⟨by rw [hlast], by rw [hlast, hrun], by rw [hlast, hrun]⟩

/-- A link that waits for the answer to a connection request. -/
def sampleWaiting : ChannelManager := (connect 17 {} new).2

/-- A connection that is not pending leaves no trace; one that is pending twice does. -/
theorem pending_transparent_waiting :
    sampleWaiting.Transparent 0x0040 [] (.connectionResponse 1 0x0050 0x0040 0 0) ∧
      ¬ sampleWaiting.Transparent 0x0040
        [.connectionResponse 1 0x0050 0x0040 connectionPending 1,
          .connectionResponse 1 0x0050 0x0040 connectionPending 2]
        (.connectionResponse 1 0x0050 0x0040 0 0) := by
  have hchannel : sampleWaiting.channel 0x0040 = some (.newOutgoing 17 0x0040 (.basic {})) := by
    decide +kernel
  constructor
  · exact (pending_transparent_iff hchannel rfl (fun _ hmem => absurd hmem List.not_mem_nil)
      1 0x0050 0 0).mpr rfl
  · intro h
    have hnone := (pending_transparent_iff hchannel rfl ?_ 1 0x0050 0 0).mp h
    · cases hnone
    · simp

/-- The connection succeeds after all, and that is an error. -/
theorem pending_not_transparent :
    sampleWaiting.channel 0x0040 = some (.newOutgoing 17 0x0040 (.basic {})) ∧
      ¬ sampleWaiting.Transparent 0x0040
        [.connectionResponse 1 0x0050 0x0040 connectionPending 0]
        (.connectionResponse 1 0x0050 0x0040 connectionSuccessful 0) := by
  refine ⟨by decide +kernel, ?_⟩
  intro h
  have hrun : (Exec.forEach processControl
      [.connectionResponse 1 0x0050 0x0040 connectionPending 0,
        .connectionResponse 1 0x0050 0x0040 connectionSuccessful 0] sampleWaiting).1 ≠ .ok () := by
    decide +kernel
  exact hrun h.ok

end ChannelManager

end ClassicHid

import ClassicHid.L2cap.Lifecycle

/-!
# What a refused configuration leaves behind

The options of a configuration request are read one by one. The parameters of a mode and the frame
check are kept aside until all options were read, but an MTU is taken over at once. A request that
is refused for a later option, or for its options together, leaves the MTU it offered behind.

## Main definitions

* `ConfigurationOption.passes`: an option that does not end the scan
* `ConfigurationOption.offeredMtu`: the last MTU among the options that are read
* `ClassicChannel.Unaffected`: what a refused request should leave alone

## Main results

* `scanOptions_offeredMtu`: the MTU after the scan
* `ChannelManager.refused_configuration_unaffected_iff`: when a refused request changes nothing
-/

namespace ClassicHid

open Foundation

namespace ConfigurationOption

/-- An option that a channel in `mode` reads without refusing the request. -/
def passes (mode : ClassicChannelMode) (option : ConfigurationOption) : Bool :=
  if option.optionType = configurationOptionMtu then
    option.value.length = 2 && !decide (le16At option.value 0 < l2capMinBrEdrMtu)
  else if option.optionType = configurationOptionRetransmissionAndFlowControl then
    (decodeErtmOption option.value).any (·.acceptable mode)
  else if option.optionType = configurationOptionFcs then
    !decide (option.value.length ≠ 1 ∨ option.value.getD 0 0 > 1)
  else option.hint

/-- The MTU of the last MTU option before the first option that is refused. -/
def offeredMtu (mode : ClassicChannelMode) (options : List ConfigurationOption) : Option UInt16 :=
  ((options.takeWhile (passes mode)).filter
    (·.optionType = configurationOptionMtu)).getLast?.map fun option => le16At option.value 0

theorem offeredMtu_cons_of_refused {mode : ClassicChannelMode} {option : ConfigurationOption}
    (h : option.passes mode = false) (options : List ConfigurationOption) :
    offeredMtu mode (option :: options) = none := by
  simp [offeredMtu, h]

theorem offeredMtu_cons_of_other {mode : ClassicChannelMode} {option : ConfigurationOption}
    (h : option.passes mode = true) (htype : option.optionType ≠ configurationOptionMtu)
    (options : List ConfigurationOption) :
    offeredMtu mode (option :: options) = offeredMtu mode options := by
  simp [offeredMtu, h, htype]

theorem offeredMtu_cons_of_mtu {mode : ClassicChannelMode} {option : ConfigurationOption}
    (h : option.passes mode = true) (htype : option.optionType = configurationOptionMtu)
    (options : List ConfigurationOption) :
    offeredMtu mode (option :: options) =
      some ((offeredMtu mode options).getD (le16At option.value 0)) := by
  rw [offeredMtu, List.takeWhile_cons_of_pos h, List.filter_cons_of_pos (by simpa using htype),
    List.getLast?_cons, offeredMtu]
  generalize ((options.takeWhile (passes mode)).filter
    (·.optionType = configurationOptionMtu)).getLast? = last
  cases last <;> rfl

end ConfigurationOption

open ConfigurationOption

/-- **The MTU after a scan** is the last one that was offered before the scan ended. -/
theorem scanOptions_offeredMtu (mode : ClassicChannelMode) (options : List ConfigurationOption)
    (scan : ConfigurationScan) :
    (scanOptions mode scan options).peerMtu = (offeredMtu mode options).getD scan.peerMtu := by
  induction options generalizing scan with
  | nil => rfl
  | cons option options ih =>
    rw [scanOptions]
    by_cases hmtu : option.optionType = configurationOptionMtu
    · rw [if_pos hmtu]
      split
      · rename_i hlength
        rw [offeredMtu_cons_of_refused (by simp [passes, hmtu, hlength])]
        rfl
      split
      · rename_i hlow
        rw [offeredMtu_cons_of_refused (by simp [passes, hmtu, hlow])]
        rfl
      · rename_i hlength hlow
        rw [ih, offeredMtu_cons_of_mtu (by simpa [passes, hmtu, hlow] using hlength) hmtu]
        rfl
    rw [if_neg hmtu]
    by_cases hmode : option.optionType = configurationOptionRetransmissionAndFlowControl
    · have hpasses : option.passes mode =
          (decodeErtmOption option.value).any (·.acceptable mode) := by
        rw [passes, if_neg hmtu, if_pos hmode]
      rw [if_pos hmode]
      rcases hdecode : decodeErtmOption option.value with _ | parameters <;> rw [hdecode] at hpasses
      · rw [offeredMtu_cons_of_refused hpasses]
        rfl
      dsimp only
      rcases hacceptable : parameters.acceptable mode with _ | _
      · rw [offeredMtu_cons_of_refused (hpasses.trans hacceptable)]
        rfl
      · rw [offeredMtu_cons_of_other (hpasses.trans hacceptable) hmtu]
        exact ih _
    rw [if_neg hmode]
    by_cases hfcs : option.optionType = configurationOptionFcs
    · have hpasses : option.passes mode =
          !decide (option.value.length ≠ 1 ∨ option.value.getD 0 0 > 1) := by
        rw [passes, if_neg hmtu, if_neg hmode, if_pos hfcs]
      rw [if_pos hfcs]
      split
      · rename_i hrefused
        rw [offeredMtu_cons_of_refused (hpasses.trans (by rw [decide_eq_true hrefused]; rfl))]
        rfl
      · rename_i htaken
        rw [offeredMtu_cons_of_other (hpasses.trans (by rw [decide_eq_false htaken]; rfl)) hmtu]
        exact ih _
    have hpasses : option.passes mode = option.hint := by
      rw [passes, if_neg hmtu, if_neg hmode, if_neg hfcs]
    rw [if_neg hfcs]
    rcases hhint : option.hint with _ | _
    · rw [offeredMtu_cons_of_refused (hpasses.trans hhint)]
      rfl
    · rw [offeredMtu_cons_of_other (hpasses.trans hhint) hmtu]
      exact ih _

namespace ClassicChannel

/-- What a configuration request negotiates is the same in both channels. -/
structure Unaffected (c c' : ClassicChannel) : Prop where
  peerMtu : c'.peerMtu = c.peerMtu
  peerMps : c'.peerMps = c.peerMps
  fcsEnabled : c'.fcsEnabled = c.fcsEnabled
  ertm : c'.ertm = c.ertm
  peerConfigurationReceived : c'.peerConfigurationReceived = c.peerConfigurationReceived

variable {c : ClassicChannel} {result : UInt16} {response : List ConfigurationOption}

/-- A final request that is refused closes the channel, and nothing else. -/
theorem complete_refused {scan : ConfigurationScan} {c' : ClassicChannel}
    (h : c.complete scan = (.ok (result, response), c'))
    (hresult : result ≠ configurationSuccess) : c' = c.refused := by
  unfold complete at h
  split at h
  · split at h
    · cases h
      rfl
    · dsimp only at h
      split at h
      · cases h
      · cases h
        exact absurd rfl hresult
  · cases h
    rfl
  · split at h
    · cases h
      rfl
    · cases h
      exact absurd rfl hresult

/-- **A refused request** takes over the MTU it offered, and leaves the rest as it was. -/
theorem judge_refused {flags : UInt16} {options : List ConfigurationOption} {c' : ClassicChannel}
    (h : c.judge flags options = (.ok (result, response), c'))
    (hresult : result ≠ configurationSuccess) :
    c'.peerMtu = (offeredMtu c.mode options).getD c.peerMtu ∧ c'.peerMps = c.peerMps ∧
      c'.fcsEnabled = c.fcsEnabled ∧ c'.ertm = c.ertm ∧
      c'.peerConfigurationReceived = c.peerConfigurationReceived := by
  have hmtu := scanOptions_offeredMtu c.mode options { peerMtu := c.peerMtu }
  unfold judge at h
  dsimp only at h
  split at h
  · rw [complete_refused h hresult]
    exact ⟨hmtu, rfl, rfl, rfl, rfl⟩
  · cases h
    exact ⟨hmtu, rfl, rfl, rfl, rfl⟩

end ClassicChannel

namespace ChannelManager

variable {m m' : ChannelManager} {cid : UInt16} {c c' : ClassicChannel}

/-- The result of a configuration response is read from its PDU. -/
theorem result_signal (identifier : UInt8) (sourceCid flags result : UInt16) (answer : Bytes) :
    le16At (signal (.configureResponse identifier sourceCid flags result answer)).payload 8 =
      result :=
  fromLe16_toLe16 result

/-- **When a refused configuration changes nothing**: exactly when no MTU was offered before the
refusal, or the last one is the MTU that the channel has anyway. -/
theorem refused_configuration_unaffected_iff (hc : m.channel cid = some c) {identifier : UInt8}
    {flags result : UInt16} {encoded answer : Bytes} {options : List ConfigurationOption}
    (hdecode : decodeConfigurationOptions encoded = .ok options)
    (hrun : processControl (.configureRequest identifier cid flags encoded) m = (.ok (), m'))
    (hout : m'.outbound = m.outbound ++
      [signal (.configureResponse identifier c.destinationCid 0 result answer)])
    (hresult : result ≠ configurationSuccess) (hc' : m'.channel cid = some c') :
    c.Unaffected c' ↔ ∀ mtu, offeredMtu c.mode options = some mtu → mtu = c.peerMtu := by
  have hrequest := onConfigureRequest_eq hc identifier flags hdecode
  have hrun : onConfigureRequest identifier cid flags encoded m = (.ok (), m') := hrun
  rw [hrun] at hrequest
  rcases hjudge : c.judge flags options with ⟨error | ⟨judged, response⟩, c₁⟩ <;>
    rw [hjudge] at hrequest
  · cases hrequest
  dsimp only at hrequest
  rcases hencode : encodeConfigurationOptions response with error | answer' <;>
    rw [hencode] at hrequest
  · cases hrequest
  obtain ⟨_, rfl⟩ := Prod.mk.inj hrequest
  have hjudged : judged = result := by
    have hpdu := congrArg (le16At ·.payload 8) (List.cons.inj (List.append_cancel_left hout)).1
    rwa [result_signal, result_signal] at hpdu
  rw [hjudged] at hjudge
  obtain ⟨hmtu, hmps, hfcs, hertm, hreceived⟩ := ClassicChannel.judge_refused hjudge hresult
  obtain ⟨_, _, _, _, _, _, _, sreceived, sfcs, smtu, smps, sertm⟩ := c₁.settled_keeps
  rw [channel_react_self, Option.some.injEq] at hc'
  subst hc'
  constructor
  · intro h mtu hoffered
    have := smtu.symm.trans h.peerMtu
    rw [hmtu, hoffered] at this
    exact this
  · intro h
    refine ⟨?_, smps.trans hmps, sfcs.trans hfcs, sertm.trans hertm, sreceived.trans hreceived⟩
    rw [smtu, hmtu]
    rcases hoffered : offeredMtu c.mode options with _ | mtu
    · rfl
    · exact h mtu hoffered

/-- A link whose peer has asked for a basic channel. -/
def sampleAsked : ChannelManager :=
  (processControl (.connectionRequest 1 17 0x0050) (registerServer (some 17) {} new).2).2

/-- The channel of the link. -/
def sampleAskedChannel : ClassicChannel := .newIncoming 17 0x0040 0x0050 (.basic {})

/-- A frame check that is neither on nor off is refused. -/
theorem refused_configuration_unaffected_frameCheck :
    ∃ c', (processControl (.configureRequest 2 0x0040 0 [5, 1, 2]) sampleAsked).2.channel 0x0040 =
      some c' ∧ sampleAskedChannel.Unaffected c' := by
  have hdecode : decodeConfigurationOptions [5, 1, 2] = .ok [.new 5 [2]] := by
    simp [decodeConfigurationOptions]
    decide
  have hc : sampleAsked.channel 0x0040 = some sampleAskedChannel := by decide +kernel
  have hrun : (processControl (.configureRequest 2 0x0040 0 [5, 1, 2]) sampleAsked).1 = .ok () := by
    decide +kernel
  have hout : (processControl (.configureRequest 2 0x0040 0 [5, 1, 2]) sampleAsked).2.outbound =
      sampleAsked.outbound ++ [signal (.configureResponse 2 sampleAskedChannel.destinationCid 0
        configurationUnacceptableParameters [5, 1, 2])] := by
    decide +kernel
  have hc' : (processControl (.configureRequest 2 0x0040 0 [5, 1, 2]) sampleAsked).2.channel
      0x0040 = some sampleAskedChannel := by
    decide +kernel
  refine ⟨sampleAskedChannel, hc', (refused_configuration_unaffected_iff hc hdecode
    (Prod.ext hrun rfl) hout (by decide) hc').mpr ?_⟩
  intro mtu hmtu
  cases hmtu

/-- A request that offers an MTU and is refused for an unknown option. -/
theorem refused_configuration_takes_mtu :
    sampleAsked.channel 0x0040 = some sampleAskedChannel ∧
      (processControl (.configureRequest 2 0x0040 0 [1, 2, 0, 1, 0x20, 0]) sampleAsked).1 =
        .ok () ∧
      (processControl (.configureRequest 2 0x0040 0 [1, 2, 0, 1, 0x20, 0]) sampleAsked).2.outbound =
        sampleAsked.outbound ++ [signal (.configureResponse 2 sampleAskedChannel.destinationCid 0
          configurationUnknownOptions [0x20, 0])] ∧
      ∃ c', (processControl (.configureRequest 2 0x0040 0 [1, 2, 0, 1, 0x20, 0])
        sampleAsked).2.channel 0x0040 = some c' ∧ ¬ sampleAskedChannel.Unaffected c' := by
  refine ⟨by decide +kernel, by decide +kernel, by decide +kernel,
    { sampleAskedChannel with peerMtu := 256 }, by decide +kernel, ?_⟩
  intro h
  exact absurd h.peerMtu (by decide)

end ChannelManager

end ClassicHid

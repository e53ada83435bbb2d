import ClassicHid.L2cap.Acceptance
import ClassicHid.L2cap.Refusal

/-!
# What an answer to a configuration request repeats

The options of a request that are all acceptable come back in the answer, behind a longer header.
Any other answer holds a single option.

## Main definitions

* `ConfigurationOption.echo`: the options that an answer repeats
* `ClassicChannel.Echoes`: a request that is answered with its own options

## Main results

* `length_encodeConfigurationOptions`: the length of options on the wire
* `ClassicChannel.judge_answer`: an answer repeats the options of the request, or has one option
-/

namespace ClassicHid

open Foundation

namespace ConfigurationOption

/-- The length of an option on the wire. -/
def size (option : ConfigurationOption) : ℕ := 2 + option.value.length

/-- An option that a request negotiates; the others are hints, when they are not refused. -/
def isNegotiated (option : ConfigurationOption) : Bool :=
  option.optionType = configurationOptionMtu || option.asksMode || option.asksFcs

/-- The options that an answer repeats. -/
def echo (options : List ConfigurationOption) : List ConfigurationOption :=
  options.filter isNegotiated

/-- Their length on the wire. -/
def echoSize (options : List ConfigurationOption) : ℕ := ((echo options).map size).sum

/-- The last frame check that is asked for. -/
def askedFcs (options : List ConfigurationOption) : Option Bool :=
  (options.filter asksFcs).getLast?.map fun option => decide (option.value.getD 0 0 ≠ 0)

theorem askedFcs_cons_of_other {option : ConfigurationOption} (h : option.asksFcs = false)
    (options : List ConfigurationOption) : askedFcs (option :: options) = askedFcs options := by
  simp [askedFcs, h]

theorem askedFcs_cons_of_fcs {option : ConfigurationOption} (h : option.asksFcs = true)
    (options : List ConfigurationOption) :
    askedFcs (option :: options) =
      (askedFcs options).or (some (decide (option.value.getD 0 0 ≠ 0))) := by
  rw [askedFcs, List.filter_cons_of_pos h, List.getLast?_cons, askedFcs]
  cases (options.filter asksFcs).getLast? <;> rfl

end ConfigurationOption

open ConfigurationOption

/-- **The length of options on the wire.** -/
theorem length_encodeConfigurationOptions {options : List ConfigurationOption} {encoded : Bytes}
    (h : encodeConfigurationOptions options = .ok encoded) :
    encoded.length = (options.map size).sum ∧ ∀ option ∈ options, option.size ≤ 257 := by
  induction options generalizing encoded with
  | nil =>
    cases h
    exact ⟨rfl, nofun⟩
  | cons option options ih =>
    rw [encodeConfigurationOptions] at h
    split at h
    · cases h
    rename_i hlength
    obtain ⟨rest, hrest, h⟩ := except_bind_eq_ok.mp h
    cases h
    obtain ⟨hsum, hsize⟩ := ih hrest
    constructor
    · simp only [List.length_cons, List.length_append, hsum, List.map_cons, List.sum_cons, size]
      omega
    · intro option' hmem
      rcases List.mem_cons.mp hmem with rfl | hmem
      · rw [size]
        omega
      · exact hsize option' hmem

/-- What a scan of acceptable options has read. -/
structure Repeated (options : List ConfigurationOption) (scan scan' : ConfigurationScan) :
    Prop where
  result : scan'.result = scan.result
  answer : scan'.responseOptions = scan.responseOptions ++ echo options
  asked : scan'.peerErtm.isSome = (scan.peerErtm.isSome || options.any (·.asksMode))
  fcs : scan'.peerFcs = (askedFcs options).or scan.peerFcs

/-- **A scan** repeats the options when it accepts all of them, and ends with one option when it
does not. -/
theorem scanOptions_repeated (mode : ClassicChannelMode) (options : List ConfigurationOption)
    (scan : ConfigurationScan) :
    options.all (passes mode) = true ∧ Repeated options scan (scanOptions mode scan options) ∨
      options.all (passes mode) = false ∧
        (scanOptions mode scan options).result ≠ configurationSuccess ∧
        ∃ option, (scanOptions mode scan options).responseOptions = [option] := by
  induction options generalizing scan with
  | nil => exact .inl ⟨rfl, rfl, by simp [scanOptions, echo], by simp [scanOptions], rfl⟩
  | cons option options ih =>
    -- An option that ends the scan, and one that does not.
    have hends {scan' : ConfigurationScan} {answer : ConfigurationOption}
        (hpasses : option.passes mode = false) (hresult : scan'.result ≠ configurationSuccess)
        (hanswer : scan'.responseOptions = [answer]) :
        (option :: options).all (passes mode) = true ∧ Repeated (option :: options) scan scan' ∨
          (option :: options).all (passes mode) = false ∧
            scan'.result ≠ configurationSuccess ∧ ∃ option, scan'.responseOptions = [option] := by
      rw [List.all_cons, hpasses, Bool.false_and]
      exact .inr ⟨rfl, hresult, answer, hanswer⟩
    have hgoes {scan₁ : ConfigurationScan} (hpasses : option.passes mode = true)
        (hfirst : ∀ scan', Repeated options scan₁ scan' → Repeated (option :: options) scan scan') :
        (option :: options).all (passes mode) = true ∧
            Repeated (option :: options) scan (scanOptions mode scan₁ options) ∨
          (option :: options).all (passes mode) = false ∧
            (scanOptions mode scan₁ options).result ≠ configurationSuccess ∧
            ∃ option, (scanOptions mode scan₁ options).responseOptions = [option] := by
      rw [List.all_cons, hpasses, Bool.true_and]
      exact (ih scan₁).imp (fun h => ⟨h.1, hfirst _ h.2⟩) id
    have hunacceptable : configurationUnacceptableParameters ≠ configurationSuccess := by decide
    have hunknown : configurationUnknownOptions ≠ configurationSuccess := by decide
    rw [scanOptions]
    by_cases hmtu : option.optionType = configurationOptionMtu
    · have hmode : option.asksMode = false := by
        rw [asksMode, hmtu]
        rfl
      have hfcs : option.asksFcs = false := by
        rw [asksFcs, hmtu]
        rfl
      rw [if_pos hmtu]
      split
      · rename_i hlength
        exact hends (by simp [passes, hmtu, hlength]) hunacceptable rfl
      split
      · rename_i hlow
        exact hends (by simp [passes, hmtu, hlow]) hunacceptable rfl
      · rename_i hlength hlow
        refine hgoes (by simpa [passes, hmtu, hlow] using hlength) fun scan' h => ?_
        refine ⟨h.result, ?_, ?_, ?_⟩
        · rw [h.answer]
          simp [echo, isNegotiated, hmtu]
        · rw [h.asked, List.any_cons, hmode, Bool.false_or]
        · rw [h.fcs, askedFcs_cons_of_other hfcs]
    rw [if_neg hmtu]
    by_cases hmode : option.optionType = configurationOptionRetransmissionAndFlowControl
    · have hasks : option.asksMode = true := decide_eq_true hmode
      have hfcs : option.asksFcs = false := by
        rw [asksFcs, hmode]
        rfl
      have hpasses : option.passes mode =
          (decodeErtmOption option.value).any (·.acceptable mode) := by
        rw [passes, if_neg hmtu, if_pos hmode]
      rw [if_pos hmode]
      rcases hdecode : decodeErtmOption option.value with _ | parameters <;> rw [hdecode] at hpasses
      · exact hends hpasses hunacceptable rfl
      dsimp only
      rcases hacceptable : parameters.acceptable mode with _ | _
      · exact hends (hpasses.trans hacceptable) hunacceptable rfl
      · refine hgoes (hpasses.trans hacceptable) fun scan' h => ?_
        refine ⟨h.result, ?_, ?_, ?_⟩
        · rw [h.answer]
          simp [echo, isNegotiated, hasks]
        · rw [h.asked, List.any_cons, hasks]
          simp
        · rw [h.fcs, askedFcs_cons_of_other hfcs]
    rw [if_neg hmode]
    have hasks : option.asksMode = false := decide_eq_false hmode
    by_cases hfcs : option.optionType = configurationOptionFcs
    · have hchecks : option.asksFcs = true := decide_eq_true hfcs
      have hpasses : option.passes mode =
          !decide (option.value.length ≠ 1 ∨ option.value.getD 0 0 > 1) := by
        rw [passes, if_neg hmtu, if_neg hmode, if_pos hfcs]
      rw [if_pos hfcs]
      split
      · rename_i hrefused
        exact hends (hpasses.trans (by rw [decide_eq_true hrefused]; rfl)) hunacceptable rfl
      · rename_i htaken
        refine hgoes (hpasses.trans (by rw [decide_eq_false htaken]; rfl)) fun scan' h => ?_
        refine ⟨h.result, ?_, ?_, ?_⟩
        · rw [h.answer]
          simp [echo, isNegotiated, hchecks]
        · rw [h.asked, List.any_cons, hasks, Bool.false_or]
        · rw [h.fcs, askedFcs_cons_of_fcs hchecks]
          cases askedFcs options <;> rfl
    have hchecks : option.asksFcs = false := decide_eq_false hfcs
    have hpasses : option.passes mode = option.hint := by
      rw [passes, if_neg hmtu, if_neg hmode, if_neg hfcs]
    rw [if_neg hfcs]
    rcases hhint : option.hint with _ | _
    · exact hends (hpasses.trans hhint) hunknown rfl
    · refine hgoes (hpasses.trans hhint) fun scan' h => ?_
      refine ⟨h.result, ?_, ?_, ?_⟩
      · rw [h.answer]
        simp [echo, isNegotiated, hmtu, hasks, hchecks]
      · rw [h.asked, List.any_cons, hasks, Bool.false_or]
      · rw [h.fcs, askedFcs_cons_of_other hchecks]

namespace ClassicChannel

/-- A request that is answered with its own options: all of them are acceptable, and if it is the
last one to a channel in retransmission mode, it asks for that mode with the channel's own frame
check. -/
def Echoes (c : ClassicChannel) (flags : UInt16) (options : List ConfigurationOption) : Prop :=
  options.all (passes c.mode) = true ∧
    (flags &&& 1 = 0 → ∀ spec, c.spec.ertm? = some spec →
      options.any (·.asksMode) = true ∧ (askedFcs options).getD false = spec.fcsEnabled)

variable {c : ClassicChannel} {flags result : UInt16} {options response : List ConfigurationOption}

/-- The answer to a final request whose options were all acceptable. -/
theorem complete_answer {scan scan₀ : ConfigurationScan} (hscan : Repeated options scan₀ scan)
    (hstart : scan₀.responseOptions = [] ∧ scan₀.peerErtm = none ∧ scan₀.peerFcs = none)
    (h : (c.complete scan).1 = .ok (result, response)) :
    response = echo options ∧ (∀ spec, c.spec.ertm? = some spec →
        options.any (·.asksMode) = true ∧ (askedFcs options).getD false = spec.fcsEnabled) ∨
      ∃ option, response = [option] := by
  obtain ⟨hnone, hertm, hfcs⟩ := hstart
  have hanswer : scan.responseOptions = echo options := by
    rw [hscan.answer, hnone, List.nil_append]
  have hasked : scan.peerErtm.isSome = options.any (·.asksMode) := by
    rw [hscan.asked, hertm]
    rfl
  have hcheck : scan.peerFcs = askedFcs options := by
    rw [hscan.fcs, hfcs, Option.or_none]
  unfold complete at h
  split at h
  · rename_i spec parameters hspec hparameters
    split at h
    · cases h
      exact .inr ⟨_, rfl⟩
    rename_i hagrees
    dsimp only at h
    split at h
    · cases h
    · cases h
      refine .inl ⟨hanswer, fun spec' hspec' => ?_⟩
      cases hspec.symm.trans hspec'
      rw [← hasked, hparameters, ← hcheck]
      exact ⟨rfl, not_not.mp hagrees⟩
  · cases h
    exact .inr ⟨_, rfl⟩
  · rename_i hspec
    have hbasic (P : ErtmChannelSpec → Prop) : ∀ spec, c.spec.ertm? = some spec → P spec := by
      intro spec hspec'
      cases hspec.symm.trans hspec'
    split at h <;> cases h <;> exact .inl ⟨hanswer, hbasic _⟩

/-- **An answer** repeats the options of the request, or has a single option. -/
theorem judge_answer (h : (c.judge flags options).1 = .ok (result, response)) :
    c.Echoes flags options ∧ response = echo options ∨ ∃ option, response = [option] := by
  unfold judge at h
  dsimp only at h
  rcases scanOptions_repeated c.mode options { peerMtu := c.peerMtu } with
    ⟨hall, hscan⟩ | ⟨_, hresult, option, hanswer⟩
  · have hsuccess := hscan.result
    rw [hsuccess] at h
    split at h
    · rcases complete_answer hscan ⟨rfl, rfl, rfl⟩ h with ⟨hresponse, hagrees⟩ | hone
      · exact .inl ⟨⟨hall, fun _ => hagrees⟩, hresponse⟩
      · exact .inr hone
    · rename_i hmore
      cases h
      refine .inl ⟨⟨hall, fun hfinal => absurd ⟨rfl, hfinal⟩ hmore⟩, ?_⟩
      rw [hscan.answer]
      rfl
  · rw [if_neg fun hfinal => hresult hfinal.1] at h
    cases h
    exact .inr ⟨option, hanswer⟩

end ClassicChannel

end ClassicHid

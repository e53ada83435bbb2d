import ClassicHid.Foundation.Exec
import ClassicHid.L2cap.Frame

/-!
# The codec of configuration options

The options of a configuration frame are entries of a type byte, a length byte and a value, one
after the other. The highest bit of the type byte is the hint. A list of options is written
exactly when every value fits its length byte, and is read back; what is read is written back to
the same bytes.

## Main definitions

* `ConfigurationOption.rawType`: the type byte of an option, with its hint

## Main results

* `decodeConfigurationOptions_length`: the values that are read fit their length byte
* `encodeConfigurationOptions_ok`: options whose values fit are written
* `configurationOptions_round_trip`: the codec undoes itself in both directions
-/

namespace ClassicHid

open Foundation

variable {options : List ConfigurationOption} {encoded : Bytes}

/-! ### The type byte -/

namespace ConfigurationOption

/-- The type byte of an option, with its hint. -/
def rawType (option : ConfigurationOption) : UInt8 :=
  option.optionType ||| if option.hint then 0x80 else 0

theorem optionType_rawType {option : ConfigurationOption} (h : option.optionType < 128) :
    option.rawType &&& 0x7f = option.optionType := by
  have hbyte : ∀ byte : UInt8, byte < 128 →
      (byte ||| 0x80) &&& 0x7f = byte ∧ (byte ||| 0) &&& 0x7f = byte :=
    forall_byte (by decide +kernel)
  rw [rawType]
  cases option.hint with
  | true => exact (hbyte option.optionType h).1
  | false => exact (hbyte option.optionType h).2

theorem hint_rawType {option : ConfigurationOption} (h : option.optionType < 128) :
    decide (option.rawType &&& 0x80 ≠ 0) = option.hint := by
  have hbyte : ∀ byte : UInt8, byte < 128 →
      (byte ||| 0x80) &&& 0x80 ≠ 0 ∧ ¬ (byte ||| 0) &&& 0x80 ≠ 0 :=
    forall_byte (by decide +kernel)
  rw [rawType]
  cases option.hint with
  | true => exact decide_eq_true (hbyte option.optionType h).1
  | false => exact decide_eq_false (hbyte option.optionType h).2

/-- A type byte is the one of the option read from it. -/
theorem rawType_of_byte (byte : UInt8) (value : Bytes) :
    rawType { optionType := byte &&& 0x7f, hint := byte &&& 0x80 ≠ 0, value := value } = byte := by
  have hbyte : ∀ byte : UInt8,
      ((byte &&& 0x7f) ||| if decide (byte &&& 0x80 ≠ 0) = true then 0x80 else 0) = byte :=
    forall_byte (by decide +kernel)
  exact hbyte byte

end ConfigurationOption

open ConfigurationOption

/-! ### Writing -/

/-- Options that fit in their length field are encoded. -/
theorem encodeConfigurationOptions_ok {options : List ConfigurationOption}
    (h : ∀ option ∈ options, option.value.length ≤ 255) :
    ∃ answer, encodeConfigurationOptions options = .ok answer := by
  induction options with
  | nil => exact ⟨[], rfl⟩
  | cons option options ih =>
    obtain ⟨answer, hanswer⟩ := ih fun option hmem => h option (List.mem_cons_of_mem _ hmem)
    have hlength := h option List.mem_cons_self
    rw [encodeConfigurationOptions, if_neg (Nat.not_lt.mpr hlength), hanswer]
    exact ⟨_, rfl⟩

/-- Options are refused when a value does not fit its length field, and for no other reason. -/
theorem encodeConfigurationOptions_error :
    (∃ error, encodeConfigurationOptions options = .error error) ↔
      ∃ option ∈ options, 255 < option.value.length := by
  constructor
  · rintro ⟨error, herror⟩
    by_contra hfit
    obtain ⟨answer, hanswer⟩ := encodeConfigurationOptions_ok fun option hmem =>
      Nat.not_lt.mp fun hlong => hfit ⟨option, hmem, hlong⟩
    rw [hanswer] at herror
    cases herror
  · rintro ⟨option, hmem, hlong⟩
    induction options with
    | nil => cases hmem
    | cons first options ih =>
      rw [encodeConfigurationOptions]
      split
      · exact ⟨_, rfl⟩
      · rename_i hfits
        rcases List.mem_cons.mp hmem with rfl | hmem
        · exact absurd hlong hfits
        · obtain ⟨error, herror⟩ := ih hmem
          rw [herror]
          exact ⟨error, rfl⟩

/-! ### Reading -/

/-- The value of an option on the wire has at most 255 bytes. -/
theorem decodeConfigurationOptions_length {encoded : Bytes} {options : List ConfigurationOption}
    (h : decodeConfigurationOptions encoded = .ok options) :
    ∀ option ∈ options, option.value.length ≤ 255 := by
  induction encoded using decodeConfigurationOptions.induct generalizing options with
  | case1 =>
    rw [decodeConfigurationOptions] at h
    cases h
    nofun
  | case2 rawType =>
    rw [decodeConfigurationOptions] at h
    cases h
  | case3 rawType length rest hshort =>
    rw [decodeConfigurationOptions, if_pos hshort] at h
    cases h
  | case4 rawType length rest hlong ih =>
    rw [decodeConfigurationOptions, if_neg hlong] at h
    rcases hrest : decodeConfigurationOptions (rest.drop length.toNat) with error | options'
    · rw [hrest] at h
      cases h
    rw [hrest] at h
    cases h
    intro option hmem
    rcases List.mem_cons.mp hmem with rfl | hmem
    · have hlength := length.toNat_lt
      simp only [List.length_take]
      omega
    · exact ih hrest option hmem

/-- The first entry of a frame. -/
theorem decodeConfigurationOptions_entry (raw : UInt8) {value : Bytes} (rest : Bytes)
    (hlength : value.length ≤ 255) :
    decodeConfigurationOptions (raw :: UInt8.ofNat value.length :: value ++ rest) =
      (decodeConfigurationOptions rest).map fun options =>
        { optionType := raw &&& 0x7f, hint := raw &&& 0x80 ≠ 0, value := value } :: options := by
  have hcount : (UInt8.ofNat value.length).toNat = value.length := by
    rw [UInt8.toNat_ofNat']
    omega
  rw [List.cons_append, List.cons_append, decodeConfigurationOptions, hcount,
    if_neg (by rw [List.length_append]; omega), List.drop_left, List.take_left]
  cases decodeConfigurationOptions rest <;> rfl

/-- Options that are written are read back. -/
theorem decodeConfigurationOptions_encode (htype : ∀ option ∈ options, option.optionType < 128)
    (h : encodeConfigurationOptions options = .ok encoded) :
    decodeConfigurationOptions encoded = .ok options := by
  induction options generalizing encoded with
  | nil =>
    cases h
    rw [decodeConfigurationOptions]
  | cons option options ih =>
    rw [encodeConfigurationOptions] at h
    split at h
    · cases h
    rename_i hlength
    obtain ⟨rest, hrest, h⟩ := except_bind_eq_ok.mp h
    have hencoded : option.rawType :: UInt8.ofNat option.value.length :: option.value ++ rest =
        encoded := Except.ok.inj h
    have hfirst := htype option List.mem_cons_self
    rw [← hencoded, decodeConfigurationOptions_entry _ _ (Nat.not_lt.mp hlength),
      ih (fun option hmem => htype option (List.mem_cons_of_mem _ hmem)) hrest,
      optionType_rawType hfirst, hint_rawType hfirst]
    rfl

/-- Options that are read are written back to the same bytes. -/
theorem encodeConfigurationOptions_decode
    (h : decodeConfigurationOptions encoded = .ok options) :
    encodeConfigurationOptions options = .ok encoded := by
  induction encoded using decodeConfigurationOptions.induct generalizing options with
  | case1 =>
    rw [decodeConfigurationOptions] at h
    cases h
    rfl
  | case2 raw =>
    rw [decodeConfigurationOptions] at h
    cases h
  | case3 raw length rest hshort =>
    rw [decodeConfigurationOptions, if_pos hshort] at h
    cases h
  | case4 raw length rest hlong ih =>
    rw [decodeConfigurationOptions, if_neg hlong] at h
    obtain ⟨options', hrest, h⟩ := except_bind_eq_ok.mp h
    cases h
    have hlength : (rest.take length.toNat).length = length.toNat :=
      List.length_take_of_le (Nat.not_lt.mp hlong)
    have hfits : ¬ (rest.take length.toNat).length > 255 := by
      have := length.toNat_lt
      omega
    rw [encodeConfigurationOptions, if_neg hfits, ih hrest]
    have hentry := rawType_of_byte raw (rest.take length.toNat)
    rw [rawType] at hentry
    show Except.ok (_ :: _ :: _ ++ _) = _
    rw [hentry, hlength, UInt8.ofNat_toNat, List.cons_append, List.cons_append,
      List.take_append_drop]

/-- **The codec of configuration options**: a list of options is refused exactly when some value
has more than 255 bytes, what is written is read back, and what is read is written back. -/
theorem configurationOptions_round_trip :
    (∀ options : List ConfigurationOption, (∀ option ∈ options, option.optionType < 128) →
      ((∃ error, encodeConfigurationOptions options = .error error) ↔
        ∃ option ∈ options, 255 < option.value.length) ∧
      ∀ encoded, encodeConfigurationOptions options = .ok encoded →
        decodeConfigurationOptions encoded = .ok options) ∧
    ∀ encoded options, decodeConfigurationOptions encoded = .ok options →
      encodeConfigurationOptions options = .ok encoded := by
  constructor
  · intro options htype
    exact ⟨encodeConfigurationOptions_error,
      fun encoded => decodeConfigurationOptions_encode htype⟩
  · intro encoded options
    exact encodeConfigurationOptions_decode

/-- A hinted and an empty option, written and read back. -/
theorem configurationOptions_round_trip_two :
    decodeConfigurationOptions [0x81, 2, 0x30, 0x00, 0x05, 0] =
      .ok [⟨0x01, true, [0x30, 0x00]⟩, ⟨0x05, false, []⟩] ∧
    encodeConfigurationOptions [⟨0x01, true, [0x30, 0x00]⟩, ⟨0x05, false, []⟩] =
      .ok [0x81, 2, 0x30, 0x00, 0x05, 0] := by
  have hencode : encodeConfigurationOptions [⟨0x01, true, [0x30, 0x00]⟩, ⟨0x05, false, []⟩] =
      .ok [0x81, 2, 0x30, 0x00, 0x05, 0] := rfl
  have hread := (configurationOptions_round_trip.1 _ (by decide)).2 _ hencode
  exact ⟨hread, configurationOptions_round_trip.2 _ _ hread⟩

end ClassicHid

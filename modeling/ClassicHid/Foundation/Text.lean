import ClassicHid.Foundation.Bytes

/-!
# Text

The bytes of a text in UTF-8. A text is read back from its bytes, so that texts with the same bytes
are the same. Bytes that are no text have an error, which tells how many of them are one.

## Main definitions

* `utf8`: the bytes of a list of characters
* `decodeUtf8`, `Utf8Error`: the text of bytes, or the first error in them

## Main results

* `fromUTF8_toUTF8`, `toUTF8_of_fromUTF8`: a text is read back from its bytes, and from no others
* `utf8_injective`: lists of characters with the same bytes are the same
* `decodeUtf8_error`: an error stands within the bytes, and those before it are a text
-/

namespace Foundation

theorem toList_loop (bytes : ByteArray) (i : ℕ) (r : List UInt8) :
    ByteArray.toList.loop bytes i r = r.reverse ++ bytes.data.toList.drop i := by
  induction i, r using ByteArray.toList.loop.induct bytes with
  | case1 i r h ih =>
    have hi : i < bytes.data.toList.length := by simpa using h
    have hget : bytes.get! i = bytes.data.toList[i] := by
      simp [ByteArray.get!, getElem!_pos bytes.data i (by simpa using h)]
    rw [ByteArray.toList.loop, if_pos h, ih, List.drop_eq_getElem_cons hi, hget]
    simp
  | case2 i r h =>
    have hi : bytes.data.toList.length ≤ i := by simpa using h
    rw [ByteArray.toList.loop, if_neg h, List.drop_eq_nil_of_le hi, List.append_nil]

/-- A text is read back from its bytes. -/
theorem fromUTF8_toUTF8 (text : String) :
    String.fromUTF8? (ByteArray.mk text.toUTF8.toList.toArray) = some text := by
  have hbytes : ByteArray.mk text.toUTF8.toList.toArray = text.toUTF8 := by
    rw [ByteArray.toList, toList_loop]
    simp
  have hvalid : text.toUTF8.IsValidUTF8 := text.isValidUTF8
  rw [hbytes, String.fromUTF8?, dif_pos hvalid]
  rfl

/-- A text that was read has the bytes it was read from. -/
theorem toUTF8_of_fromUTF8 {value : Bytes} {text : String}
    (h : String.fromUTF8? (ByteArray.mk value.toArray) = some text) :
    text.toUTF8.toList = value := by
  rw [String.fromUTF8?] at h
  split at h
  · cases h
    rw [ByteArray.toList, toList_loop]
    simp [String.toUTF8, String.fromUTF8]
  · cases h

/-! ### Lists of characters -/

/-- The bytes of a list of characters. -/
def utf8 (text : List Char) : Bytes := text.flatMap String.utf8EncodeChar

theorem utf8_append (text text' : List Char) : utf8 (text ++ text') = utf8 text ++ utf8 text' :=
  List.flatMap_append

theorem utf8_flatten (texts : List (List Char)) : utf8 texts.flatten = texts.flatMap utf8 := by
  induction texts with
  | nil => rfl
  | cons text texts ih => rw [List.flatten_cons, utf8_append, ih, List.flatMap_cons]

/-- The bytes of a character below 128. -/
theorem utf8_cons {c : Char} (h : c.toNat < 128) (text : List Char) :
    utf8 (c :: text) = UInt8.ofNat c.toNat :: utf8 text := by
  have hval : c.val ≤ 127 := Nat.le_of_lt_succ h
  rw [utf8, List.flatMap_cons,
    String.utf8EncodeChar_eq_singleton (Char.utf8Size_eq_one_iff.mpr hval)]
  rfl

theorem toList_toUTF8 (text : List Char) : (String.ofList text).toUTF8.toList = utf8 text := by
  rw [ByteArray.toList, toList_loop, String.toUTF8_eq_toByteArray, String.toByteArray_ofList,
    List.utf8Encode, utf8]
  simp

/-- The bytes of a list of characters are a text. -/
theorem fromUTF8_utf8 (text : List Char) :
    String.fromUTF8? (ByteArray.mk (utf8 text).toArray) = some (String.ofList text) := by
  rw [← toList_toUTF8, fromUTF8_toUTF8]

/-- Lists of characters with the same bytes are the same. -/
theorem utf8_injective {text text' : List Char} (h : utf8 text = utf8 text') : text = text' := by
  have hread := fromUTF8_utf8 text
  rw [h, fromUTF8_utf8] at hread
  exact (String.ofList_injective (Option.some.inj hread)).symm

/-! ### Decoding -/

/-- An error of the decoder of UTF-8. -/
structure Utf8Error where
  /-- The number of bytes before it, which are a text. -/
  validUpTo : ℕ
  /-- The number of bytes that begin no character; without one, the bytes end within a character. -/
  errorLen : Option ℕ
deriving DecidableEq, Repr

instance : ToString Utf8Error where
  toString error :=
    match error.errorLen with
    | some length => s!"invalid utf-8 sequence of {length} bytes from index {error.validUpTo}"
    | none => s!"incomplete utf-8 byte sequence from index {error.validUpTo}"

/-- The number of bytes of the character that a byte begins, 0 if it begins none. -/
def utf8CharWidth (first : UInt8) : ℕ :=
  if first < 0x80 then 1
  else if first < 0xC2 then 0
  else if first < 0xE0 then 2
  else if first < 0xF0 then 3
  else if first < 0xF5 then 4
  else 0

/-- Whether a byte continues a character. -/
def isContinuation (b : UInt8) : Bool := 0x80 ≤ b && b ≤ 0xBF

/-- Whether the second byte of a character of three or four bytes may follow the first one. -/
def isSecond (first second : UInt8) : Bool :=
  match first with
  | 0xE0 => 0xA0 ≤ second && second ≤ 0xBF
  | 0xED => 0x80 ≤ second && second ≤ 0x9F
  | 0xF0 => 0x90 ≤ second && second ≤ 0xBF
  | 0xF4 => 0x80 ≤ second && second ≤ 0x8F
  | _ => isContinuation second

/-- The bytes after the next one, which has to pass a test; else the length of the error. -/
def nextByte (length : ℕ) (test : UInt8 → Bool) : Bytes → Except (Option ℕ) Bytes
  | [] => .error none
  | b :: rest => if test b then .ok rest else .error (some length)

/-- The number of bytes that follow the first one of a character, or the length of the error. -/
def utf8Following (first : UInt8) (rest : Bytes) : Except (Option ℕ) ℕ :=
  match utf8CharWidth first with
  | 1 => .ok 0
  -- The bytes 0xC0 and 0xC1 would begin a number that takes one byte: they have no width.
  | 2 => do
    let _ ← nextByte 1 isContinuation rest
    pure 1
  | 3 => do
    let rest ← nextByte 1 (isSecond first) rest
    let _ ← nextByte 2 isContinuation rest
    pure 2
  | 4 => do
    let rest ← nextByte 1 (isSecond first) rest
    let rest ← nextByte 2 isContinuation rest
    let _ ← nextByte 3 isContinuation rest
    pure 3
  | _ => .error (some 1)

/-- The first error in bytes that are no text; `index` bytes before them are one. -/
def utf8ErrorFrom (index : ℕ) : Bytes → Utf8Error
  | [] => { validUpTo := index, errorLen := none }
  | first :: rest =>
    match utf8Following first rest with
    | .ok following => utf8ErrorFrom (index + (following + 1)) (rest.drop following)
    | .error errorLen => { validUpTo := index, errorLen }
termination_by bytes => bytes.length
decreasing_by exact Nat.lt_succ_of_le (List.drop_sublist _ _).length_le

/-- The text of bytes in UTF-8. -/
def decodeUtf8 (bytes : Bytes) : Except Utf8Error String :=
  match String.fromUTF8? (ByteArray.mk bytes.toArray) with
  | some text => .ok text
  | none => .error (utf8ErrorFrom 0 bytes)

theorem nextByte_bind_ok {α : Type} {length : ℕ} {test : UInt8 → Bool} {bytes : Bytes}
    {f : Bytes → Except (Option ℕ) α} {a : α} (h : nextByte length test bytes >>= f = .ok a) :
    ∃ b rest, bytes = b :: rest ∧ test b = true ∧ f rest = .ok a := by
  cases bytes with
  | nil => cases h
  | cons b rest =>
    rw [nextByte] at h
    split at h
    case isTrue htest => exact ⟨b, rest, rfl, htest, h⟩
    case isFalse => cases h

/-- A byte is the one that a number writes. -/
theorem ofNat_eq_of_toNat {b : UInt8} {n : ℕ} (h : b.toNat = n) : UInt8.ofNat n = b := by
  rw [← h, UInt8.ofNat_toNat]

theorem isContinuation_iff {b : UInt8} :
    isContinuation b = true ↔ 0x80 ≤ b.toNat ∧ b.toNat ≤ 0xBF := by
  simp [isContinuation, UInt8.le_iff_toNat_le]

theorem isSecond_spec {first second : UInt8} (h : isSecond first second = true) :
    (0x80 ≤ second.toNat ∧ second.toNat ≤ 0xBF) ∧
      (first.toNat = 0xE0 → 0xA0 ≤ second.toNat) ∧ (first.toNat = 0xED → second.toNat ≤ 0x9F) ∧
      (first.toNat = 0xF0 → 0x90 ≤ second.toNat) ∧ (first.toNat = 0xF4 → second.toNat ≤ 0x8F) := by
  unfold isSecond at h
  split at h
  case h_5 hE0 hED hF0 hF4 =>
    have hne (b : UInt8) (hb : first = b → False) : first.toNat ≠ b.toNat :=
      fun heq => hb (UInt8.toNat_inj.mp heq)
    have := hne _ hE0
    have := hne _ hED
    have := hne _ hF0
    have := hne _ hF4
    simp only [UInt8.reduceToNat] at *
    exact ⟨isContinuation_iff.mp h, by omega, by omega, by omega, by omega⟩
  all_goals
    simp only [Bool.and_eq_true, decide_eq_true_eq, UInt8.le_iff_toNat_le, UInt8.reduceToNat] at h ⊢
    omega

theorem utf8CharWidth_spec (first : UInt8) :
    (utf8CharWidth first = 1 → first.toNat < 0x80) ∧
      (utf8CharWidth first = 2 → 0xC2 ≤ first.toNat ∧ first.toNat < 0xE0) ∧
      (utf8CharWidth first = 3 → 0xE0 ≤ first.toNat ∧ first.toNat < 0xF0) ∧
      (utf8CharWidth first = 4 → 0xF0 ≤ first.toNat ∧ first.toNat < 0xF5) := by
  simp only [utf8CharWidth, UInt8.lt_iff_toNat_lt, UInt8.reduceToNat]
  refine ⟨?_, ?_, ?_, ?_⟩ <;> split_ifs <;> intro hwidth <;> first | omega | cases hwidth

/-- The character of a number. -/
theorem exists_char {v : ℕ} (h : v < 0xD800 ∨ 0xDFFF < v ∧ v < 0x110000) :
    ∃ c : Char, c.val.toNat = v :=
  ⟨Char.ofNatAux v h, rfl⟩

theorem utf8EncodeChar_one {a : UInt8} (ha : a.toNat < 0x80) :
    ∃ c, String.utf8EncodeChar c = [a] := by
  obtain ⟨c, hc⟩ := exists_char (v := a.toNat) (by omega)
  refine ⟨c, ?_⟩
  simp only [String.utf8EncodeChar, hc]
  rw [if_pos (by omega), ofNat_eq_of_toNat rfl]

theorem utf8EncodeChar_two {a b : UInt8} (ha : 0xC2 ≤ a.toNat ∧ a.toNat < 0xE0)
    (hb : isContinuation b = true) : ∃ c, String.utf8EncodeChar c = [a, b] := by
  rw [isContinuation_iff] at hb
  obtain ⟨c, hc⟩ := exists_char (v := (a.toNat - 0xC0) * 64 + (b.toNat - 0x80)) (by omega)
  refine ⟨c, ?_⟩
  simp only [String.utf8EncodeChar, hc]
  rw [if_neg (by omega), if_pos (by omega), ofNat_eq_of_toNat (b := a) (by omega),
    ofNat_eq_of_toNat (b := b) (by omega)]

theorem utf8EncodeChar_three {a b c : UInt8} (ha : 0xE0 ≤ a.toNat ∧ a.toNat < 0xF0)
    (hb : isSecond a b = true) (hc : isContinuation c = true) :
    ∃ char, String.utf8EncodeChar char = [a, b, c] := by
  -- The second byte keeps the number from being too small, or a surrogate.
  obtain ⟨hb, hE0, hED, -⟩ := isSecond_spec hb
  rw [isContinuation_iff] at hc
  obtain ⟨char, hchar⟩ := exists_char
    (v := (a.toNat - 0xE0) * 4096 + (b.toNat - 0x80) * 64 + (c.toNat - 0x80)) (by omega)
  refine ⟨char, ?_⟩
  simp only [String.utf8EncodeChar, hchar]
  rw [if_neg (by omega), if_neg (by omega), if_pos (by omega),
    ofNat_eq_of_toNat (b := a) (by omega), ofNat_eq_of_toNat (b := b) (by omega),
    ofNat_eq_of_toNat (b := c) (by omega)]

theorem utf8EncodeChar_four {a b c d : UInt8} (ha : 0xF0 ≤ a.toNat ∧ a.toNat < 0xF5)
    (hb : isSecond a b = true) (hc : isContinuation c = true) (hd : isContinuation d = true) :
    ∃ char, String.utf8EncodeChar char = [a, b, c, d] := by
  -- The second byte keeps the number from being too small, or too large.
  obtain ⟨hb, -, -, hF0, hF4⟩ := isSecond_spec hb
  rw [isContinuation_iff] at hc hd
  obtain ⟨char, hchar⟩ := exists_char
    (v := (a.toNat - 0xF0) * 262144 + (b.toNat - 0x80) * 4096 + (c.toNat - 0x80) * 64 +
      (d.toNat - 0x80)) (by omega)
  refine ⟨char, ?_⟩
  simp only [String.utf8EncodeChar, hchar]
  rw [if_neg (by omega), if_neg (by omega), if_neg (by omega),
    ofNat_eq_of_toNat (b := a) (by omega), ofNat_eq_of_toNat (b := b) (by omega),
    ofNat_eq_of_toNat (b := c) (by omega), ofNat_eq_of_toNat (b := d) (by omega)]

/-- A byte and those that follow it are a character. -/
theorem utf8Following_spec {first : UInt8} {rest : Bytes} {n : ℕ}
    (h : utf8Following first rest = .ok n) :
    n ≤ rest.length ∧ ∃ c, String.utf8EncodeChar c = first :: rest.take n := by
  obtain ⟨hone, htwo, hthree, hfour⟩ := utf8CharWidth_spec first
  rw [utf8Following] at h
  split at h
  case h_1 hwidth =>
    cases h
    exact ⟨Nat.zero_le _, utf8EncodeChar_one (hone hwidth)⟩
  case h_2 hwidth =>
    obtain ⟨second, rest, rfl, hsecond, h⟩ := nextByte_bind_ok h
    cases h
    exact ⟨by simp, utf8EncodeChar_two (htwo hwidth) hsecond⟩
  case h_3 hwidth =>
    obtain ⟨second, rest, rfl, hsecond, h⟩ := nextByte_bind_ok h
    obtain ⟨third, rest, rfl, hthird, h⟩ := nextByte_bind_ok h
    cases h
    exact ⟨by simp, utf8EncodeChar_three (hthree hwidth) hsecond hthird⟩
  case h_4 hwidth =>
    obtain ⟨second, rest, rfl, hsecond, h⟩ := nextByte_bind_ok h
    obtain ⟨third, rest, rfl, hthird, h⟩ := nextByte_bind_ok h
    obtain ⟨fourth, rest, rfl, hfourth, h⟩ := nextByte_bind_ok h
    cases h
    exact ⟨by simp, utf8EncodeChar_four (hfour hwidth) hsecond hthird hfourth⟩
  case h_5 => cases h

theorem utf8ErrorFrom_spec (index : ℕ) (bytes : Bytes) :
    ∃ n ≤ bytes.length, (utf8ErrorFrom index bytes).validUpTo = index + n ∧
      ∃ text, utf8 text = bytes.take n := by
  induction index, bytes using utf8ErrorFrom.induct with
  | case1 index => exact ⟨0, Nat.le_refl _, by rw [utf8ErrorFrom, Nat.add_zero], [], rfl⟩
  | case2 index first rest following hfollowing ih =>
    -- One character more is in front of the text that follows.
    obtain ⟨n, hn, hvalid, text, htext⟩ := ih
    obtain ⟨hlength, c, hc⟩ := utf8Following_spec hfollowing
    rw [List.length_drop] at hn
    refine ⟨following + 1 + n, by rw [List.length_cons]; omega, ?_, c :: text, ?_⟩
    · rw [utf8ErrorFrom, hfollowing]
      exact hvalid.trans (Nat.add_assoc _ _ _)
    · rw [utf8, List.flatMap_cons, hc, ← utf8, htext, Nat.add_right_comm, List.take_succ_cons,
        List.take_add, List.cons_append]
  | case3 index first rest errorLen herror =>
    refine ⟨0, Nat.zero_le _, ?_, [], rfl⟩
    rw [utf8ErrorFrom, herror]
    rfl

theorem decodeUtf8_toUTF8 (text : String) : decodeUtf8 text.toUTF8.toList = .ok text := by
  rw [decodeUtf8, fromUTF8_toUTF8]

theorem toUTF8_of_decodeUtf8 {bytes : Bytes} {text : String} (h : decodeUtf8 bytes = .ok text) :
    text.toUTF8.toList = bytes := by
  rw [decodeUtf8] at h
  split at h
  · rename_i hread
    cases h
    exact toUTF8_of_fromUTF8 hread
  · cases h

/-- **An error** stands within the bytes, and those before it are a text. -/
theorem decodeUtf8_error {bytes : Bytes} {error : Utf8Error} (h : decodeUtf8 bytes = .error error) :
    error.validUpTo < bytes.length ∧ ∃ text, utf8 text = bytes.take error.validUpTo := by
  rw [decodeUtf8] at h
  split at h
  · cases h
  rename_i hnone
  cases h
  obtain ⟨n, hn, hvalid, text, htext⟩ := utf8ErrorFrom_spec 0 bytes
  rw [Nat.zero_add] at hvalid
  rw [hvalid]
  refine ⟨Nat.lt_of_le_of_ne hn fun heq => ?_, text, htext⟩
  -- All of the bytes would be a text.
  rw [heq, List.take_length] at htext
  rw [← htext, fromUTF8_utf8] at hnone
  cases hnone

example : (decodeUtf8 [0x61, 0xC3, 0xA9, 0xFF]).mapError toString =
    .error "invalid utf-8 sequence of 1 bytes from index 3" := by
  decide +kernel

end Foundation

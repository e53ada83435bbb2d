import Mathlib.Data.Int.ModEq
import Mathlib.Tactic.Positivity
import Mathlib.Tactic.Ring
import ClassicHid.Sdp.DataElement

/-!
# Data elements are read back

The parser reads an element back from its wire form, wherever that form stands, as long as the
containers of the element are not nested too deep.

## Main definitions

* `DataElement.nesting`: how deep the containers of an element are nested
* `parseChildren`: the elements inside a container

## Main results

* `beToU128_natToBe`, `beToI128_natToBe`: integers are read back from their bytes
* `DataElement.parseNested_toBytes`: an element is read back from its wire form
-/

namespace ClassicHid

open Foundation

/-! ### Integers -/

theorem natToBe_succ (value n : ℕ) :
    natToBe value (n + 1) = natToBe (value / 256) n ++ [UInt8.ofNat value] := by
  simp only [natToBe, List.range_succ, List.map_append, List.map_singleton]
  congr 1
  · apply List.map_congr_left
    intro i hi
    have hi : i < n := List.mem_range.mp hi
    have hexponent : n + 1 - 1 - i = (n - 1 - i) + 1 := by omega
    rw [hexponent, pow_succ', Nat.div_div_eq_div_mul]
  · simp

@[simp] theorem length_natToBe (value n : ℕ) : (natToBe value n).length = n := by
  simp [natToBe]

/-- One byte of a big-endian number of 128 bits. -/
def shiftIn (acc : ℕ) (b : UInt8) : ℕ := (acc * 256 + b.toNat) % 2 ^ 128

/-- Reading the bytes of a number shifts what was read before. -/
theorem foldl_natToBe (start value n : ℕ) :
    (natToBe value n).foldl shiftIn start ≡ start * 256 ^ n + value % 256 ^ n [MOD 2 ^ 128] := by
  induction n generalizing value with
  | zero => simp [natToBe, Nat.mod_one, Nat.ModEq.refl]
  | succ n ih =>
    rw [natToBe_succ, List.foldl_append, List.foldl_cons, List.foldl_nil, shiftIn]
    have hbyte : (UInt8.ofNat value).toNat = value % 256 := by simp
    have hsplit : value % 256 ^ (n + 1) = value / 256 % 256 ^ n * 256 + value % 256 := by
      rw [pow_succ', Nat.mod_mul]
      ring
    rw [hbyte, hsplit]
    refine (Nat.mod_modEq _ _).trans ?_
    have hshift : start * 256 ^ (n + 1) + (value / 256 % 256 ^ n * 256 + value % 256) =
        (start * 256 ^ n + value / 256 % 256 ^ n) * 256 + value % 256 := by
      rw [pow_succ]
      ring
    rw [hshift]
    exact ((ih (value / 256)).mul_right 256).add_right _

theorem foldl_shiftIn_lt {start : ℕ} (h : start < 2 ^ 128) (bytes : Bytes) :
    bytes.foldl shiftIn start < 2 ^ 128 := by
  induction bytes generalizing start with
  | nil => exact h
  | cons b bytes ih => exact ih (Nat.mod_lt _ (by positivity))

/-- A number that fits is read back from its bytes. -/
theorem beToU128_natToBe {value n : ℕ} (hn : n ≤ 16) (h : value < 256 ^ n) :
    beToU128 (natToBe value n) = value := by
  have hpow : 256 ^ n ≤ 256 ^ 16 := Nat.pow_le_pow_right (by norm_num) hn
  have hvalue : value < 2 ^ 128 := lt_of_lt_of_le h (hpow.trans (by norm_num))
  have hfold := foldl_natToBe 0 value n
  rw [Nat.zero_mul, Nat.zero_add, Nat.mod_eq_of_lt h] at hfold
  exact Nat.ModEq.eq_of_lt_of_lt hfold (foldl_shiftIn_lt (by norm_num) _) hvalue

/-- Whether the sign bit of a number of `n` bytes is set. -/
theorem head_natToBe {value n : ℕ} (h : value < 256 ^ (n + 1)) :
    ∃ rest, natToBe value (n + 1) = UInt8.ofNat (value / 256 ^ n) :: rest ∧
      (UInt8.ofNat (value / 256 ^ n) &&& 0x80 ≠ 0 ↔ 128 * 256 ^ n ≤ value) := by
  refine ⟨(List.range n).map fun i => UInt8.ofNat (value / 256 ^ (n - (i + 1))), ?_, ?_⟩
  · rw [natToBe, List.range_succ_eq_map, List.map_cons, List.map_map]
    rfl
  · have hbyte : value / 256 ^ n < 256 := by
      rw [Nat.div_lt_iff_lt_mul (by positivity), ← pow_succ']
      exact h
    have hsign : ∀ b : Fin 256, (UInt8.ofNat b &&& 0x80 ≠ 0 ↔ 128 ≤ b.val) := by decide +kernel
    rw [hsign ⟨_, hbyte⟩, Nat.le_div_iff_mul_le (by positivity)]

theorem beToI128_cons {first : UInt8} {rest : Bytes} {acc : ℕ}
    (h : (first :: rest).foldl shiftIn (if first &&& 0x80 ≠ 0 then 2 ^ 128 - 1 else 0) = acc) :
    beToI128 (first :: rest) = if acc ≥ 2 ^ 127 then (acc : ℤ) - 2 ^ 128 else (acc : ℤ) := by
  subst h
  rfl

/-- A signed number that fits is read back from its two's complement. -/
theorem beToI128_natToBe {value : ℤ} {n : ℕ} (hn : n + 1 ≤ 16)
    (hlow : -(2 ^ (8 * (n + 1) - 1)) ≤ value) (hhigh : value ≤ 2 ^ (8 * (n + 1) - 1) - 1) :
    beToI128 (natToBe (value % 256 ^ (n + 1)).toNat (n + 1)) = value := by
  have hhalf : (2 : ℤ) ^ (8 * (n + 1) - 1) = 128 * 256 ^ n := by
    rw [show 8 * (n + 1) - 1 = 7 + 8 * n by omega, pow_add, pow_mul]
    norm_num
  have hbound : 256 ^ n ≤ 256 ^ 15 := Nat.pow_le_pow_right (by norm_num) (by omega)
  have hpos : 0 < 256 ^ n := by positivity
  rw [hhalf] at hlow hhigh
  have hcast : (256 : ℤ) ^ n = ((256 ^ n : ℕ) : ℤ) := by simp
  rw [pow_succ, hcast]
  rw [hcast] at hlow hhigh
  -- The unsigned reading is the value, or the value above the range when it is negative.
  obtain ⟨u, hu⟩ : ∃ u : ℕ, (u : ℤ) = value % (((256 ^ n : ℕ) : ℤ) * 256) :=
    ⟨(value % _).toNat, Int.toNat_of_nonneg (Int.emod_nonneg _ (by omega))⟩
  have hvalue : (u : ℤ) = if value < 0 then value + ((256 ^ n : ℕ) : ℤ) * 256 else value := by
    rw [hu]
    split
    · rw [← Int.add_emod_right, Int.emod_eq_of_lt (by omega) (by omega)]
    · rw [Int.emod_eq_of_lt (by omega) (by omega)]
  have hlt : u < 256 ^ (n + 1) := by
    rw [pow_succ]
    split at hvalue <;> omega
  rw [← hu, Int.toNat_natCast]
  obtain ⟨rest, hlist, hsign⟩ := head_natToBe hlt
  have hread (start : ℕ) := foldl_natToBe start u (n + 1)
  simp only [Nat.mod_eq_of_lt hlt] at hread
  rw [hlist] at hread ⊢
  rcases lt_or_ge value 0 with hneg | hnonneg
  · rw [if_pos hneg] at hvalue
    have hmod := hread (2 ^ 128 - 1)
    have hacc := foldl_shiftIn_lt (show 2 ^ 128 - 1 < 2 ^ 128 by norm_num)
      (UInt8.ofNat (u / 256 ^ n) :: rest)
    have hsum : (2 ^ 128 - 1) * 256 ^ (n + 1) + u =
        2 ^ 128 * (256 ^ (n + 1) - 1) + (2 ^ 128 - (256 ^ (n + 1) - u)) := by
      rw [pow_succ] at *
      omega
    rw [hsum] at hmod
    have hwrap : 2 ^ 128 * (256 ^ (n + 1) - 1) + (2 ^ 128 - (256 ^ (n + 1) - u)) ≡
        2 ^ 128 - (256 ^ (n + 1) - u) [MOD 2 ^ 128] := Nat.mul_add_mod _ _ _
    have heq := (hmod.trans hwrap).eq_of_lt_of_lt hacc (by rw [pow_succ]; omega)
    rw [beToI128_cons (by rw [if_pos (hsign.mpr (by omega)), heq]), pow_succ, if_pos (by omega)]
    omega
  · rw [if_neg (by omega)] at hvalue
    have hmod := hread 0
    have hacc := foldl_shiftIn_lt (show 0 < 2 ^ 128 by norm_num)
      (UInt8.ofNat (u / 256 ^ n) :: rest)
    rw [Nat.zero_mul, Nat.zero_add] at hmod
    have heq := hmod.eq_of_lt_of_lt hacc (by omega)
    rw [beToI128_cons (by rw [if_neg (fun h => by have := hsign.mp h; omega), heq]),
      if_neg (by omega)]
    omega

/-! ### Elements -/

mutual

/-- How deep the containers of an element are nested. -/
def DataElement.nesting : DataElement → ℕ
  | .sequence elements | .alternative elements => listNesting elements + 1
  | _ => 0

/-- The deepest nesting in a list of elements. -/
def DataElement.listNesting : List DataElement → ℕ
  | [] => 0
  | element :: elements => max element.nesting (listNesting elements)

end

/-- The elements inside a container; `nesting` more levels of containers are accepted. -/
def parseChildren (data : Bytes) (nesting valueStart valueSize : ℕ) :
    Except SdpError (List DataElement) :=
  match nesting with
  | 0 => throw (.invalidPacket s!"nesting exceeds max depth ({maxNesting})")
  | nesting + 1 => do
    let (inner, elements) ←
      parseElements (parseNested data nesting) (valueStart + valueSize) valueSize valueStart
    if inner ≠ valueStart + valueSize then
      throw (.invalidPacket "container elements overran their length")
    pure elements

/-- An element is its header, its size and its value. -/
theorem parseNested_of_parts {data value : Bytes} {nesting offset valueSize valueStart : ℕ}
    {header : UInt8} (hheader : slice data offset 1 = some [header])
    (hsize : parseSize data (offset + 1) (header >>> 3) (header &&& 7) = .ok (valueSize, valueStart))
    (hvalue : slice data valueStart valueSize = some value) :
    parseNested data nesting offset =
      (parseValue (header >>> 3) valueSize value
        (parseChildren data nesting valueStart valueSize)).map (valueStart + valueSize, ·) := by
  rw [parseNested, hheader]
  dsimp only
  rw [hsize]
  simp only [Bind.bind, Except.bind, hvalue]
  cases nesting with
  | zero =>
    simp only [parseChildren]
    cases parseValue (header >>> 3) valueSize value _ <;> rfl
  | succ nesting =>
    simp only [parseChildren, Bind.bind, Except.bind]
    cases parseValue (header >>> 3) valueSize value _ <;> rfl

/-- A fixed-width element is read by its size index. -/
theorem parseNested_fixedElement {typeCode : UInt8} {value bytes : Bytes}
    (h : fixedElement typeCode value = .ok bytes) (hvalue : value ≠ [])
    (htype : typeCode = 1 ∨ typeCode = 2 ∨ typeCode = 3) (front back : Bytes) (nesting : ℕ) :
    parseNested (front ++ bytes ++ back) nesting front.length =
      (parseValue typeCode value.length value
        (parseChildren (front ++ bytes ++ back) nesting (front.length + 1) value.length)).map
          (front.length + bytes.length, ·) := by
  rw [fixedElement, except_bind_eq_ok] at h
  obtain ⟨sizeIndex, hindex, h⟩ := h
  cases h
  -- The size index determines the number of bytes.
  have hparts : elementHeader typeCode sizeIndex >>> 3 = typeCode ∧
      ∀ data pos, parseSize data pos typeCode (elementHeader typeCode sizeIndex &&& 7) =
        .ok (value.length, pos) := by
    have hpos := List.length_pos_of_ne_nil hvalue
    generalize value.length = size at *
    unfold fixedSizeIndex at hindex
    split at hindex
    all_goals cases hindex
    all_goals first | omega | rcases htype with rfl | rfl | rfl
    all_goals exact ⟨by decide, fun _ _ => rfl⟩
  have hslice : slice (front ++ (elementHeader typeCode sizeIndex :: value) ++ back)
      front.length 1 = some [elementHeader typeCode sizeIndex] := by
    have := slice_append front [elementHeader typeCode sizeIndex] (value ++ back)
    simpa using this
  have hslice' : slice (front ++ (elementHeader typeCode sizeIndex :: value) ++ back)
      (front.length + 1) value.length = some value := by
    have := slice_append (front ++ [elementHeader typeCode sizeIndex]) value back
    simpa using this
  rw [parseNested_of_parts hslice (by rw [hparts.1]; exact hparts.2 _ _) hslice', hparts.1]
  simp only [List.length_cons, Nat.add_assoc, Nat.add_comm 1]

/-- The length bytes of a variable-length element are read back. -/
theorem parseSize_variableSizeHeader {size : ℕ} {sizeIndex : UInt8} {sizeBytes : Bytes}
    (h : variableSizeHeader size = .ok (sizeIndex, sizeBytes)) (typeCode : UInt8)
    (front back : Bytes) :
    parseSize (front ++ sizeBytes ++ back) front.length typeCode sizeIndex =
      .ok (size, front.length + sizeBytes.length) := by
  have hslice := slice_append front sizeBytes back
  unfold variableSizeHeader at h
  split at h
  · cases h
    rw [List.length_singleton] at hslice
    simp only [parseSize, hslice]
    simp only [List.length_singleton, UInt8.toNat_ofNat', Except.ok.injEq, Prod.mk.injEq, and_true]
    omega
  split at h
  · cases h
    rw [length_toBe16] at hslice
    have hread : (fromBe16 (UInt8.ofNat ((UInt16.ofNat size).toNat / 256))
        (UInt8.ofNat (UInt16.ofNat size).toNat)).toNat = size := by
      rw [fromBe16, fromLe16_toLe16, UInt16.toNat_ofNat']
      omega
    rw [parseSize, hslice, toBe16]
    simp only [hread, List.length_cons, List.length_nil]
  split at h
  · cases h
    rw [length_toBe32] at hslice
    have hbytes : toBe32 (UInt32.ofNat size) =
        [UInt8.ofNat ((UInt32.ofNat size).toNat / 2 ^ 24),
          UInt8.ofNat ((UInt32.ofNat size).toNat / 2 ^ 16),
          UInt8.ofNat ((UInt32.ofNat size).toNat / 2 ^ 8),
          UInt8.ofNat (UInt32.ofNat size).toNat] := rfl
    have hread : (fromBe32 (UInt8.ofNat ((UInt32.ofNat size).toNat / 2 ^ 24))
        (UInt8.ofNat ((UInt32.ofNat size).toNat / 2 ^ 16))
        (UInt8.ofNat ((UInt32.ofNat size).toNat / 2 ^ 8))
        (UInt8.ofNat (UInt32.ofNat size).toNat)).toNat = size := by
      rw [fromBe32_toBe32, UInt32.toNat_ofNat']
      omega
    rw [parseSize, hslice, hbytes]
    · simp only [hread, List.length_cons, List.length_nil]
    all_goals decide
  · cases h

/-- A variable-length element is read by its length bytes. -/
theorem parseNested_variableElement {typeCode : UInt8} {value bytes : Bytes}
    (h : variableElement typeCode value = .ok bytes)
    (htype : typeCode = 4 ∨ typeCode = 6 ∨ typeCode = 7 ∨ typeCode = 8) (front back : Bytes)
    (nesting : ℕ) :
    ∃ start, bytes = start ++ value ∧
      parseNested (front ++ bytes ++ back) nesting front.length =
        (parseValue typeCode value.length value
          (parseChildren (front ++ bytes ++ back) nesting (front.length + start.length)
            value.length)).map (front.length + bytes.length, ·) := by
  rw [variableElement, except_bind_eq_ok] at h
  obtain ⟨⟨sizeIndex, sizeBytes⟩, hindex, h⟩ := h
  cases h
  refine ⟨elementHeader typeCode sizeIndex :: sizeBytes, rfl, ?_⟩
  have hparts : elementHeader typeCode sizeIndex >>> 3 = typeCode ∧
      elementHeader typeCode sizeIndex &&& 7 = sizeIndex := by
    unfold variableSizeHeader at hindex
    split at hindex
    · cases hindex
      rcases htype with rfl | rfl | rfl | rfl <;> decide
    split at hindex
    · cases hindex
      rcases htype with rfl | rfl | rfl | rfl <;> decide
    split at hindex
    · cases hindex
      rcases htype with rfl | rfl | rfl | rfl <;> decide
    · cases hindex
  have hheader : slice (front ++ (elementHeader typeCode sizeIndex :: sizeBytes ++ value) ++ back)
      front.length 1 = some [elementHeader typeCode sizeIndex] := by
    have := slice_append front [elementHeader typeCode sizeIndex] (sizeBytes ++ value ++ back)
    simpa using this
  have hsize : parseSize (front ++ (elementHeader typeCode sizeIndex :: sizeBytes ++ value) ++ back)
      (front.length + 1) typeCode sizeIndex =
        .ok (value.length, front.length + (sizeBytes.length + 1)) := by
    have := parseSize_variableSizeHeader hindex typeCode
      (front ++ [elementHeader typeCode sizeIndex]) (value ++ back)
    simpa [Nat.add_assoc, Nat.add_comm 1] using this
  have hvalue : slice (front ++ (elementHeader typeCode sizeIndex :: sizeBytes ++ value) ++ back)
      (front.length + (sizeBytes.length + 1)) value.length = some value := by
    have := slice_append (front ++ elementHeader typeCode sizeIndex :: sizeBytes) value back
    simpa using this
  rw [parseNested_of_parts hheader (by rw [hparts.1, hparts.2]; exact hsize) hvalue, hparts.1]
  simp only [List.length_cons, List.length_append, Nat.add_assoc, Nat.add_comm 1]

/-- No element has an empty wire form. -/
theorem DataElement.length_pos_of_toBytes {element : DataElement} {bytes : Bytes}
    (h : element.toBytes = .ok bytes) : 0 < bytes.length := by
  have hfixed {typeCode : UInt8} {value : Bytes}
      (h : fixedElement typeCode value = .ok bytes) : 0 < bytes.length := by
    rw [fixedElement, except_bind_eq_ok] at h
    obtain ⟨_, _, h⟩ := h
    cases h
    simp
  have hvariable {typeCode : UInt8} {value : Bytes}
      (h : variableElement typeCode value = .ok bytes) : 0 < bytes.length := by
    rw [variableElement, except_bind_eq_ok] at h
    obtain ⟨_, _, h⟩ := h
    cases h
    simp
  cases element with
  | nil =>
    cases h
    simp
  | boolean value =>
    cases h
    simp
  | unsignedInteger value size | signedInteger value size =>
    rw [toBytes, except_bind_eq_ok] at h
    obtain ⟨_, _, h⟩ := h
    exact hfixed h
  | uuid value => exact hfixed h
  | textString value => exact hvariable h
  | url value => exact hvariable h
  | sequence elements | alternative elements =>
    rw [toBytes, except_bind_eq_ok] at h
    obtain ⟨_, _, h⟩ := h
    exact hvariable h

theorem DataElement.listToBytes_cons {element : DataElement} {elements : List DataElement}
    {bytes : Bytes} (h : listToBytes (element :: elements) = .ok bytes) :
    ∃ first rest, element.toBytes = .ok first ∧ listToBytes elements = .ok rest ∧
      bytes = first ++ rest := by
  rw [listToBytes, except_bind_eq_ok] at h
  obtain ⟨first, hfirst, h⟩ := h
  rw [except_bind_eq_ok] at h
  obtain ⟨rest, hrest, h⟩ := h
  cases h
  exact ⟨first, rest, hfirst, hrest, rfl⟩

/-- The elements of a container are read back, given that each element is. -/
theorem parseElements_listToBytes {nesting : ℕ} {elements : List DataElement}
    (helements : ∀ element ∈ elements, ∀ bytes front back : Bytes, element.toBytes = .ok bytes →
      parseNested (front ++ bytes ++ back) nesting front.length =
        .ok (front.length + bytes.length, element))
    {bytes : Bytes} (h : DataElement.listToBytes elements = .ok bytes) (front back : Bytes)
    (rounds : ℕ) (hrounds : bytes.length ≤ rounds) :
    parseElements (parseNested (front ++ bytes ++ back) nesting) (front.length + bytes.length)
      rounds front.length = .ok (front.length + bytes.length, elements) := by
  induction elements generalizing bytes front rounds with
  | nil =>
    cases h
    cases rounds <;> simp [parseElements]
  | cons element elements ih =>
    obtain ⟨first, rest, hfirst, hrest, rfl⟩ := DataElement.listToBytes_cons h
    have hpos := DataElement.length_pos_of_toBytes hfirst
    rw [List.length_append] at hrounds
    obtain ⟨rounds, rfl⟩ : ∃ n, rounds = n + 1 := ⟨rounds - 1, by omega⟩
    have hhead := helements element (by simp) first front (rest ++ back) hfirst
    have htail := ih (fun e he => helements e (by simp [he])) hrest (front ++ first) rounds
      (by omega)
    have hdata : front ++ (first ++ rest) ++ back = front ++ first ++ (rest ++ back) := by simp
    have hdata' : front ++ first ++ rest ++ back = front ++ first ++ (rest ++ back) := by simp
    rw [parseElements, if_pos (by simp; omega), hdata, hhead]
    rw [hdata', List.length_append, Nat.add_assoc] at htail
    simp only [Bind.bind, Except.bind, List.length_append, htail]
    rfl

theorem DataElement.nesting_le_listNesting {element : DataElement} {elements : List DataElement}
    (h : element ∈ elements) : element.nesting ≤ listNesting elements := by
  induction elements with
  | nil => cases h
  | cons first elements ih =>
    rw [listNesting]
    rcases List.mem_cons.mp h with rfl | h
    · exact le_max_left _ _
    · exact (ih h).trans (le_max_right _ _)

/-- A container is read back, given that its elements are. -/
theorem parseNested_container {typeCode : UInt8} (htype : typeCode = 6 ∨ typeCode = 7)
    {nesting : ℕ} {elements : List DataElement} {value bytes : Bytes}
    (helements : ∀ element ∈ elements, ∀ bytes front back : Bytes, element.toBytes = .ok bytes →
      parseNested (front ++ bytes ++ back) nesting front.length =
        .ok (front.length + bytes.length, element))
    (hvalue : DataElement.listToBytes elements = .ok value)
    (h : variableElement typeCode value = .ok bytes) (front back : Bytes) :
    parseNested (front ++ bytes ++ back) (nesting + 1) front.length =
      (parseValue typeCode value.length value (.ok elements)).map
        (front.length + bytes.length, ·) := by
  obtain ⟨start, rfl, hparse⟩ := parseNested_variableElement h
    (by rcases htype with rfl | rfl <;> simp) front back (nesting + 1)
  have hchildren : parseChildren (front ++ (start ++ value) ++ back) (nesting + 1)
      (front.length + start.length) value.length = .ok elements := by
    have := parseElements_listToBytes helements hvalue (front ++ start) back _ le_rfl
    rw [List.length_append, List.append_assoc front start value] at this
    simp only [parseChildren, this, Bind.bind, Except.bind]
    simp [pure, Except.pure]
  rw [hparse, hchildren]

theorem unsignedToBytes_spec {value : ℕ} {size : UInt8} {bytes : Bytes}
    (h : unsignedToBytes value size = .ok bytes) :
    bytes = natToBe value size.toNat ∧ value < 256 ^ size.toNat ∧ 0 < size.toNat ∧
      size.toNat ≤ 16 := by
  rw [unsignedToBytes] at h
  split at h
  · cases h
  rename_i hvalid
  split at h
  · cases h
  cases h
  refine ⟨rfl, by omega, ?_⟩
  simp only [validIntegerSize, Bool.not_eq_true, Bool.not_eq_false', Bool.or_eq_true,
    decide_eq_true_eq] at hvalid
  rcases hvalid with (((rfl | rfl) | rfl) | rfl) | rfl <;> decide

theorem signedToBytes_spec {value : ℤ} {size : UInt8} {bytes : Bytes}
    (h : signedToBytes value size = .ok bytes) :
    bytes = natToBe (value % 256 ^ size.toNat).toNat size.toNat ∧
      -(2 ^ (8 * size.toNat - 1)) ≤ value ∧ value ≤ 2 ^ (8 * size.toNat - 1) - 1 ∧
      0 < size.toNat ∧ size.toNat ≤ 16 := by
  rw [signedToBytes] at h
  split at h
  · cases h
  rename_i hvalid
  dsimp only at h
  split at h
  · cases h
  rename_i hrange
  cases h
  refine ⟨rfl, by omega, by omega, ?_⟩
  simp only [validIntegerSize, Bool.not_eq_true, Bool.not_eq_false', Bool.or_eq_true,
    decide_eq_true_eq] at hvalid
  rcases hvalid with (((rfl | rfl) | rfl) | rfl) | rfl <;> decide

/-- **An element is read back from its wire form**, wherever that form stands. -/
theorem DataElement.parseNested_toBytes (element : DataElement) {nesting : ℕ}
    (hnesting : element.nesting ≤ nesting) (bytes front back : Bytes)
    (h : element.toBytes = .ok bytes) :
    parseNested (front ++ bytes ++ back) nesting front.length =
      .ok (front.length + bytes.length, element) := by
  match element, hnesting with
  | .nil, _ =>
    cases h
    have hheader := slice_append front [elementHeader 0 0] back
    have hvalue : slice (front ++ [elementHeader 0 0] ++ back) (front.length + 1) 0 = some [] := by
      simp [slice]
    rw [parseNested_of_parts hheader rfl hvalue]
    rfl
  | .boolean value, _ =>
    cases h
    have hheader : slice (front ++ [elementHeader 5 0, value.toUInt8] ++ back) front.length 1 =
        some [elementHeader 5 0] := by
      have := slice_append front [elementHeader 5 0] (value.toUInt8 :: back)
      simpa using this
    have hvalue : slice (front ++ [elementHeader 5 0, value.toUInt8] ++ back)
        (front.length + 1) 1 = some [value.toUInt8] := by
      have := slice_append (front ++ [elementHeader 5 0]) [value.toUInt8] back
      simpa using this
    rw [parseNested_of_parts hheader rfl hvalue]
    cases value <;> rfl
  | .unsignedInteger value size, _ =>
    rw [toBytes, except_bind_eq_ok] at h
    obtain ⟨data, hdata, h⟩ := h
    obtain ⟨rfl, hvalue, hpos, hsize⟩ := unsignedToBytes_spec hdata
    have hne : natToBe value size.toNat ≠ [] := by
      apply List.ne_nil_of_length_pos
      rwa [length_natToBe]
    rw [parseNested_fixedElement h hne (.inl rfl)]
    simp only [parseValue, beToU128_natToBe hsize hvalue, length_natToBe, UInt8.ofNat_toNat]
    rfl
  | .signedInteger value size, _ =>
    rw [toBytes, except_bind_eq_ok] at h
    obtain ⟨data, hdata, h⟩ := h
    obtain ⟨rfl, hlow, hhigh, hpos, hsize⟩ := signedToBytes_spec hdata
    have hne : natToBe (value % 256 ^ size.toNat).toNat size.toNat ≠ [] := by
      apply List.ne_nil_of_length_pos
      rwa [length_natToBe]
    have hread : beToI128 (natToBe (value % 256 ^ size.toNat).toNat size.toNat) = value := by
      obtain ⟨n, hn⟩ : ∃ n, size.toNat = n + 1 := ⟨size.toNat - 1, by omega⟩
      rw [hn] at hlow hhigh ⊢
      exact beToI128_natToBe (by omega) hlow hhigh
    rw [parseNested_fixedElement h hne (.inr (.inl rfl))]
    simp only [parseValue, hread, length_natToBe, UInt8.ofNat_toNat]
    rfl
  | .uuid value, _ =>
    have hne : value.bytesLe.reverse ≠ [] := by
      apply List.ne_nil_of_length_pos
      rw [List.length_reverse]
      rcases value.width with hwidth | hwidth | hwidth <;> omega
    rw [parseNested_fixedElement h hne (.inr (.inr rfl))]
    have hread : BluetoothUuid.fromLeBytes value.bytesLe = .ok value := dif_pos value.width
    simp only [parseValue, List.reverse_reverse, hread]
    rfl
  | .textString value, _ =>
    obtain ⟨start, _, hparse⟩ := parseNested_variableElement h (.inl rfl) front back nesting
    rw [hparse]
    rfl
  | .url value, _ =>
    obtain ⟨start, _, hparse⟩ := parseNested_variableElement h (by simp) front back nesting
    rw [hparse]
    simp only [parseValue, decodeUtf8_toUTF8]
    rfl
  | .sequence elements, hnesting =>
    rw [toBytes, except_bind_eq_ok] at h
    obtain ⟨value, hvalue, h⟩ := h
    rw [DataElement.nesting] at hnesting
    obtain ⟨nesting, rfl⟩ : ∃ n, nesting = n + 1 := ⟨nesting - 1, by omega⟩
    have helements : ∀ element ∈ elements, ∀ bytes front back : Bytes,
        element.toBytes = .ok bytes → parseNested (front ++ bytes ++ back) nesting front.length =
          .ok (front.length + bytes.length, element) := by
      intro element helement bytes front back hbytes
      have := nesting_le_listNesting helement
      exact element.parseNested_toBytes (by omega) bytes front back hbytes
    rw [parseNested_container (.inl rfl) helements hvalue h]
    rfl
  | .alternative elements, hnesting =>
    rw [toBytes, except_bind_eq_ok] at h
    obtain ⟨value, hvalue, h⟩ := h
    rw [DataElement.nesting] at hnesting
    obtain ⟨nesting, rfl⟩ : ∃ n, nesting = n + 1 := ⟨nesting - 1, by omega⟩
    have helements : ∀ element ∈ elements, ∀ bytes front back : Bytes,
        element.toBytes = .ok bytes → parseNested (front ++ bytes ++ back) nesting front.length =
          .ok (front.length + bytes.length, element) := by
      intro element helement bytes front back hbytes
      have := nesting_le_listNesting helement
      exact element.parseNested_toBytes (by omega) bytes front back hbytes
    rw [parseNested_container (.inr rfl) helements hvalue h]
    rfl
termination_by sizeOf element

/-- The wire form of an element decodes to the element. -/
theorem DataElement.fromBytes_toBytes {element : DataElement}
    (hnesting : element.nesting ≤ maxNesting) {bytes : Bytes} (h : element.toBytes = .ok bytes) :
    DataElement.fromBytes bytes = .ok element := by
  have := element.parseNested_toBytes hnesting bytes [] [] h
  simp only [List.nil_append, List.append_nil, List.length_nil] at this
  rw [fromBytes, parseFromBytes, parseAt, Nat.sub_zero, this]
  rfl

/-- **The codec of data elements**: whatever stands before and behind it, an element that is not
nested too deep is read back from its bytes, with the widths of its UUIDs. -/
theorem DataElement.element_round_trip (element : DataElement) (hnesting : element.nesting ≤ 32)
    (bytes : Bytes) (h : element.toBytes = .ok bytes) (front back : Bytes) :
    DataElement.parseFromBytes (front ++ bytes ++ back) front.length =
      .ok (front.length + bytes.length, element) := by
  rw [parseFromBytes, parseAt, Nat.sub_zero]
  exact element.parseNested_toBytes hnesting bytes front back h

/-- A negative number and a short UUID, between other bytes. -/
theorem DataElement.element_round_trip_mixed :
    ∃ bytes, (DataElement.sequence [.signedInteger (-2) 2, .uuid (.fromU16 0x1124)]).toBytes =
        .ok bytes ∧
      DataElement.parseFromBytes ([0xFF] ++ bytes ++ [0x00]) 1 =
        .ok (1 + bytes.length, .sequence [.signedInteger (-2) 2, .uuid (.fromU16 0x1124)]) :=
  ⟨_, rfl, element_round_trip _ (by decide) _ rfl [0xFF] [0x00]⟩

end ClassicHid

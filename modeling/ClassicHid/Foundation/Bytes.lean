import Mathlib.Algebra.Ring.Int.Defs
import Mathlib.Algebra.Ring.Nat
import Mathlib.Data.List.Basic
import Mathlib.Data.UInt
import Mathlib.Tactic.Common

/-!
# Byte strings

Fixed-width integers in little- and big-endian order, and the cutting of a byte string into
pieces of a given size.

## Main definitions

* `fromLe16`, `toLe16`, `fromBe16`, `toBe16`, `fromBe32`, `toBe32`: 16- and 32-bit integers and
  their bytes
* `le16At l i`: the little-endian 16-bit integer at position `i`
* `hex digits n`: hexadecimal text
* `chunks n l`: the pieces of `l` of size `n`, the last one possibly shorter
* `slice l i n`: the `n` entries of `l` from position `i`, when there are that many

## Main results

* `fromLe16_toLe16`, `toLe16_fromLe16`: little-endian 16-bit integers are their two bytes
* `fromBe32_toBe32`: a 32-bit integer is read back from its bytes
* `flatten_chunks`: the pieces are the list
* `length_chunks_le`: there are at most as many pieces as entries
* `slice_append`: the slice that covers the middle part of a list is that part
-/

namespace Foundation

/-- A byte string. -/
abbrev Bytes := List UInt8

/-! ### Integers -/

/-- The 16-bit integer with the low byte `lo` and the high byte `hi`. -/
def fromLe16 (lo hi : UInt8) : UInt16 := UInt16.ofNat (lo.toNat + 256 * hi.toNat)

/-- The two bytes of a 16-bit integer, low byte first. -/
def toLe16 (x : UInt16) : Bytes := [UInt8.ofNat x.toNat, UInt8.ofNat (x.toNat / 256)]

/-- The 16-bit integer with the high byte `hi` and the low byte `lo`. -/
def fromBe16 (hi lo : UInt8) : UInt16 := fromLe16 lo hi

/-- The two bytes of a 16-bit integer, high byte first. -/
def toBe16 (x : UInt16) : Bytes := [UInt8.ofNat (x.toNat / 256), UInt8.ofNat x.toNat]

/-- The 32-bit integer of four bytes, high byte first. -/
def fromBe32 (b₃ b₂ b₁ b₀ : UInt8) : UInt32 :=
  UInt32.ofNat (b₀.toNat + 256 * (b₁.toNat + 256 * (b₂.toNat + 256 * b₃.toNat)))

/-- The four bytes of a 32-bit integer, low byte first. -/
def toLe32 (x : UInt32) : Bytes :=
  [UInt8.ofNat x.toNat, UInt8.ofNat (x.toNat / 2 ^ 8), UInt8.ofNat (x.toNat / 2 ^ 16),
    UInt8.ofNat (x.toNat / 2 ^ 24)]

/-- The four bytes of a 32-bit integer, high byte first. -/
def toBe32 (x : UInt32) : Bytes := (toLe32 x).reverse

/-- The 16-bit integer at position `i`, low byte first; bytes beyond the end read as zero. -/
def le16At (l : Bytes) (i : ℕ) : UInt16 := fromLe16 (l.getD i 0) (l.getD (i + 1) 0)

/-- The eight bytes of a 64-bit integer, low byte first. -/
def toLe64 (x : UInt64) : Bytes :=
  (List.range 8).map fun i => UInt8.ofNat (x.toNat / 2 ^ (8 * i))

@[simp] theorem toNat_fromLe16 (lo hi : UInt8) :
    (fromLe16 lo hi).toNat = lo.toNat + 256 * hi.toNat := by
  have h₁ := lo.toNat_lt
  have h₂ := hi.toNat_lt
  simp only [fromLe16, UInt16.toNat_ofNat']
  omega

@[simp] theorem length_toLe16 (x : UInt16) : (toLe16 x).length = 2 := rfl

/-- A 16-bit integer is read back from its bytes. -/
theorem fromLe16_toLe16 (x : UInt16) :
    fromLe16 (UInt8.ofNat x.toNat) (UInt8.ofNat (x.toNat / 256)) = x := by
  apply UInt16.toNat_inj.mp
  have := x.toNat_lt
  simp only [toNat_fromLe16, UInt8.toNat_ofNat']
  omega

@[simp] theorem length_toBe16 (x : UInt16) : (toBe16 x).length = 2 := rfl

@[simp] theorem length_toBe32 (x : UInt32) : (toBe32 x).length = 4 := rfl

/-- A 32-bit integer is read back from its bytes. -/
theorem fromBe32_toBe32 (x : UInt32) :
    fromBe32 (UInt8.ofNat (x.toNat / 2 ^ 24)) (UInt8.ofNat (x.toNat / 2 ^ 16))
      (UInt8.ofNat (x.toNat / 2 ^ 8)) (UInt8.ofNat x.toNat) = x := by
  apply UInt32.toNat_inj.mp
  have := x.toNat_lt
  simp only [fromBe32, UInt32.toNat_ofNat', UInt8.toNat_ofNat']
  omega

/-- Two bytes are the bytes of the integer read from them. -/
theorem toLe16_fromLe16 (lo hi : UInt8) : toLe16 (fromLe16 lo hi) = [lo, hi] := by
  have h₁ := lo.toNat_lt
  have h₂ := hi.toNat_lt
  simp only [toLe16, toNat_fromLe16, List.cons.injEq, and_true]
  constructor <;> apply UInt8.toNat_inj.mp <;> rw [UInt8.toNat_ofNat'] <;> omega

/-- An integer inside the first part of a byte string is read from that part. -/
theorem le16At_append {l l' : Bytes} {i : ℕ} (h : i + 1 < l.length) :
    le16At (l ++ l') i = le16At l i := by
  simp only [le16At, List.getD_eq_getElem?_getD]
  rw [List.getElem?_append_left (by omega), List.getElem?_append_left h]

theorem le16At_toLe16 (x : UInt16) (l : Bytes) : le16At (toLe16 x ++ l) 0 = x :=
  fromLe16_toLe16 x

theorem toLe16_injective {x y : UInt16} (h : toLe16 x = toLe16 y) : x = y := by
  rw [← le16At_toLe16 x [], ← le16At_toLe16 y [], h]

/-- What holds of the numbers below 256 holds of every byte. -/
theorem forall_byte {p : UInt8 → Prop} (h : ∀ n : Fin 256, p (UInt8.ofNat n)) (byte : UInt8) :
    p byte := by
  have hbyte := h ⟨byte.toNat, byte.toNat_lt⟩
  rwa [UInt8.ofNat_toNat] at hbyte

/-! ### Hexadecimal text -/

/-- The lower-case hexadecimal digits of `n`. -/
def hexDigits (n : ℕ) : String := String.ofList (Nat.toDigits 16 n)

/-- `n` in hexadecimal with its `0x`, with at least the given number of digits. -/
def hex (digits n : ℕ) : String :=
  "0x" ++ String.ofList (List.replicate (digits - (hexDigits n).length) '0') ++ hexDigits n

/-! ### Pieces -/

variable {α : Type}

/-- The pieces of `l` of size `n`, in order; the last one holds what is left. No pieces when
`n = 0`. -/
def chunks (n : ℕ) (l : List α) : List (List α) :=
  if _h : n = 0 ∨ l = [] then [] else l.take n :: chunks n (l.drop n)
termination_by l.length
decreasing_by
  have := List.length_pos_of_ne_nil (not_or.mp ‹_›).2
  simp only [List.length_drop]
  omega

theorem chunks_nil (n : ℕ) : chunks n ([] : List α) = [] := by
  rw [chunks]
  simp

theorem chunks_of_ne_nil {n : ℕ} {l : List α} (hn : n ≠ 0) (hl : l ≠ []) :
    chunks n l = l.take n :: chunks n (l.drop n) := by
  rw [chunks]
  simp [hn, hl]

/-- The pieces, put together, are the list. -/
theorem flatten_chunks {n : ℕ} (hn : n ≠ 0) (l : List α) : (chunks n l).flatten = l := by
  induction l using chunks.induct n with
  | case1 l h => simp [chunks, hn, h.resolve_left hn]
  | case2 l h ih =>
    rw [not_or] at h
    rw [chunks_of_ne_nil h.1 h.2, List.flatten_cons, ih, List.take_append_drop]

/-- There are at most as many pieces as entries. -/
theorem length_chunks_le (n : ℕ) (l : List α) : (chunks n l).length ≤ l.length := by
  induction l using chunks.induct n with
  | case1 l h =>
    rw [chunks]
    simp [h]
  | case2 l h ih =>
    rw [not_or] at h
    have hpos := List.length_pos_of_ne_nil h.2
    rw [chunks_of_ne_nil h.1 h.2, List.length_cons]
    simp only [List.length_drop] at ih
    omega

/-- No piece is empty. -/
theorem nonempty_of_mem_chunks {n : ℕ} {l piece : List α} (h : piece ∈ chunks n l) :
    piece ≠ [] := by
  induction l using chunks.induct n with
  | case1 l hl =>
    rw [chunks] at h
    simp [hl] at h
  | case2 l hl ih =>
    rw [not_or] at hl
    rw [chunks_of_ne_nil hl.1 hl.2] at h
    rcases List.mem_cons.mp h with rfl | h
    · simp [List.take_eq_nil_iff, hl.1, hl.2]
    · exact ih h

/-- No piece is longer than the size. -/
theorem length_le_of_mem_chunks {n : ℕ} {l piece : List α} (h : piece ∈ chunks n l) :
    piece.length ≤ n := by
  induction l using chunks.induct n with
  | case1 l hl =>
    rw [chunks] at h
    simp [hl] at h
  | case2 l hl ih =>
    rw [not_or] at hl
    rw [chunks_of_ne_nil hl.1 hl.2] at h
    rcases List.mem_cons.mp h with rfl | h
    · rw [List.length_take]
      exact Nat.min_le_left _ _
    · exact ih h

/-- The pieces are consecutive parts of the list. -/
theorem getElem?_chunks {n k : ℕ} {l : List α} (hn : n ≠ 0) :
    (chunks n l)[k]? = if k * n < l.length then some ((l.drop (k * n)).take n) else none := by
  induction k generalizing l with
  | zero =>
    rw [Nat.zero_mul, List.drop_zero]
    split
    · rename_i hlength
      rw [chunks_of_ne_nil hn (List.ne_nil_of_length_pos hlength)]
      rfl
    · rename_i hlength
      rw [List.eq_nil_of_length_eq_zero (Nat.eq_zero_of_not_pos hlength), chunks_nil]
      rfl
  | succ k ih =>
    rcases Nat.eq_zero_or_pos l.length with hlength | hlength
    · rw [List.eq_nil_of_length_eq_zero hlength, chunks_nil, if_neg (by simp)]
      rfl
    · rw [chunks_of_ne_nil hn (List.ne_nil_of_length_pos hlength), List.getElem?_cons_succ, ih,
        List.length_drop, List.drop_drop, Nat.succ_mul, Nat.add_comm n]
      congr 1
      rw [eq_iff_iff]
      omega

/-- The first entry of a list that is long enough. -/
theorem exists_cons_of_length {n : ℕ} {l : List α} (h : n + 1 ≤ l.length) :
    ∃ a rest, l = a :: rest ∧ n ≤ rest.length := by
  cases l with
  | nil => simp at h
  | cons a rest =>
    rw [List.length_cons] at h
    exact ⟨a, rest, rfl, Nat.le_of_succ_le_succ h⟩

/-- The `n` entries of `l` from position `i`, when there are that many. -/
def slice (l : List α) (i n : ℕ) : Option (List α) :=
  if i + n ≤ l.length then some ((l.drop i).take n) else none

/-- The entries of the middle part of a list. -/
theorem slice_append (front s back : List α) :
    slice (front ++ s ++ back) front.length s.length = some s := by
  have hlength : front.length + s.length ≤ (front ++ s ++ back).length := by simp
  rw [slice, if_pos hlength, List.append_assoc, List.drop_left, List.take_left]

theorem length_of_slice {l s : List α} {i n : ℕ} (h : slice l i n = some s) : s.length = n := by
  simp only [slice] at h
  split at h
  · cases h
    simp only [List.length_take, List.length_drop]
    omega
  · cases h

end Foundation

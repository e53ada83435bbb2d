import Mathlib.Logic.Function.Iterate
import Mathlib.Data.List.GetD
import Mathlib.Data.Nat.Init

/-!
# Shift registers

A register of `w` bits that shifts towards its lowest bit and, when the bit shifted out is set,
subtracts a polynomial. It is fed bit by bit, the lowest bit first, as a cyclic redundancy check
does. Feeding is linear, and when the highest bit of the polynomial is set, no error within `w`
consecutive bits leaves the register unchanged.

## Main definitions

* `ShiftRegister.shift`: one step of the register
* `ShiftRegister.feed`: the register after a list of bits
* `ShiftRegister.value`: the number that a list of bits denotes

## Main results

* `ShiftRegister.feed_eq`: up to `w` bits may be fed at once
* `ShiftRegister.feed_xor`: feeding is linear
* `ShiftRegister.feed_burst`: a burst of errors is not lost
-/

namespace Foundation

/-- The sum of two lists of bits, as far as both go. -/
def xorBits (as bs : List Bool) : List Bool := List.zipWith (· ^^ ·) as bs

namespace ShiftRegister

variable {w : ℕ} (poly : BitVec w)

/-- One step: shift, and subtract the polynomial when the bit shifted out was set. -/
def shift (register : BitVec w) : BitVec w :=
  if register.getLsbD 0 then (register >>> 1) ^^^ poly else register >>> 1

/-- A bit at the lowest place. -/
def bit (b : Bool) : BitVec w := BitVec.setWidth w (BitVec.ofBool b)

/-- The register after the bits. -/
def feed (register : BitVec w) (bits : List Bool) : BitVec w :=
  bits.foldl (fun register b => shift poly (register ^^^ bit b)) register

/-- The number that the bits denote, the lowest bit first. -/
def value : List Bool → BitVec w
  | [] => 0#w
  | b :: bits => bit b ^^^ (value bits <<< 1)

variable {poly} {a b : BitVec w} {bits : List Bool}

theorem getLsbD_bit (b : Bool) (i : ℕ) :
    (bit b : BitVec w).getLsbD i = (decide (i < w) && (decide (i = 0) && b)) := by
  rw [bit, BitVec.getLsbD_setWidth, BitVec.getLsbD_ofBool]

/-- The bits of the number are the bits of the list. -/
theorem getLsbD_value (bits : List Bool) {i : ℕ} (hi : i < w) :
    (value bits : BitVec w).getLsbD i = bits.getD i false := by
  induction bits generalizing i with
  | nil => simp [value]
  | cons b bits ih =>
    rw [value, BitVec.getLsbD_xor, getLsbD_bit, BitVec.getLsbD_shiftLeft]
    rcases i with _ | i
    · simp [hi]
    · simp [hi, ih (Nat.lt_of_succ_lt hi)]

/-! ### Linearity -/

theorem xor_xor_xor_comm (a b c d : BitVec w) : a ^^^ b ^^^ (c ^^^ d) = a ^^^ c ^^^ (b ^^^ d) := by
  rw [BitVec.xor_assoc, ← BitVec.xor_assoc b, BitVec.xor_comm b c, BitVec.xor_assoc c,
    ← BitVec.xor_assoc a]

theorem shift_xor (a b : BitVec w) : shift poly (a ^^^ b) = shift poly a ^^^ shift poly b := by
  simp only [shift, BitVec.getLsbD_xor, BitVec.ushiftRight_xor_distrib]
  cases a.getLsbD 0 <;> cases b.getLsbD 0
  · rfl
  · exact BitVec.xor_assoc _ _ _
  · show (a >>> 1) ^^^ (b >>> 1) ^^^ poly = (a >>> 1) ^^^ poly ^^^ (b >>> 1)
    rw [BitVec.xor_assoc, BitVec.xor_comm (b >>> 1), BitVec.xor_assoc]
  · show (a >>> 1) ^^^ (b >>> 1) = (a >>> 1) ^^^ poly ^^^ ((b >>> 1) ^^^ poly)
    rw [xor_xor_xor_comm, BitVec.xor_self, BitVec.xor_zero]

theorem bit_xor (a b : Bool) : (bit (a ^^ b) : BitVec w) = bit a ^^^ bit b := by
  cases a <;> cases b <;> simp [bit]

/-- **Feeding is linear.** -/
theorem feed_xor {as bs : List Bool} (hlength : as.length = bs.length) :
    feed poly (a ^^^ b) (xorBits as bs) = feed poly a as ^^^ feed poly b bs := by
  induction as generalizing a b bs with
  | nil =>
    cases bs with
    | nil => rfl
    | cons => cases hlength
  | cons x as ih =>
    cases bs with
    | nil => cases hlength
    | cons y bs =>
      have hstep : shift poly (a ^^^ b ^^^ bit (x ^^ y)) =
          shift poly (a ^^^ bit x) ^^^ shift poly (b ^^^ bit y) := by
        rw [bit_xor, xor_xor_xor_comm, shift_xor]
      calc feed poly (a ^^^ b) (xorBits (x :: as) (y :: bs))
          = feed poly (shift poly (a ^^^ b ^^^ bit (x ^^ y))) (xorBits as bs) := rfl
        _ = _ := by rw [hstep, ih (Nat.succ.inj hlength)]; rfl

/-! ### Several bits at once -/

/-- A number without its lowest and highest bit is shifted back. -/
theorem shift_shiftLeft (h : a.getLsbD (w - 1) = false) : shift poly (a <<< 1) = a := by
  have hlow : (a <<< 1).getLsbD 0 = false := by
    rw [BitVec.getLsbD_shiftLeft]
    simp
  rw [shift, hlow, if_neg Bool.false_ne_true]
  apply BitVec.eq_of_getLsbD_eq
  intro i hi
  rw [BitVec.getLsbD_ushiftRight, BitVec.getLsbD_shiftLeft]
  rcases Nat.lt_or_ge (1 + i) w with hlt | hge
  · have hnext : i + 1 < w := by omega
    simp [Nat.add_comm 1 i, hnext]
  · have hlast : i = w - 1 := by omega
    rw [hlast, h]
    simp [show ¬ 1 + (w - 1) < w by omega]

/-- **Up to `w` bits at once.** -/
theorem feed_eq (hlength : bits.length ≤ w) :
    feed poly a bits = (shift poly)^[bits.length] (a ^^^ value bits) := by
  induction bits generalizing a with
  | nil => simp [feed, value]
  | cons b bits ih =>
    rw [List.length_cons] at hlength
    have hhigh : (value bits : BitVec w).getLsbD (w - 1) = false := by
      rw [getLsbD_value bits (by omega), List.getD_eq_default _ _ (by omega)]
    calc feed poly a (b :: bits)
        = feed poly (shift poly (a ^^^ bit b)) bits := rfl
      _ = (shift poly)^[bits.length] (shift poly (a ^^^ bit b) ^^^ value bits) :=
        ih (Nat.le_of_succ_le hlength)
      _ = (shift poly)^[bits.length] (shift poly (a ^^^ value (b :: bits))) := by
        rw [value, ← BitVec.xor_assoc, shift_xor (a ^^^ bit b) (value bits <<< 1),
          shift_shiftLeft hhigh]
      _ = (shift poly)^[(b :: bits).length] (a ^^^ value (b :: bits)) := rfl

/-! ### Bursts -/

/-- No step loses a number, when the highest bit of the polynomial is set. -/
theorem shift_ne_zero (hpoly : poly.getLsbD (w - 1) = true) (ha : a ≠ 0#w) :
    shift poly a ≠ 0#w := by
  intro hzero
  have hw : 0 < w := by
    rcases Nat.eq_zero_or_pos w with rfl | hw
    · exact absurd (BitVec.eq_of_zero_length rfl) ha
    · exact hw
  have hbit (i : ℕ) : (shift poly a).getLsbD i = false := by
    rw [hzero]
    exact BitVec.getLsbD_zero
  rw [shift] at hbit
  rcases hlow : a.getLsbD 0 with _ | _
  · rw [hlow] at hbit
    apply ha
    apply BitVec.eq_of_getLsbD_eq
    intro i hi
    rw [BitVec.getLsbD_zero]
    rcases i with _ | i
    · exact hlow
    · have hnext := hbit i
      rw [if_neg Bool.false_ne_true, BitVec.getLsbD_ushiftRight] at hnext
      rwa [Nat.add_comm]
  · have hlast := hbit (w - 1)
    rw [hlow, if_pos rfl, BitVec.getLsbD_xor, hpoly, BitVec.getLsbD_ushiftRight,
      BitVec.getLsbD_of_ge a _ (by omega)] at hlast
    cases hlast

theorem iterate_shift_ne_zero (hpoly : poly.getLsbD (w - 1) = true) (ha : a ≠ 0#w) (n : ℕ) :
    (shift poly)^[n] a ≠ 0#w := by
  induction n generalizing a with
  | zero => exact ha
  | succ n ih => exact ih (shift_ne_zero hpoly ha)

theorem feed_append (as bs : List Bool) : feed poly a (as ++ bs) = feed poly (feed poly a as) bs :=
  List.foldl_append

/-- Bits that are not set leave an empty register. -/
theorem feed_clear (h : ∀ b ∈ bits, b = false) :
    feed poly a bits = (shift poly)^[bits.length] a := by
  induction bits generalizing a with
  | nil => rfl
  | cons b bits ih =>
    have hb : b = false := h b List.mem_cons_self
    have hbit : (bit false : BitVec w) = 0#w := by simp [bit]
    calc feed poly a (b :: bits)
        = feed poly (shift poly (a ^^^ bit b)) bits := rfl
      _ = (shift poly)^[bits.length] (shift poly a) := by
        rw [hb, hbit, BitVec.xor_zero, ih fun b hmem => h b (List.mem_cons_of_mem _ hmem)]
      _ = (shift poly)^[(b :: bits).length] a := rfl

theorem iterate_shift_zero (n : ℕ) : (shift poly)^[n] 0#w = 0#w := by
  have hzero : shift poly 0#w = 0#w := by simp [shift]
  exact Function.iterate_fixed hzero n

/-- **A burst of errors** within `w` bits is not lost. -/
theorem feed_burst (hpoly : poly.getLsbD (w - 1) = true) {start i : ℕ}
    (hset : bits[i]? = some true)
    (hburst : ∀ j, bits[j]? = some true → start ≤ j ∧ j < start + w) :
    feed poly 0#w bits ≠ 0#w := by
  have hsplit :
      bits = bits.take start ++ ((bits.drop start).take w ++ (bits.drop start).drop w) := by
    rw [List.take_append_drop, List.take_append_drop]
  have hbefore : ∀ b ∈ bits.take start, b = false := by
    intro b hmem
    obtain ⟨j, hj⟩ := List.getElem?_of_mem hmem
    rw [List.getElem?_take] at hj
    split at hj
    · rename_i hlt
      cases b with
      | false => rfl
      | true => exact absurd (hburst j hj).1 (Nat.not_le.mpr hlt)
    · cases hj
  have hbehind : ∀ b ∈ (bits.drop start).drop w, b = false := by
    intro b hmem
    obtain ⟨j, hj⟩ := List.getElem?_of_mem hmem
    rw [List.drop_drop, List.getElem?_drop] at hj
    cases b with
    | false => rfl
    | true => exact absurd (hburst _ hj).2 (by omega)
  have hvalue : (value ((bits.drop start).take w) : BitVec w) ≠ 0#w := by
    intro hzero
    obtain ⟨hstart, hend⟩ := hburst i hset
    have hi : i - start < w := by omega
    have hbit := getLsbD_value ((bits.drop start).take w) hi
    rw [hzero, BitVec.getLsbD_zero, List.getD_eq_getElem?_getD, List.getElem?_take, if_pos hi,
      List.getElem?_drop, Nat.add_sub_cancel' hstart, hset] at hbit
    cases hbit
  rw [hsplit, feed_append, feed_append, feed_clear hbefore, iterate_shift_zero,
    feed_eq (List.length_take_le ..), feed_clear hbehind]
  apply iterate_shift_ne_zero hpoly
  apply iterate_shift_ne_zero hpoly
  rwa [BitVec.zero_xor]

end ShiftRegister

end Foundation

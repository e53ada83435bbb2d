import Mathlib.Data.List.Basic
import Mathlib.Data.Nat.Notation

/-!
# Computations that may fault

A read outside of a buffer and a shift by the width of a word or more do not fail with an error of
the program: they end the program. `Checked ε α` is a computation that returns an `α`, fails with
an `ε`, or faults; its operations fault where the machine's do.

## Main definitions

* `Checked ε α`: a computation that may fault
* `Checked.index`, `Checked.slice`, `Checked.shiftLeft`: reads and shifts that are checked

## Main results

* `Checked.bind_returned`, `Checked.bind_failed`: the rules of sequencing
* `Checked.index_of_lt`, `Checked.slice_of_le`, `Checked.shiftLeft_of_lt`: what does not fault
-/

namespace Foundation

/-- A computation that returns an `α`, fails with an `ε`, or faults (`none`). -/
def Checked (ε α : Type) : Type := Option (Except ε α)

namespace Checked

variable {ε α β : Type}

/-- A computation that does not fault. -/
def returned (r : Except ε α) : Checked ε α := some r

/-- A computation that faults. -/
def fault : Checked ε α := none

instance : Monad (Checked ε) where
  pure a := returned (.ok a)
  bind x f :=
    match x with
    | none => fault
    | some (.error e) => returned (.error e)
    | some (.ok a) => f a

instance : LawfulMonad (Checked ε) := by
  refine LawfulMonad.mk' (Checked ε) ?_ ?_ ?_
  · intro α x
    rcases x with _ | (_ | _) <;> rfl
  · intro α β a f
    rfl
  · intro α β γ x f g
    rcases x with _ | (_ | _) <;> rfl

/-- The computation does not fault. -/
def Safe (x : Checked ε α) : Prop := ∃ r, x = returned r

@[simp] theorem pure_eq (a : α) : (pure a : Checked ε α) = returned (.ok a) := rfl

@[simp] theorem bind_returned (a : α) (f : α → Checked ε β) :
    (returned (.ok a) : Checked ε α) >>= f = f a := rfl

@[simp] theorem bind_failed (e : ε) (f : α → Checked ε β) :
    (returned (.error e) : Checked ε α) >>= f = returned (.error e) := rfl

@[simp] theorem bind_fault (f : α → Checked ε β) : (fault : Checked ε α) >>= f = fault := rfl

theorem safe_returned (r : Except ε α) : (returned r).Safe := ⟨r, rfl⟩

theorem not_safe_fault : ¬ (fault : Checked ε α).Safe := by
  rintro ⟨r, hr⟩
  cases hr

/-- The entry of a list at a position inside it. -/
def index (l : List α) (i : ℕ) : Checked ε α :=
  match l[i]? with
  | none => fault
  | some a => returned (.ok a)

/-- The entries of a list from one position to another, both inside it and in this order. -/
def slice (l : List α) (first last : ℕ) : Checked ε (List α) :=
  if first ≤ last ∧ last ≤ l.length then returned (.ok ((l.take last).drop first)) else fault

/-- A shift by less than the width of a word. -/
def shiftLeft (x : UInt32) (n : ℕ) : Checked ε UInt32 :=
  if n < 32 then returned (.ok (x <<< UInt32.ofNat n)) else fault

theorem index_of_lt {l : List α} {i : ℕ} (h : i < l.length) (default : α) :
    (index l i : Checked ε α) = returned (.ok (l.getD i default)) := by
  rw [index, List.getElem?_eq_getElem h, List.getD_eq_getElem?_getD, List.getElem?_eq_getElem h]
  rfl

theorem slice_of_le {l : List α} {first last : ℕ} (h : first ≤ last) (hlast : last ≤ l.length) :
    (slice l first last : Checked ε (List α)) = returned (.ok ((l.take last).drop first)) :=
  if_pos ⟨h, hlast⟩

/-- The entries of a list from a position on. -/
theorem slice_length {l : List α} {first : ℕ} (h : first ≤ l.length) :
    (slice l first l.length : Checked ε (List α)) = returned (.ok (l.drop first)) := by
  rw [slice_of_le h (Nat.le_refl _), List.take_length]

theorem shiftLeft_of_lt {n : ℕ} (h : n < 32) (x : UInt32) :
    (shiftLeft x n : Checked ε UInt32) = returned (.ok (x <<< UInt32.ofNat n)) :=
  if_pos h

theorem shiftLeft_of_ge {n : ℕ} (h : 32 ≤ n) (x : UInt32) :
    (shiftLeft x n : Checked ε UInt32) = fault :=
  if_neg (Nat.not_lt.mpr h)

end Checked

end Foundation

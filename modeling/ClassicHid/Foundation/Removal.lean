import Mathlib.Data.List.Basic

/-!
# Entries that may be left out

A list is read until an entry gives a verdict. Some of its entries are said to be removable: the
outcome must not depend on them. It does not exactly when every removable entry that is reached has
no verdict, or the one that the rest has without the removable entries.

## Main definitions

* `Thinned removable l l'`: `l'` is `l` without some of its removable entries
* `outcome verdict default l`: the first verdict
* `Unharmed`: no removable entry that is reached has a verdict of its own

## Main results

* `outcome_thinned_iff`: the outcome does not depend on the removable entries
-/

namespace Foundation

variable {α β : Type}

/-- The second list is the first without some of its removable entries. -/
inductive Thinned (removable : α → Bool) : List α → List α → Prop
  | nil : Thinned removable [] []
  | keep (a : α) {l l' : List α} (h : Thinned removable l l') :
      Thinned removable (a :: l) (a :: l')
  | drop {a : α} (ha : removable a = true) {l l' : List α} (h : Thinned removable l l') :
      Thinned removable (a :: l) l'

/-- The first verdict, or the default when there is none. -/
def outcome (verdict : α → Option β) (default : β) : List α → β
  | [] => default
  | a :: l => (verdict a).getD (outcome verdict default l)

/-- No removable entry that is reached has a verdict, other than the one without the removable
entries. -/
def Unharmed (removable : α → Bool) (verdict : α → Option β) (default : β) : List α → Prop
  | [] => True
  | a :: l =>
    if removable a then
      (∀ b, verdict a = some b → b = outcome verdict default (l.filter (!removable ·))) ∧
        Unharmed removable verdict default l
    else verdict a = none → Unharmed removable verdict default l

variable {removable : α → Bool} {verdict : α → Option β} {default : β} {l l' : List α}

theorem Thinned.refl (l : List α) : Thinned removable l l := by
  induction l with
  | nil => exact .nil
  | cons a l ih => exact .keep a ih

/-- All removable entries may be left out. -/
theorem thinned_filter (l : List α) : Thinned removable l (l.filter (!removable ·)) := by
  induction l with
  | nil => exact .nil
  | cons a l ih =>
    cases ha : removable a with
    | true =>
      rw [List.filter_cons_of_neg (by simp [ha])]
      exact .drop ha ih
    | false =>
      rw [List.filter_cons_of_pos (by simp [ha])]
      exact .keep a ih

theorem Thinned.filter_eq (h : Thinned removable l l') :
    l'.filter (!removable ·) = l.filter (!removable ·) := by
  induction h with
  | nil => rfl
  | keep a _ ih => rw [List.filter_cons, List.filter_cons, ih]
  | drop ha _ ih => rw [List.filter_cons_of_neg (by simp [ha]), ih]

/-- Leaving entries out does no harm. -/
theorem Thinned.unharmed (h : Thinned removable l l')
    (hl : Unharmed removable verdict default l) : Unharmed removable verdict default l' := by
  induction h with
  | nil => trivial
  | keep a h ih =>
    rw [Unharmed] at hl ⊢
    rw [h.filter_eq]
    split
    · rename_i ha
      rw [if_pos ha] at hl
      exact ⟨hl.1, ih hl.2⟩
    · rename_i ha
      rw [if_neg ha] at hl
      exact fun hnone => ih (hl hnone)
  | drop ha h ih =>
    rw [Unharmed, if_pos ha] at hl
    exact ih hl.2

/-- Without harm, the removable entries do not count. -/
theorem Unharmed.outcome_eq (h : Unharmed removable verdict default l) :
    outcome verdict default l = outcome verdict default (l.filter (!removable ·)) := by
  induction l with
  | nil => rfl
  | cons a l ih =>
    rw [Unharmed] at h
    split at h
    · rename_i ha
      rw [List.filter_cons_of_neg (by simp [ha]), outcome]
      cases hverdict : verdict a with
      | none => exact ih h.2
      | some b => exact h.1 b hverdict
    · rename_i ha
      rw [List.filter_cons_of_pos (by simp [ha]), outcome, outcome]
      cases hverdict : verdict a with
      | none => exact ih (h hverdict)
      | some b => rfl

/-- **The outcome does not depend on the removable entries** exactly when they do no harm. -/
theorem outcome_thinned_iff :
    (∀ l', Thinned removable l l' → outcome verdict default l' = outcome verdict default l) ↔
      Unharmed removable verdict default l := by
  constructor
  · intro h
    induction l with
    | nil => trivial
    | cons a l ih =>
      rw [Unharmed]
      split
      · rename_i ha
        have hdrop (l' : List α) (hl' : Thinned removable l l') :
            outcome verdict default l' = outcome verdict default (a :: l) := h l' (.drop ha hl')
        constructor
        · intro b hb
          have hall := hdrop _ (thinned_filter l)
          rw [outcome, hb] at hall
          exact hall.symm
        · apply ih
          intro l' hl'
          rw [hdrop l' hl', hdrop l (.refl l)]
      · intro hnone
        apply ih
        intro l' hl'
        have hkeep := h (a :: l') (.keep a hl')
        rwa [outcome, outcome, hnone] at hkeep
  · intro h l' hl'
    rw [(hl'.unharmed h).outcome_eq, hl'.filter_eq, h.outcome_eq]

end Foundation

import Mathlib.Logic.Relation

/-!
# Histories

A history is a list of entries, the latest first. A statement about every entry of a history, with
what had happened before it, is kept by a run exactly when each entry that is added satisfies it.

## Main definitions

* `Throughout`: every entry satisfies a condition on what came before it

## Main results

* `Throughout.at`: the condition, at one entry
* `Throughout.append`: entries that satisfy it anyway
* `exists_latest`: a history is what happened since the latest entry of a kind, and what it was
-/

namespace Foundation

variable {α : Type} {P Q : List α → α → Prop}

/-- Every entry satisfies `P`, given the entries before it. -/
def Throughout (P : List α → α → Prop) : List α → Prop
  | [] => True
  | entry :: earlier => P earlier entry ∧ Throughout P earlier

@[simp] theorem throughout_cons {entry : α} {earlier : List α} :
    Throughout P (entry :: earlier) ↔ P earlier entry ∧ Throughout P earlier := Iff.rfl

theorem Throughout.of_append {later earlier : List α} (h : Throughout P (later ++ earlier)) :
    Throughout P earlier := by
  induction later with
  | nil => exact h
  | cons entry later ih => exact ih h.2

/-- What `Throughout` says of one entry of a history. -/
theorem Throughout.at {history later earlier : List α} {entry : α} (h : Throughout P history)
    (heq : history = later ++ entry :: earlier) : P earlier entry := by
  subst heq
  exact h.of_append.1

/-- Entries that satisfy `P` whatever came before can be added together. -/
theorem Throughout.append {later earlier : List α} (h : Throughout P earlier)
    (hlater : ∀ entry ∈ later, ∀ before, P before entry) : Throughout P (later ++ earlier) := by
  induction later with
  | nil => exact h
  | cons entry later ih =>
    exact ⟨hlater entry (by simp) _, ih fun e he => hlater e (by simp [he])⟩

/-- A history with an entry of a kind, split at the latest of them. -/
theorem exists_latest {p : α → Bool} {history : List α} (h : history.any p = true) :
    ∃ entry earlier, history = history.takeWhile (fun entry => !p entry) ++ entry :: earlier ∧
      p entry = true := by
  induction history with
  | nil => cases h
  | cons entry history ih =>
    by_cases hp : p entry = true
    · exact ⟨entry, history, by simp [hp], hp⟩
    · obtain ⟨entry', earlier, heq, hp'⟩ := ih (by simpa [hp] using h)
      refine ⟨entry', earlier, ?_, hp'⟩
      rw [List.takeWhile_cons_of_pos (by simpa using hp), List.cons_append]
      exact congrArg _ heq

end Foundation

import ClassicHid.Foundation.Interleaving
import Mathlib.Logic.Relation

/-!
# Outboxes

An outbox knows what was sent and what is due to be sent. Something is sent at once, or put among
what is due, or a whole batch is put behind it; the first thing due is sent; and what is due may be
dropped in part. Two rules carry over to every run of an outbox: a condition on single items, and
the judgement of a reader who takes in what was sent.

## Main definitions

* `Outbox`: what was sent and what is due
* `Outbox.Rules`: what may enter an outbox, and what of the due may be dropped
* `Outbox.Step`, `Outbox.Steps`: one change of an outbox, and any number of them
* `Outbox.Reads`: a reader who takes in every batch, whatever came before it

## Main results

* `Outbox.Steps.all`: whatever is sent satisfies a condition that holds of all that enters
* `Outbox.Steps.accepted`: what is sent is taken in without complaint
-/

namespace Foundation

/-- What was sent and what is due, both in the order of sending. -/
structure Outbox (α : Type) where
  sent : List α
  due : List α

namespace Outbox

variable {α : Type}

/-- What may be sent at once, what may be put among the due, what batches may be put behind the due,
and which of the due may be kept when the others are dropped. -/
structure Rules (α : Type) where
  direct : α → Prop
  answer : α → Prop
  batch : List α → Prop
  kept : (α → Bool) → Prop

/-- One change of an outbox. -/
inductive Step (rules : Rules α) : Outbox α → Outbox α → Prop
  | direct {sent due : List α} {item : α} :
      rules.direct item → Step rules ⟨sent, due⟩ ⟨sent ++ [item], due⟩
  | send {sent due : List α} {item : α} :
      Step rules ⟨sent, item :: due⟩ ⟨sent ++ [item], due⟩
  | answer {sent before after : List α} {item : α} :
      rules.answer item → Step rules ⟨sent, before ++ after⟩ ⟨sent, before ++ item :: after⟩
  | batch {sent due items : List α} :
      rules.batch items → Step rules ⟨sent, due⟩ ⟨sent, due ++ items⟩
  | drop {sent due : List α} {kept : α → Bool} :
      rules.kept kept → Step rules ⟨sent, due⟩ ⟨sent, due.filter kept⟩

/-- Any number of changes. -/
abbrev Steps (rules : Rules α) : Outbox α → Outbox α → Prop := Relation.ReflTransGen (Step rules)

variable {rules : Rules α} {outbox outbox' : Outbox α}

/-! ### A condition on items -/

/-- Rules by which only what satisfies a condition enters. -/
structure Rules.Admits (rules : Rules α) (P : α → Prop) : Prop where
  direct : ∀ item, rules.direct item → P item
  answer : ∀ item, rules.answer item → P item
  batch : ∀ items, rules.batch items → ∀ item ∈ items, P item

theorem Step.all {P : α → Prop} (hP : rules.Admits P) (h : Step rules outbox outbox')
    (hdue : ∀ item ∈ outbox.due, P item) :
    (∃ later, outbox'.sent = outbox.sent ++ later ∧ ∀ item ∈ later, P item) ∧
      ∀ item ∈ outbox'.due, P item := by
  have hnothing : ∃ later : List α, outbox.sent = outbox.sent ++ later ∧ ∀ item ∈ later, P item :=
    ⟨[], by simp⟩
  cases h with
  | direct hitem => exact ⟨⟨[_], rfl, by simpa using hP.direct _ hitem⟩, hdue⟩
  | send =>
    rw [List.forall_mem_cons] at hdue
    exact ⟨⟨[_], rfl, by simpa using hdue.1⟩, hdue.2⟩
  | answer hitem =>
    refine ⟨hnothing, ?_⟩
    rw [List.forall_mem_append] at hdue
    rw [List.forall_mem_append, List.forall_mem_cons]
    exact ⟨hdue.1, hP.answer _ hitem, hdue.2⟩
  | batch hitems =>
    refine ⟨hnothing, ?_⟩
    rw [List.forall_mem_append]
    exact ⟨hdue, hP.batch _ hitems⟩
  | drop => exact ⟨hnothing, fun item hitem => hdue item (List.mem_filter.mp hitem).1⟩

/-- **A condition on items** that holds of all that is due and of all that enters holds of all that
is sent. -/
theorem Steps.all {P : α → Prop} (hP : rules.Admits P) (h : Steps rules outbox outbox')
    (hdue : ∀ item ∈ outbox.due, P item) :
    (∃ later, outbox'.sent = outbox.sent ++ later ∧ ∀ item ∈ later, P item) ∧
      ∀ item ∈ outbox'.due, P item := by
  induction h with
  | refl => exact ⟨⟨[], by simp⟩, hdue⟩
  | tail _ hstep ih =>
    obtain ⟨⟨later, hsent, hlater⟩, hdue⟩ := ih
    obtain ⟨⟨latest, hsent', hlatest⟩, hdue'⟩ := hstep.all hP hdue
    refine ⟨⟨later ++ latest, by rw [hsent', hsent, List.append_assoc], ?_⟩, hdue'⟩
    rw [List.forall_mem_append]
    exact ⟨hlater, hlatest⟩

/-! ### A reader -/

variable {σ ι ο : Type} {view : α → Option ι} {step : σ → ι → ο × σ} {Good : ο → Prop} {s : σ}

/-- What a reader of some of the items says about them is good throughout. -/
def Accepted (view : α → Option ι) (step : σ → ι → ο × σ) (Good : ο → Prop) (s : σ)
    (items : List α) : Prop :=
  ∀ o ∈ outputs step s (items.filterMap view), Good o

/-- A reader who says nothing bad about a batch, whatever he has read before. What is sent at once
or put among the due is not for him, and of what he reads all is dropped or nothing. -/
structure Reads (rules : Rules α) (view : α → Option ι) (step : σ → ι → ο × σ)
    (Good : ο → Prop) : Prop where
  direct : ∀ item, rules.direct item → view item = none
  answer : ∀ item, rules.answer item → view item = none
  batch : ∀ items, rules.batch items → ∀ s, Accepted view step Good s items
  kept : ∀ kept, rules.kept kept →
    (∀ item, kept item = false → view item = none) ∨ ∀ item, kept item = true → view item = none

theorem accepted_append {items items' : List α} :
    Accepted view step Good s (items ++ items') ↔ Accepted view step Good s items ∧
      Accepted view step Good (final step s (items.filterMap view)) items' := by
  simp only [Accepted, List.filterMap_append, outputs_append, List.forall_mem_append]

/-- Items that the reader does not see make no difference to him. -/
theorem accepted_congr {items items' : List α} (h : items.filterMap view = items'.filterMap view) :
    Accepted view step Good s items ↔ Accepted view step Good s items' := by
  rw [Accepted, h, Accepted]

theorem filterMap_filter_of_view {kept : α → Bool}
    (h : ∀ item, kept item = false → view item = none) (items : List α) :
    (items.filter kept).filterMap view = items.filterMap view := by
  induction items with
  | nil => rfl
  | cons item items ih =>
    rcases hkept : kept item
    · rw [List.filter_cons_of_neg (by simp [hkept]), ih, List.filterMap_cons_none (h item hkept)]
    · rw [List.filter_cons_of_pos hkept, List.filterMap_cons, List.filterMap_cons, ih]

theorem Step.accepted (hreads : Reads rules view step Good) (h : Step rules outbox outbox')
    (ha : Accepted view step Good s (outbox.sent ++ outbox.due)) :
    Accepted view step Good s (outbox'.sent ++ outbox'.due) := by
  cases h with
  | direct hitem =>
    refine (accepted_congr ?_).mp ha
    simp [List.filterMap_cons_none (hreads.direct _ hitem)]
  | send => simpa using ha
  | answer hitem =>
    refine (accepted_congr ?_).mp ha
    simp [List.filterMap_cons_none (hreads.answer _ hitem)]
  | batch hitems =>
    rw [← List.append_assoc, accepted_append]
    exact ⟨ha, hreads.batch _ hitems _⟩
  | drop hkept =>
    rcases hreads.kept _ hkept with hdropped | hkept
    · refine (accepted_congr ?_).mp ha
      rw [List.filterMap_append, List.filterMap_append, filterMap_filter_of_view hdropped]
    · -- Nothing that is kept is for the reader, so what was sent before is all he reads.
      refine (accepted_congr ?_).mp (accepted_append.mp ha).1
      have hnone (items : List α) : (items.filter _).filterMap view = [] :=
        List.filterMap_eq_nil_iff.mpr fun item hitem => hkept item (List.mem_filter.mp hitem).2
      rw [List.filterMap_append, hnone, List.append_nil]

/-- **What is sent is taken in**: in every run of an outbox, the reader says nothing bad about what
was sent. -/
theorem Steps.accepted (hreads : Reads rules view step Good) (h : Steps rules outbox outbox')
    (ha : Accepted view step Good s (outbox.sent ++ outbox.due)) :
    Accepted view step Good s (outbox'.sent ++ outbox'.due) := by
  induction h with
  | refl => exact ha
  | tail _ hstep ih => exact hstep.accepted hreads ih

end Outbox

end Foundation

import ClassicHid.Foundation.Exec

/-!
# Two updates side by side

Two updates of two states agree when, from states that are related, they return results that are
related or fail with errors that are related, and leave states that are related again. An update
that goes through more layers than another is shown to do the same by relating the two.

## Main definitions

* `Alike E A`: two results of the same kind, with errors in `E` or values in `A`
* `Exec.Couples R m m' E A`: from states in `R`, alike results and states in `R`

## Main results

* `Exec.Couples.bind`: the rule of sequencing
* `Exec.Couples.zoom`: parts that are related make wholes that are
-/

namespace Foundation

variable {σ σ' τ τ' ε ε' ε₁ ε₁' α α' β β' : Type}

/-- Both results are errors in `E`, or both are values in `A`. -/
inductive Alike (E : ε → ε' → Prop) (A : α → α' → Prop) : Except ε α → Except ε' α' → Prop
  | error {e : ε} {e' : ε'} (h : E e e') : Alike E A (.error e) (.error e')
  | ok {a : α} {a' : α'} (h : A a a') : Alike E A (.ok a) (.ok a')

/-- Results alike up to equality are equal. -/
theorem Alike.eq {r r' : Except ε α} (h : Alike Eq Eq r r') : r = r' := by
  cases h with
  | error h => rw [h]
  | ok h => rw [h]

theorem alike_of_eq {r r' : Except ε α} (h : r = r') : Alike Eq Eq r r' := by
  subst h
  cases r with
  | error _ => exact .error rfl
  | ok _ => exact .ok rfl

namespace Exec

/-- From states in `R`, the results are alike and the states left are in `R`. -/
def Couples (R : σ → σ' → Prop) (m : Exec σ ε α) (m' : Exec σ' ε' α') (E : ε → ε' → Prop)
    (A : α → α' → Prop) : Prop :=
  ∀ s s', R s s' → Alike E A (m s).1 (m' s').1 ∧ R (m s).2 (m' s').2

variable {R : σ → σ' → Prop} {E : ε → ε' → Prop} {A : α → α' → Prop} {B : β → β' → Prop}
  {m : Exec σ ε α} {m' : Exec σ' ε' α'}

/-- **Sequencing** for two updates side by side. -/
theorem Couples.bind {f : α → Exec σ ε β} {f' : α' → Exec σ' ε' β'} (hm : Couples R m m' E A)
    (hf : ∀ a a', A a a' → Couples R (f a) (f' a') E B) : Couples R (m >>= f) (m' >>= f') E B := by
  intro s s' hs
  obtain ⟨halike, hrel⟩ := hm s s' hs
  rw [bind_apply, bind_apply]
  rcases hms : m s with ⟨r, t⟩
  rcases hms' : m' s' with ⟨r', t'⟩
  rw [hms, hms'] at halike hrel
  cases halike with
  | error h => exact ⟨.error h, hrel⟩
  | ok h => exact hf _ _ h t t' hrel

theorem couples_lift {r : Except ε α} {r' : Except ε' α'} (h : Alike E A r r') :
    Couples R (lift r : Exec σ ε α) (lift r' : Exec σ' ε' α') E A :=
  fun _ _ hs => ⟨h, hs⟩

theorem couples_fail {e : ε} {e' : ε'} (h : E e e') :
    Couples R (fail e : Exec σ ε α) (fail e' : Exec σ' ε' α') E A :=
  fun _ _ hs => ⟨.error h, hs⟩

theorem couples_update {f : σ → α × σ} {f' : σ' → α' × σ'}
    (h : ∀ s s', R s s' → A (f s).1 (f' s').1 ∧ R (f s).2 (f' s').2) :
    Couples R (update f : Exec σ ε α) (update f' : Exec σ' ε' α') E A :=
  fun s s' hs => ⟨.ok (h s s' hs).1, (h s s' hs).2⟩

theorem Couples.mapError {g : ε → ε₁} {g' : ε' → ε₁'} {F : ε₁ → ε₁' → Prop}
    (h : Couples R m m' E A) (hg : ∀ e e', E e e' → F (g e) (g' e')) :
    Couples R (mapError g m) (mapError g' m') F A := by
  intro s s' hs
  obtain ⟨halike, hrel⟩ := h s s' hs
  refine ⟨?_, hrel⟩
  rw [mapError_apply, mapError_apply]
  generalize (m s).1 = r at halike
  generalize (m' s').1 = r' at halike
  cases halike with
  | error h => exact .error (hg _ _ h)
  | ok h => exact .ok h

/-- **Parts that are related** make wholes that are. -/
theorem Couples.zoom {S : τ → τ' → Prop} {read : τ → σ} {write : σ → τ → τ} {read' : τ' → σ'}
    {write' : σ' → τ' → τ'} (h : Couples R m m' E A)
    (hread : ∀ t t', S t t' → R (read t) (read' t'))
    (hwrite : ∀ t t' s s', S t t' → R s s' → S (write s t) (write' s' t')) :
    Couples S (zoom read write m) (zoom read' write' m') E A := by
  intro t t' ht
  obtain ⟨halike, hrel⟩ := h _ _ (hread t t' ht)
  exact ⟨halike, hwrite _ _ _ _ ht hrel⟩

end Exec

end Foundation

import Mathlib.Data.Nat.Notation
import Mathlib.Logic.Relation

/-!
# Fallible updates of a state

A method that takes its receiver by mutable reference and returns a result is a function from
the state to the result and the state it leaves. A failing call leaves a state as well: what it
changed before it failed stays changed. `Exec σ ε α` is that type, with the sequencing in which
an error stops the rest and keeps the state reached.

## Main definitions

* `Exec σ ε α`: an update of `σ` that returns an `α` or fails with an `ε`
* `Exec.zoom`, `Exec.zoomOption`: an update of a part of the state, and of a part that may be absent
* `Exec.Sat P m Q`: from every state of `P`, the outcome and the state `m` leaves satisfy `Q`
* `Exec.Keeps I m`: `m` keeps the states of `I`, whether it returns or fails
* `Exec.Moves step P m Q`: moreover `m` leaves a state that steps lead to
* `Exec.loop μ body`: repeat `body` while it asks for more, at most as often as `μ` allows

## Main results

* `Exec.Sat.bind`: the rule of sequencing
* `Exec.Keeps.bind`: sequencing keeps what both parts keep
* `Exec.forEach_sat`: the rule of a loop over a list
* `Exec.loop_eq`: a loop whose rounds decrease the measure is never cut short
* `Exec.Moves.bind`, `Exec.Moves.loop`: the rules for what a run may do to the state
-/

namespace Foundation

/-- A sequence of results that returned: both parts returned. -/
theorem except_bind_eq_ok {ε α β : Type} {x : Except ε α} {f : α → Except ε β} {b : β} :
    (x >>= f) = .ok b ↔ ∃ a, x = .ok a ∧ f a = .ok b := by
  cases x with
  | error e => simp [bind, Except.bind]
  | ok a => simp [bind, Except.bind]

/-- An update of the state `σ` that returns an `α` or fails with an `ε`. It leaves a state in
either case. -/
def Exec (σ ε α : Type) : Type := σ → Except ε α × σ

namespace Exec

variable {σ τ ε ε' α β : Type}

instance : Monad (Exec σ ε) where
  pure a := fun s => (.ok a, s)
  bind m f := fun s =>
    match m s with
    | (.ok a, s') => f a s'
    | (.error e, s') => (.error e, s')

/-- Fail, leaving the state as it is. -/
def fail (e : ε) : Exec σ ε α := fun s => (.error e, s)

/-- The current state. -/
def get : Exec σ ε σ := fun s => (.ok s, s)

/-- A reading of the current state. -/
def gets (f : σ → α) : Exec σ ε α := fun s => (.ok (f s), s)

/-- Replace the state. -/
def modify (f : σ → σ) : Exec σ ε Unit := fun s => (.ok (), f s)

/-- An update of the state that also returns a value and never fails. -/
def update (f : σ → α × σ) : Exec σ ε α := fun s => (.ok (f s).1, (f s).2)

/-- A result that is already there: the state does not change. -/
def lift (r : Except ε α) : Exec σ ε α := fun s => (r, s)

/-- Rewrite the error. -/
def mapError (f : ε → ε') (m : Exec σ ε α) : Exec σ ε' α := fun s => ((m s).1.mapError f, (m s).2)

/-- Run an update of a part of the state. -/
def zoom (read : σ → τ) (write : τ → σ → σ) (m : Exec τ ε α) : Exec σ ε α := fun s =>
  ((m (read s)).1, write (m (read s)).2 s)

/-- Run an update of a part of the state that may be absent; fail with `e` when it is. -/
def zoomOption (read : σ → Option τ) (write : τ → σ → σ) (e : ε) (m : Exec τ ε α) : Exec σ ε α :=
  fun s =>
    match read s with
    | some t => ((m t).1, write (m t).2 s)
    | none => (.error e, s)

/-- Run `f` on the elements of a list in order; the first error ends the loop. -/
def forEach (f : α → Exec σ ε Unit) : List α → Exec σ ε Unit
  | [] => pure ()
  | a :: l => do
      f a
      forEach f l

/-- At most `fuel` rounds of `body`, while it asks for another. -/
def rounds (body : Exec σ ε Bool) : ℕ → Exec σ ε Unit
  | 0 => pure ()
  | fuel + 1 => do
      let more ← body
      if more then rounds body fuel else pure ()

/-- Repeat `body` while it asks for another round. The measure of the first state bounds the
number of rounds; `loop_eq` says when the bound is never met. -/
def loop (μ : σ → ℕ) (body : Exec σ ε Bool) : Exec σ ε Unit := fun s =>
  rounds body (μ s + 1) s

/-! ### One step at a time -/

@[simp] theorem pure_apply (a : α) (s : σ) : (pure a : Exec σ ε α) s = (.ok a, s) := rfl

theorem bind_apply (m : Exec σ ε α) (f : α → Exec σ ε β) (s : σ) :
    (m >>= f) s = match m s with
      | (.ok a, s') => f a s'
      | (.error e, s') => (.error e, s') := rfl

@[simp] theorem fail_apply (e : ε) (s : σ) : (fail e : Exec σ ε α) s = (.error e, s) := rfl

@[simp] theorem get_apply (s : σ) : (get : Exec σ ε σ) s = (.ok s, s) := rfl

@[simp] theorem gets_apply (f : σ → α) (s : σ) : (gets f : Exec σ ε α) s = (.ok (f s), s) := rfl

@[simp] theorem modify_apply (f : σ → σ) (s : σ) :
    (modify f : Exec σ ε Unit) s = (.ok (), f s) := rfl

@[simp] theorem update_apply (f : σ → α × σ) (s : σ) :
    (update f : Exec σ ε α) s = (.ok (f s).1, (f s).2) := rfl

@[simp] theorem lift_apply (r : Except ε α) (s : σ) : (lift r : Exec σ ε α) s = (r, s) := rfl

@[simp] theorem mapError_apply (f : ε → ε') (m : Exec σ ε α) (s : σ) :
    mapError f m s = ((m s).1.mapError f, (m s).2) := rfl

@[simp] theorem zoom_apply (read : σ → τ) (write : τ → σ → σ) (m : Exec τ ε α) (s : σ) :
    zoom read write m s = ((m (read s)).1, write (m (read s)).2 s) := rfl

theorem zoomOption_some {read : σ → Option τ} {write : τ → σ → σ} {e : ε} {m : Exec τ ε α}
    {s : σ} {t : τ} (h : read s = some t) :
    zoomOption read write e m s = ((m t).1, write (m t).2 s) := by
  simp [zoomOption, h]

theorem zoomOption_none {read : σ → Option τ} {write : τ → σ → σ} {e : ε} {m : Exec τ ε α}
    {s : σ} (h : read s = none) : zoomOption read write e m s = (.error e, s) := by
  simp [zoomOption, h]

theorem bind_ok {m : Exec σ ε α} {f : α → Exec σ ε β} {s s' : σ} {a : α}
    (h : m s = (.ok a, s')) : (m >>= f) s = f a s' := by
  rw [bind_apply, h]

theorem bind_error {m : Exec σ ε α} {f : α → Exec σ ε β} {s s' : σ} {e : ε}
    (h : m s = (.error e, s')) : (m >>= f) s = (.error e, s') := by
  rw [bind_apply, h]

@[simp] theorem pure_bind (a : α) (f : α → Exec σ ε β) (s : σ) :
    ((pure a : Exec σ ε α) >>= f) s = f a s := rfl

@[simp] theorem get_bind (f : σ → Exec σ ε β) (s : σ) :
    ((get : Exec σ ε σ) >>= f) s = f s s := rfl

@[simp] theorem gets_bind (g : σ → α) (f : α → Exec σ ε β) (s : σ) :
    ((gets g : Exec σ ε α) >>= f) s = f (g s) s := rfl

@[simp] theorem modify_bind (g : σ → σ) (f : Unit → Exec σ ε β) (s : σ) :
    ((modify g : Exec σ ε Unit) >>= f) s = f () (g s) := rfl

@[simp] theorem update_bind (g : σ → α × σ) (f : α → Exec σ ε β) (s : σ) :
    ((update g : Exec σ ε α) >>= f) s = f (g s).1 (g s).2 := rfl

@[simp] theorem lift_ok_bind (a : α) (f : α → Exec σ ε β) (s : σ) :
    ((lift (.ok a) : Exec σ ε α) >>= f) s = f a s := rfl

@[simp] theorem lift_error_bind (e : ε) (f : α → Exec σ ε β) (s : σ) :
    ((lift (.error e) : Exec σ ε α) >>= f) s = (.error e, s) := rfl

@[simp] theorem fail_bind (e : ε) (f : α → Exec σ ε β) (s : σ) :
    ((fail e : Exec σ ε α) >>= f) s = (.error e, s) := rfl

/-- A sequence that returned ran its first part to a value and its second part from there. -/
theorem bind_eq_ok {m : Exec σ ε α} {f : α → Exec σ ε β} {s s'' : σ} {b : β} :
    (m >>= f) s = (.ok b, s'') ↔ ∃ a s', m s = (.ok a, s') ∧ f a s' = (.ok b, s'') := by
  rw [bind_apply]
  rcases m s with ⟨_ | a, s'⟩
  · simp
  · constructor
    · intro h
      exact ⟨a, s', rfl, h⟩
    · rintro ⟨a', t, ht, h⟩
      cases ht
      exact h

/-! ### Pre- and postconditions -/

/-- From every state of `P`, the outcome of `m` and the state it leaves satisfy `Q`. -/
def Sat (P : σ → Prop) (m : Exec σ ε α) (Q : Except ε α → σ → Prop) : Prop :=
  ∀ s, P s → Q (m s).1 (m s).2

/-- `m` keeps the states of `I`, whether it returns or fails. -/
def Keeps (I : σ → Prop) (m : Exec σ ε α) : Prop :=
  Sat I m fun _ => I

variable {P P' I : σ → Prop} {Q Q' : Except ε α → σ → Prop} {R : Except ε β → σ → Prop}

theorem Sat.mono {m : Exec σ ε α} (h : Sat P m Q) (hP : ∀ s, P' s → P s)
    (hQ : ∀ r s, Q r s → Q' r s) : Sat P' m Q' :=
  fun s hs => hQ _ _ (h s (hP s hs))

/-- **Sequencing**: the second part starts where the first returned, and an error of the first
part is the error of the whole. -/
theorem Sat.bind {m : Exec σ ε α} {f : α → Exec σ ε β} (hm : Sat P m Q)
    (hf : ∀ a, Sat (Q (.ok a)) (f a) R) (he : ∀ e s, Q (.error e) s → R (.error e) s) :
    Sat P (m >>= f) R := by
  intro s hs
  have h := hm s hs
  rw [bind_apply]
  rcases hms : m s with ⟨e | a, s'⟩ <;> rw [hms] at h
  · exact he e s' h
  · exact hf a s' h

theorem sat_pure {a : α} (h : ∀ s, P s → Q (.ok a) s) : Sat P (pure a : Exec σ ε α) Q := h

theorem sat_modify {f : σ → σ} {Q : Except ε Unit → σ → Prop} (h : ∀ s, P s → Q (.ok ()) (f s)) :
    Sat P (modify f : Exec σ ε Unit) Q := h

theorem Keeps.bind {m : Exec σ ε α} {f : α → Exec σ ε β} (hm : Keeps I m)
    (hf : ∀ a, Keeps I (f a)) : Keeps I (m >>= f) :=
  Sat.bind hm hf fun _ _ h => h

/-- Sequencing from a state in which the first part keeps `I`. -/
theorem Keeps.bind_from {m : Exec σ ε α} {f : α → Exec σ ε β} {s : σ} (hm : I (m s).2)
    (hf : ∀ a, Keeps I (f a)) : I ((m >>= f) s).2 := by
  rw [bind_apply]
  rcases hms : m s with ⟨e | a, s'⟩ <;> rw [hms] at hm
  · exact hm
  · exact hf a s' hm

theorem keeps_pure (a : α) : Keeps I (pure a : Exec σ ε α) := fun _ h => h

theorem keeps_fail (e : ε) : Keeps I (fail e : Exec σ ε α) := fun _ h => h

theorem keeps_lift (r : Except ε α) : Keeps I (lift r : Exec σ ε α) := fun _ h => h

theorem keeps_get : Keeps I (get : Exec σ ε σ) := fun _ h => h

theorem keeps_gets (g : σ → α) : Keeps I (gets g : Exec σ ε α) := fun _ h => h

/-- **A loop over a list** keeps what each of its rounds keeps. -/
theorem forEach_sat {f : α → Exec σ ε Unit} {l : List α} {I : σ → Prop}
    {Q : Except ε Unit → σ → Prop}
    (hf : ∀ a ∈ l, Sat I (f a) fun r s => match r with
      | .ok _ => I s
      | .error e => Q (.error e) s)
    (hQ : ∀ s, I s → Q (.ok ()) s) : Sat I (forEach f l) Q := by
  induction l with
  | nil => exact sat_pure hQ
  | cons a l ih =>
      refine Sat.bind (hf a (by simp)) (fun _ => ?_) fun e s h => h
      exact ih fun b hb => hf b (by simp [hb])

theorem forEach_keeps {f : α → Exec σ ε Unit} {l : List α} {I : σ → Prop}
    (hf : ∀ a ∈ l, Keeps I (f a)) : Keeps I (forEach f l) := by
  refine forEach_sat (fun a ha => ?_) fun _ h => h
  refine (hf a ha).mono (fun _ h => h) fun r s h => ?_
  cases r <;> exact h

/-- A loop over two lists is one loop after the other. -/
theorem forEach_append (f : α → Exec σ ε Unit) (l l' : List α) (s : σ) :
    forEach f (l ++ l') s = (forEach f l >>= fun _ => forEach f l') s := by
  induction l generalizing s with
  | nil => rfl
  | cons a l ih =>
    rw [List.cons_append, forEach, forEach, bind_apply, bind_apply, bind_apply]
    rcases f a s with ⟨e | _, s'⟩
    · rfl
    · exact ih s'

/-! ### Loops -/

/-- A round that asks for another decreases the measure. -/
def Decreases (μ : σ → ℕ) (body : Exec σ ε Bool) : Prop :=
  ∀ s s', body s = (.ok true, s') → μ s' < μ s

/-- Any fuel above the measure gives the same run. -/
theorem rounds_congr {μ : σ → ℕ} {body : Exec σ ε Bool} (h : Decreases μ body) {n m : ℕ} {s : σ}
    (hn : μ s < n) (hm : μ s < m) : rounds body n s = rounds body m s := by
  induction n generalizing m s with
  | zero => omega
  | succ n ih =>
    cases m with
    | zero => omega
    | succ m =>
      rw [rounds, rounds, bind_apply, bind_apply]
      rcases hb : body s with ⟨e | more, s'⟩
      · rfl
      cases more with
      | false => rfl
      | true =>
        have hlt := h s s' hb
        simpa using ih (m := m) (by omega) (by omega)

/-- **A loop unfolds**: when each round decreases the measure, the bound is never met. -/
theorem loop_eq {μ : σ → ℕ} {body : Exec σ ε Bool} (h : Decreases μ body) (s : σ) :
    loop μ body s = (do if ← body then loop μ body else pure ()) s := by
  rw [loop, rounds, bind_apply, bind_apply]
  rcases hb : body s with ⟨e | more, s'⟩
  · rfl
  cases more with
  | false => rfl
  | true => simpa [loop] using rounds_congr h (h s s' hb) (Nat.lt_succ_self (μ s'))

/-- **A loop** keeps what each of its rounds keeps. -/
theorem loop_keeps {μ : σ → ℕ} {body : Exec σ ε Bool} {I : σ → Prop} (h : Keeps I body) :
    Keeps I (loop μ body) := by
  have hrounds (n : ℕ) : Keeps I (rounds body n) := by
    induction n with
    | zero => exact keeps_pure ()
    | succ n ih =>
      refine Keeps.bind h fun more => ?_
      cases more with
      | false => exact keeps_pure ()
      | true => exact ih
  exact fun s hs => hrounds _ s hs

/-! ### What a run may do to the state -/

/-- From every state of `P`, steps lead to the state `m` leaves, and `Q` holds of the outcome. -/
def Moves (step : σ → σ → Prop) (P : σ → Prop) (m : Exec σ ε α) (Q : Except ε α → σ → Prop) :
    Prop :=
  ∀ s, P s → Relation.ReflTransGen step s (m s).2 ∧ Q (m s).1 (m s).2

variable {step : σ → σ → Prop}

theorem Moves.mono {m : Exec σ ε α} (h : Moves step P m Q) (hP : ∀ s, P' s → P s)
    (hQ : ∀ r s, Q r s → Q' r s) : Moves step P' m Q' :=
  fun s hs => ⟨(h s (hP s hs)).1, hQ _ _ (h s (hP s hs)).2⟩

/-- **Sequencing**, for what a run may do. -/
theorem Moves.bind {m : Exec σ ε α} {f : α → Exec σ ε β} (hm : Moves step P m Q)
    (hf : ∀ a, Moves step (Q (.ok a)) (f a) R) (he : ∀ e s, Q (.error e) s → R (.error e) s) :
    Moves step P (m >>= f) R := by
  intro s hs
  obtain ⟨hsteps, hq⟩ := hm s hs
  rw [bind_apply]
  rcases hms : m s with ⟨e | a, s'⟩ <;> rw [hms] at hsteps hq
  · exact ⟨hsteps, he e s' hq⟩
  · obtain ⟨hsteps', hr⟩ := hf a s' hq
    exact ⟨hsteps.trans hsteps', hr⟩

theorem moves_pure {a : α} (h : ∀ s, P s → Q (.ok a) s) : Moves step P (pure a : Exec σ ε α) Q :=
  fun s hs => ⟨.refl, h s hs⟩

/-- **A loop** moves as its rounds do, and ends in a state in which a round asked for no more. -/
theorem moves_loop {μ : σ → ℕ} {body : Exec σ ε Bool} {R : Except ε Unit → σ → Prop}
    (hbody : Moves step P body fun r s => match r with
      | .ok true => P s
      | .ok false => R (.ok ()) s
      | .error e => R (.error e) s)
    (hμ : ∀ s s', P s → body s = (.ok true, s') → μ s' < μ s) :
    Moves step P (loop μ body) R := by
  suffices h : ∀ n s, P s → μ s < n →
      Relation.ReflTransGen step s (rounds body n s).2 ∧ R (rounds body n s).1 (rounds body n s).2 by
    exact fun s hs => h (μ s + 1) s hs (Nat.lt_succ_self _)
  intro n
  induction n with
  | zero => intro s _ h; omega
  | succ n ih =>
    intro s hs hn
    obtain ⟨hsteps, hq⟩ := hbody s hs
    rw [rounds, bind_apply]
    rcases hb : body s with ⟨e | more, s'⟩ <;> rw [hb] at hsteps hq
    · exact ⟨hsteps, hq⟩
    cases more with
    | false => exact ⟨hsteps, hq⟩
    | true =>
      obtain ⟨hsteps', hr⟩ := ih s' hq (by have := hμ s s' hs hb; omega)
      exact ⟨hsteps.trans hsteps', hr⟩

end Exec

end Foundation

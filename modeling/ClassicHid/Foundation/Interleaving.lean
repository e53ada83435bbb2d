import Mathlib.Data.Nat.Notation

/-!
# Interleaved inputs of a machine

A machine whose inputs each belong to one key, and which treats an input by the part of its state
under that key alone, runs one independent machine for each key: whatever the order in which the
inputs of different keys arrive, the outputs under a key are those of its own inputs.

## Main definitions

* `outputs step s l`, `final step s l`: the outputs of a machine and its state after the inputs `l`
* `Localizes step key view part`: the machine is one machine `part` for each key

## Main results

* `outputs_append`, `final_append`: inputs fed in two parts
* `Localizes.outputs`, `Localizes.final`: an interleaving, seen from one key
-/

namespace Foundation

variable {σ τ ι ο κ : Type}

/-- The outputs of a machine, one for each input. -/
def outputs (step : σ → ι → ο × σ) : σ → List ι → List ο
  | _, [] => []
  | s, i :: l => (step s i).1 :: outputs step (step s i).2 l

/-- The state of a machine after its inputs. -/
def final (step : σ → ι → ο × σ) (s : σ) (l : List ι) : σ := l.foldl (fun s i => (step s i).2) s

section Machine

variable (step : σ → ι → ο × σ) (s : σ)

@[simp] theorem outputs_nil : outputs step s [] = [] := rfl

@[simp] theorem outputs_cons (i : ι) (l : List ι) :
    outputs step s (i :: l) = (step s i).1 :: outputs step (step s i).2 l := rfl

@[simp] theorem final_nil : final step s [] = s := rfl

@[simp] theorem final_cons (i : ι) (l : List ι) :
    final step s (i :: l) = final step (step s i).2 l := rfl

@[simp] theorem length_outputs (l : List ι) : (outputs step s l).length = l.length := by
  induction l generalizing s with
  | nil => rfl
  | cons i l ih => rw [outputs_cons, List.length_cons, List.length_cons, ih]

/-- Every output is that of an input. -/
theorem exists_zip_of_mem_outputs {step : σ → ι → ο × σ} {s : σ} {l : List ι} {o : ο}
    (h : o ∈ outputs step s l) : ∃ i, (i, o) ∈ l.zip (outputs step s l) := by
  have hzip : o ∈ (l.zip (outputs step s l)).map Prod.snd := by
    rwa [List.map_snd_zip (Nat.le_of_eq (length_outputs step s l))]
  obtain ⟨⟨i, o⟩, hio, rfl⟩ := List.mem_map.mp hzip
  exact ⟨i, hio⟩

theorem final_append (l l' : List ι) : final step s (l ++ l') = final step (final step s l) l' :=
  List.foldl_append

theorem outputs_append (l l' : List ι) :
    outputs step s (l ++ l') = outputs step s l ++ outputs step (final step s l) l' := by
  induction l generalizing s with
  | nil => rfl
  | cons i l ih => rw [List.cons_append, outputs_cons, outputs_cons, ih, final_cons, List.cons_append]

end Machine

variable [DecidableEq κ]

/-- An input is treated by the part of the state under its key, and changes that part only. -/
structure Localizes (step : σ → ι → ο × σ) (key : ι → κ) (view : κ → σ → τ)
    (part : τ → ι → ο × τ) : Prop where
  output : ∀ s i, (step s i).1 = (part (view (key i) s) i).1
  same : ∀ s i, view (key i) (step s i).2 = (part (view (key i) s) i).2
  other : ∀ s i k, k ≠ key i → view k (step s i).2 = view k s

/-- The outputs for the inputs of a key. -/
def outputsOf (step : σ → ι → ο × σ) (key : ι → κ) (s : σ) (l : List ι) (k : κ) : List ο :=
  ((l.zip (outputs step s l)).filter fun io => key io.1 = k).map (·.2)

variable {step : σ → ι → ο × σ} {key : ι → κ} {view : κ → σ → τ} {part : τ → ι → ο × τ}

/-- **An interleaving, seen from one key**: the outputs are those of the key's own inputs. -/
theorem Localizes.outputs (h : Localizes step key view part) (s : σ) (l : List ι) (k : κ) :
    outputsOf step key s l k =
      Foundation.outputs part (view k s) (l.filter fun i => key i = k) := by
  rw [outputsOf]
  induction l generalizing s with
  | nil => rfl
  | cons i l ih =>
    rw [outputs_cons, List.zip_cons_cons]
    by_cases hk : key i = k
    · subst hk
      rw [List.filter_cons_of_pos (by simp), List.map_cons, ih, List.filter_cons_of_pos (by simp),
        outputs_cons, h.output, h.same]
    · rw [List.filter_cons_of_neg (by simpa using hk), ih,
        List.filter_cons_of_neg (by simpa using hk), h.other s i k (Ne.symm hk)]

/-- The state under a key after an interleaving. -/
theorem Localizes.final (h : Localizes step key view part) (s : σ) (l : List ι) (k : κ) :
    view k (Foundation.final step s l) =
      Foundation.final part (view k s) (l.filter fun i => key i = k) := by
  induction l generalizing s with
  | nil => rfl
  | cons i l ih =>
    rw [final_cons, ih]
    by_cases hk : key i = k
    · subst hk
      rw [List.filter_cons_of_pos (by simp), final_cons, h.same]
    · rw [List.filter_cons_of_neg (by simpa using hk), h.other s i k (Ne.symm hk)]

end Foundation

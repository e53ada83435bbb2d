import Mathlib.Algebra.BigOperators.Group.List.Basic
import Mathlib.Algebra.Ring.Nat
import Std.Data.ExtTreeMap

/-!
# Sums over finite maps

The sum of a weight over the entries of a finite map, and how it changes when an entry is
inserted or erased.

## Main definitions

* `mapSum f m`: the sum of `f` over the values of `m`

## Main results

* `mapSum_eq_add_erase`: an entry counts its weight
* `mapSum_insert`: an inserted entry replaces the weight of the old one
-/

namespace Foundation

open Std (ExtTreeMap LawfulEqOrd ReflOrd TransOrd)

variable {α β : Type} [Ord α] [TransOrd α] [LawfulEqOrd α]

/-- Inserting an entry and erasing it again is erasing it. -/
theorem erase_insert_self (m : ExtTreeMap α β) (k : α) (v : β) :
    (m.insert k v).erase k = m.erase k := by
  apply ExtTreeMap.ext_getElem?
  intro k'
  rw [ExtTreeMap.getElem?_erase, ExtTreeMap.getElem?_erase, ExtTreeMap.getElem?_insert]
  split <;> rfl

/-- Inserting twice under one key keeps the second entry. -/
theorem insert_insert_self (m : ExtTreeMap α β) (k : α) (v v' : β) :
    (m.insert k v).insert k v' = m.insert k v' := by
  apply ExtTreeMap.ext_getElem?
  intro k'
  rw [ExtTreeMap.getElem?_insert, ExtTreeMap.getElem?_insert, ExtTreeMap.getElem?_insert]
  split <;> rfl

/-- Erasing an absent entry changes nothing. -/
theorem erase_of_none {m : ExtTreeMap α β} {k : α} (h : m[k]? = none) : m.erase k = m := by
  apply ExtTreeMap.ext_getElem?
  intro k'
  rw [ExtTreeMap.getElem?_erase]
  split
  · rename_i heq
    rw [← LawfulEqOrd.eq_of_compare heq, h]
  · rfl

theorem nodup_toList (m : ExtTreeMap α β) : m.toList.Nodup := by
  refine List.Pairwise.imp ?_ m.distinct_keys_toList
  rintro a b h rfl
  exact h (ReflOrd.compare_self)

/-- The entries of a map are one entry and the entries of the map without it. -/
theorem toList_perm_cons_erase {m : ExtTreeMap α β} {k : α} {v : β} (h : m[k]? = some v) :
    m.toList.Perm ((k, v) :: (m.erase k).toList) := by
  rw [List.perm_ext_iff_of_nodup (nodup_toList m)]
  · rintro ⟨k', v'⟩
    rw [List.mem_cons, ExtTreeMap.mem_toList_iff_getElem?_eq_some,
      ExtTreeMap.mem_toList_iff_getElem?_eq_some, ExtTreeMap.getElem?_erase]
    constructor
    · intro h'
      split
      · rename_i heq
        have hk := LawfulEqOrd.eq_of_compare heq
        subst hk
        rw [h] at h'
        left
        cases h'
        rfl
      · exact .inr h'
    · rintro (heq | h')
      · cases heq
        exact h
      · split at h'
        · cases h'
        · exact h'
  · refine List.nodup_cons.mpr ⟨?_, nodup_toList _⟩
    rw [ExtTreeMap.mem_toList_iff_getElem?_eq_some, ExtTreeMap.getElem?_erase_self]
    simp

/-- The sum of a weight over the values of a map. -/
def mapSum (f : β → ℕ) (m : ExtTreeMap α β) : ℕ := (m.toList.map fun entry => f entry.2).sum

omit [LawfulEqOrd α] in
@[simp] theorem mapSum_empty (f : β → ℕ) : mapSum f (∅ : ExtTreeMap α β) = 0 := rfl

/-- An entry counts its weight. -/
theorem mapSum_eq_add_erase (f : β → ℕ) {m : ExtTreeMap α β} {k : α} {v : β}
    (h : m[k]? = some v) : mapSum f m = f v + mapSum f (m.erase k) := by
  rw [mapSum, ((toList_perm_cons_erase h).map _).sum_eq, List.map_cons, List.sum_cons, mapSum]

/-- The weight of the entry at `k`, if any, and the sum without it make the sum. -/
theorem mapSum_erase (f : β → ℕ) (m : ExtTreeMap α β) (k : α) :
    (m[k]?).elim 0 f + mapSum f (m.erase k) = mapSum f m := by
  rcases h : m[k]? with _ | v
  · rw [erase_of_none h, Option.elim_none, Nat.zero_add]
  · rw [mapSum_eq_add_erase f h, Option.elim_some]

/-- An inserted entry replaces the weight of the old one. -/
theorem mapSum_insert (f : β → ℕ) (m : ExtTreeMap α β) (k : α) (v : β) :
    mapSum f (m.insert k v) + (m[k]?).elim 0 f = mapSum f m + f v := by
  have h : (m.insert k v)[k]? = some v := ExtTreeMap.getElem?_insert_self
  rw [mapSum_eq_add_erase f h, erase_insert_self, ← mapSum_erase f m k]
  omega

end Foundation

import Mathlib.Data.List.Basic

/-!
# Cutting a stream into items

A stream of items arrives in pieces that need not end where an item does. `cut` says which items
have arrived as a whole and what is left over.

## Main definitions

* `cut raw items bytes`: the items whose bytes have all been read, and the bytes after them

## Main results

* `cut_append`: reading more goes on from what was left over
* `cut_spec`: what was read is what has arrived and what is left over
-/

namespace Foundation

variable {α β : Type} (raw : α → List β)

/-- The items that have arrived as a whole in what was read of their stream, and the rest of what
was read. -/
def cut : List α → List β → List α × List β
  | [], bytes => ([], bytes)
  | item :: items, bytes =>
    if (raw item).length ≤ bytes.length then
      let (arrived, tail) := cut items (bytes.drop (raw item).length)
      (item :: arrived, tail)
    else ([], bytes)

variable {raw}

theorem cut_cons_of_le {item : α} (items : List α) {bytes : List β}
    (h : (raw item).length ≤ bytes.length) :
    cut raw (item :: items) bytes =
      (item :: (cut raw items (bytes.drop (raw item).length)).1,
        (cut raw items (bytes.drop (raw item).length)).2) :=
  if_pos h

theorem cut_cons_of_lt {item : α} (items : List α) {bytes : List β}
    (h : bytes.length < (raw item).length) : cut raw (item :: items) bytes = ([], bytes) :=
  if_neg (Nat.not_le.mpr h)

/-- The items that have arrived are the first ones. -/
theorem cut_arrived (raw : α → List β) (items : List α) (bytes : List β) :
    items = (cut raw items bytes).1 ++ items.drop (cut raw items bytes).1.length := by
  induction items generalizing bytes with
  | nil => rfl
  | cons item items ih =>
    rcases Nat.lt_or_ge bytes.length (raw item).length with h | h
    · simp [cut_cons_of_lt items h]
    · simp only [cut_cons_of_le items h, List.cons_append, List.length_cons, List.drop_succ_cons]
      exact congrArg (item :: ·) (ih _)

/-- **Reading more** goes on from what was left over. -/
theorem cut_append (items : List α) (bytes more : List β) :
    cut raw items (bytes ++ more) =
      let (arrived, tail) := cut raw items bytes
      let (later, tail') := cut raw (items.drop arrived.length) (tail ++ more)
      (arrived ++ later, tail') := by
  induction items generalizing bytes with
  | nil => rfl
  | cons item items ih =>
    rcases Nat.lt_or_ge bytes.length (raw item).length with h | h
    · simp [cut_cons_of_lt items h]
    · have hmore : (raw item).length ≤ (bytes ++ more).length := by
        rw [List.length_append]
        omega
      rw [cut_cons_of_le items hmore, cut_cons_of_le items h, List.drop_append_of_le_length h, ih]
      rfl

/-- What was read is what has arrived and what is left over. -/
theorem cut_spec {items : List α} {bytes : List β} (h : bytes <+: items.flatMap raw) :
    bytes = (cut raw items bytes).1.flatMap raw ++ (cut raw items bytes).2 := by
  induction items generalizing bytes with
  | nil => simp [cut]
  | cons item items ih =>
    rw [List.flatMap_cons] at h
    rcases Nat.lt_or_ge bytes.length (raw item).length with hlt | hle
    · simp [cut_cons_of_lt items hlt]
    · obtain ⟨rest, rfl⟩ : raw item <+: bytes :=
        List.prefix_of_prefix_length_le (List.prefix_append _ _) h hle
      rw [List.prefix_append_right_inj] at h
      rw [cut_cons_of_le items hle, List.drop_left]
      simp only [List.flatMap_cons, List.append_assoc]
      exact congrArg (raw item ++ ·) (ih h)

/-- Of a stream that was read to its end, every item has arrived and nothing is left over. -/
theorem cut_flatMap (items : List α) : cut raw items (items.flatMap raw) = (items, []) := by
  induction items with
  | nil => rfl
  | cons item items ih =>
    rw [List.flatMap_cons, cut_cons_of_le items (by simp), List.drop_left, ih]

/-- What is left over, with more of the stream after it, is the beginning of the items to come. -/
theorem cut_remaining {items : List α} {bytes more : List β}
    (h : bytes ++ more <+: items.flatMap raw) :
    (cut raw items bytes).2 ++ more <+:
      (items.drop (cut raw items bytes).1.length).flatMap raw := by
  have hbytes := cut_spec ((List.prefix_append bytes more).trans h)
  have hitems := congrArg (List.flatMap raw) (cut_arrived raw items bytes)
  rw [List.flatMap_append] at hitems
  rw [hitems, hbytes] at h
  rwa [List.append_assoc, ← hbytes, List.prefix_append_right_inj] at h

end Foundation

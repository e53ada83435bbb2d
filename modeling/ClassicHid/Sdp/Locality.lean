import ClassicHid.Sdp.Parsed

/-!
# Where an element is read

The parser looks at the bytes of an element and at no others. Each element takes at least its
header byte, so the loop over the elements of a container ends; the elements of a container that is
accepted take its value bytes, one after the other, and all of them.

## Main definitions

* `AgreeOn`: two byte strings have the same bytes between two positions
* `ElementLoop`: the loop over the elements of a container, without a bound on its rounds
* `Occupies`, `Fills`: the bytes of an element, and of the elements of a container

## Main results

* `elementLoop_parseElements`: the loop ends when each element takes a byte, with the result of the
  rounds that the parser counts
* `parseNested_advances`, `parseNested_occupies`, `parseNested_agreeOn`: what an element that is
  accepted was read from
* `parseAt_local`: progress, bounds and locality of the parser
-/

namespace ClassicHid

open Foundation

variable {data data' : Bytes} {first last : ℕ}

/-! ### Agreement -/

/-- The second byte string is long enough, and has the bytes of the first between two positions. -/
structure AgreeOn (first last : ℕ) (data data' : Bytes) : Prop where
  length : last ≤ data'.length
  same : ∀ i, first ≤ i → i < last → data'[i]? = data[i]?

theorem AgreeOn.mono {first' last' : ℕ} (h : AgreeOn first last data data')
    (hfirst : first ≤ first') (hlast : last' ≤ last) : AgreeOn first' last' data data' where
  length := Nat.le_trans hlast h.length
  same i hi hlt := h.same i (Nat.le_trans hfirst hi) (Nat.lt_of_lt_of_le hlt hlast)

/-- A part of the agreement is the same in both. -/
theorem AgreeOn.slice {i n : ℕ} {s : Bytes} (h : AgreeOn first last data data')
    (hs : slice data i n = some s) (hfirst : first ≤ i) (hlast : i + n ≤ last) :
    Foundation.slice data' i n = some s := by
  rw [Foundation.slice] at hs
  split at hs
  · cases hs
    rw [Foundation.slice, if_pos (Nat.le_trans hlast h.length)]
    congr 1
    apply List.ext_getElem?
    intro j
    rw [List.getElem?_take, List.getElem?_take]
    split
    · rename_i hj
      rw [List.getElem?_drop, List.getElem?_drop]
      exact h.same (i + j) (by omega) (by omega)
    · rfl
  · cases hs

theorem slice_length_le {i n : ℕ} {s : Bytes} (h : slice data i n = some s) :
    i + n ≤ data.length := by
  rw [slice] at h
  split at h
  · assumption
  · cases h

/-! ### Sizes -/

/-- A size takes bytes of its own or none, and is read from these. -/
theorem parseSize_spec {pos valueSize valueStart : ℕ} {elementType sizeIndex : UInt8}
    (h : parseSize data pos elementType sizeIndex = .ok (valueSize, valueStart)) :
    pos ≤ valueStart ∧ ∀ data', AgreeOn pos valueStart data data' →
      parseSize data' pos elementType sizeIndex = .ok (valueSize, valueStart) := by
  unfold parseSize at h
  split at h
  case h_6 | h_7 | h_8 =>
    split at h
    · rename_i hslice
      cases h
      refine ⟨by omega, fun data' hagree => ?_⟩
      have hslice' := hagree.slice hslice (Nat.le_refl _) (Nat.le_refl _)
      unfold parseSize
      simp only [hslice']
    · cases h
  all_goals
    cases h
    exact ⟨Nat.le_refl _, fun data' _ => rfl⟩

/-! ### Values -/

/-- The elements of a container. -/
def DataElement.items? : DataElement → Option (List DataElement)
  | .sequence elements | .alternative elements => some elements
  | _ => none

variable {elementType : UInt8} {valueSize : ℕ} {value : Bytes} {element : DataElement}
  {children children' : Except SdpError (List DataElement)} {elements : List DataElement}

/-- The elements of a container are those its value was parsed into. -/
theorem parseValue_items (h : parseValue elementType valueSize value children = .ok element)
    (hitems : element.items? = some elements) : children = .ok elements := by
  unfold parseValue at h
  split at h
  case h_7 | h_8 =>
    cases children with
    | error e => cases h
    | ok elements' =>
      cases h
      cases hitems
      rfl
  case h_4 | h_9 =>
    split at h
    · cases h
      cases hitems
    · cases h
  all_goals
    cases h
    try cases hitems

/-- A value that is accepted depends on the elements in it only. -/
theorem parseValue_mono (h : parseValue elementType valueSize value children = .ok element)
    (hchildren : ∀ elements, children = .ok elements → children' = .ok elements) :
    parseValue elementType valueSize value children' = .ok element := by
  cases children with
  | ok elements => rwa [hchildren elements rfl]
  | error e =>
    unfold parseValue at h ⊢
    split at h
    case h_7 | h_8 => cases h
    all_goals exact h

/-! ### The loop over the elements of a container -/

/-- The loop over the elements of a container, without a bound on its rounds: as long as the end of
the value is not reached, an element is parsed. -/
inductive ElementLoop (parse : ℕ → Except SdpError (ℕ × DataElement)) (valueEnd : ℕ) :
    ℕ → Except SdpError (ℕ × List DataElement) → Prop
  | done {inner : ℕ} (h : valueEnd ≤ inner) : ElementLoop parse valueEnd inner (.ok (inner, []))
  | refused {inner : ℕ} {error : SdpError} (h : inner < valueEnd)
      (hparse : parse inner = .error error) : ElementLoop parse valueEnd inner (.error error)
  | next {inner next : ℕ} {child : DataElement} {result : Except SdpError (ℕ × List DataElement)}
      (h : inner < valueEnd) (hparse : parse inner = .ok (next, child))
      (hrest : ElementLoop parse valueEnd next result) :
      ElementLoop parse valueEnd inner
        (result.map fun (last, elements) => (last, child :: elements))

variable {parse parse' : ℕ → Except SdpError (ℕ × DataElement)} {valueEnd rounds inner : ℕ}

/-- A round of the loop. -/
theorem parseElements_next {next : ℕ} {child : DataElement} (h : inner < valueEnd)
    (hparse : parse inner = .ok (next, child)) :
    parseElements parse valueEnd (rounds + 1) inner =
      (parseElements parse valueEnd rounds next).map
        fun (last, elements) => (last, child :: elements) := by
  rw [parseElements, if_pos h, hparse]
  show (parseElements parse valueEnd rounds next >>= _) = _
  cases parseElements parse valueEnd rounds next <;> rfl

/-- **The loop ends** when each element takes a byte, with the result of as many rounds as there are
bytes left, or of more. -/
theorem elementLoop_parseElements
    (hadvances : ∀ inner next child, parse inner = .ok (next, child) → inner < next)
    (hrounds : valueEnd ≤ inner + rounds) :
    ElementLoop parse valueEnd inner (parseElements parse valueEnd rounds inner) := by
  induction rounds generalizing inner with
  | zero => exact .done hrounds
  | succ rounds ih =>
    by_cases hinner : inner < valueEnd
    · rcases hparse : parse inner with error | ⟨next, child⟩
      · rw [parseElements, if_pos hinner, hparse]
        exact .refused hinner hparse
      · have hnext := hadvances inner next child hparse
        have hbound : valueEnd ≤ next + rounds := by omega
        rw [parseElements_next hinner hparse]
        exact .next hinner hparse (ih hbound)
    · rw [parseElements, if_neg hinner]
      exact .done (Nat.not_lt.mp hinner)

/-- A round of the loop that is accepted. -/
theorem parseElements_succ_eq_ok
    (h : parseElements parse valueEnd (rounds + 1) inner = .ok (last, elements)) :
    (¬ inner < valueEnd ∧ last = inner ∧ elements = []) ∨
      inner < valueEnd ∧ ∃ next child rest, parse inner = .ok (next, child) ∧
        parseElements parse valueEnd rounds next = .ok (last, rest) ∧ elements = child :: rest := by
  rw [parseElements] at h
  split at h
  · rename_i hinner
    obtain ⟨⟨next, child⟩, hparse, h⟩ := except_bind_eq_ok.mp h
    obtain ⟨⟨last', rest⟩, hrest, h⟩ := except_bind_eq_ok.mp h
    cases h
    exact .inr ⟨hinner, next, child, rest, hparse, hrest, rfl⟩
  · rename_i hinner
    cases h
    exact .inl ⟨hinner, rfl, rfl⟩

/-- The loop only goes forward. -/
theorem le_of_parseElements
    (hadvances : ∀ inner next child, parse inner = .ok (next, child) → inner < next)
    (h : parseElements parse valueEnd rounds inner = .ok (last, elements)) : inner ≤ last := by
  induction rounds generalizing inner elements with
  | zero =>
    cases h
    exact Nat.le_refl _
  | succ rounds ih =>
    rcases parseElements_succ_eq_ok h with ⟨-, rfl, -⟩ | ⟨-, next, child, rest, hparse, hrest, -⟩
    · exact Nat.le_refl _
    · exact Nat.le_trans (Nat.le_of_lt (hadvances inner next child hparse)) (ih hrest)

/-- A parser that agrees on what the loop accepted accepts the same. -/
theorem parseElements_congr
    (hadvances : ∀ inner next child, parse inner = .ok (next, child) → inner < next)
    (h : parseElements parse valueEnd rounds inner = .ok (last, elements))
    (hagree : ∀ pos next child, inner ≤ pos → next ≤ last → parse pos = .ok (next, child) →
      parse' pos = .ok (next, child)) :
    parseElements parse' valueEnd rounds inner = .ok (last, elements) := by
  induction rounds generalizing inner elements with
  | zero =>
    cases h
    rfl
  | succ rounds ih =>
    rcases parseElements_succ_eq_ok h with
      ⟨hinner, rfl, rfl⟩ | ⟨hinner, next, child, rest, hparse, hrest, rfl⟩
    · rw [parseElements, if_neg hinner]
    · have hnext := hadvances inner next child hparse
      have hlast := le_of_parseElements hadvances hrest
      have hrest' := ih hrest fun pos next child hpos =>
        hagree pos next child (Nat.le_trans (Nat.le_of_lt hnext) hpos)
      rw [parseElements_next hinner (hagree inner next child (Nat.le_refl _) hlast hparse), hrest']
      rfl

/-! ### The bytes of an element -/

mutual

/-- The element takes the bytes from one position to another: its header, its size, and its value,
which the elements of a container fill. -/
inductive Occupies (data : Bytes) : ℕ → ℕ → DataElement → Prop
  | intro {offset valueSize valueStart : ℕ} {header : UInt8} {element : DataElement}
      (hheader : slice data offset 1 = some [header])
      (hsize : parseSize data (offset + 1) (header >>> 3) (header &&& 7) =
        .ok (valueSize, valueStart))
      (hend : valueStart + valueSize ≤ data.length)
      (hitems : ∀ elements, element.items? = some elements →
        Fills data valueStart (valueStart + valueSize) elements) :
      Occupies data offset (valueStart + valueSize) element

/-- The elements take the bytes from one position to another, one after the other. -/
inductive Fills (data : Bytes) : ℕ → ℕ → List DataElement → Prop
  | nil {position : ℕ} : Fills data position position []
  | cons {start next last : ℕ} {child : DataElement} {rest : List DataElement}
      (hchild : Occupies data start next child) (hrest : Fills data next last rest) :
      Fills data start last (child :: rest)

end

/-- The elements that a loop accepts lie one after the other. -/
theorem fills_of_parseElements
    (hoccupies : ∀ inner next child, parse inner = .ok (next, child) →
      Occupies data inner next child)
    (h : parseElements parse valueEnd rounds inner = .ok (last, elements)) :
    Fills data inner last elements := by
  induction rounds generalizing inner elements with
  | zero =>
    cases h
    exact .nil
  | succ rounds ih =>
    rcases parseElements_succ_eq_ok h with
      ⟨-, rfl, rfl⟩ | ⟨-, next, child, rest, hparse, hrest, rfl⟩
    · exact .nil
    · exact .cons (hoccupies inner next child hparse) (ih hrest)

/-- The elements of a container are accepted when the loop over them stops at its end. -/
theorem parseChildren_succ_eq_ok {nesting valueStart : ℕ} :
    parseChildren data (nesting + 1) valueStart valueSize = .ok elements ↔
      parseElements (parseNested data nesting) (valueStart + valueSize) valueSize valueStart =
        .ok (valueStart + valueSize, elements) := by
  rw [parseChildren]
  constructor
  · intro h
    obtain ⟨⟨last, parsed⟩, hparsed, h⟩ := except_bind_eq_ok.mp h
    dsimp only at h
    split at h
    · cases h
    · rename_i hlast
      cases h
      rw [hparsed, not_not.mp hlast]
  · intro h
    rw [h]
    simp only [Bind.bind, Except.bind, ne_eq, not_true, if_false]
    rfl

/-! ### Progress, bounds and locality -/

variable {nesting offset next depth : ℕ}

/-- **Progress and bounds.** -/
theorem parseNested_advances (h : parseNested data nesting offset = .ok (next, element)) :
    offset < next ∧ next ≤ data.length := by
  obtain ⟨header, valueSize, valueStart, value, -, hsize, hvalue, rfl, -⟩ := parseNested_eq_ok h
  have hstart := (parseSize_spec hsize).1
  have hend := slice_length_le hvalue
  omega

/-- **The elements of a container fill its value.** -/
theorem parseNested_occupies (h : parseNested data nesting offset = .ok (next, element)) :
    Occupies data offset next element := by
  induction nesting generalizing offset next element with
  | zero =>
    obtain ⟨header, valueSize, valueStart, value, hheader, hsize, hvalue, rfl, helement⟩ :=
      parseNested_eq_ok h
    refine .intro hheader hsize (slice_length_le hvalue) ?_
    intro elements hitems
    cases parseValue_items helement hitems
  | succ nesting ih =>
    obtain ⟨header, valueSize, valueStart, value, hheader, hsize, hvalue, rfl, helement⟩ :=
      parseNested_eq_ok h
    refine .intro hheader hsize (slice_length_le hvalue) ?_
    intro elements hitems
    have hloop := parseChildren_succ_eq_ok.mp (parseValue_items helement hitems)
    exact fills_of_parseElements (fun _ _ _ => ih) hloop

/-- **Locality.** -/
theorem parseNested_agreeOn (h : parseNested data nesting offset = .ok (next, element))
    (hagree : AgreeOn offset next data data') :
    parseNested data' nesting offset = .ok (next, element) := by
  induction nesting generalizing offset next element with
  | zero =>
    obtain ⟨header, valueSize, valueStart, value, hheader, hsize, hvalue, rfl, helement⟩ :=
      parseNested_eq_ok h
    obtain ⟨hstart, hlocal⟩ := parseSize_spec hsize
    have hvalue' := hagree.slice hvalue (by omega) (Nat.le_refl _)
    rw [parseNested_of_parts (hagree.slice hheader (Nat.le_refl _) (by omega))
      (hlocal data' (hagree.mono (by omega) (by omega))) hvalue',
      parseValue_mono helement fun elements hchildren => by cases hchildren]
    rfl
  | succ nesting ih =>
    obtain ⟨header, valueSize, valueStart, value, hheader, hsize, hvalue, rfl, helement⟩ :=
      parseNested_eq_ok h
    obtain ⟨hstart, hlocal⟩ := parseSize_spec hsize
    have hvalue' := hagree.slice hvalue (by omega) (Nat.le_refl _)
    have hchildren (elements : List DataElement)
        (h : parseChildren data (nesting + 1) valueStart valueSize = .ok elements) :
        parseChildren data' (nesting + 1) valueStart valueSize = .ok elements := by
      rw [parseChildren_succ_eq_ok] at h ⊢
      refine parseElements_congr (fun _ _ _ h => (parseNested_advances h).1) h ?_
      intro pos next child hpos hnext hparse
      exact ih hparse (hagree.mono (by omega) hnext)
    rw [parseNested_of_parts (hagree.slice hheader (Nat.le_refl _) (by omega))
      (hlocal data' (hagree.mono (by omega) (by omega))) hvalue',
      parseValue_mono helement hchildren]
    rfl

/-- **The parser of data elements** ends, the loop over the elements of each container included.
What it accepts lies behind its offset and within the data, the elements of each container take its
value bytes, the nesting is bounded, and the bytes of the element alone decide. -/
theorem parseAt_local (data : Bytes) (offset depth : ℕ) :
    (∀ valueStart valueSize,
      ElementLoop (fun inner => parseAt data inner (depth + 1)) (valueStart + valueSize) valueStart
        (parseElements (fun inner => parseAt data inner (depth + 1)) (valueStart + valueSize)
          valueSize valueStart)) ∧
    ∀ next element, parseAt data offset depth = .ok (next, element) →
      offset < next ∧ next ≤ data.length ∧ Occupies data offset next element ∧
        element.nesting ≤ 32 - depth ∧
        ∀ data' : Bytes, next ≤ data'.length →
          (∀ i, offset ≤ i → i < next → data'[i]? = data[i]?) →
          parseAt data' offset depth = .ok (next, element) := by
  constructor
  · intro valueStart valueSize
    exact elementLoop_parseElements (fun inner next child h => (parseNested_advances h).1)
      (Nat.le_refl _)
  · intro next element h
    obtain ⟨hadvances, hbound⟩ := parseNested_advances h
    refine ⟨hadvances, hbound, parseNested_occupies h, DataElement.nesting_of_parseNested h, ?_⟩
    intro data' hlength hsame
    exact parseNested_agreeOn h ⟨hlength, hsame⟩

end ClassicHid

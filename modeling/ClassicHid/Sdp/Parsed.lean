import ClassicHid.Sdp.RoundTrip

/-!
# Parsed data elements are written back

Whether an element that the parser returns has a wire form of its own can be read off the bytes it
was parsed from. The parser takes an integer of any length and keeps the low byte of the length, so
an integer is written back only when that byte is a width of the wire form; and a container of a
short form may outgrow its length field when its items are written with explicit lengths.

## Main definitions

* `DataElement.integersFit`: every integer of an element has a valid size and fits it
* `writtenLength`: the length of the wire form of the element at an offset, from the bytes there
* `Writable`: whether there is one

## Main results

* `DataElement.nesting_of_parseNested`: a parsed element is not nested too deep
* `writtenLength_of_parseNested`: the bytes tell the length of the wire form
* `DataElement.parsed_element_valid_iff`: when a parsed element is a valid one
-/

namespace ClassicHid

open Foundation

/-! ### Valid integers -/

mutual

/-- Every integer of an element has a size of the wire form and a value that fits it. -/
def DataElement.integersFit : DataElement → Bool
  | .unsignedInteger value size => validIntegerSize size && value < 256 ^ size.toNat
  | .signedInteger value size =>
    validIntegerSize size && -(2 ^ (8 * size.toNat - 1)) ≤ value &&
      value ≤ 2 ^ (8 * size.toNat - 1) - 1
  | .sequence elements | .alternative elements => listIntegersFit elements
  | _ => true

def DataElement.listIntegersFit : List DataElement → Bool
  | [] => true
  | element :: elements => element.integersFit && listIntegersFit elements

end

/-- A size of the wire form is one of five. -/
theorem validIntegerSize_iff {size : UInt8} :
    validIntegerSize size = true ↔ size.toNat ∈ [1, 2, 4, 8, 16] := by
  have hnat (n : UInt8) : size = n ↔ size.toNat = n.toNat := UInt8.toNat_inj.symm
  simp only [validIntegerSize, Bool.or_eq_true, decide_eq_true_eq, hnat, List.mem_cons,
    List.not_mem_nil, or_false, or_assoc]
  rfl

theorem unsignedToBytes_isOk_iff {value : ℕ} {size : UInt8} :
    (∃ bytes, unsignedToBytes value size = .ok bytes) ↔
      (DataElement.unsignedInteger value size).integersFit = true := by
  unfold unsignedToBytes
  rw [DataElement.integersFit]
  by_cases hvalid : validIntegerSize size = true
  · by_cases hfits : value ≥ 256 ^ size.toNat
    · simp [hvalid, hfits]
    · simp [hvalid, hfits, Nat.lt_of_not_le hfits]
  · simp [hvalid]

theorem signedToBytes_isOk_iff {value : ℤ} {size : UInt8} :
    (∃ bytes, signedToBytes value size = .ok bytes) ↔
      (DataElement.signedInteger value size).integersFit = true := by
  unfold signedToBytes
  rw [DataElement.integersFit]
  by_cases hvalid : validIntegerSize size = true
  · by_cases hrange : value < -(2 ^ (8 * size.toNat - 1)) ∨ value > 2 ^ (8 * size.toNat - 1) - 1
    · have hmisfit : ¬ (-(2 ^ (8 * size.toNat - 1)) ≤ value ∧
          value ≤ 2 ^ (8 * size.toNat - 1) - 1) := by omega
      simpa only [hvalid, Bool.not_true, Bool.false_eq_true, if_false, if_pos hrange, reduceCtorEq,
        exists_false, Bool.true_and, Bool.and_eq_true, decide_eq_true_eq, false_iff] using hmisfit
    · have hfit : -(2 ^ (8 * size.toNat - 1)) ≤ value ∧
          value ≤ 2 ^ (8 * size.toNat - 1) - 1 := by omega
      simpa only [hvalid, Bool.not_true, Bool.false_eq_true, if_false, if_neg hrange,
        Except.ok.injEq, exists_eq', Bool.true_and, Bool.and_eq_true, decide_eq_true_eq,
        true_iff] using hfit
  · simp [hvalid]

/-- The integers of an element with a wire form are valid ones. -/
theorem DataElement.integersFit_of_toBytes (element : DataElement) {bytes : Bytes}
    (h : element.toBytes = .ok bytes) : element.integersFit = true := by
  have hlist (elements : List DataElement) (value : Bytes)
      (hvalue : listToBytes elements = .ok value)
      (hfit : ∀ element ∈ elements, ∀ bytes, element.toBytes = .ok bytes →
        element.integersFit = true) : listIntegersFit elements = true := by
    induction elements generalizing value with
    | nil => rfl
    | cons first elements ih =>
      obtain ⟨_, rest, hfirst, hrest, -⟩ := listToBytes_cons hvalue
      rw [listIntegersFit, hfit first (by simp) _ hfirst,
        ih rest hrest fun e he => hfit e (by simp [he])]
      rfl
  match element with
  | .nil | .uuid _ | .textString _ | .boolean _ | .url _ => simp only [integersFit]
  | .unsignedInteger value size =>
    rw [toBytes, except_bind_eq_ok] at h
    obtain ⟨data, hdata, -⟩ := h
    exact unsignedToBytes_isOk_iff.mp ⟨data, hdata⟩
  | .signedInteger value size =>
    rw [toBytes, except_bind_eq_ok] at h
    obtain ⟨data, hdata, -⟩ := h
    exact signedToBytes_isOk_iff.mp ⟨data, hdata⟩
  | .sequence elements | .alternative elements =>
    rw [toBytes, except_bind_eq_ok] at h
    obtain ⟨value, hvalue, -⟩ := h
    rw [integersFit]
    exact hlist elements value hvalue fun e _ _ he => e.integersFit_of_toBytes he
termination_by sizeOf element

/-! ### The wire form, read off the bytes -/

/-- The length of a variable-length element with `size` bytes of value. -/
def framedLength (size : ℕ) : Option ℕ :=
  if size ≤ 0xFF then some (size + 2)
  else if size ≤ 0xFFFF then some (size + 3)
  else if size ≤ 0xFFFFFFFF then some (size + 5)
  else none

/-- The length of an integer that is written in `width` bytes, if it can be. -/
def integerLength (width : ℕ) (fits : Bool) : Option ℕ :=
  if width ∈ [1, 2, 4, 8, 16] ∧ fits = true then some (width + 1) else none

/-- The length of the wire form of an element with the given type and value bytes; `items` is that
of the items of a container. -/
def valueLength (elementType : UInt8) (value : Bytes) (items : Option ℕ) : Option ℕ :=
  let width := value.length % 256
  match elementType with
  | 0 => some 1
  | 1 => integerLength width (beToU128 value < 256 ^ width)
  | 2 => integerLength width
      (-(2 ^ (8 * width - 1)) ≤ beToI128 value && beToI128 value ≤ 2 ^ (8 * width - 1) - 1)
  | 3 => some (value.length + 1)
  | 4 | 8 => framedLength value.length
  | 5 => some 2
  | 6 | 7 => items.bind framedLength
  | _ => none

/-- The length of the wire forms of the elements from `inner` on, up to `valueEnd`. -/
def itemsLength (written : ℕ → Option (ℕ × ℕ)) (valueEnd : ℕ) : ℕ → ℕ → Option ℕ
  | 0, _ => some 0
  | rounds + 1, inner =>
    if inner < valueEnd then do
      let (next, first) ← written inner
      (itemsLength written valueEnd rounds next).map (first + ·)
    else some 0

/-- The end of the element at `offset` and the length of its wire form, if it has one. -/
def writtenLength (data : Bytes) (nesting offset : ℕ) : Option (ℕ × ℕ) :=
  match slice data offset 1 with
  | some [header] =>
    match parseSize data (offset + 1) (header >>> 3) (header &&& 7) with
    | .ok (valueSize, valueStart) =>
      match slice data valueStart valueSize with
      | some value =>
        let items : Option ℕ :=
          match nesting with
          | 0 => none
          | nesting + 1 =>
            itemsLength (writtenLength data nesting) (valueStart + valueSize) valueSize valueStart
        (valueLength (header >>> 3) value items).map (valueStart + valueSize, ·)
      | none => none
    | .error _ => none
  | _ => none

/-- The bytes at `offset` spell an element with a wire form: every integer in it has, as its size
is kept, a width of 1, 2, 4, 8 or 16 bytes and a value that fits, and no container in it outgrows
a length of four bytes. -/
def Writable (data : Bytes) (offset : ℕ) : Prop :=
  (writtenLength data maxNesting offset).isSome

instance (data : Bytes) (offset : ℕ) : Decidable (Writable data offset) :=
  inferInstanceAs (Decidable (_ = true))

/-! ### Lengths of wire forms -/

/-- The length of a result that may have failed. -/
def okLength (result : Except SdpError Bytes) : Option ℕ := result.toOption.map List.length

@[simp] theorem okLength_ok (bytes : Bytes) : okLength (.ok bytes) = some bytes.length := rfl

@[simp] theorem okLength_error (e : SdpError) : okLength (.error e) = none := rfl

theorem okLength_variableElement (typeCode : UInt8) (value : Bytes) :
    okLength (variableElement typeCode value) = framedLength value.length := by
  unfold variableElement variableSizeHeader framedLength
  split
  · simp [Bind.bind, Except.bind, pure, Except.pure]
  split
  · simp [Bind.bind, Except.bind, pure, Except.pure, Nat.add_comm 2]
  split
  · simp [Bind.bind, Except.bind, pure, Except.pure, Nat.add_comm 4]
  · rfl

theorem okLength_fixedElement {value : Bytes} (typeCode : UInt8)
    (h : value.length ∈ [1, 2, 4, 8, 16]) :
    okLength (fixedElement typeCode value) = some (value.length + 1) := by
  have hindex : ∃ sizeIndex, fixedSizeIndex value.length = .ok sizeIndex := by
    simp only [List.mem_cons, List.not_mem_nil, or_false] at h
    rcases h with h | h | h | h | h <;> rw [h] <;> exact ⟨_, rfl⟩
  obtain ⟨sizeIndex, hindex⟩ := hindex
  rw [fixedElement, hindex]
  rfl

theorem okLength_listToBytes_cons (element : DataElement) (elements : List DataElement) :
    okLength (DataElement.listToBytes (element :: elements)) =
      (okLength element.toBytes).bind fun first =>
        (okLength (DataElement.listToBytes elements)).map (first + ·) := by
  rw [DataElement.listToBytes]
  cases element.toBytes with
  | error e => rfl
  | ok first =>
    cases DataElement.listToBytes elements with
    | error e => rfl
    | ok rest => simp [Bind.bind, Except.bind, pure, Except.pure]

/-- A container is as long as its items and the header. -/
theorem okLength_container (typeCode : UInt8) (elements : List DataElement) :
    okLength (DataElement.listToBytes elements >>= variableElement typeCode) =
      (okLength (DataElement.listToBytes elements)).bind framedLength := by
  cases DataElement.listToBytes elements with
  | error e => rfl
  | ok value => exact okLength_variableElement typeCode value

/-- An integer is written in its size when it is valid. -/
theorem okLength_unsignedInteger (value : ℕ) (size : UInt8) :
    okLength (DataElement.unsignedInteger value size).toBytes =
      integerLength size.toNat (value < 256 ^ size.toNat) := by
  rw [DataElement.toBytes, integerLength]
  split
  · rename_i hfits
    have hvalid := validIntegerSize_iff.mpr hfits.1
    have hvalue : (DataElement.unsignedInteger value size).integersFit = true := by
      rw [DataElement.integersFit, hvalid, hfits.2]
      rfl
    obtain ⟨data, hdata⟩ := unsignedToBytes_isOk_iff.mpr hvalue
    obtain ⟨rfl, -⟩ := unsignedToBytes_spec hdata
    have hlength := length_natToBe value size.toNat
    rw [hdata]
    refine (okLength_fixedElement 1 ?_).trans ?_
    · rw [hlength]
      exact hfits.1
    · rw [hlength]
  · rename_i hfits
    cases hdata : unsignedToBytes value size with
    | error e => rfl
    | ok data =>
      refine absurd ?_ hfits
      have hvalue := unsignedToBytes_isOk_iff.mp ⟨data, hdata⟩
      rw [DataElement.integersFit, Bool.and_eq_true] at hvalue
      exact ⟨validIntegerSize_iff.mp hvalue.1, hvalue.2⟩

theorem okLength_signedInteger (value : ℤ) (size : UInt8) :
    okLength (DataElement.signedInteger value size).toBytes =
      integerLength size.toNat
        (-(2 ^ (8 * size.toNat - 1)) ≤ value && value ≤ 2 ^ (8 * size.toNat - 1) - 1) := by
  rw [DataElement.toBytes, integerLength]
  split
  · rename_i hfits
    have hvalid := validIntegerSize_iff.mpr hfits.1
    have hvalue : (DataElement.signedInteger value size).integersFit = true := by
      rw [DataElement.integersFit, hvalid, Bool.true_and]
      exact hfits.2
    obtain ⟨data, hdata⟩ := signedToBytes_isOk_iff.mpr hvalue
    obtain ⟨rfl, -⟩ := signedToBytes_spec hdata
    have hlength := length_natToBe (value % 256 ^ size.toNat).toNat size.toNat
    rw [hdata]
    refine (okLength_fixedElement 2 ?_).trans ?_
    · rw [hlength]
      exact hfits.1
    · rw [hlength]
  · rename_i hfits
    cases hdata : signedToBytes value size with
    | error e => rfl
    | ok data =>
      refine absurd ?_ hfits
      have hvalue := signedToBytes_isOk_iff.mp ⟨data, hdata⟩
      rw [DataElement.integersFit, Bool.and_assoc, Bool.and_eq_true] at hvalue
      exact ⟨validIntegerSize_iff.mp hvalue.1, hvalue.2⟩

/-! ### Parsed elements -/

/-- What a parsed element was read from. -/
theorem parseNested_eq_ok {data : Bytes} {nesting offset next : ℕ} {element : DataElement}
    (h : parseNested data nesting offset = .ok (next, element)) :
    ∃ header valueSize valueStart value, slice data offset 1 = some [header] ∧
      parseSize data (offset + 1) (header >>> 3) (header &&& 7) = .ok (valueSize, valueStart) ∧
      slice data valueStart valueSize = some value ∧ next = valueStart + valueSize ∧
      parseValue (header >>> 3) valueSize value
        (parseChildren data nesting valueStart valueSize) = .ok element := by
  have hparse := h
  rw [parseNested] at h
  split at h
  · rename_i header hheader
    rw [except_bind_eq_ok] at h
    obtain ⟨⟨valueSize, valueStart⟩, hsize, h⟩ := h
    cases hvalue : slice data valueStart valueSize with
    | none =>
      simp only [hvalue] at h
      cases h
    | some value =>
      rw [parseNested_of_parts hheader hsize hvalue] at hparse
      cases helement : parseValue (header >>> 3) valueSize value
          (parseChildren data nesting valueStart valueSize) with
      | error e =>
        rw [helement] at hparse
        cases hparse
      | ok parsed =>
        rw [helement] at hparse
        cases hparse
        exact ⟨header, valueSize, valueStart, value, hheader, hsize, hvalue, rfl, helement⟩
  · cases h

/-- What a parsed list of elements was read from. -/
theorem parseChildren_eq_ok {data : Bytes} {nesting valueStart valueSize : ℕ}
    {elements : List DataElement}
    (h : parseChildren data nesting valueStart valueSize = .ok elements) :
    ∃ nesting', nesting = nesting' + 1 ∧ ∃ last,
      parseElements (parseNested data nesting') (valueStart + valueSize) valueSize valueStart =
        .ok (last, elements) := by
  cases nesting with
  | zero => cases h
  | succ nesting =>
    rw [parseChildren, except_bind_eq_ok] at h
    obtain ⟨⟨last, parsed⟩, hparsed, h⟩ := h
    dsimp only at h
    split at h
    · cases h
    · cases h
      exact ⟨nesting, rfl, last, hparsed⟩

/-- The wire form of a parsed element is as long as its type and its value say. -/
theorem okLength_of_parseValue {elementType : UInt8} {valueSize : ℕ} {value : Bytes}
    {children : Except SdpError (List DataElement)} {items : Option ℕ} {element : DataElement}
    (hvalue : value.length = valueSize)
    (hitems : ∀ elements, children = .ok elements →
      items = okLength (DataElement.listToBytes elements))
    (h : parseValue elementType valueSize value children = .ok element) :
    okLength element.toBytes = valueLength elementType value items := by
  have hwidth : (UInt8.ofNat valueSize).toNat = value.length % 256 := by
    rw [hvalue]
    simp
  have hcontainer {construct : List DataElement → DataElement} {typeCode : UInt8}
      (hconstruct : ∀ elements, (construct elements).toBytes =
        DataElement.listToBytes elements >>= variableElement typeCode)
      (hparsed : children.map construct = .ok element) :
      okLength element.toBytes = items.bind framedLength := by
    cases children with
    | error e => cases hparsed
    | ok elements =>
      cases hparsed
      rw [hitems elements rfl, hconstruct, okLength_container]
  unfold parseValue at h
  split at h
  · cases h
    rfl
  · cases h
    rw [okLength_unsignedInteger, hwidth]
    rfl
  · cases h
    rw [okLength_signedInteger, hwidth]
    rfl
  · split at h
    · rename_i uuid huuid
      cases h
      rw [BluetoothUuid.fromLeBytes] at huuid
      split at huuid
      · rename_i hlength
        cases huuid
        rw [List.length_reverse] at hlength
        rw [DataElement.toBytes, List.reverse_reverse]
        exact okLength_fixedElement 3 (by
          rcases hlength with hlength | hlength | hlength <;> rw [hlength] <;> decide)
      · cases huuid
    · cases h
  · cases h
    exact okLength_variableElement 4 value
  · cases h
    rfl
  · exact hcontainer (fun elements => by rw [DataElement.toBytes]) h
  · exact hcontainer (fun elements => by rw [DataElement.toBytes]) h
  · split at h
    · rename_i url hurl
      cases h
      rw [DataElement.toBytes, toUTF8_of_decodeUtf8 hurl]
      exact okLength_variableElement 8 value
    · cases h
  · cases h

/-- The bytes tell the length of the wire forms of a list of elements, given that they do for each
element. -/
theorem itemsLength_of_parseElements {data : Bytes} {nesting valueEnd : ℕ}
    (hwritten : ∀ offset next element, parseNested data nesting offset = .ok (next, element) →
      writtenLength data nesting offset = (okLength element.toBytes).map (next, ·))
    {rounds inner last : ℕ} {elements : List DataElement}
    (h : parseElements (parseNested data nesting) valueEnd rounds inner = .ok (last, elements)) :
    itemsLength (writtenLength data nesting) valueEnd rounds inner =
      okLength (DataElement.listToBytes elements) := by
  induction rounds generalizing inner elements with
  | zero =>
    cases h
    rfl
  | succ rounds ih =>
    rw [parseElements] at h
    rw [itemsLength]
    split at h
    · rename_i hinner
      rw [except_bind_eq_ok] at h
      obtain ⟨⟨next, first⟩, hfirst, h⟩ := h
      rw [except_bind_eq_ok] at h
      obtain ⟨⟨last, rest⟩, hrest, h⟩ := h
      cases h
      rw [if_pos hinner, hwritten _ _ _ hfirst, okLength_listToBytes_cons, ← ih hrest]
      cases okLength first.toBytes <;> rfl
    · rename_i hinner
      cases h
      rw [if_neg hinner]
      rfl

/-- **The bytes an element was parsed from tell the length of its wire form**, and whether it has
one. -/
theorem writtenLength_of_parseNested {data : Bytes} {nesting offset next : ℕ}
    {element : DataElement} (h : parseNested data nesting offset = .ok (next, element)) :
    writtenLength data nesting offset = (okLength element.toBytes).map (next, ·) := by
  induction nesting generalizing offset next element with
  | zero =>
    obtain ⟨header, valueSize, valueStart, value, hheader, hsize, hvalue, rfl, helement⟩ :=
      parseNested_eq_ok h
    have hlength : okLength element.toBytes = valueLength (header >>> 3) value none :=
      okLength_of_parseValue (length_of_slice hvalue) (fun _ hchildren => by cases hchildren)
        helement
    rw [hlength, writtenLength, hheader]
    simp only [hsize, hvalue]
  | succ nesting ih =>
    obtain ⟨header, valueSize, valueStart, value, hheader, hsize, hvalue, rfl, helement⟩ :=
      parseNested_eq_ok h
    have hitems (elements : List DataElement)
        (hchildren : parseChildren data (nesting + 1) valueStart valueSize = .ok elements) :
        itemsLength (writtenLength data nesting) (valueStart + valueSize) valueSize valueStart =
          okLength (DataElement.listToBytes elements) := by
      obtain ⟨_, hnesting, last, hparsed⟩ := parseChildren_eq_ok hchildren
      cases hnesting
      exact itemsLength_of_parseElements (fun _ _ _ => ih) hparsed
    rw [okLength_of_parseValue (length_of_slice hvalue) hitems helement, writtenLength, hheader]
    simp only [hsize, hvalue]

theorem DataElement.nesting_of_parseValue {elementType : UInt8} {valueSize nesting : ℕ}
    {value : Bytes} {children : Except SdpError (List DataElement)} {element : DataElement}
    (hchildren : ∀ elements, children = .ok elements → listNesting elements + 1 ≤ nesting)
    (h : parseValue elementType valueSize value children = .ok element) :
    element.nesting ≤ nesting := by
  unfold parseValue at h
  split at h
  · cases h
    exact Nat.zero_le _
  · cases h
    exact Nat.zero_le _
  · cases h
    exact Nat.zero_le _
  · split at h
    · cases h
      exact Nat.zero_le _
    · cases h
  · cases h
    exact Nat.zero_le _
  · cases h
    exact Nat.zero_le _
  · cases children with
    | error e => cases h
    | ok elements =>
      cases h
      exact hchildren elements rfl
  · cases children with
    | error e => cases h
    | ok elements =>
      cases h
      exact hchildren elements rfl
  · split at h
    · cases h
      exact Nat.zero_le _
    · cases h
  · cases h

theorem listNesting_of_parseElements {parse : ℕ → Except SdpError (ℕ × DataElement)}
    {nesting valueEnd : ℕ}
    (hparse : ∀ offset next element, parse offset = .ok (next, element) →
      element.nesting ≤ nesting)
    {rounds inner last : ℕ} {elements : List DataElement}
    (h : parseElements parse valueEnd rounds inner = .ok (last, elements)) :
    DataElement.listNesting elements ≤ nesting := by
  induction rounds generalizing inner elements with
  | zero =>
    cases h
    exact Nat.zero_le _
  | succ rounds ih =>
    rw [parseElements] at h
    split at h
    · rw [except_bind_eq_ok] at h
      obtain ⟨⟨next, first⟩, hfirst, h⟩ := h
      rw [except_bind_eq_ok] at h
      obtain ⟨⟨last, rest⟩, hrest, h⟩ := h
      cases h
      rw [DataElement.listNesting]
      exact max_le (hparse _ _ _ hfirst) (ih hrest)
    · cases h
      exact Nat.zero_le _

/-- A parsed element is nested no deeper than the parser accepts. -/
theorem DataElement.nesting_of_parseNested {data : Bytes} {nesting offset next : ℕ}
    {element : DataElement} (h : parseNested data nesting offset = .ok (next, element)) :
    element.nesting ≤ nesting := by
  induction nesting generalizing offset next element with
  | zero =>
    obtain ⟨_, _, _, _, _, _, _, _, helement⟩ := parseNested_eq_ok h
    exact nesting_of_parseValue (fun _ hchildren => by cases hchildren) helement
  | succ nesting ih =>
    obtain ⟨_, _, _, _, _, _, _, _, helement⟩ := parseNested_eq_ok h
    refine nesting_of_parseValue (fun elements hchildren => ?_) helement
    obtain ⟨_, hnesting, last, hparsed⟩ := parseChildren_eq_ok hchildren
    cases hnesting
    exact Nat.succ_le_succ (listNesting_of_parseElements (fun _ _ _ => ih) hparsed)

/-- A parsed element is a valid one when it has a wire form that the parser reads back and its
integers have a size of the wire form and a value that fits. -/
def DataElement.Valid (element : DataElement) : Prop :=
  (∃ bytes, element.toBytes = .ok bytes ∧ parseFromBytes bytes 0 = .ok (bytes.length, element)) ∧
    element.integersFit = true

/-- **A parsed element is a valid one exactly when the bytes it was parsed from are writable**:
each integer has a width that its size can be, and no container outgrows its length. -/
theorem DataElement.parsed_element_valid_iff (data : Bytes) (offset next : ℕ)
    (element : DataElement) (h : parseFromBytes data offset = .ok (next, element)) :
    element.Valid ↔ Writable data offset := by
  rw [parseFromBytes, parseAt, Nat.sub_zero] at h
  rw [Writable, writtenLength_of_parseNested h, Option.isSome_map]
  constructor
  · rintro ⟨⟨bytes, hbytes, -⟩, -⟩
    rw [hbytes]
    rfl
  · intro hwritten
    cases hbytes : element.toBytes with
    | error e =>
      rw [hbytes] at hwritten
      cases hwritten
    | ok bytes =>
      have hread := element.parseNested_toBytes (nesting_of_parseNested h) bytes [] [] hbytes
      rw [List.nil_append, List.append_nil, List.length_nil, Nat.zero_add] at hread
      exact ⟨⟨bytes, hbytes, hread⟩, element.integersFit_of_toBytes hbytes⟩

/-- A sequence of one text of one byte: the text is written back with a length. -/
theorem DataElement.parsed_element_valid_text :
    Writable [0x35, 0x02, 0x20, 0x41] 0 ∧ (DataElement.sequence [.textString [0x41]]).Valid := by
  have htext : parseNested [0x35, 0x02, 0x20, 0x41] 31 2 = .ok (4, .textString [0x41]) := by
    rw [parseNested_of_parts rfl rfl rfl]
    rfl
  have hchildren : parseChildren [0x35, 0x02, 0x20, 0x41] 32 2 2 = .ok [.textString [0x41]] := by
    simp only [parseChildren, parseElements, htext]
    rfl
  have hparse : parseFromBytes [0x35, 0x02, 0x20, 0x41] 0 =
      .ok (4, .sequence [.textString [0x41]]) := by
    rw [parseFromBytes, parseAt, parseNested_of_parts rfl rfl rfl]
    change Except.map _ (Except.map _ (parseChildren _ 32 2 2)) = _
    rw [hchildren]
    rfl
  have hwritable : Writable [0x35, 0x02, 0x20, 0x41] 0 := by decide +kernel
  exact ⟨hwritable, (parsed_element_valid_iff _ 0 4 _ hparse).mpr hwritable⟩

/-- An integer of three bytes is parsed and has no wire form. -/
theorem DataElement.parsed_integer_not_written :
    parseFromBytes [0x0D, 0x03, 0x00, 0x00, 0x01] 0 = .ok (5, .unsignedInteger 1 3) ∧
      ¬ ∃ bytes, (DataElement.unsignedInteger 1 3).toBytes = .ok bytes ∧
        parseFromBytes bytes 0 = .ok (bytes.length, .unsignedInteger 1 3) := by
  constructor
  · rw [parseFromBytes, parseAt, parseNested_of_parts rfl rfl rfl]
    rfl
  · rintro ⟨bytes, hbytes, -⟩
    cases hbytes
end ClassicHid

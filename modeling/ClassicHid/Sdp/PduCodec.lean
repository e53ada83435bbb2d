import ClassicHid.Sdp.RoundTrip
import ClassicHid.Sdp.Service

/-!
# The codec of SDP protocol data units

Every protocol data unit is read back from its bytes: each reading of its parameters ends where the
writing of the next one began.

## Main definitions

* `Cursor.between`: a cursor between what was read and what is left
* `SdpPdu.elements`: the data elements inside a PDU

## Main results

* `SdpPdu.read_parameters`: a PDU is read back from its parameters
-/

namespace ClassicHid

open Foundation

/-! ### Reading parameters -/

namespace Cursor

/-- A cursor behind `front`, before `back`. -/
def between (front back : Bytes) : Cursor := { data := front ++ back, pos := front.length }

theorem take_between (front back : Bytes) {bytes : Bytes} {n : ℕ} (h : bytes.length = n)
    (what : String) :
    take n what (between front (bytes ++ back)) = (.ok bytes, between (front ++ bytes) back) := by
  subst h
  have hslice := slice_append front bytes back
  rw [List.append_assoc] at hslice
  simp only [take, between, hslice, List.append_assoc, List.length_append]

theorem u16_between (front back : Bytes) (x : UInt16) :
    u16 (between front (toBe16 x ++ back)) = (.ok x, between (front ++ toBe16 x) back) := by
  rw [u16, Exec.bind_ok (take_between front back (length_toBe16 x) "u16")]
  have hread : fromBe16 ((toBe16 x).getD 0 0) ((toBe16 x).getD 1 0) = x := fromLe16_toLe16 x
  rw [hread]
  rfl

theorem u16Le_between (front back : Bytes) (x : UInt16) :
    u16Le (between front (toLe16 x ++ back)) = (.ok x, between (front ++ toLe16 x) back) := by
  rw [u16Le, Exec.bind_ok (take_between front back (length_toLe16 x) "u16")]
  have hread : fromLe16 ((toLe16 x).getD 0 0) ((toLe16 x).getD 1 0) = x := fromLe16_toLe16 x
  rw [hread]
  rfl

theorem u32_between (front back : Bytes) (x : UInt32) :
    u32 (between front (toBe32 x ++ back)) = (.ok x, between (front ++ toBe32 x) back) := by
  rw [u32, Exec.bind_ok (take_between front back (length_toBe32 x) "u32")]
  have hread : fromBe32 ((toBe32 x).getD 0 0) ((toBe32 x).getD 1 0) ((toBe32 x).getD 2 0)
      ((toBe32 x).getD 3 0) = x := fromBe32_toBe32 x
  rw [hread]
  rfl

theorem u32s_between (front back : Bytes) (l : List UInt32) :
    u32s l.length (between front (l.flatMap toBe32 ++ back)) =
      (.ok l, between (front ++ l.flatMap toBe32) back) := by
  induction l generalizing front with
  | nil => simp [u32s, between]
  | cons x l ih =>
    rw [List.length_cons, u32s, List.flatMap_cons, List.append_assoc,
      Exec.bind_ok (u32_between front _ x), Exec.bind_ok (ih (front ++ toBe32 x))]
    simp

theorem rest_between (front back : Bytes) :
    (rest (between front back)).1 = .ok back := by
  simp [rest, between]

theorem lengthPrefixedBytes_between (front back : Bytes) {bytes : Bytes}
    (h : bytes.length < 65536) :
    lengthPrefixedBytes (between front (toBe16 (UInt16.ofNat bytes.length) ++ (bytes ++ back))) =
      (.ok bytes, between (front ++ toBe16 (UInt16.ofNat bytes.length) ++ bytes) back) := by
  rw [lengthPrefixedBytes, Exec.bind_ok (u16_between front _ _)]
  apply take_between
  rw [UInt16.toNat_ofNat']
  omega

theorem dataElement_between (front back : Bytes) {element : DataElement} {bytes : Bytes}
    (hnesting : element.nesting ≤ maxNesting) (h : element.toBytes = .ok bytes) :
    dataElement (between front (bytes ++ back)) = (.ok element, between (front ++ bytes) back) := by
  have hparse := element.parseNested_toBytes hnesting bytes front back h
  rw [List.append_assoc] at hparse
  simp only [dataElement, between, DataElement.parseFromBytes, parseAt, Nat.sub_zero, hparse,
    List.append_assoc, List.length_append]

end Cursor

/-! ### Protocol data units -/

namespace SdpPdu

/-- The data elements inside a PDU. -/
def elements : SdpPdu → List DataElement
  | serviceSearchRequest _ pattern _ _ => [pattern]
  | serviceAttributeRequest _ _ _ ids _ => [ids]
  | serviceSearchAttributeRequest _ pattern _ ids _ => [pattern, ids]
  | _ => []

theorem length_flatMap_toBe32 (l : List UInt32) : (l.flatMap toBe32).length = 4 * l.length := by
  induction l with
  | nil => rfl
  | cons x l ih =>
    rw [List.flatMap_cons, List.length_append, ih, length_toBe32, List.length_cons]
    omega

/-- The parameters of a PDU are read from behind its header. -/
theorem fromBytes_header {pdu : SdpPdu} {parameters : Bytes} (hlength : parameters.length < 65536) :
    fromBytes (pdu.pduId :: toBe16 pdu.transactionId ++
        toBe16 (UInt16.ofNat parameters.length) ++ parameters) =
      (read pdu.pduId pdu.transactionId (Cursor.between [] parameters)).1 := by
  have hid : fromBe16 (UInt8.ofNat (pdu.transactionId.toNat / 256))
      (UInt8.ofNat pdu.transactionId.toNat) = pdu.transactionId := fromLe16_toLe16 _
  have hlen : (fromBe16 (UInt8.ofNat ((UInt16.ofNat parameters.length).toNat / 256))
      (UInt8.ofNat (UInt16.ofNat parameters.length).toNat)).toNat = parameters.length := by
    rw [fromBe16, fromLe16_toLe16, UInt16.toNat_ofNat']
    omega
  have hslice : slice parameters 0 parameters.length = some parameters := by simp [slice]
  simp only [toBe16, List.cons_append, List.nil_append, fromBytes, hlen, hslice, hid]
  rfl

/-- A reading that ends with the continuation state. -/
theorem bind_rest {α : Type} (front back : Bytes) (f : Bytes → α) :
    ((do pure (f (← Cursor.rest)) : Cursor.Read α) (Cursor.between front back)).1 =
      .ok (f back) := by
  have hrest := Cursor.rest_between front back
  rw [Exec.bind_apply]
  rcases hread : Cursor.rest (Cursor.between front back) with ⟨result, cursor⟩
  rw [hread] at hrest
  cases hrest
  rfl

/-- **A PDU is read back from its parameters.** -/
theorem read_parameters {pdu : SdpPdu} {parameters : Bytes}
    (hnesting : ∀ element ∈ pdu.elements, element.nesting ≤ maxNesting)
    (hparameters : pdu.parameters = .ok parameters) (hlength : parameters.length < 65536) :
    (read pdu.pduId pdu.transactionId (Cursor.between [] parameters)).1 = .ok pdu := by
  cases pdu with
  | errorResponse id code =>
    cases hparameters
    have hcode := Cursor.u16Le_between [] [] code
    rw [List.append_nil] at hcode
    simp only [read, pduId, transactionId, Exec.bind_ok hcode]
    rfl
  | serviceSearchRequest id pattern maximum continuation =>
    rw [SdpPdu.parameters, except_bind_eq_ok] at hparameters
    obtain ⟨bytes, hbytes, hparameters⟩ := hparameters
    cases hparameters
    have hpattern := hnesting pattern List.mem_cons_self
    simp only [read, pduId, transactionId, List.append_assoc]
    rw [Exec.bind_ok (Cursor.dataElement_between _ _ hpattern hbytes),
      Exec.bind_ok (Cursor.u16_between _ _ _)]
    exact bind_rest _ _ _
  | serviceSearchResponse id total handles continuation =>
    cases hparameters
    simp only [List.length_append, length_toBe16, length_flatMap_toBe32] at hlength
    have hcount : (UInt16.ofNat handles.length).toNat = handles.length := by
      rw [UInt16.toNat_ofNat']
      omega
    simp only [read, pduId, transactionId, List.append_assoc]
    rw [Exec.bind_ok (Cursor.u16_between _ _ _), Exec.bind_ok (Cursor.u16_between _ _ _), hcount,
      Exec.bind_ok (Cursor.u32s_between _ _ _)]
    exact bind_rest _ _ _
  | serviceAttributeRequest id handle maximum ids continuation =>
    rw [SdpPdu.parameters, except_bind_eq_ok] at hparameters
    obtain ⟨bytes, hbytes, hparameters⟩ := hparameters
    cases hparameters
    have hids := hnesting ids List.mem_cons_self
    simp only [read, pduId, transactionId, List.append_assoc]
    rw [Exec.bind_ok (Cursor.u32_between _ _ _), Exec.bind_ok (Cursor.u16_between _ _ _),
      Exec.bind_ok (Cursor.dataElement_between _ _ hids hbytes)]
    exact bind_rest _ _ _
  | serviceSearchAttributeRequest id pattern maximum ids continuation =>
    rw [SdpPdu.parameters, except_bind_eq_ok] at hparameters
    obtain ⟨bytes, hbytes, hparameters⟩ := hparameters
    rw [except_bind_eq_ok] at hparameters
    obtain ⟨idBytes, hidBytes, hparameters⟩ := hparameters
    cases hparameters
    have hpattern := hnesting pattern List.mem_cons_self
    have hids := hnesting ids (List.mem_cons_of_mem _ List.mem_cons_self)
    simp only [read, pduId, transactionId, List.append_assoc]
    rw [Exec.bind_ok (Cursor.dataElement_between _ _ hpattern hbytes),
      Exec.bind_ok (Cursor.u16_between _ _ _),
      Exec.bind_ok (Cursor.dataElement_between _ _ hids hidBytes)]
    exact bind_rest _ _ _
  | serviceAttributeResponse id list continuation
  | serviceSearchAttributeResponse id list continuation =>
    cases hparameters
    simp only [List.length_append, length_toBe16] at hlength
    simp only [read, pduId, transactionId, List.append_assoc]
    rw [Exec.bind_ok (Cursor.lengthPrefixedBytes_between _ _ (by omega))]
    exact bind_rest _ _ _

/-- **The codec of protocol data units**: a PDU whose data elements are not nested too deep is read
back from its bytes, when the length of its parameters fits its field. -/
theorem pdu_round_trip (pdu : SdpPdu) (bytes : Bytes)
    (hnesting : ∀ element ∈ pdu.elements, element.nesting ≤ 32)
    (hbytes : pdu.toBytes = .ok bytes)
    (hlength : ∀ parameters, pdu.parameters = .ok parameters → parameters.length ≤ 65535) :
    fromBytes bytes = .ok pdu := by
  rw [toBytes, except_bind_eq_ok] at hbytes
  obtain ⟨parameters, hparameters, hbytes⟩ := hbytes
  cases hbytes
  have hshort := Nat.lt_succ_of_le (hlength parameters hparameters)
  rw [fromBytes_header hshort]
  exact read_parameters hnesting hparameters hshort

/-- A request for every attribute of the records that mention L2CAP. -/
theorem pdu_round_trip_request :
    ∃ bytes, (serviceSearchAttributeRequest 1 (.sequence [.uuid (.fromU16 0x0100)]) 0x03FF
        (.sequence [.unsignedInteger32 0x0000FFFF]) [0]).toBytes = .ok bytes ∧
      fromBytes bytes = .ok (serviceSearchAttributeRequest 1
        (.sequence [.uuid (.fromU16 0x0100)]) 0x03FF
        (.sequence [.unsignedInteger32 0x0000FFFF]) [0]) := by
  refine ⟨_, rfl, pdu_round_trip _ _ ?_ rfl ?_⟩
  · intro element hmem
    simp only [elements, List.mem_cons, List.not_mem_nil, or_false] at hmem
    rcases hmem with rfl | rfl <;> decide
  · intro parameters hparameters
    cases hparameters
    decide

end SdpPdu

end ClassicHid

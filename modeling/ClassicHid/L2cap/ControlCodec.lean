import ClassicHid.L2cap.ControlFrame

/-!
# The codec of signaling frames

Every signaling frame is read back from its bytes, as long as its length field can hold the length
of its payload. Two kinds of frames have a condition of their own: a frame of an unknown type must
not carry the code of a known one, and the field of a PSM ends at its first even byte.

## Main definitions

* `ControlFrame.assignedCodes`: the codes of the typed frames
* `ControlFrame.Representable`: a frame that survives the wire

## Main results

* `ControlFrame.parse_payload`: a frame is read back from its payload
* `ControlFrame.Representable.faithful`: a frame is read back from its bytes
-/

namespace ClassicHid

open Foundation

/-! ### Fields of 16 bits -/

@[simp] theorem le16At_toLe16_zero (x : UInt16) (l : Bytes) : le16At (toLe16 x ++ l) 0 = x :=
  le16At_toLe16 x l

@[simp] theorem le16At_toLe16_add_two (x : UInt16) (l : Bytes) (i : ℕ) :
    le16At (toLe16 x ++ l) (i + 2) = le16At l i := rfl

@[simp] theorem le16At_toLe16_self (x : UInt16) : le16At (toLe16 x) 0 = x := fromLe16_toLe16 x

@[simp] theorem drop_toLe16 (x : UInt16) (l : Bytes) (n : ℕ) :
    (toLe16 x ++ l).drop (n + 2) = l.drop n := rfl

theorem le16Pairs_flatMap (cids : List UInt16) : le16Pairs (cids.flatMap toLe16) = cids := by
  induction cids with
  | nil => rfl
  | cons cid cids ih =>
    rw [List.flatMap_cons]
    exact congrArg₂ List.cons (fromLe16_toLe16 cid) ih

/-- A list of channel identifiers is read back. -/
theorem readCidList_flatMap (cids : List UInt16) :
    readCidList (cids.flatMap toLe16) = .ok cids := by
  have heven : (cids.flatMap toLe16).length % 2 = 0 := by
    simp [List.length_flatMap]
  rw [readCidList, if_neg (not_not.mpr heven), le16Pairs_flatMap]

namespace ControlFrame

/-- A PSM whose second byte is even is read as its first two bytes. -/
theorem parsePsm_of_even {psm : UInt32} (heven : psm.toNat / 256 % 2 = 0) (rest : Bytes) :
    parsePsm (serializePsm psm ++ rest) 0 = .ok (2, UInt32.ofNat (psm.toNat % 65536)) := by
  have hlow : (UInt16.ofNat psm.toNat).toNat = psm.toNat % 65536 := UInt16.toNat_ofNat'
  have hbytes : serializePsm psm ++ rest = UInt8.ofNat (psm.toNat % 65536) ::
      UInt8.ofNat (psm.toNat % 65536 / 256) :: (psmExtension (psm.toNat / 65536) ++ rest) := by
    rw [serializePsm, toLe16, hlow]
    rfl
  have hhigh : ¬ (UInt8.ofNat (psm.toNat % 65536 / 256)) % 2 = 1 := by
    intro hodd
    have hodd := congrArg UInt8.toNat hodd
    rw [UInt8.toNat_mod, UInt8.toNat_ofNat'] at hodd
    simp at hodd
    omega
  have hvalue : (UInt8.ofNat (psm.toNat % 65536)).toUInt32 |||
      ((UInt8.ofNat (psm.toNat % 65536 / 256)).toUInt32 <<< 8) =
        UInt32.ofNat (psm.toNat % 65536) := by
    apply UInt32.toNat_inj.mp
    rw [UInt32.toNat_or, UInt32.toNat_shiftLeft, UInt8.toNat_toUInt32, UInt8.toNat_toUInt32,
      UInt8.toNat_ofNat', UInt8.toNat_ofNat', UInt32.toNat_ofNat']
    have hlow : psm.toNat % 65536 % 2 ^ 8 < 2 ^ 8 := Nat.mod_lt _ (by decide)
    have hshift : (psm.toNat % 65536 / 256 % 2 ^ 8) <<< ((8 : UInt32).toNat % 32) % 2 ^ 32 =
        (psm.toNat % 65536 / 256 % 2 ^ 8) <<< 8 := by
      simp only [UInt32.reduceToNat, Nat.shiftLeft_eq, Nat.reduceMod]
      omega
    rw [hshift, Nat.or_comm, ← Nat.shiftLeft_add_eq_or_of_lt hlow, Nat.shiftLeft_eq]
    omega
  rw [hbytes, parsePsm, if_neg (by simp)]
  rw [parsePsmExtension]
  simp only [List.getD_cons_zero, List.getD_cons_succ, Nat.zero_add, Nat.add_one_sub_one, hhigh,
    if_false, hvalue]

/-- A PSM of two bytes is read back, when the second one is even. -/
theorem parsePsm_serializePsm {psm : UInt32} (h : psm.toNat < 2 ^ 16)
    (heven : psm.toNat / 256 % 2 = 0) (rest : Bytes) :
    parsePsm (serializePsm psm ++ rest) 0 = .ok (2, psm) := by
  rw [parsePsm_of_even heven, Nat.mod_eq_of_lt (show psm.toNat < 65536 from h), UInt32.ofNat_toNat]

/-! ### Every frame -/

/-- The codes of the typed frames. -/
def assignedCodes : List UInt8 :=
  [0x01, 0x02, 0x03, 0x04, 0x05, 0x06, 0x07, 0x08, 0x09, 0x0A, 0x0B, 0x12, 0x13, 0x14, 0x15, 0x16,
    0x17, 0x18, 0x19, 0x1A]

/-- A frame that survives the wire. -/
structure Representable (frame : ControlFrame) : Prop where
  length : frame.payload.length ≤ 65535
  code : ∀ code identifier payload, frame = .generic code identifier payload →
    code ∉ assignedCodes
  psm : ∀ identifier psm sourceCid, frame = .connectionRequest identifier psm sourceCid →
    psm.toNat ≤ 0xFFFF ∧ psm.toNat / 256 % 2 = 0

theorem parse_connectionRequest {psm : UInt32} (h : psm.toNat ≤ 0xFFFF)
    (heven : psm.toNat / 256 % 2 = 0) (identifier : UInt8) (sourceCid : UInt16) :
    parseConnectionRequest identifier (serializePsm psm ++ toLe16 sourceCid) =
      .ok (.connectionRequest identifier psm sourceCid) := by
  have hbytes : serializePsm psm = toLe16 (UInt16.ofNat psm.toNat) := by
    rw [serializePsm, psmExtension, if_pos (by omega), List.append_nil]
  have hread : le16At (serializePsm psm ++ toLe16 sourceCid) 2 = sourceCid := by
    rw [hbytes]
    exact fromLe16_toLe16 sourceCid
  have hlength : (serializePsm psm ++ toLe16 sourceCid).length = 4 := by
    rw [hbytes]
    rfl
  rw [parseConnectionRequest, parsePsm_serializePsm (by omega) heven]
  change (if 2 + 2 > (serializePsm psm ++ toLe16 sourceCid).length then _ else _) = _
  rw [hlength, if_neg (by decide), hread]
  rfl

/-- A code that no typed frame has. -/
theorem parse_generic {code : UInt8} (h : code ∉ assignedCodes) (identifier : UInt8)
    (payload : Bytes) : parse code identifier payload = .ok (.generic code identifier payload) := by
  unfold parse
  split <;> first | rfl | exact absurd (by decide) h

/-- **A frame is read back from its payload.** -/
theorem parse_payload {frame : ControlFrame} (h : frame.Representable) :
    parse frame.code frame.identifier frame.payload = .ok frame := by
  cases frame with
  | connectionRequest identifier psm sourceCid =>
    obtain ⟨hpsm, heven⟩ := h.psm identifier psm sourceCid rfl
    exact parse_connectionRequest hpsm heven identifier sourceCid
  | generic code identifier payload => exact parse_generic (h.code code identifier payload rfl) _ _
  | creditBasedConnectionRequest =>
    simp only [code, identifier, payload, parse, List.append_assoc, le16At_toLe16_zero,
      le16At_toLe16_add_two, drop_toLe16, List.drop_zero, readCidList_flatMap]
    rfl
  | creditBasedConnectionResponse =>
    simp only [code, identifier, payload, parse, List.append_assoc, le16At_toLe16_zero,
      le16At_toLe16_add_two, drop_toLe16, List.drop_zero, readCidList_flatMap]
    rfl
  | creditBasedReconfigureRequest =>
    simp only [code, identifier, payload, parse, List.append_assoc, le16At_toLe16_zero,
      le16At_toLe16_add_two, drop_toLe16, List.drop_zero, readCidList_flatMap]
    rfl
  | _ =>
    simp only [code, identifier, payload, parse, List.append_assoc, le16At_toLe16_zero,
      le16At_toLe16_add_two, le16At_toLe16_self]
    rfl

/-! ### Whole frames -/

/-- What is read from the bytes of a frame is read from its payload. -/
theorem fromBytes_toBytes (frame : ControlFrame) (h : frame.payload.length < 2 ^ 16) :
    fromBytes frame.toBytes = parse frame.code frame.identifier frame.payload := by
  have hlength : (UInt16.ofNat frame.payload.length).toNat = frame.payload.length := by
    rw [UInt16.toNat_ofNat']
    omega
  have hall : frame.toBytes.length = 4 + frame.payload.length := by
    simp only [toBytes, List.length_append, length_toLe16, List.length_cons, List.length_nil]
  have hfield : (le16At frame.toBytes 2).toNat = frame.payload.length := by
    have hread : le16At frame.toBytes 2 = UInt16.ofNat frame.payload.length :=
      fromLe16_toLe16 _
    rw [hread, hlength]
  rw [fromBytes, if_neg (by omega), hfield]
  dsimp only
  rw [hall, Nat.min_self, ← hall, List.take_length]
  rfl

/-- A frame that is read back from its bytes. -/
def Faithful (frame : ControlFrame) : Prop := fromBytes frame.toBytes = .ok frame

theorem Representable.faithful {frame : ControlFrame} (h : frame.Representable) :
    frame.Faithful := by
  rw [Faithful, fromBytes_toBytes frame (Nat.lt_succ_of_le h.length), parse_payload h]

/-- **The codec of signaling frames**: every frame that fits its length field is read back from its
bytes. A frame of an unknown type does not carry the code of a known one, and a PSM has two bytes,
the second of them even. -/
theorem signaling_round_trip (frame : ControlFrame) (hlength : frame.payload.length ≤ 65535)
    (hcode : ∀ code identifier payload, frame = .generic code identifier payload →
      code ∉ assignedCodes)
    (hpsm : ∀ identifier psm sourceCid, frame = .connectionRequest identifier psm sourceCid →
      psm.toNat ≤ 0xFFFF ∧ psm.toNat / 256 % 2 = 0) :
    fromBytes frame.toBytes = .ok frame := by
  rw [fromBytes_toBytes frame (Nat.lt_succ_of_le hlength)]
  exact parse_payload ⟨hlength, hcode, hpsm⟩

/-- A request to connect to the PSM of HID control, `0x0011`. -/
theorem signaling_round_trip_request :
    fromBytes (connectionRequest 1 0x0011 0x0040).toBytes =
      .ok (connectionRequest 1 0x0011 0x0040) := by
  refine signaling_round_trip _ (by simp [payload, serializePsm, psmExtension]) nofun ?_
  rintro identifier psm sourceCid heq
  cases heq
  exact ⟨by decide, by decide⟩

end ControlFrame

end ClassicHid

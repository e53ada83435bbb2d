import Mathlib.Data.Nat.Bitwise
import ClassicHid.Foundation.ShiftRegister
import ClassicHid.L2cap.Channel

/-!
# The frame check sequence

The check sequence of a frame is the register of a cyclic redundancy check after the bits of the
bytes it covers, the least significant bit of each byte first. Its two writers agree, and its
reader takes off what they append and refuses every burst of errors within 16 bits.

## Main definitions

* `bits`: the bits of bytes, each byte from its least significant bit
* `bitAt`: the bit of bytes at a position

## Main results

* `toBitVec_crc16`: the check sequence is a shift register after the bits of the bytes
* `crc16_append_eq_zero`: bytes followed by their check sequence, and by no other, leave the
  register empty
* `verifyAndStripFcs_detects_burst`: a burst of errors is refused
* `appendFcs_agrees`: the two writers agree, and the reader undoes them
-/

namespace ClassicHid

open Foundation ShiftRegister

variable {data p q e : Bytes} {cid : UInt16}

/-! ### Bits -/

/-- The bits of a byte, the least significant first. -/
def byteBits (byte : UInt8) : List Bool := (List.range 8).map byte.toBitVec.getLsbD

/-- The bits of bytes, each byte from its least significant bit. -/
def bits (data : Bytes) : List Bool := data.flatMap byteBits

/-- The bit of bytes at a position, counted from the least significant bit of each byte. -/
def bitAt (data : Bytes) (position : ℕ) : Bool :=
  (data.getD (position / 8) 0).toNat.testBit (position % 8)

@[simp] theorem length_byteBits (byte : UInt8) : (byteBits byte).length = 8 := rfl

theorem bits_append (data data' : Bytes) : bits (data ++ data') = bits data ++ bits data' :=
  List.flatMap_append

theorem getElem?_byteBits {byte : UInt8} {i : ℕ} (hi : i < 8) :
    (byteBits byte)[i]? = some (byte.toNat.testBit i) := by
  rw [byteBits, List.getElem?_map, List.getElem?_range hi]
  rfl

theorem getElem?_bits {position : ℕ} (h : position < 8 * data.length) :
    (bits data)[position]? = some (bitAt data position) := by
  induction data generalizing position with
  | nil => exact absurd h (Nat.not_lt_zero position)
  | cons byte data ih =>
    rw [List.length_cons] at h
    rw [show bits (byte :: data) = byteBits byte ++ bits data from rfl]
    rcases Nat.lt_or_ge position 8 with hlow | hhigh
    · rw [List.getElem?_append_left (by rwa [length_byteBits]), getElem?_byteBits hlow, bitAt,
        Nat.div_eq_of_lt hlow, Nat.mod_eq_of_lt hlow]
      rfl
    · obtain ⟨position, rfl⟩ := Nat.exists_eq_add_of_le' hhigh
      rw [List.getElem?_append_right (by rwa [length_byteBits]), length_byteBits,
        Nat.add_sub_cancel, ih (by omega), bitAt, bitAt, Nat.add_mod_right,
        Nat.add_div_right position (by decide)]
      rfl

@[simp] theorem length_bits (data : Bytes) : (bits data).length = 8 * data.length := by
  induction data with
  | nil => rfl
  | cons byte data ih =>
    rw [show bits (byte :: data) = byteBits byte ++ bits data from rfl, List.length_append, ih,
      length_byteBits, List.length_cons]
    omega

/-- A set bit of the bits is a set bit of the bytes. -/
theorem bitAt_of_getElem? {position : ℕ} (h : (bits data)[position]? = some true) :
    bitAt data position = true := by
  have hlt : position < 8 * data.length := by
    rw [← length_bits]
    exact (List.getElem?_eq_some_iff.mp h).1
  rw [getElem?_bits hlt] at h
  exact Option.some.inj h

/-- A byte that is not zero has a bit that is set. -/
theorem exists_bit_of_ne_zero (h : ∃ byte ∈ data, byte ≠ 0) :
    ∃ position : ℕ, (bits data)[position]? = some true := by
  obtain ⟨byte, hmem, hbyte⟩ := h
  obtain ⟨i, hi⟩ : ∃ i, byte.toNat.testBit i = true := by
    apply Nat.exists_testBit_of_ne_zero
    intro hzero
    exact hbyte (UInt8.toNat_inj.mp hzero)
  have hlt : i < 8 := by
    by_contra hge
    have hsize : byte.toNat < 2 ^ i :=
      Nat.lt_of_lt_of_le byte.toNat_lt (Nat.pow_le_pow_right (by decide) (by omega))
    rw [Nat.testBit_lt_two_pow hsize] at hi
    cases hi
  have hset : true ∈ bits data := by
    apply List.mem_flatMap.mpr
    refine ⟨byte, hmem, List.mem_of_getElem? (i := i) ?_⟩
    rw [getElem?_byteBits hlt, hi]
  exact List.getElem?_of_mem hset

/-- The bits of a sum are the sum of the bits. -/
theorem bits_xor (hlength : p.length = e.length) :
    bits (List.zipWith (· ^^^ ·) p e) = xorBits (bits p) (bits e) := by
  induction p generalizing e with
  | nil =>
    cases e with
    | nil => rfl
    | cons => cases hlength
  | cons byte p ih =>
    cases e with
    | nil => cases hlength
    | cons error e =>
      have hbyte : byteBits (byte ^^^ error) = xorBits (byteBits byte) (byteBits error) := by
        rw [byteBits, byteBits, byteBits, xorBits, List.zipWith_map, List.zipWith_self]
        exact List.map_congr_left fun i _ => BitVec.getLsbD_xor
      calc bits (List.zipWith (· ^^^ ·) (byte :: p) (error :: e))
          = byteBits (byte ^^^ error) ++ bits (List.zipWith (· ^^^ ·) p e) := rfl
        _ = xorBits (byteBits byte) (byteBits error) ++ xorBits (bits p) (bits e) := by
          rw [hbyte, ih (Nat.succ.inj hlength)]
        _ = xorBits (byteBits byte ++ bits p) (byteBits error ++ bits e) :=
          (List.zipWith_append (by rw [length_byteBits, length_byteBits])).symm

/-! ### The register -/

/-- The polynomial of the check sequence. -/
def crcPolynomial : BitVec 16 := 0xA001#16

theorem toBitVec_crcShift (crc : UInt16) :
    (crcShift crc).toBitVec = shift crcPolynomial crc.toBitVec := by
  have hlow : (crc &&& 0x0001).toBitVec = bit (crc.toBitVec.getLsbD 0) := by
    rw [UInt16.toBitVec_and]
    exact BitVec.and_one_eq_setWidth_ofBool_getLsbD
  rw [crcShift, shift]
  rcases hbit : crc.toBitVec.getLsbD 0 with _ | _
  · have hzero : crc &&& 0x0001 = 0 := by
      rw [hbit] at hlow
      exact UInt16.toBitVec_inj.mp hlow
    rw [if_neg (not_not.mpr hzero), if_neg Bool.false_ne_true]
    rfl
  · have hone : crc &&& 0x0001 = 1 := by
      rw [hbit] at hlow
      exact UInt16.toBitVec_inj.mp hlow
    rw [hone, if_pos (by decide), if_pos rfl]
    rfl

theorem toBitVec_iterate_crcShift (n : ℕ) (crc : UInt16) :
    (crcShift^[n] crc).toBitVec = (shift crcPolynomial)^[n] crc.toBitVec := by
  induction n generalizing crc with
  | zero => rfl
  | succ n ih =>
    rw [Function.iterate_succ_apply, Function.iterate_succ_apply, ih, toBitVec_crcShift]

/-- The bits of a byte denote the byte. -/
theorem value_byteBits (byte : UInt8) :
    (value (byteBits byte) : BitVec 16) = byte.toUInt16.toBitVec := by
  apply BitVec.eq_of_getLsbD_eq
  intro i hi
  rw [getLsbD_value _ hi, List.getD_eq_getElem?_getD, UInt8.toBitVec_toUInt16,
    BitVec.getLsbD_setWidth, decide_eq_true hi, Bool.true_and]
  rcases Nat.lt_or_ge i 8 with hlow | hhigh
  · rw [getElem?_byteBits hlow]
    rfl
  · rw [List.getElem?_eq_none (by rwa [length_byteBits]), BitVec.getLsbD_of_ge _ _ hhigh]
    rfl

theorem toBitVec_crcByte (crc : UInt16) (byte : UInt8) :
    (crcByte crc byte).toBitVec = feed crcPolynomial crc.toBitVec (byteBits byte) := by
  have hlength : (byteBits byte).length ≤ 16 := by
    rw [length_byteBits]
    decide
  rw [crcByte, toBitVec_iterate_crcShift, feed_eq hlength, value_byteBits, UInt16.toBitVec_xor,
    length_byteBits]

/-- **The check sequence** is a shift register after the bits of the bytes. -/
theorem toBitVec_crc16 (data : Bytes) :
    (crc16 data).toBitVec = feed crcPolynomial 0#16 (bits data) := by
  have hfold (crc : UInt16) :
      (data.foldl crcByte crc).toBitVec = feed crcPolynomial crc.toBitVec (bits data) := by
    induction data generalizing crc with
    | nil => rfl
    | cons byte data ih =>
      rw [List.foldl_cons, ih, toBitVec_crcByte, ← feed_append]
      rfl
  exact hfold 0

/-- The bits of a number on the wire denote the number. -/
theorem value_bits_toLe16 (crc : UInt16) :
    (value (bits (toLe16 crc)) : BitVec 16) = crc.toBitVec := by
  apply BitVec.eq_of_getLsbD_eq
  intro i hi
  have hlength : i < 8 * (toLe16 crc).length := by rwa [length_toLe16]
  rw [getLsbD_value _ hi, List.getD_eq_getElem?_getD, getElem?_bits hlength, Option.getD_some,
    bitAt]
  show _ = crc.toNat.testBit i
  rcases Nat.lt_or_ge i 8 with hlow | hhigh
  · rw [Nat.div_eq_of_lt hlow, Nat.mod_eq_of_lt hlow]
    show (UInt8.ofNat crc.toNat).toNat.testBit i = crc.toNat.testBit i
    rw [UInt8.toNat_ofNat', Nat.testBit_mod_two_pow, decide_eq_true hlow, Bool.true_and]
  · obtain ⟨i, rfl⟩ := Nat.exists_eq_add_of_le' hhigh
    have hlow : i < 8 := by omega
    rw [Nat.add_div_right i (by decide), Nat.add_mod_right, Nat.div_eq_of_lt hlow,
      Nat.mod_eq_of_lt hlow]
    show (UInt8.ofNat (crc.toNat / 256)).toNat.testBit i = crc.toNat.testBit (i + 8)
    have hhalf : crc.toNat / 256 = crc.toNat / 2 ^ 8 := rfl
    rw [UInt8.toNat_ofNat', Nat.testBit_mod_two_pow, decide_eq_true hlow, Bool.true_and, hhalf,
      Nat.testBit_div_two_pow, Nat.add_comm]

/-- Bytes followed by their check sequence, and by no other, leave the register empty. -/
theorem crc16_append_eq_zero (data : Bytes) (crc : UInt16) :
    crc16 (data ++ toLe16 crc) = 0 ↔ crc16 data = crc := by
  have hlength : (bits (toLe16 crc)).length ≤ 16 := by
    rw [length_bits, length_toLe16]
  have hregister : (crc16 (data ++ toLe16 crc)).toBitVec =
      (shift crcPolynomial)^[16] ((crc16 data).toBitVec ^^^ crc.toBitVec) := by
    rw [toBitVec_crc16, bits_append, feed_append, feed_eq hlength, value_bits_toLe16, length_bits,
      length_toLe16, ← toBitVec_crc16]
  constructor
  · intro hzero
    by_contra hne
    have hdiffer : (crc16 data).toBitVec ^^^ crc.toBitVec ≠ 0#16 := by
      intro heq
      exact hne (UInt16.toBitVec_inj.mp (BitVec.xor_eq_zero_iff.mp heq))
    have hfirst : crcPolynomial.getLsbD (16 - 1) = true := rfl
    apply iterate_shift_ne_zero hfirst hdiffer 16
    rw [← hregister, hzero]
    rfl
  · rintro rfl
    rw [BitVec.xor_self, iterate_shift_zero] at hregister
    exact UInt16.toBitVec_inj.mp hregister

/-! ### The writers and the reader -/

/-- The appended sequence is the check sequence of the header and the payload. -/
theorem appendFcs_eq (cid : UInt16) (hp : p.length ≤ 65533) :
    appendFcs cid p = .ok (p ++
      toLe16 (crc16 (fcsCovered (UInt16.ofNat (p.length + 2)) cid p))) := by
  rw [appendFcs, if_neg (by omega)]

/-- The last two bytes are a number on the wire. -/
theorem toLe16_le16At {split : ℕ} (hlength : q.length = split + 2) :
    toLe16 (le16At q split) = q.drop split := by
  rw [le16At, toLe16_fromLe16, List.drop_eq_getElem_cons (by omega : split < q.length),
    List.drop_eq_getElem_cons (by omega : split + 1 < q.length),
    List.drop_eq_nil_of_le (by omega : q.length ≤ split + 1 + 1),
    List.getD_eq_getElem _ _ (by omega : split < q.length),
    List.getD_eq_getElem _ _ (by omega : split + 1 < q.length)]

/-- The reader accepts the frames that leave the register empty, and takes their last two bytes
off. -/
theorem verifyAndStripFcs_eq_ok (h : verifyAndStripFcs cid q = .ok p) :
    crc16 (fcsCovered (UInt16.ofNat q.length) cid q) = 0 := by
  rw [verifyAndStripFcs] at h
  split at h
  · cases h
  rename_i hshort
  split at h
  · cases h
  dsimp only at h
  split at h
  · cases h
  rename_i hcrc
  have hsplit : q = q.take (q.length - 2) ++ toLe16 (le16At q (q.length - 2)) := by
    rw [toLe16_le16At (by omega), List.take_append_drop]
  rw [fcsCovered] at hcrc
  rw [fcsCovered, hsplit, ← List.append_assoc, ← hsplit, crc16_append_eq_zero]
  exact not_not.mp hcrc

/-- **A burst of errors** within 16 bits of a frame, its check sequence included, is refused. -/
theorem verifyAndStripFcs_detects_burst (cid : UInt16) (p : Bytes) (hp : p.length ≤ 65533) :
    ∃ q, appendFcs cid p = .ok q ∧
      ∀ (e : Bytes) (start : ℕ), e.length = q.length → (∃ byte ∈ e, byte ≠ 0) →
        (∀ position, bitAt e position = true → start ≤ position ∧ position < start + 16) →
        ∃ error, verifyAndStripFcs cid (List.zipWith (· ^^^ ·) q e) = .error error := by
  refine ⟨_, appendFcs_eq cid hp, ?_⟩
  intro e start hlength hne hburst
  set q := p ++ toLe16 (crc16 (fcsCovered (UInt16.ofNat (p.length + 2)) cid p)) with hq
  have hq_length : q.length = p.length + 2 := by
    rw [hq, List.length_append, length_toLe16]
  have hsent : crc16 (fcsCovered (UInt16.ofNat q.length) cid q) = 0 := by
    rw [hq_length, hq, fcsCovered, ← List.append_assoc, crc16_append_eq_zero, fcsCovered]
  rcases hverify : verifyAndStripFcs cid (List.zipWith (· ^^^ ·) q e) with error | stripped
  · exact ⟨error, rfl⟩
  exfalso
  have hreceived := verifyAndStripFcs_eq_ok hverify
  have hreceived_length : (List.zipWith (· ^^^ ·) q e).length = q.length := by
    rw [List.length_zipWith, hlength, Nat.min_self]
  rw [hreceived_length] at hreceived
  -- The header is the same, so the errors alone are what the register is left with.
  set header := toLe16 (UInt16.ofNat q.length) ++ toLe16 cid with hheader
  obtain ⟨i, hi⟩ := exists_bit_of_ne_zero hne
  have hfirst : crcPolynomial.getLsbD (16 - 1) = true := rfl
  apply feed_burst hfirst hi
    fun position hset => hburst position (bitAt_of_getElem? hset)
  have hsent' : feed crcPolynomial (crc16 header).toBitVec (bits q) = 0#16 := by
    rw [toBitVec_crc16, ← feed_append, ← bits_append, ← toBitVec_crc16]
    exact congrArg UInt16.toBitVec hsent
  have hreceived' :
      feed crcPolynomial (crc16 header).toBitVec (xorBits (bits q) (bits e)) = 0#16 := by
    rw [← bits_xor hlength.symm, toBitVec_crc16, ← feed_append, ← bits_append, ← toBitVec_crc16]
    exact congrArg UInt16.toBitVec hreceived
  have hbits : (bits q).length = (bits e).length := by
    rw [length_bits, length_bits, hlength]
  calc feed crcPolynomial 0#16 (bits e)
      = feed crcPolynomial (crc16 header).toBitVec (bits q) ^^^
          feed crcPolynomial 0#16 (bits e) := by
        rw [hsent', BitVec.zero_xor]
    _ = feed crcPolynomial (crc16 header).toBitVec (xorBits (bits q) (bits e)) := by
        rw [← feed_xor hbits, BitVec.xor_zero]
    _ = 0#16 := hreceived'

theorem verifyAndStripFcs_detects_burst_byte :
    ([0x41] : Bytes).length ≤ 65533 ∧
      ∃ q, appendFcs 0x0040 [0x41] = .ok q ∧
        ∀ (e : Bytes) (start : ℕ), e.length = q.length → (∃ byte ∈ e, byte ≠ 0) →
          (∀ position, bitAt e position = true → start ≤ position ∧ position < start + 16) →
          ∃ error, verifyAndStripFcs 0x0040 (List.zipWith (· ^^^ ·) q e) = .error error :=
  ⟨by decide, verifyAndStripFcs_detects_burst 0x0040 [0x41] (by decide)⟩

/-- **The writers agree**: a payload with its check sequence appended is framed as the payload is
with a check sequence, its bytes are read back, and the reader undoes the writer. -/
theorem appendFcs_agrees (cid : UInt16) (p : Bytes) (hp : p.length ≤ 65533) :
    ∃ q, appendFcs cid p = .ok q ∧
      (L2capPdu.mk cid q).toBytes false = (L2capPdu.mk cid p).toBytes true ∧
      L2capPdu.fromBytes ((L2capPdu.mk cid q).toBytes false) = .ok ⟨cid, q⟩ ∧
      verifyAndStripFcs cid q = .ok p := by
  set fcs := toLe16 (crc16 (fcsCovered (UInt16.ofNat (p.length + 2)) cid p)) with hfcs
  have hlength : (p ++ fcs).length = p.length + 2 := by
    rw [hfcs, List.length_append, length_toLe16]
  refine ⟨p ++ fcs, appendFcs_eq cid hp, ?_, ?_, ?_⟩
  · simp only [L2capPdu.toBytes, hlength, if_true, Bool.false_eq_true, if_false]
    rw [← List.append_assoc, hfcs, fcsCovered]
  · exact L2capPdu.fromBytes_toBytes (by rw [hlength]; omega)
  · have hread : toLe16 (le16At (p ++ fcs) p.length) = fcs := by
      rw [toLe16_le16At hlength, List.drop_left]
    have hchecked : crc16 (fcsCovered (UInt16.ofNat (p.length + 2)) cid p) =
        le16At (p ++ fcs) p.length :=
      toLe16_injective (hfcs.symm.trans hread.symm)
    rw [verifyAndStripFcs, if_neg (by omega), if_neg (by omega)]
    simp only [hlength, Nat.add_sub_cancel, List.take_left]
    rw [if_neg (not_not.mpr hchecked)]

theorem appendFcs_agrees_byte :
    ([0x41] : Bytes).length ≤ 65533 ∧
      ∃ q, appendFcs 0x0040 [0x41] = .ok q ∧
        (L2capPdu.mk 0x0040 q).toBytes false = (L2capPdu.mk 0x0040 [0x41]).toBytes true ∧
        L2capPdu.fromBytes ((L2capPdu.mk 0x0040 q).toBytes false) = .ok ⟨0x0040, q⟩ ∧
        verifyAndStripFcs 0x0040 q = .ok [0x41] :=
  ⟨by decide, appendFcs_agrees 0x0040 [0x41] (by decide)⟩

end ClassicHid

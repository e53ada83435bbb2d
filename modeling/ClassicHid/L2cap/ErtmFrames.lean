import ClassicHid.L2cap.Ertm

/-!
# Frames on the wire

The bytes of the frames an engine sends, which the control field determines, and sequence numbers
as numbers modulo 64.

## Main definitions

* `PendingFrame.bytes`, `SupervisoryFunction.bytes`: the bytes of a frame

## Main results

* `PendingFrame.encode_eq`, `EnhancedControlField.supervisory_toBytes`: a frame with valid sequence
  numbers has these bytes
* `PendingFrame.fromBytes_bytes`, `SupervisoryFunction.fromBytes_bytes`: they are read back
* `toNat_sequenceAdd`, `toNat_sequenceDistance`: arithmetic of sequence numbers
-/

namespace ClassicHid

open Foundation

/-! ### Sequence numbers -/

theorem toNat_sequenceAdd (sequence : UInt8) :
    (sequenceAdd sequence 1).toNat = (sequence.toNat + 1) % 64 := by
  simp only [sequenceAdd, ertmSequenceModulus, UInt8.toNat_mod, UInt8.toNat_add, UInt8.reduceToNat]
  omega

theorem toNat_sequenceDistance {first last : UInt8} (hfirst : first.toNat < 64)
    (hlast : last.toNat < 64) :
    (sequenceDistance first last).toNat = (last.toNat + 64 - first.toNat) % 64 := by
  have hle : first ≤ last + 64 := by
    rw [UInt8.le_iff_toNat_le, UInt8.toNat_add]
    simp only [UInt8.reduceToNat]
    omega
  simp only [sequenceDistance, ertmSequenceModulus, UInt8.toNat_mod, UInt8.toNat_sub_of_le _ _ hle,
    UInt8.toNat_add, UInt8.reduceToNat]
  omega

/-! ### Control fields -/

/-- The control field of an information frame without the final bit. -/
def informationControl (txSeq reqSeq : UInt8) (sar : SegmentationAndReassembly) : Bytes :=
  [txSeq <<< 1, reqSeq ||| (sar.toByte <<< 6)]

/-- The bytes of an information frame that acknowledges up to `reqSeq`. -/
def PendingFrame.bytes (frame : PendingFrame) (reqSeq : UInt8) : Bytes :=
  informationControl frame.txSeq reqSeq frame.sar ++ (frame.sduLength.elim [] toLe16) ++
    frame.payload

/-- The bytes of a supervisory frame. -/
def SupervisoryFunction.bytes (function : SupervisoryFunction) (poll finalBit : Bool)
    (reqSeq : UInt8) : Bytes :=
  [(1 : UInt8) ||| (function.toByte <<< 2) ||| (poll.toUInt8 <<< 4) ||| (finalBit.toUInt8 <<< 7),
    reqSeq]

theorem validateSeq_eq {value : UInt8} (h : value.toNat < 64) (name : String) :
    EnhancedControlField.validateSeq name value = .ok value := by
  have hlt : value < ertmSequenceModulus := UInt8.lt_iff_toNat_lt.mpr h
  rw [EnhancedControlField.validateSeq, if_pos hlt]

theorem PendingFrame.encode_eq {frame : PendingFrame} {reqSeq : UInt8}
    (hframe : frame.txSeq.toNat < 64) (hreq : reqSeq.toNat < 64) :
    frame.encode reqSeq false = .ok (frame.bytes reqSeq) := by
  have hfinal (b : UInt8) : b ||| ((false.toUInt8 : UInt8) <<< 7) = b := by
    rw [show ((false.toUInt8 : UInt8) <<< 7) = 0 by decide, UInt8.or_zero]
  rw [encode, EnhancedControlField.toBytes, validateSeq_eq hframe, validateSeq_eq hreq]
  simp only [Bind.bind, Except.bind, pure, Except.pure, hfinal]
  rfl

theorem EnhancedControlField.supervisory_toBytes {function : SupervisoryFunction}
    {poll finalBit : Bool} {reqSeq : UInt8} (hreq : reqSeq.toNat < 64) :
    (EnhancedControlField.supervisory function poll finalBit reqSeq).toBytes =
      .ok (function.bytes poll finalBit reqSeq) := by
  rw [toBytes, validateSeq_eq hreq]
  rfl

/-- The first byte of an information frame. -/
theorem txSeq_bits : ∀ t : Fin 64, (UInt8.ofNat t <<< 1) &&& 1 = 0 ∧
    ((UInt8.ofNat t <<< 1) >>> 1) &&& 0x3f = UInt8.ofNat t ∧ (UInt8.ofNat t <<< 1) &&& 0x80 = 0 := by
  decide +kernel

/-- The second byte of an information frame. -/
theorem reqSeq_bits : ∀ (r : Fin 64) (sar : Fin 4),
    ((UInt8.ofNat r ||| (UInt8.ofNat sar <<< 6)) &&& 0x3f = UInt8.ofNat r ∧
      (UInt8.ofNat r ||| (UInt8.ofNat sar <<< 6)) >>> 6 = UInt8.ofNat sar) := by
  decide +kernel

theorem EnhancedControlField.fromBytes_information {txSeq reqSeq : UInt8}
    {sar : SegmentationAndReassembly} (htx : txSeq.toNat < 64) (hreq : reqSeq.toNat < 64)
    (rest : Bytes) :
    fromBytes (informationControl txSeq reqSeq sar ++ rest) =
      .ok (.information txSeq false reqSeq sar) := by
  obtain ⟨h₁, h₂, h₃⟩ := txSeq_bits ⟨txSeq.toNat, htx⟩
  have hsar : ∃ n : Fin 4, sar.toByte = UInt8.ofNat n ∧
      SegmentationAndReassembly.ofByte (UInt8.ofNat n) = .ok sar := by
    cases sar
    · exact ⟨0, rfl, rfl⟩
    · exact ⟨1, rfl, rfl⟩
    · exact ⟨2, rfl, rfl⟩
    · exact ⟨3, rfl, rfl⟩
  obtain ⟨n, hbyte, hsar⟩ := hsar
  obtain ⟨h₄, h₅⟩ := reqSeq_bits ⟨reqSeq.toNat, hreq⟩ n
  simp only [UInt8.ofNat_toNat] at h₁ h₂ h₃ h₄ h₅
  simp only [informationControl, List.cons_append, List.nil_append, fromBytes, h₁, h₂, h₃, hbyte,
    h₄, h₅, hsar, if_true, ne_eq, not_true, decide_false]
  rfl

/-- An information frame is read back. -/
theorem PendingFrame.fromBytes_bytes {frame : PendingFrame} {reqSeq : UInt8}
    (hframe : frame.txSeq.toNat < 64) (hreq : reqSeq.toNat < 64) :
    EnhancedControlField.fromBytes (frame.bytes reqSeq) =
      .ok (.information frame.txSeq false reqSeq frame.sar) := by
  rw [bytes, List.append_assoc]
  exact EnhancedControlField.fromBytes_information hframe hreq _

theorem PendingFrame.drop_bytes (frame : PendingFrame) (reqSeq : UInt8) :
    (frame.bytes reqSeq).drop 2 = (frame.sduLength.elim [] toLe16) ++ frame.payload := by
  rw [bytes, List.append_assoc]
  rfl

/-- A supervisory frame is read back. -/
theorem SupervisoryFunction.fromBytes_bytes (function : SupervisoryFunction) (poll finalBit : Bool)
    {reqSeq : UInt8} (hreq : reqSeq.toNat < 64) :
    EnhancedControlField.fromBytes (function.bytes poll finalBit reqSeq) =
      .ok (.supervisory function poll finalBit reqSeq) := by
  obtain ⟨h, _⟩ := reqSeq_bits ⟨reqSeq.toNat, hreq⟩ 0
  simp only [UInt8.ofNat_toNat] at h
  have hmask : reqSeq &&& 0x3f = reqSeq := by
    rw [show (UInt8.ofNat ((0 : Fin 4) : ℕ)) <<< 6 = 0 by decide, UInt8.or_zero] at h
    exact h
  cases function <;> cases poll <;> cases finalBit <;>
    simp only [SupervisoryFunction.bytes, EnhancedControlField.fromBytes, hmask] <;> rfl

end ClassicHid

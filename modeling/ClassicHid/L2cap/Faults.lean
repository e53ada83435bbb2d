import ClassicHid.Foundation.Fault
import ClassicHid.L2cap.ControlCodec

/-!
# The faults of the signaling parser

The parser of signaling frames with every read and every shift checked. All reads are inside the
frame. The field of a PSM goes on while its last byte is odd and is collected in 32 bits, so a field
of more than four bytes is shifted out of the word.

## Main definitions

* `ControlFrame.fromBytesChecked`: the parser, which faults where the program does
* `ControlFrame.LongPsm`: the field of a PSM goes on after four bytes

## Main results

* `ControlFrame.parseChecked_eq`: without a fault, the parser is the one of the model
* `ControlFrame.fromBytes_safe_iff`: the frames on which the parser does not fault
-/

namespace ClassicHid

open Foundation Checked

/-- Read a little-endian 16-bit integer. -/
def le16Checked (data : Bytes) (offset : ℕ) : Checked L2capError UInt16 := do
  let lo ← index data offset
  let hi ← index data (offset + 1)
  pure (fromLe16 lo hi)

/-- The bytes of a PSM after the first two; every shift is checked. -/
def parsePsmExtensionChecked (data : Bytes) (offset psmLength : ℕ) (psm : UInt32) :
    Checked L2capError (ℕ × UInt32) := do
  let last ← index data (offset + psmLength - 1)
  if last % 2 = 1 then
    if _h : offset + psmLength ≥ data.length then
      returned (.error (.invalidPacket "truncated PSM"))
    else do
      let byte ← index data (offset + psmLength)
      let shifted ← shiftLeft byte.toUInt32 (8 * psmLength)
      parsePsmExtensionChecked data offset (psmLength + 1) (psm ||| shifted)
  else pure (offset + psmLength, psm)
termination_by data.length - (offset + psmLength)

/-- The PSM field at `offset`. -/
def parsePsmChecked (data : Bytes) (offset : ℕ) : Checked L2capError (ℕ × UInt32) :=
  if offset + 2 > data.length then returned (.error (.invalidPacket "not enough data for PSM"))
  else do
    let lo ← index data offset
    let hi ← index data (offset + 1)
    let shifted ← shiftLeft hi.toUInt32 8
    parsePsmExtensionChecked data offset 2 (lo.toUInt32 ||| shifted)

def readCidListChecked (data : Bytes) : Checked L2capError (List UInt16) :=
  if data.length % 2 ≠ 0 then
    returned (.error (.invalidPacket "CID list has an odd byte length"))
  else (chunks 2 data).mapM fun chunk => do
    let lo ← index chunk 0
    let hi ← index chunk 1
    pure (fromLe16 lo hi)

namespace ControlFrame

def parseConnectionRequestChecked (identifier : UInt8) (payload : Bytes) :
    Checked L2capError ControlFrame := do
  let (offset, psm) ← parsePsmChecked payload 0
  if offset + 2 > payload.length then
    returned (.error (.invalidPacket "truncated Connection_Request"))
  else do
    let lo ← index payload offset
    let hi ← index payload (offset + 1)
    pure (.connectionRequest identifier psm (fromLe16 lo hi))

/-- The frame of a code, read from its payload. -/
def parseChecked (code identifier : UInt8) (payload : Bytes) : Checked L2capError ControlFrame :=
  match code with
  | 0x01 => do
    returned (need payload 2)
    let reason ← le16Checked payload 0
    let data ← slice payload 2 payload.length
    pure (.commandReject identifier reason data)
  | 0x02 => parseConnectionRequestChecked identifier payload
  | 0x03 => do
    returned (need payload 8)
    let destinationCid ← le16Checked payload 0
    let sourceCid ← le16Checked payload 2
    let result ← le16Checked payload 4
    let status ← le16Checked payload 6
    pure (.connectionResponse identifier destinationCid sourceCid result status)
  | 0x04 => do
    returned (need payload 4)
    let destinationCid ← le16Checked payload 0
    let flags ← le16Checked payload 2
    let options ← slice payload 4 payload.length
    pure (.configureRequest identifier destinationCid flags options)
  | 0x05 => do
    returned (need payload 6)
    let sourceCid ← le16Checked payload 0
    let flags ← le16Checked payload 2
    let result ← le16Checked payload 4
    let options ← slice payload 6 payload.length
    pure (.configureResponse identifier sourceCid flags result options)
  | 0x06 => do
    returned (need payload 4)
    let destinationCid ← le16Checked payload 0
    let sourceCid ← le16Checked payload 2
    pure (.disconnectionRequest identifier destinationCid sourceCid)
  | 0x07 => do
    returned (need payload 4)
    let destinationCid ← le16Checked payload 0
    let sourceCid ← le16Checked payload 2
    pure (.disconnectionResponse identifier destinationCid sourceCid)
  | 0x08 => pure (.echoRequest identifier payload)
  | 0x09 => pure (.echoResponse identifier payload)
  | 0x0A => do
    returned (need payload 2)
    let infoType ← le16Checked payload 0
    pure (.informationRequest identifier infoType)
  | 0x0B => do
    returned (need payload 4)
    let infoType ← le16Checked payload 0
    let result ← le16Checked payload 2
    let data ← slice payload 4 payload.length
    pure (.informationResponse identifier infoType result data)
  | 0x12 => do
    returned (need payload 8)
    let intervalMin ← le16Checked payload 0
    let intervalMax ← le16Checked payload 2
    let latency ← le16Checked payload 4
    let timeout ← le16Checked payload 6
    pure (.connectionParameterUpdateRequest identifier intervalMin intervalMax latency timeout)
  | 0x13 => do
    returned (need payload 2)
    let result ← le16Checked payload 0
    pure (.connectionParameterUpdateResponse identifier result)
  | 0x14 => do
    returned (need payload 10)
    let lePsm ← le16Checked payload 0
    let sourceCid ← le16Checked payload 2
    let mtu ← le16Checked payload 4
    let mps ← le16Checked payload 6
    let initialCredits ← le16Checked payload 8
    pure (.leCreditBasedConnectionRequest identifier lePsm sourceCid mtu mps initialCredits)
  | 0x15 => do
    returned (need payload 10)
    let destinationCid ← le16Checked payload 0
    let mtu ← le16Checked payload 2
    let mps ← le16Checked payload 4
    let initialCredits ← le16Checked payload 6
    let result ← le16Checked payload 8
    pure (.leCreditBasedConnectionResponse identifier destinationCid mtu mps initialCredits result)
  | 0x16 => do
    returned (need payload 4)
    let cid ← le16Checked payload 0
    let credits ← le16Checked payload 2
    pure (.leFlowControlCredit identifier cid credits)
  | 0x17 => do
    returned (need payload 8)
    let spsm ← le16Checked payload 0
    let mtu ← le16Checked payload 2
    let mps ← le16Checked payload 4
    let initialCredits ← le16Checked payload 6
    let list ← slice payload 8 payload.length
    let sourceCid ← readCidListChecked list
    pure (.creditBasedConnectionRequest identifier spsm mtu mps initialCredits sourceCid)
  | 0x18 => do
    returned (need payload 8)
    let mtu ← le16Checked payload 0
    let mps ← le16Checked payload 2
    let initialCredits ← le16Checked payload 4
    let result ← le16Checked payload 6
    let list ← slice payload 8 payload.length
    let destinationCid ← readCidListChecked list
    pure (.creditBasedConnectionResponse identifier mtu mps initialCredits result destinationCid)
  | 0x19 => do
    returned (need payload 4)
    let mtu ← le16Checked payload 0
    let mps ← le16Checked payload 2
    let list ← slice payload 4 payload.length
    let destinationCid ← readCidListChecked list
    pure (.creditBasedReconfigureRequest identifier mtu mps destinationCid)
  | 0x1A => do
    returned (need payload 2)
    let result ← le16Checked payload 0
    pure (.creditBasedReconfigureResponse identifier result)
  | _ => pure (.generic code identifier payload)

/-- A signaling frame from its wire bytes. -/
def fromBytesChecked (pdu : Bytes) : Checked L2capError ControlFrame :=
  if pdu.length < 4 then returned (.error (.invalidPacket "not enough data for control frame"))
  else do
    let code ← index pdu 0
    let identifier ← index pdu 1
    let lo ← index pdu 2
    let hi ← index pdu 3
    let length := (fromLe16 lo hi).toNat
    let «end» := min (4 + length) pdu.length
    let payload ← slice pdu 4 «end»
    parseChecked code identifier payload

end ControlFrame

/-! ### Reads -/

theorem le16Checked_of_le {data : Bytes} {offset : ℕ} (h : offset + 2 ≤ data.length) :
    le16Checked data offset = returned (.ok (le16At data offset)) := by
  rw [le16Checked, index_of_lt (by omega) 0, bind_returned, index_of_lt (by omega) 0, bind_returned]
  rfl

/-- What follows a check of the length may rely on it. -/
theorem need_bind {α : Type} {payload : Bytes} {n : ℕ} {f : Unit → Checked L2capError α}
    {g : Unit → Except L2capError α} (h : n ≤ payload.length → f () = returned (g ())) :
    returned (need payload n) >>= f = returned (need payload n >>= g) := by
  rw [need]
  split
  · rfl
  · exact h (by omega)

theorem mapM_chunks (data : Bytes) (heven : data.length % 2 = 0) :
    ((chunks 2 data).mapM fun chunk => do
      let lo ← index chunk 0
      let hi ← index chunk 1
      pure (fromLe16 lo hi) : Checked L2capError (List UInt16)) =
    returned (.ok (le16Pairs data)) := by
  match data with
  | [] =>
    rw [chunks_nil]
    rfl
  | [_] => cases heven
  | lo :: hi :: rest =>
    rw [chunks_of_ne_nil (by decide) (List.cons_ne_nil _ _), List.mapM_cons]
    have hrest := mapM_chunks rest (by rw [List.length_cons, List.length_cons] at heven; omega)
    rw [show (lo :: hi :: rest).drop 2 = rest from rfl, hrest]
    rfl

/-- A list of channel identifiers is read inside its bounds. -/
theorem readCidListChecked_eq (data : Bytes) :
    readCidListChecked data = returned (readCidList data) := by
  rw [readCidListChecked, readCidList]
  split
  · rfl
  · rename_i heven
    exact mapM_chunks data (not_not.mp heven)

/-! ### The field of a PSM -/

section Psm

variable {data : Bytes} {offset psmLength : ℕ} {psm : UInt32}

/-- The field ends at an even byte, or is cut off after an odd one. -/
theorem parsePsmExtensionChecked_ended (hpos : 0 < psmLength)
    (hlength : offset + psmLength ≤ data.length)
    (hend : data.getD (offset + psmLength - 1) 0 % 2 ≠ 1 ∨ data.length ≤ offset + psmLength) :
    parsePsmExtensionChecked data offset psmLength psm =
      returned (parsePsmExtension data offset psmLength psm) := by
  rw [parsePsmExtensionChecked, parsePsmExtension, index_of_lt (by omega) 0, bind_returned]
  split
  · rename_i hodd
    have hcut : offset + psmLength ≥ data.length := hend.resolve_left fun heven => heven hodd
    rw [dif_pos hcut, dif_pos hcut]
  · rfl

/-- The field goes on. -/
theorem parsePsmExtensionChecked_next (psm : UInt32) (hpos : 0 < psmLength)
    (hshift : 8 * psmLength < 32) (hlength : offset + psmLength < data.length)
    (hodd : data.getD (offset + psmLength - 1) 0 % 2 = 1) :
    ∃ psm', parsePsmExtensionChecked data offset psmLength psm =
        parsePsmExtensionChecked data offset (psmLength + 1) psm' ∧
      parsePsmExtension data offset psmLength psm =
        parsePsmExtension data offset (psmLength + 1) psm' := by
  have hmore : ¬ offset + psmLength ≥ data.length := Nat.not_le.mpr hlength
  refine ⟨psm ||| ((data.getD (offset + psmLength) 0).toUInt32 <<< UInt32.ofNat (8 * psmLength)),
    ?_, ?_⟩
  · conv_lhs =>
      rw [parsePsmExtensionChecked, index_of_lt (by omega) 0, bind_returned, if_pos hodd,
        dif_neg hmore, index_of_lt hlength 0, bind_returned, shiftLeft_of_lt hshift, bind_returned]
  · conv_lhs => rw [parsePsmExtension, if_pos hodd, dif_neg hmore]

/-- The field goes on after four bytes. -/
theorem parsePsmExtensionChecked_fault (hshift : 32 ≤ 8 * psmLength)
    (hlength : offset + psmLength < data.length)
    (hodd : data.getD (offset + psmLength - 1) 0 % 2 = 1) :
    parsePsmExtensionChecked data offset psmLength psm = fault := by
  rw [parsePsmExtensionChecked, index_of_lt (by omega) 0, bind_returned, if_pos hodd,
    dif_neg (Nat.not_le.mpr hlength), index_of_lt hlength 0, bind_returned, shiftLeft_of_ge hshift,
    bind_fault]

end Psm

namespace ControlFrame

/-- The field of a PSM at the beginning of a payload goes on after four bytes. -/
def LongPsm (payload : Bytes) : Prop :=
  5 ≤ payload.length ∧ payload.getD 1 0 % 2 = 1 ∧ payload.getD 2 0 % 2 = 1 ∧
    payload.getD 3 0 % 2 = 1

instance (payload : Bytes) : Decidable (LongPsm payload) :=
  inferInstanceAs (Decidable (_ ∧ _ ∧ _ ∧ _))

/-- The rest of the field of a PSM, after `psmLength` bytes of it. -/
theorem parsePsmExtensionChecked_eq {payload : Bytes} {psmLength : ℕ} (psm : UInt32)
    (hlow : 2 ≤ psmLength) (hhigh : psmLength ≤ 4) (hlength : psmLength ≤ payload.length)
    (hodd : ∀ i, 1 ≤ i → i + 1 < psmLength → payload.getD i 0 % 2 = 1) :
    parsePsmExtensionChecked payload 0 psmLength psm =
      if LongPsm payload then fault
      else returned (parsePsmExtension payload 0 psmLength psm) := by
  have hlast : 0 + psmLength - 1 = psmLength - 1 := by omega
  by_cases hend : payload.getD (psmLength - 1) 0 % 2 ≠ 1 ∨ payload.length ≤ psmLength
  · have hnot : ¬ LongPsm payload := by
      rintro ⟨hfive, h₁, h₂, h₃⟩
      have hcases : psmLength = 2 ∨ psmLength = 3 ∨ psmLength = 4 := by omega
      rcases hend with heven | hcut
      · rcases hcases with rfl | rfl | rfl
        · exact heven h₁
        · exact heven h₂
        · exact heven h₃
      · omega
    rw [if_neg hnot]
    exact parsePsmExtensionChecked_ended (by omega) (by omega) (by rwa [hlast, Nat.zero_add])
  rw [not_or, not_not, Nat.not_le] at hend
  have hodd' (i : ℕ) (hi : 1 ≤ i) (hlt : i + 1 < psmLength + 1) : payload.getD i 0 % 2 = 1 := by
    by_cases hlt' : i + 1 < psmLength
    · exact hodd i hi hlt'
    · rw [show i = psmLength - 1 by omega]
      exact hend.1
  by_cases hfour : psmLength = 4
  · -- The fifth byte would be shifted by 32 bits.
    subst hfour
    rw [if_pos ⟨hend.2, hodd' 1 (by decide) (by decide), hodd' 2 (by decide) (by decide),
      hodd' 3 (by decide) (by decide)⟩]
    exact parsePsmExtensionChecked_fault (by decide) (by omega) hend.1
  · obtain ⟨psm', hchecked, hread⟩ := parsePsmExtensionChecked_next psm
      (by omega : 0 < psmLength) (by omega) (by omega : 0 + psmLength < payload.length)
      (by rw [hlast]; exact hend.1)
    rw [hchecked, hread]
    exact parsePsmExtensionChecked_eq psm' (by omega) (by omega) (by omega) hodd'
termination_by 4 - psmLength

/-- **The field of a PSM** is read without a fault, or goes on after four bytes. -/
theorem parsePsmChecked_eq (payload : Bytes) :
    parsePsmChecked payload 0 =
      if LongPsm payload then fault else returned (parsePsm payload 0) := by
  rw [parsePsmChecked, parsePsm]
  by_cases hshort : 0 + 2 > payload.length
  · rw [if_pos hshort, if_pos hshort, if_neg fun h => by have := h.1; omega]
  · rw [if_neg hshort, if_neg hshort, index_of_lt (by omega) 0, bind_returned,
      index_of_lt (by omega) 0, bind_returned, shiftLeft_of_lt (by decide), bind_returned]
    exact parsePsmExtensionChecked_eq _ (by decide) (by decide) (by omega) (by omega)

/-! ### Whole frames -/

theorem parseConnectionRequest_of_ok {payload : Bytes} {next : ℕ} {psm : UInt32}
    (h : parsePsm payload 0 = .ok (next, psm)) (identifier : UInt8) :
    parseConnectionRequest identifier payload =
      if next + 2 > payload.length then .error (.invalidPacket "truncated Connection_Request")
      else .ok (.connectionRequest identifier psm (le16At payload next)) := by
  rw [parseConnectionRequest, h]
  change (if next + 2 > payload.length then _ else _) = _
  split <;> rfl

theorem parseConnectionRequestChecked_eq (identifier : UInt8) (payload : Bytes) :
    parseConnectionRequestChecked identifier payload =
      if LongPsm payload then fault
      else returned (parseConnectionRequest identifier payload) := by
  rw [parseConnectionRequestChecked, parsePsmChecked_eq]
  split
  · rfl
  rcases hread : parsePsm payload 0 with error | ⟨next, psm⟩
  · rw [parseConnectionRequest, hread]
    rfl
  rw [bind_returned, parseConnectionRequest_of_ok hread]
  dsimp only
  split
  · rfl
  · rw [index_of_lt (by omega) 0, bind_returned, index_of_lt (by omega) 0, bind_returned]
    rfl

/-- **The parser faults** only on the field of a PSM. -/
theorem parseChecked_eq (code identifier : UInt8) (payload : Bytes) :
    parseChecked code identifier payload =
      if code = 0x02 ∧ LongPsm payload then fault
      else returned (parse code identifier payload) := by
  by_cases hcode : code = 0x02
  · subst hcode
    simp only [true_and]
    exact parseConnectionRequestChecked_eq identifier payload
  rw [if_neg fun h => hcode h.1]
  unfold parseChecked
  split
  case h_2 => exact absurd rfl hcode
  case h_8 | h_9 => rfl
  case h_17 | h_18 | h_19 =>
    -- Frames with a list of channel identifiers.
    refine need_bind fun hlength => ?_
    simp (disch := omega) only [le16Checked_of_le, slice_length, bind_returned,
      readCidListChecked_eq]
    rcases readCidList _ with error | cids <;> rfl
  case h_21 =>
    rw [parse_generic (by simp_all [assignedCodes])]
    rfl
  all_goals
    refine need_bind fun hlength => ?_
    simp (disch := omega) only [le16Checked_of_le, slice_length, bind_returned]
    rfl

/-- **The frames on which the parser does not fault**: all but the connection requests whose PSM
goes on after four bytes. -/
theorem fromBytes_safe_iff (pdu : Bytes) :
    (fromBytesChecked pdu).Safe ↔
      ¬ (4 ≤ pdu.length ∧ pdu.getD 0 0 = 0x02 ∧
        LongPsm ((pdu.take (min (4 + (le16At pdu 2).toNat) pdu.length)).drop 4)) := by
  rw [fromBytesChecked]
  by_cases hshort : pdu.length < 4
  · rw [if_pos hshort]
    exact iff_of_true (safe_returned _) fun h => by have := h.1; omega
  have hlength : 4 ≤ pdu.length := Nat.not_lt.mp hshort
  rw [if_neg hshort, index_of_lt (by omega) 0, bind_returned, index_of_lt (by omega) 0,
    bind_returned, index_of_lt (by omega) 0, bind_returned, index_of_lt (by omega) 0,
    bind_returned]
  dsimp only
  rw [slice_of_le (by omega) (Nat.min_le_right _ _), bind_returned, parseChecked_eq]
  have hlength' : (fromLe16 (pdu.getD 2 0) (pdu.getD 3 0)).toNat = (le16At pdu 2).toNat := rfl
  rw [hlength']
  split
  · rename_i hlong
    exact iff_of_false not_safe_fault (not_not.mpr ⟨hlength, hlong⟩)
  · rename_i hlong
    exact iff_of_true (safe_returned _) fun h => hlong h.2

/-- A connection request with a PSM of seven bytes. -/
theorem fromBytes_faults_on_long_psm :
    ¬ (fromBytesChecked [0x02, 0x01, 0x07, 0x00, 0x01, 0x01, 0x01, 0x01, 0x00, 0x40, 0x00]).Safe := by
  intro hsafe
  exact (fromBytes_safe_iff _).mp hsafe (by decide)

end ControlFrame

end ClassicHid

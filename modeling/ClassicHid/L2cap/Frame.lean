import Mathlib.Logic.Function.Iterate
import ClassicHid.Foundation.Bytes

/-!
# L2CAP frames

The basic L2CAP PDU with its frame check sequence, the variable-length PSM field, and the
options of a configuration frame.

## Main definitions

* `L2capPdu`: a channel identifier and a payload, with `L2capPdu.toBytes` and `L2capPdu.fromBytes`
* `crc16`: the frame check sequence
* `serializePsm`, `parsePsm`: the PSM field
* `encodeConfigurationOptions`, `decodeConfigurationOptions`: type/length/value options
-/

namespace ClassicHid

open Foundation

/-- Errors produced while parsing L2CAP frames. -/
inductive L2capError
  | invalidPacket (message : String)
  deriving DecidableEq, Repr

/-- The signaling channel identifier used for BR/EDR L2CAP. -/
def l2capSignalingCid : UInt16 := 0x0001

/-! ### Frame check sequence -/

/-- One bit of the CRC: shift, and subtract the polynomial when the bit shifted out was set. -/
def crcShift (crc : UInt16) : UInt16 :=
  if crc &&& 0x0001 ≠ 0 then (crc >>> 1) ^^^ 0xA001 else crc >>> 1

/-- One byte of the CRC. -/
def crcByte (crc : UInt16) (byte : UInt8) : UInt16 := crcShift^[8] (crc ^^^ byte.toUInt16)

/-- CRC-16-IBM with the reversed polynomial `0xA001` and the initial value zero. -/
def crc16 (data : Bytes) : UInt16 := data.foldl crcByte 0

/-! ### PSM -/

/-- One byte for each 8 bits of `rest`, low byte first, until nothing is left. -/
def psmExtension (rest : ℕ) : Bytes :=
  if rest = 0 then [] else UInt8.ofNat rest :: psmExtension (rest / 256)

/-- The low 16 bits little-endian, then one byte for each remaining 8 bits. -/
def serializePsm (psm : UInt32) : Bytes :=
  toLe16 (UInt16.ofNat psm.toNat) ++ psmExtension (psm.toNat / 65536)

/-- The bytes of a PSM after the first two: the field extends while the last byte read is odd.
`psmLength` bytes have been read. A shift by 32 bits or more wraps, as it does in a release
build. -/
def parsePsmExtension (data : Bytes) (offset psmLength : ℕ) (psm : UInt32) :
    Except L2capError (ℕ × UInt32) :=
  if (data.getD (offset + psmLength - 1) 0) % 2 = 1 then
    if _h : offset + psmLength ≥ data.length then .error (.invalidPacket "truncated PSM")
    else parsePsmExtension data offset (psmLength + 1)
      (psm ||| ((data.getD (offset + psmLength) 0).toUInt32 <<< UInt32.ofNat (8 * psmLength)))
  else .ok (offset + psmLength, psm)
termination_by data.length - (offset + psmLength)

/-- The PSM field at `offset`, and the offset after it. -/
def parsePsm (data : Bytes) (offset : ℕ) : Except L2capError (ℕ × UInt32) :=
  if offset + 2 > data.length then .error (.invalidPacket "not enough data for PSM")
  else parsePsmExtension data offset 2
    ((data.getD offset 0).toUInt32 ||| ((data.getD (offset + 1) 0).toUInt32 <<< 8))

/-! ### PDU -/

/-- An L2CAP data-packet PDU: a channel identifier and a payload. -/
structure L2capPdu where
  cid : UInt16
  payload : Bytes
  deriving DecidableEq, Repr

namespace L2capPdu

def fromBytes (data : Bytes) : Except L2capError L2capPdu :=
  if data.length < 4 then .error (.invalidPacket "not enough data for L2CAP header")
  else
    let length := (le16At data 0).toNat
    let «end» := min (4 + length) data.length
    .ok { cid := le16At data 2, payload := (data.take «end»).drop 4 }

/-- The bytes of a PDU. With a frame check sequence, the length field counts its two bytes. -/
def toBytes (pdu : L2capPdu) (withFcs : Bool) : Bytes :=
  let length := if withFcs then pdu.payload.length + 2 else pdu.payload.length
  let body := toLe16 (UInt16.ofNat length) ++ toLe16 pdu.cid ++ pdu.payload
  if withFcs then body ++ toLe16 (crc16 body) else body

theorem length_toBytes (pdu : L2capPdu) :
    (pdu.toBytes false).length = pdu.payload.length + 4 := by
  simp only [toBytes, Bool.false_eq_true, if_false, List.length_append, length_toLe16]
  omega

/-- Bytes of the declared length are read whole. -/
theorem fromBytes_eq {data : Bytes} (h : data.length = 4 + (le16At data 0).toNat) :
    fromBytes data = .ok { cid := le16At data 2, payload := data.drop 4 } := by
  rw [fromBytes, if_neg (by omega)]
  dsimp only
  rw [← h, Nat.min_self, List.take_length]

/-- **A PDU is read back**, when its length fits the length field. -/
theorem fromBytes_toBytes {pdu : L2capPdu} (h : pdu.payload.length < 65536) :
    fromBytes (pdu.toBytes false) = .ok pdu := by
  have hbytes : pdu.toBytes false =
      toLe16 (UInt16.ofNat pdu.payload.length) ++ (toLe16 pdu.cid ++ pdu.payload) := by
    simp only [toBytes, Bool.false_eq_true, if_false, List.append_assoc]
  have hdeclared : le16At (pdu.toBytes false) 0 = UInt16.ofNat pdu.payload.length := by
    rw [hbytes, le16At_toLe16]
  have hcid : le16At (pdu.toBytes false) 2 = pdu.cid := by
    rw [hbytes]
    exact le16At_toLe16 pdu.cid pdu.payload
  rw [fromBytes_eq, hcid]
  · rw [hbytes]
    rfl
  · rw [hdeclared, length_toBytes, UInt16.toNat_ofNat', Nat.mod_eq_of_lt h, Nat.add_comm]

end L2capPdu

/-! ### Configuration options -/

/-- One type/length/value entry of a configuration frame. Bit 7 of the wire type is the hint
bit. -/
structure ConfigurationOption where
  optionType : UInt8
  hint : Bool
  value : Bytes
  deriving DecidableEq, Repr

def ConfigurationOption.new (optionType : UInt8) (value : Bytes) : ConfigurationOption :=
  { optionType := optionType &&& 0x7f, hint := false, value := value }

def encodeConfigurationOptions : List ConfigurationOption → Except L2capError Bytes
  | [] => .ok []
  | option :: options =>
    if option.value.length > 255 then .error (.invalidPacket "configuration option is too long")
    else do
      let encoded ← encodeConfigurationOptions options
      pure ((option.optionType ||| if option.hint then 0x80 else 0) ::
        UInt8.ofNat option.value.length :: option.value ++ encoded)

/-- The options of a configuration frame; a truncated entry is rejected. -/
def decodeConfigurationOptions (data : Bytes) : Except L2capError (List ConfigurationOption) :=
  match data with
  | [] => .ok []
  | [_] => .error (.invalidPacket "truncated configuration option header")
  | rawType :: length :: rest =>
    if rest.length < length.toNat then
      .error (.invalidPacket "truncated configuration option value")
    else do
      let options ← decodeConfigurationOptions (rest.drop length.toNat)
      pure ({ optionType := rawType &&& 0x7f, hint := rawType &&& 0x80 ≠ 0,
              value := rest.take length.toNat } :: options)
termination_by data.length
decreasing_by simp only [List.length_drop, List.length_cons]; omega

end ClassicHid

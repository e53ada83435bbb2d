import Mathlib.Data.Int.Notation
import ClassicHid.Foundation.Text
import ClassicHid.Values

/-!
# SDP data elements

The self-describing values of a service record: their wire form, the parser of that form, and the
attributes built from them.

## Main definitions

* `BluetoothUuid`: a UUID in its original width
* `DataElement`: a type-length-value node, with `DataElement.toBytes`
* `DataElement.parseFromBytes`: the element at an offset
* `ServiceAttribute`: an attribute identifier with its value
-/

namespace ClassicHid

open Foundation

/-- Errors of the SDP codec. -/
inductive SdpError
  | invalidPacket (message : String)
  | invalidArgument (message : String)
  deriving DecidableEq, Repr

def truncatedSdp (what : String) : SdpError :=
  .invalidPacket s!"truncated: expected more bytes for {what}"

/-- A UUID in little-endian wire order, of 16, 32 or 128 bits. -/
structure BluetoothUuid where
  bytesLe : Bytes
  width : bytesLe.length = 2 ∨ bytesLe.length = 4 ∨ bytesLe.length = 16
  deriving DecidableEq, Repr

namespace BluetoothUuid

/-- The Bluetooth base UUID below its top 32 bits. -/
def baseUuidLe : Bytes :=
  [0xFB, 0x34, 0x9B, 0x5F, 0x80, 0x00, 0x00, 0x80, 0x00, 0x10, 0x00, 0x00]

def fromU16 (value : UInt16) : BluetoothUuid := ⟨toLe16 value, .inl rfl⟩

def fromLeBytes (bytes : Bytes) : Except String BluetoothUuid :=
  if h : bytes.length = 2 ∨ bytes.length = 4 ∨ bytes.length = 16 then .ok ⟨bytes, h⟩
  else .error s!"invalid Bluetooth UUID: expected 2, 4, or 16 bytes, got {bytes.length}"

/-- The 128-bit expansion. -/
def expandedLeBytes (uuid : BluetoothUuid) : Bytes :=
  if uuid.bytesLe.length = 2 then baseUuidLe ++ uuid.bytesLe ++ [0, 0]
  else if uuid.bytesLe.length = 4 then baseUuidLe ++ uuid.bytesLe
  else uuid.bytesLe

/-- Two UUIDs are the same when their expansions are, whatever their widths. -/
def same (uuid other : BluetoothUuid) : Bool := uuid.expandedLeBytes = other.expandedLeBytes

end BluetoothUuid

/-- A data element. Integers carry the number of bytes of their wire form. -/
inductive DataElement
  | nil
  | unsignedInteger (value : ℕ) (size : UInt8)
  | signedInteger (value : ℤ) (size : UInt8)
  | uuid (value : BluetoothUuid)
  | textString (value : Bytes)
  | boolean (value : Bool)
  | sequence (elements : List DataElement)
  | alternative (elements : List DataElement)
  | url (value : String)

namespace DataElement

def unsignedInteger8 (value : UInt8) : DataElement := .unsignedInteger value.toNat 1

def unsignedInteger16 (value : UInt16) : DataElement := .unsignedInteger value.toNat 2

def unsignedInteger32 (value : UInt32) : DataElement := .unsignedInteger value.toNat 4

/-- The top five bits of the header byte. -/
def typeCode : DataElement → UInt8
  | nil => 0
  | unsignedInteger .. => 1
  | signedInteger .. => 2
  | uuid _ => 3
  | textString _ => 4
  | boolean _ => 5
  | sequence _ => 6
  | alternative _ => 7
  | url _ => 8

end DataElement

/-! ### Serialization -/

/-- The `size` bytes of a natural number, high byte first. -/
def natToBe (value size : ℕ) : Bytes :=
  (List.range size).map fun i => UInt8.ofNat (value / 256 ^ (size - 1 - i))

def validIntegerSize (size : UInt8) : Bool :=
  size = 1 || size = 2 || size = 4 || size = 8 || size = 16

def unsignedToBytes (value : ℕ) (size : UInt8) : Except SdpError Bytes :=
  if !validIntegerSize size then .error (.invalidArgument s!"invalid value_size {size.toNat}")
  else if value ≥ 256 ^ size.toNat then
    .error (.invalidArgument s!"value {value} does not fit in {size.toNat} bytes")
  else .ok (natToBe value size.toNat)

/-- Two's complement. -/
def signedToBytes (value : ℤ) (size : UInt8) : Except SdpError Bytes :=
  if !validIntegerSize size then .error (.invalidArgument s!"invalid value_size {size.toNat}")
  else
    let half : ℤ := 2 ^ (8 * size.toNat - 1)
    if value < -half ∨ value > half - 1 then
      .error (.invalidArgument s!"value {value} does not fit in {size.toNat} bytes")
    else .ok (natToBe (value % 256 ^ size.toNat).toNat size.toNat)

/-- The size index of a fixed-width element. -/
def fixedSizeIndex (size : ℕ) : Except SdpError UInt8 :=
  match size with
  | 0 | 1 => .ok 0
  | 2 => .ok 1
  | 4 => .ok 2
  | 8 => .ok 3
  | 16 => .ok 4
  | _ => .error (.invalidArgument s!"invalid data size {size}")

/-- The size index and the length bytes of a variable-length element. -/
def variableSizeHeader (size : ℕ) : Except SdpError (UInt8 × Bytes) :=
  if size ≤ 0xFF then .ok (5, [UInt8.ofNat size])
  else if size ≤ 0xFFFF then .ok (6, toBe16 (UInt16.ofNat size))
  else if size ≤ 0xFFFFFFFF then .ok (7, toBe32 (UInt32.ofNat size))
  else .error (.invalidArgument s!"invalid data size {size}")

/-- The header byte: type code and size index. -/
def elementHeader (typeCode sizeIndex : UInt8) : UInt8 := (typeCode <<< 3) ||| sizeIndex

/-- A fixed-width element from its value bytes. -/
def fixedElement (typeCode : UInt8) (data : Bytes) : Except SdpError Bytes := do
  let sizeIndex ← fixedSizeIndex data.length
  pure (elementHeader typeCode sizeIndex :: data)

/-- A variable-length element from its value bytes. -/
def variableElement (typeCode : UInt8) (data : Bytes) : Except SdpError Bytes := do
  let (sizeIndex, sizeBytes) ← variableSizeHeader data.length
  pure (elementHeader typeCode sizeIndex :: sizeBytes ++ data)

mutual

/-- The wire form of an element. -/
def DataElement.toBytes : DataElement → Except SdpError Bytes
  | .nil => .ok [elementHeader 0 0]
  | .unsignedInteger value size => do fixedElement 1 (← unsignedToBytes value size)
  | .signedInteger value size => do fixedElement 2 (← signedToBytes value size)
  | .uuid value => fixedElement 3 value.bytesLe.reverse
  | .textString value => variableElement 4 value
  | .boolean value => .ok [elementHeader 5 0, value.toUInt8]
  | .sequence elements => do variableElement 6 (← listToBytes elements)
  | .alternative elements => do variableElement 7 (← listToBytes elements)
  | .url value => variableElement 8 value.toUTF8.toList

/-- The wire forms of the elements of a container, one after the other. -/
def DataElement.listToBytes : List DataElement → Except SdpError Bytes
  | [] => .ok []
  | element :: elements => do
    let first ← element.toBytes
    let rest ← listToBytes elements
    pure (first ++ rest)

end

/-! ### Parsing -/

/-- The deepest nesting of containers that is accepted. -/
def maxNesting : ℕ := 32

/-- A big-endian number; bits beyond the 128th are lost. -/
def beToU128 (bytes : Bytes) : ℕ := bytes.foldl (fun acc b => (acc * 256 + b.toNat) % 2 ^ 128) 0

/-- A big-endian number in two's complement, with the sign extended to 128 bits. -/
def beToI128 (bytes : Bytes) : ℤ :=
  match bytes with
  | [] => 0
  | first :: _ =>
    let start : ℕ := if first &&& 0x80 ≠ 0 then 2 ^ 128 - 1 else 0
    let acc : ℕ := bytes.foldl (fun acc b => (acc * 256 + b.toNat) % 2 ^ 128) start
    if acc ≥ 2 ^ 127 then (acc : ℤ) - 2 ^ 128 else acc

/-- The size of the value, from the size index, and the offset of the value. -/
def parseSize (data : Bytes) (pos : ℕ) (elementType sizeIndex : UInt8) :
    Except SdpError (ℕ × ℕ) :=
  match sizeIndex with
  | 0 => .ok (if elementType = 0 then 0 else 1, pos)
  | 1 => .ok (2, pos)
  | 2 => .ok (4, pos)
  | 3 => .ok (8, pos)
  | 4 => .ok (16, pos)
  | 5 =>
    match slice data pos 1 with
    | some [b] => .ok (b.toNat, pos + 1)
    | _ => .error (.invalidPacket "truncated 1-byte size")
  | 6 =>
    match slice data pos 2 with
    | some [b₁, b₀] => .ok ((fromBe16 b₁ b₀).toNat, pos + 2)
    | _ => .error (.invalidPacket "truncated 2-byte size")
  | _ =>
    match slice data pos 4 with
    | some [b₃, b₂, b₁, b₀] => .ok ((fromBe32 b₃ b₂ b₁ b₀).toNat, pos + 4)
    | _ => .error (.invalidPacket "truncated 4-byte size")

/-- The elements from `inner` on, one after the other, up to `valueEnd`, and the offset after the
last one. Each takes at least one byte, so `rounds` counts the bytes left. -/
def parseElements (parse : ℕ → Except SdpError (ℕ × DataElement)) (valueEnd : ℕ) :
    ℕ → ℕ → Except SdpError (ℕ × List DataElement)
  | 0, inner => .ok (inner, [])
  | rounds + 1, inner =>
    if inner < valueEnd then do
      let (next, child) ← parse inner
      let (last, elements) ← parseElements parse valueEnd rounds next
      pure (last, child :: elements)
    else .ok (inner, [])

/-- The element of a type with the given value; `children` parses the value of a container. -/
def parseValue (elementType : UInt8) (valueSize : ℕ) (value : Bytes)
    (children : Except SdpError (List DataElement)) : Except SdpError DataElement :=
  match elementType with
  | 0 => .ok .nil
  | 1 => .ok (.unsignedInteger (beToU128 value) (UInt8.ofNat valueSize))
  | 2 => .ok (.signedInteger (beToI128 value) (UInt8.ofNat valueSize))
  | 3 =>
    match BluetoothUuid.fromLeBytes value.reverse with
    | .ok uuid => .ok (.uuid uuid)
    | .error e => .error (.invalidPacket s!"bad UUID: {e}")
  | 4 => .ok (.textString value)
  | 5 => .ok (.boolean (value.head? = some 1))
  | 6 => children.map .sequence
  | 7 => children.map .alternative
  | 8 =>
    match decodeUtf8 value with
    | .ok url => .ok (.url url)
    | .error e => .error (.invalidPacket s!"bad URL utf-8: {e}")
  | _ => .error (.invalidPacket s!"unsupported data element type {elementType.toNat}")

/-- The element at `offset`, and the offset after it; `nesting` more levels of containers are
accepted. -/
def parseNested (data : Bytes) (nesting offset : ℕ) : Except SdpError (ℕ × DataElement) :=
  match slice data offset 1 with
  | some [header] => do
    let elementType := header >>> 3
    let (valueSize, valueStart) ← parseSize data (offset + 1) elementType (header &&& 7)
    match slice data valueStart valueSize with
    | none => throw (.invalidPacket
        s!"element value ({valueSize} bytes at {valueStart}) runs past end")
    | some value =>
      let valueEnd := valueStart + valueSize
      let children : Except SdpError (List DataElement) :=
        match nesting with
        | 0 => throw (.invalidPacket s!"nesting exceeds max depth ({maxNesting})")
        | nesting + 1 => do
          let (inner, elements) ←
            parseElements (parseNested data nesting) valueEnd valueSize valueStart
          if inner ≠ valueEnd then
            throw (.invalidPacket "container elements overran their length")
          pure elements
      let element ← parseValue elementType valueSize value children
      pure (valueEnd, element)
  | _ => .error (.invalidPacket s!"offset {offset} exceeds len {data.length}")

/-- The element at `offset` inside `depth` containers. -/
def parseAt (data : Bytes) (offset depth : ℕ) : Except SdpError (ℕ × DataElement) :=
  parseNested data (maxNesting - depth) offset

def DataElement.parseFromBytes (data : Bytes) (offset : ℕ) : Except SdpError (ℕ × DataElement) :=
  parseAt data offset 0

def DataElement.fromBytes (data : Bytes) : Except SdpError DataElement := do
  let (_, element) ← parseFromBytes data 0
  pure element

/-! ### Attributes -/

/-- An attribute of a service record. -/
structure ServiceAttribute where
  id : UInt16
  value : DataElement

mutual

/-- Whether a value is the UUID or a sequence that contains it. Alternatives are not searched. -/
def ServiceAttribute.isUuidInValue (uuid : BluetoothUuid) : DataElement → Bool
  | .uuid candidate => candidate.same uuid
  | .sequence elements => isUuidInElements uuid elements
  | _ => false

def ServiceAttribute.isUuidInElements (uuid : BluetoothUuid) : List DataElement → Bool
  | [] => false
  | element :: elements => isUuidInValue uuid element || isUuidInElements uuid elements

end

/-- The flat sequence of alternating identifiers and values. -/
def ServiceAttribute.listToDataElement (attributes : List ServiceAttribute) : DataElement :=
  .sequence (attributes.flatMap fun entry => [.unsignedInteger16 entry.id, entry.value])

/-- The attributes of a flat sequence. Pairs whose identifier is not an unsigned integer are
skipped, and so is an element without a partner. -/
def ServiceAttribute.listFromDataElements : List DataElement → List ServiceAttribute
  | .unsignedInteger value _ :: second :: elements =>
    ⟨UInt16.ofNat value, second⟩ :: listFromDataElements elements
  | _ :: _ :: elements => listFromDataElements elements
  | _ => []

end ClassicHid

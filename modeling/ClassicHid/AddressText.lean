import Mathlib.Data.List.Forall2
import ClassicHid.Foundation.Text
import ClassicHid.Values

/-!
# The text of an address

An address is written as six octets of two hexadecimal digits, the highest first, with a suffix for
a public address. The parser also takes the octets without separators, and, because the parser of
numbers of the standard library takes a sign, an octet of a plus sign and one digit.

## Main definitions

* `BluetoothAddress.parse`, `BluetoothAddress.display`: an address from its text, and its text
* `DigitPair`, `SignedPair`: the octets of the grammar, and those that the parser takes besides
* `Spelled`: six octets, with or without separators
* `BluetoothAddress.Denotes`: an address and a text of the grammar

## Main results

* `BluetoothAddress.parse_eq_ok_iff`: the texts that the parser takes
* `BluetoothAddress.parse_grammar_iff`: the texts on which it follows the grammar, and the text of
  every address is one
-/

namespace ClassicHid

open Foundation

/-! ### Numbers -/

/-- The value of a hexadecimal digit. -/
def hexValue (c : Char) : Option ℕ :=
  if '0' ≤ c ∧ c ≤ '9' then some (c.toNat - 48)
  else if 'a' ≤ c ∧ c ≤ 'f' then some (c.toNat - 87)
  else if 'A' ≤ c ∧ c ≤ 'F' then some (c.toNat - 55)
  else none

/-- The value of a byte read as a hexadecimal digit. -/
def byteValue (byte : UInt8) : Option ℕ := hexValue (Char.ofNat byte.toNat)

/-- The number that digits denote, if it fits a byte. -/
def readDigits : ℕ → Bytes → Option UInt8
  | acc, [] => some (UInt8.ofNat acc)
  | acc, byte :: digits =>
    match byteValue byte with
    | none => none
    | some value => if acc * 16 + value > 255 then none else readDigits (acc * 16 + value) digits

/-- `u8::from_str_radix` for hexadecimal digits: a plus sign in front of them is taken. -/
def fromStrRadix16 (src : Bytes) : Option UInt8 :=
  match src with
  | [] | [0x2b] | [0x2d] => none
  | 0x2b :: digits => readDigits 0 digits
  | digits => readDigits 0 digits

/-! ### Parsing -/

/-- Why a text is not an address. The text of the last one quotes the octet. -/
inductive AddressError
  | expectedOctets
  | expectedDigits
  | notUtf8
  | invalidOctet (pair : Bytes)
  deriving DecidableEq, Repr

def parseOctet (pair : Bytes) : Except AddressError UInt8 :=
  match String.fromUTF8? (ByteArray.mk pair.toArray) with
  | none => .error .notUtf8
  | some _ =>
    match fromStrRadix16 pair with
    | none => .error (.invalidOctet pair)
    | some octet => .ok octet

/-- The pieces of two bytes; what is left at the end is no piece. -/
def chunksExact2 : Bytes → List Bytes
  | first :: second :: rest => [first, second] :: chunksExact2 rest
  | _ => []

/-- A text without a suffix that it ends with. -/
def stripSuffix (suffix text : List Char) : Option (List Char) :=
  if suffix <:+ text then some (text.take (text.length - suffix.length)) else none

namespace BluetoothAddress

/-- An address with another byte at a position. -/
def setByte (address : BluetoothAddress) (index : ℕ) (byte : UInt8) : BluetoothAddress :=
  { address with
    bytesLe := address.bytesLe.set index byte
    length_bytesLe := (List.length_set ..).trans address.length_bytesLe }

/-- Read the octets from the highest byte down. -/
def readOctets : ℕ → List Bytes → BluetoothAddress → Except AddressError BluetoothAddress
  | _, [], address => .ok address
  | index, pair :: pairs, address => do
    let parsed ← parseOctet pair
    readOctets (index + 1) pairs (address.setByte (5 - index) parsed)

/-- The digits of a text, without its separators. -/
def compact (text : List Char) : Except AddressError (List Char) :=
  if (utf8 text).length = 12 ∧ ':' ∉ text then .ok text
  else if (utf8 text).length = 17 then
    let octets := text.splitOn ':'
    if octets.length ≠ 6 ∨ octets.any (fun octet => (utf8 octet).length ≠ 2) then
      .error .expectedOctets
    else .ok octets.flatten
  else .error .expectedDigits

def parse (value : String) (kind : AddressKind) : Except AddressError BluetoothAddress := do
  let (text, kind) := match stripSuffix ['/', 'P'] value.toList with
    | some text => (text, AddressKind.pub)
    | none => (value.toList, kind)
  let digits ← compact text
  readOctets 0 (chunksExact2 (utf8 digits)) (.fromLeBytes (List.replicate 6 0) rfl kind)

/-! ### Display -/

/-- The upper-case hexadecimal digit. -/
def upperDigit (value : ℕ) : Char := Char.ofNat (if value < 10 then 48 + value else 55 + value)

/-- A byte as two upper-case digits. -/
def upperHex (byte : UInt8) : List Char :=
  [upperDigit (byte.toNat / 16), upperDigit (byte.toNat % 16)]

def display (address : BluetoothAddress) : String :=
  String.ofList ((address.bytesLe.reverse.zipIdx.flatMap fun (byte, index) =>
    (if index > 0 then [':'] else []) ++ upperHex byte) ++
      if address.kind = .pub then ['/', 'P'] else [])

end BluetoothAddress

/-! ### The grammar -/

/-- Two hexadecimal digits. -/
def DigitPair (group : List Char) (octet : UInt8) : Prop :=
  ∃ c d high low, group = [c, d] ∧ hexValue c = some high ∧ hexValue d = some low ∧
    octet = UInt8.ofNat (16 * high + low)

/-- A plus sign and one hexadecimal digit. -/
def SignedPair (group : List Char) (octet : UInt8) : Prop :=
  ∃ d low, group = ['+', d] ∧ hexValue d = some low ∧ octet = UInt8.ofNat low

/-- What the parser takes for an octet. -/
def AcceptedPair (group : List Char) (octet : UInt8) : Prop :=
  DigitPair group octet ∨ SignedPair group octet

/-- Six octets, one after the other or with colons between them. -/
def Spelled (pair : List Char → UInt8 → Prop) (text : List Char) (octets : Bytes) : Prop :=
  ∃ groups : List (List Char), groups.length = 6 ∧ List.Forall₂ pair groups octets ∧
    (text = groups.flatten ∨ text = [':'].intercalate groups)

namespace BluetoothAddress

/-- The text, less an optional suffix, spells the bytes of the address from the highest down; the
suffix makes the address public. -/
def Denotes (pair : List Char → UInt8 → Prop) (value : String) (kind : AddressKind)
    (address : BluetoothAddress) : Prop :=
  ∃ text octets, Spelled pair text octets ∧ address.bytesLe = octets.reverse ∧
    (value.toList = text ++ ['/', 'P'] ∧ address.kind = .pub ∨
      value.toList = text ∧ address.kind = kind)

/-- The text has a plus sign, and would spell an address if an octet could have one. -/
def Signed (value : String) : Prop :=
  '+' ∈ value.toList ∧ ∃ text octets, Spelled AcceptedPair text octets ∧
    (value.toList = text ++ ['/', 'P'] ∨ value.toList = text)

end BluetoothAddress

/-! ### Octets -/

variable {c : Char} {value : ℕ} {group : List Char} {octet : UInt8} {pair : Bytes}

theorem hexValue_lt (h : hexValue c = some value) : value < 16 ∧ c.toNat < 128 := by
  rw [hexValue] at h
  split at h
  · rename_i hc
    have hhigh : c.toNat ≤ 57 := hc.2
    cases h
    omega
  split at h
  · rename_i hc
    have hhigh : c.toNat ≤ 102 := hc.2
    cases h
    omega
  split at h
  · rename_i hc
    have hhigh : c.toNat ≤ 70 := hc.2
    cases h
    omega
  · cases h

/-- A digit is neither a sign, a separator nor part of the suffix. -/
theorem hexValue_ne (h : hexValue c = some value) :
    c ≠ '+' ∧ c ≠ '-' ∧ c ≠ ':' ∧ c ≠ '/' ∧ c ≠ 'P' := by
  refine ⟨?_, ?_, ?_, ?_, ?_⟩ <;>
  · rintro rfl
    cases h

/-- A byte that is read as a digit is the byte of that digit. -/
theorem byteValue_eq_some {byte : UInt8} :
    byteValue byte = some value ↔ ∃ c, hexValue c = some value ∧ byte = UInt8.ofNat c.toNat := by
  constructor
  · intro h
    have hback : ∀ byte : UInt8, byte = UInt8.ofNat (Char.ofNat byte.toNat).toNat :=
      forall_byte (by decide +kernel)
    exact ⟨Char.ofNat byte.toNat, h, hback byte⟩
  · rintro ⟨c, hc, rfl⟩
    have hlt := (hexValue_lt hc).2
    rw [byteValue, UInt8.toNat_ofNat', Nat.mod_eq_of_lt (by omega), Char.ofNat_toNat, hc]

theorem readDigits_one {byte : UInt8} : readDigits 0 [byte] = some octet ↔
    ∃ low, byteValue byte = some low ∧ octet = UInt8.ofNat low := by
  rw [readDigits]
  cases hlow : byteValue byte with
  | none => exact ⟨nofun, fun ⟨_, h, _⟩ => nomatch h⟩
  | some low =>
    obtain ⟨d, hd, -⟩ := byteValue_eq_some.mp hlow
    have hlt := (hexValue_lt hd).1
    simp only [Nat.zero_mul, Nat.zero_add, gt_iff_lt, readDigits, Option.some.injEq]
    rw [if_neg (by omega), Option.some.injEq]
    constructor
    · rintro rfl
      exact ⟨low, rfl, rfl⟩
    · rintro ⟨low', rfl, rfl⟩
      rfl

theorem readDigits_two {first second : UInt8} : readDigits 0 [first, second] = some octet ↔
    ∃ high low, byteValue first = some high ∧ byteValue second = some low ∧
      octet = UInt8.ofNat (16 * high + low) := by
  rw [readDigits]
  cases hhigh : byteValue first with
  | none => exact ⟨nofun, fun ⟨_, _, h, _⟩ => nomatch h⟩
  | some high =>
    cases hlow : byteValue second with
    | none =>
      simp only [readDigits, hlow]
      split
      · exact ⟨nofun, fun ⟨_, _, _, h, _⟩ => nomatch h⟩
      · exact ⟨nofun, fun ⟨_, _, _, h, _⟩ => nomatch h⟩
    | some low =>
      obtain ⟨c, hc, -⟩ := byteValue_eq_some.mp hhigh
      obtain ⟨d, hd, -⟩ := byteValue_eq_some.mp hlow
      have hc := (hexValue_lt hc).1
      have hd := (hexValue_lt hd).1
      simp only [Nat.zero_mul, Nat.zero_add, gt_iff_lt, readDigits, hlow, Option.some.injEq]
      rw [if_neg (by omega), if_neg (by omega), Option.some.injEq, Nat.mul_comm high 16]
      constructor
      · rintro rfl
        exact ⟨high, low, rfl, rfl, rfl⟩
      · rintro ⟨high', low', rfl, rfl, rfl⟩
        rfl

/-- A sign or a digit, and a digit. -/
theorem fromStrRadix16_two {first second : UInt8} :
    fromStrRadix16 [first, second] = some octet ↔
      ∃ group, utf8 group = [first, second] ∧ AcceptedPair group octet := by
  constructor
  · intro h
    by_cases hsign : first = 0x2b
    · subst hsign
      have hdigits : readDigits 0 [second] = some octet := h
      obtain ⟨low, hlow, rfl⟩ := readDigits_one.mp hdigits
      obtain ⟨d, hd, rfl⟩ := byteValue_eq_some.mp hlow
      refine ⟨['+', d], ?_, .inr ⟨d, low, rfl, hd, rfl⟩⟩
      rw [utf8_cons (by decide), utf8_cons (hexValue_lt hd).2]
      rfl
    · have hdigits : readDigits 0 [first, second] = some octet := by
        unfold fromStrRadix16 at h
        split at h
        · cases h
        · cases h
        · cases h
        · rename_i heq
          exact absurd (List.cons.inj heq).1 hsign
        · exact h
      obtain ⟨high, low, hhigh, hlow, rfl⟩ := readDigits_two.mp hdigits
      obtain ⟨c, hc, rfl⟩ := byteValue_eq_some.mp hhigh
      obtain ⟨d, hd, rfl⟩ := byteValue_eq_some.mp hlow
      refine ⟨[c, d], ?_, .inl ⟨c, d, high, low, rfl, hc, hd, rfl⟩⟩
      rw [utf8_cons (hexValue_lt hc).2, utf8_cons (hexValue_lt hd).2]
      rfl
  · rintro ⟨group, hbytes, ⟨c, d, high, low, rfl, hc, hd, rfl⟩ | ⟨d, low, rfl, hd, rfl⟩⟩
    · rw [utf8_cons (hexValue_lt hc).2, utf8_cons (hexValue_lt hd).2] at hbytes
      cases hbytes
      have hsign : UInt8.ofNat c.toNat ≠ 0x2b := by
        intro heq
        have hvalue := byteValue_eq_some.mpr ⟨c, hc, rfl⟩
        rw [heq] at hvalue
        cases hvalue
      unfold fromStrRadix16
      split
      · rename_i heq
        cases heq
      · rename_i heq
        exact absurd (List.cons.inj heq).2 (List.cons_ne_nil _ _)
      · rename_i heq
        exact absurd (List.cons.inj heq).2 (List.cons_ne_nil _ _)
      · rename_i heq
        exact absurd (List.cons.inj heq).1 hsign
      · exact readDigits_two.mpr ⟨high, low, byteValue_eq_some.mpr ⟨c, hc, rfl⟩,
          byteValue_eq_some.mpr ⟨d, hd, rfl⟩, rfl⟩
    · rw [utf8_cons (by decide), utf8_cons (hexValue_lt hd).2] at hbytes
      cases hbytes
      exact readDigits_one.mpr ⟨low, byteValue_eq_some.mpr ⟨d, hd, rfl⟩, rfl⟩

/-- **The octets that the parser takes.** -/
theorem parseOctet_eq_ok (hlength : pair.length = 2) :
    parseOctet pair = .ok octet ↔ ∃ group, utf8 group = pair ∧ AcceptedPair group octet := by
  obtain ⟨first, second, rfl⟩ := List.length_eq_two.mp hlength
  rw [← fromStrRadix16_two, parseOctet]
  constructor
  · intro h
    split at h
    · cases h
    · cases hradix : fromStrRadix16 [first, second] with
      | none =>
        rw [hradix] at h
        cases h
      | some octet' =>
        rw [hradix] at h
        cases h
        rfl
  · intro h
    obtain ⟨group, hbytes, -⟩ := fromStrRadix16_two.mp h
    rw [← hbytes, fromUTF8_utf8, hbytes, h]

/-! ### Six octets -/

theorem length_utf8_of_accepted (h : AcceptedPair group octet) : (utf8 group).length = 2 := by
  rcases h with ⟨c, d, high, low, rfl, hc, hd, rfl⟩ | ⟨d, low, rfl, hd, rfl⟩
  · rw [utf8_cons (hexValue_lt hc).2, utf8_cons (hexValue_lt hd).2]
    rfl
  · rw [utf8_cons (by decide), utf8_cons (hexValue_lt hd).2]
    rfl

/-- An octet has no separator. -/
theorem colon_notMem_of_accepted (h : AcceptedPair group octet) : ':' ∉ group := by
  rcases h with ⟨c, d, high, low, rfl, hc, hd, rfl⟩ | ⟨d, low, rfl, hd, rfl⟩
  · have hc := (hexValue_ne hc).2.2.1
    have hd := (hexValue_ne hd).2.2.1
    simp [hc.symm, hd.symm]
  · have hd := (hexValue_ne hd).2.2.1
    simp [hd.symm]

/-- Bytes of an even number are their pieces. -/
theorem chunksExact2_flatten {pairs : List Bytes} (h : ∀ pair ∈ pairs, pair.length = 2) :
    chunksExact2 pairs.flatten = pairs := by
  induction pairs with
  | nil => rfl
  | cons pair pairs ih =>
    obtain ⟨first, second, rfl⟩ := List.length_eq_two.mp (h pair List.mem_cons_self)
    rw [List.flatten_cons]
    show [first, second] :: chunksExact2 pairs.flatten = _
    rw [ih fun pair hmem => h pair (List.mem_cons_of_mem _ hmem)]

theorem exists_chunks (n : ℕ) {bytes : Bytes} (h : bytes.length = 2 * n) :
    ∃ pairs : List Bytes, pairs.length = n ∧ pairs.flatten = bytes ∧
      ∀ pair ∈ pairs, pair.length = 2 := by
  induction n generalizing bytes with
  | zero => exact ⟨[], rfl, (List.length_eq_zero_iff.mp h).symm, fun _ => nofun⟩
  | succ n ih =>
    obtain ⟨first, rest, rfl, -⟩ := exists_cons_of_length (n := 0) (l := bytes) (by omega)
    rw [List.length_cons] at h
    obtain ⟨second, rest, rfl, -⟩ := exists_cons_of_length (n := 0) (l := rest) (by omega)
    rw [List.length_cons] at h
    have hrest : rest.length = 2 * n := by omega
    obtain ⟨pairs, hlength, rfl, hpairs⟩ := ih hrest
    refine ⟨[first, second] :: pairs, by rw [List.length_cons, hlength], rfl, ?_⟩
    intro pair hmem
    rcases List.mem_cons.mp hmem with rfl | hmem
    · rfl
    · exact hpairs pair hmem

theorem exists_six {α : Type} {l : List α} (h : l.length = 6) :
    ∃ a b c d e f, l = [a, b, c, d, e, f] := by
  rcases l with _ | ⟨a, _ | ⟨b, _ | ⟨c, _ | ⟨d, _ | ⟨e, _ | ⟨f, _ | ⟨g, l⟩⟩⟩⟩⟩⟩⟩
  case cons.cons.cons.cons.cons.cons.nil => exact ⟨a, b, c, d, e, f, rfl⟩
  all_goals
    simp at h

namespace BluetoothAddress

/-- The octets are read one after the other. -/
theorem readOctets_eq_ok {index : ℕ} {pairs : List Bytes} {address address' : BluetoothAddress} :
    readOctets index pairs address = .ok address' ↔
      ∃ octets, List.Forall₂ (fun pair octet => parseOctet pair = .ok octet) pairs octets ∧
        address' = (octets.zipIdx index).foldl
          (fun address (octet, index) => address.setByte (5 - index) octet) address := by
  induction pairs generalizing index address with
  | nil =>
    rw [readOctets]
    constructor
    · intro h
      exact ⟨[], .nil, (Except.ok.inj h).symm⟩
    · rintro ⟨octets, hoctets, rfl⟩
      cases hoctets
      rfl
  | cons pair pairs ih =>
    rw [readOctets, except_bind_eq_ok]
    constructor
    · rintro ⟨octet, hoctet, h⟩
      obtain ⟨octets, hoctets, rfl⟩ := ih.mp h
      exact ⟨octet :: octets, .cons hoctet hoctets, rfl⟩
    · rintro ⟨octets, hoctets, rfl⟩
      cases hoctets with
      | cons hoctet hoctets => exact ⟨_, hoctet, ih.mpr ⟨_, hoctets, rfl⟩⟩

/-- Six octets fill an address from its highest byte down. -/
theorem foldl_setByte {octets : Bytes} (hlength : octets.length = 6) (kind : AddressKind) :
    (octets.zipIdx 0).foldl (fun address (octet, index) => address.setByte (5 - index) octet)
        (fromLeBytes (List.replicate 6 0) rfl kind) =
      fromLeBytes octets.reverse ((List.length_reverse ..).trans hlength) kind := by
  obtain ⟨o₀, o₁, o₂, o₃, o₄, o₅, rfl⟩ := exists_six hlength
  rfl

/-- The octets of pieces that the parser takes. -/
theorem forall₂_parseOctet {pairs : List Bytes} {octets : Bytes}
    (hlength : ∀ pair ∈ pairs, pair.length = 2) :
    List.Forall₂ (fun pair octet => parseOctet pair = .ok octet) pairs octets ↔
      ∃ groups, pairs = groups.map utf8 ∧ List.Forall₂ AcceptedPair groups octets := by
  induction pairs generalizing octets with
  | nil =>
    rw [List.forall₂_nil_left_iff]
    constructor
    · rintro rfl
      exact ⟨[], rfl, .nil⟩
    · rintro ⟨groups, hgroups, hoctets⟩
      rw [List.map_eq_nil_iff.mp hgroups.symm, List.forall₂_nil_left_iff] at hoctets
      exact hoctets
  | cons pair pairs ih =>
    have hpair := hlength pair List.mem_cons_self
    have hlength' : ∀ pair ∈ pairs, pair.length = 2 :=
      fun pair hmem => hlength pair (List.mem_cons_of_mem _ hmem)
    constructor
    · intro h
      cases h with
      | cons hoctet hoctets =>
        obtain ⟨group, rfl, hgroup⟩ := (parseOctet_eq_ok hpair).mp hoctet
        obtain ⟨groups, rfl, hgroups⟩ := (ih hlength').mp hoctets
        exact ⟨group :: groups, rfl, .cons hgroup hgroups⟩
    · rintro ⟨groups, hgroups, hoctets⟩
      cases hoctets with
      | nil => cases hgroups
      | cons hgroup hrest' =>
        obtain ⟨rfl, rfl⟩ := List.cons.inj hgroups
        exact .cons ((parseOctet_eq_ok hpair).mpr ⟨_, rfl, hgroup⟩)
          ((ih hlength').mpr ⟨_, rfl, hrest'⟩)

/-- **Six pieces** are read when each is the bytes of an octet. -/
theorem readOctets_six {pairs : List Bytes} (hpairs : pairs.length = 6)
    (hlength : ∀ pair ∈ pairs, pair.length = 2) {kind : AddressKind} {address : BluetoothAddress} :
    readOctets 0 pairs (fromLeBytes (List.replicate 6 0) rfl kind) = .ok address ↔
      ∃ groups octets, pairs = groups.map utf8 ∧ List.Forall₂ AcceptedPair groups octets ∧
        address.bytesLe = octets.reverse ∧ address.kind = kind := by
  rw [readOctets_eq_ok]
  constructor
  · rintro ⟨octets, hoctets, rfl⟩
    have hsix : octets.length = 6 := hoctets.length_eq.symm.trans hpairs
    obtain ⟨groups, rfl, hgroups⟩ := (forall₂_parseOctet hlength).mp hoctets
    refine ⟨groups, octets, rfl, hgroups, ?_, ?_⟩
    · rw [foldl_setByte hsix]
      rfl
    · rw [foldl_setByte hsix]
      rfl
  · rintro ⟨groups, octets, rfl, hgroups, hbytes, hkind⟩
    have hoctets := (forall₂_parseOctet hlength).mpr ⟨groups, rfl, hgroups⟩
    have hsix : octets.length = 6 := hoctets.length_eq.symm.trans hpairs
    refine ⟨octets, hoctets, ?_⟩
    rw [foldl_setByte hsix]
    rcases address with ⟨bytes, kind', hbytes'⟩
    have hbytes : bytes = octets.reverse := hbytes
    have hkind : kind' = kind := hkind
    subst hbytes hkind
    rfl

end BluetoothAddress

/-! ### Texts -/

variable {text : List Char} {octets : Bytes} {groups : List (List Char)}

theorem mem_intercalate (h : c ∈ [':'].intercalate groups) : c = ':' ∨ c ∈ groups.flatten := by
  induction groups with
  | nil => cases h
  | cons group groups ih =>
    cases groups with
    | nil =>
      rw [List.intercalate_singleton] at h
      exact .inr (by simpa using h)
    | cons next groups =>
      rw [List.intercalate_cons_cons, List.append_assoc] at h
      rcases List.mem_append.mp h with h | h
      · exact .inr (List.mem_flatten.mpr ⟨group, List.mem_cons_self, h⟩)
      rcases List.mem_append.mp h with h | h
      · exact .inl (List.mem_singleton.mp h)
      rcases ih h with h | h
      · exact .inl h
      · rw [List.flatten_cons]
        exact .inr (List.mem_append_right _ h)

/-- A character of a text is a separator or in one of the octets. -/
theorem Spelled.mem {pair : List Char → UInt8 → Prop} (h : Spelled pair text octets)
    (hc : c ∈ text) : c = ':' ∨ ∃ group octet, pair group octet ∧ c ∈ group := by
  obtain ⟨groups, -, hgroups, htext⟩ := h
  have hmem : c = ':' ∨ c ∈ groups.flatten := by
    rcases htext with rfl | rfl
    · exact .inr hc
    · exact mem_intercalate hc
  refine hmem.imp_right fun hmem => ?_
  obtain ⟨group, hgroup, hc⟩ := List.mem_flatten.mp hmem
  obtain ⟨i, hi⟩ := List.getElem?_of_mem hgroup
  obtain ⟨hlt, rfl⟩ := List.getElem?_eq_some_iff.mp hi
  exact ⟨_, _, (List.forall₂_iff_get.mp hgroups).2 i hlt (hgroups.length_eq ▸ hlt), hc⟩

/-- A text of the parser's grammar has no part of the suffix. -/
theorem Spelled.notMem_suffix (h : Spelled AcceptedPair text octets) : 'P' ∉ text := by
  intro hmem
  rcases h.mem hmem with hcolon | ⟨group, octet, hgroup, hmem⟩
  · cases hcolon
  rcases hgroup with ⟨c, d, high, low, rfl, hc, hd, rfl⟩ | ⟨d, low, rfl, hd, rfl⟩
  · have hc := (hexValue_ne hc).2.2.2.2.symm
    have hd := (hexValue_ne hd).2.2.2.2.symm
    simp [hc, hd] at hmem
  · have hd := (hexValue_ne hd).2.2.2.2.symm
    simp [hd] at hmem

/-- A text of the grammar has no sign. -/
theorem Spelled.notMem_plus (h : Spelled DigitPair text octets) : '+' ∉ text := by
  intro hmem
  rcases h.mem hmem with hcolon | ⟨group, octet, ⟨c, d, high, low, rfl, hc, hd, rfl⟩, hmem⟩
  · cases hcolon
  · have hc := (hexValue_ne hc).1.symm
    have hd := (hexValue_ne hd).1.symm
    simp [hc, hd] at hmem

theorem length_utf8_flatten (h : ∀ group ∈ groups, (utf8 group).length = 2) :
    (utf8 groups.flatten).length = 2 * groups.length := by
  induction groups with
  | nil => rfl
  | cons group groups ih =>
    rw [List.flatten_cons, utf8_append, List.length_append, h group List.mem_cons_self,
      ih fun group hmem => h group (List.mem_cons_of_mem _ hmem), List.length_cons]
    omega

theorem length_utf8_intercalate (h : ∀ group ∈ groups, (utf8 group).length = 2) :
    (utf8 ([':'].intercalate groups)).length = 3 * groups.length - 1 := by
  induction groups with
  | nil => rfl
  | cons group groups ih =>
    have hgroup := h group List.mem_cons_self
    have hrest := ih fun group hmem => h group (List.mem_cons_of_mem _ hmem)
    cases groups with
    | nil =>
      rw [List.intercalate_singleton, hgroup]
      rfl
    | cons next groups =>
      have hcolon : (utf8 [':']).length = 1 := by decide
      rw [List.intercalate_cons_cons, utf8_append, utf8_append, List.length_append,
        List.length_append, hrest, hgroup, hcolon]
      simp only [List.length_cons]
      omega

theorem mem_intercalate_of_mem (h : c ∈ groups.flatten) : c ∈ [':'].intercalate groups := by
  induction groups with
  | nil => cases h
  | cons group groups ih =>
    rw [List.flatten_cons] at h
    cases groups with
    | nil =>
      rw [List.intercalate_singleton]
      simpa using h
    | cons next groups =>
      rw [List.intercalate_cons_cons, List.append_assoc]
      rcases List.mem_append.mp h with h | h
      · exact List.mem_append_left _ h
      · exact List.mem_append_right _ (List.mem_append_right _ (ih h))

/-- Octets without a sign are digits. -/
theorem forall₂_digitPair (h : List.Forall₂ AcceptedPair groups octets)
    (hplus : '+' ∉ groups.flatten) : List.Forall₂ DigitPair groups octets := by
  induction h with
  | nil => exact .nil
  | cons hgroup _ ih =>
    rw [List.flatten_cons, List.mem_append, not_or] at hplus
    refine .cons (hgroup.resolve_right ?_) (ih hplus.2)
    rintro ⟨d, low, rfl, -⟩
    exact hplus.1 List.mem_cons_self

/-- A text of the parser's grammar without a sign is one of the grammar. -/
theorem Spelled.digits (h : Spelled AcceptedPair text octets) (hplus : '+' ∉ text) :
    Spelled DigitPair text octets := by
  obtain ⟨groups, hsix, hgroups, htext⟩ := h
  refine ⟨groups, hsix, forall₂_digitPair hgroups ?_, htext⟩
  intro hmem
  rcases htext with rfl | rfl
  · exact hplus hmem
  · exact hplus (mem_intercalate_of_mem hmem)

theorem Spelled.accepted (h : Spelled DigitPair text octets) :
    Spelled AcceptedPair text octets := by
  obtain ⟨groups, hsix, hgroups, htext⟩ := h
  exact ⟨groups, hsix, hgroups.imp fun _ _ => .inl, htext⟩

/-! ### The parser -/

namespace BluetoothAddress

variable {kind : AddressKind} {address : BluetoothAddress}

/-- The digits of a text are read exactly when it spells an address. -/
theorem readOctets_compact :
    (∃ digits, compact text = .ok digits ∧
      readOctets 0 (chunksExact2 (utf8 digits)) (fromLeBytes (List.replicate 6 0) rfl kind) =
        .ok address) ↔
      ∃ octets, Spelled AcceptedPair text octets ∧ address.bytesLe = octets.reverse ∧
        address.kind = kind := by
  constructor
  · rintro ⟨digits, hdigits, hread⟩
    rw [compact] at hdigits
    split at hdigits
    · rename_i hshort
      cases hdigits
      obtain ⟨pairs, hpairs, hbytes, hlength⟩ := exists_chunks 6 hshort.1
      rw [← hbytes, chunksExact2_flatten hlength] at hread
      obtain ⟨groups, octets, rfl, hgroups, haddress⟩ := (readOctets_six hpairs hlength).mp hread
      rw [List.length_map] at hpairs
      rw [← List.flatMap_def, ← utf8_flatten] at hbytes
      exact ⟨octets, ⟨groups, hpairs, hgroups, .inl (utf8_injective hbytes).symm⟩, haddress⟩
    split at hdigits
    · dsimp only at hdigits
      split at hdigits
      · cases hdigits
      · rename_i hlong hsix
        cases hdigits
        rw [not_or, not_not, List.any_eq_true] at hsix
        obtain ⟨hsix, hlength⟩ := hsix
        have hlength : ∀ pair ∈ (text.splitOn ':').map utf8, pair.length = 2 := by
          intro pair hmem
          obtain ⟨octet, hoctet, rfl⟩ := List.mem_map.mp hmem
          by_contra hne
          exact hlength ⟨octet, hoctet, decide_eq_true hne⟩
        rw [utf8_flatten, List.flatMap_def, chunksExact2_flatten hlength] at hread
        obtain ⟨groups, octets, hmap, hgroups, haddress⟩ :=
          (readOctets_six (by rw [List.length_map, hsix]) hlength).mp hread
        have hsplit : text.splitOn ':' = groups :=
          List.map_injective_iff.mpr (fun _ _ => utf8_injective) hmap
        refine ⟨octets, ⟨groups, hsplit ▸ hsix, hgroups, .inr ?_⟩, haddress⟩
        rw [← hsplit, List.intercalate_splitOn]
    · cases hdigits
  · rintro ⟨octets, ⟨groups, hsix, hgroups, htext⟩, haddress⟩
    have haccepted : ∀ group ∈ groups, ∃ octet, AcceptedPair group octet := by
      intro group hmem
      obtain ⟨i, hi⟩ := List.getElem?_of_mem hmem
      obtain ⟨hlt, rfl⟩ := List.getElem?_eq_some_iff.mp hi
      exact ⟨_, (List.forall₂_iff_get.mp hgroups).2 i hlt (hgroups.length_eq ▸ hlt)⟩
    have hlength : ∀ group ∈ groups, (utf8 group).length = 2 := fun group hmem =>
      length_utf8_of_accepted (haccepted group hmem).choose_spec
    have hcolon : ∀ group ∈ groups, ':' ∉ group := fun group hmem =>
      colon_notMem_of_accepted (haccepted group hmem).choose_spec
    have hpieces : ∀ pair ∈ groups.map utf8, pair.length = 2 := by
      intro pair hmem
      obtain ⟨group, hgroup, rfl⟩ := List.mem_map.mp hmem
      exact hlength group hgroup
    refine ⟨groups.flatten, ?_, ?_⟩
    · rw [compact]
      rcases htext with rfl | rfl
      · rw [if_pos]
        refine ⟨by rw [length_utf8_flatten hlength, hsix], ?_⟩
        intro hmem
        obtain ⟨group, hgroup, hmem⟩ := List.mem_flatten.mp hmem
        exact hcolon group hgroup hmem
      · have hlong : (utf8 ([':'].intercalate groups)).length = 17 := by
          rw [length_utf8_intercalate hlength, hsix]
        have hne : groups ≠ [] := List.ne_nil_of_length_eq_add_one hsix
        have hsplit := List.splitOn_intercalate ':' hcolon hne
        have hother : ¬ ((utf8 ([':'].intercalate groups)).length = 12 ∧
            ':' ∉ [':'].intercalate groups) := by
          rintro ⟨htwelve, -⟩
          rw [hlong] at htwelve
          cases htwelve
        rw [if_neg hother, if_pos hlong]
        dsimp only
        rw [hsplit, if_neg]
        rw [not_or, not_not, List.any_eq_true]
        refine ⟨hsix, ?_⟩
        rintro ⟨group, hgroup, hne⟩
        exact of_decide_eq_true hne (hlength group hgroup)
    · rw [utf8_flatten, List.flatMap_def, chunksExact2_flatten hpieces]
      exact (readOctets_six (by rw [List.length_map, hsix]) hpieces).mpr
        ⟨groups, octets, rfl, hgroups, haddress⟩

theorem stripSuffix_eq_some {suffix rest : List Char} :
    stripSuffix suffix text = some rest ↔ text = rest ++ suffix := by
  rw [stripSuffix]
  constructor
  · intro h
    split at h
    · rename_i hsuffix
      cases h
      obtain ⟨before, rfl⟩ := hsuffix
      rw [List.length_append, Nat.add_sub_cancel, List.take_left]
    · cases h
  · rintro rfl
    rw [if_pos (List.suffix_append rest suffix), List.length_append, Nat.add_sub_cancel,
      List.take_left]

/-- **The texts that the parser takes**: an octet may be a plus sign and a digit. -/
theorem parse_eq_ok_iff {value : String} :
    parse value kind = .ok address ↔ Denotes AcceptedPair value kind address := by
  have hparse (text : List Char) (kind : AddressKind) :
      (compact text >>= fun digits => readOctets 0 (chunksExact2 (utf8 digits))
        (fromLeBytes (List.replicate 6 0) rfl kind)) = .ok address ↔
      ∃ octets, Spelled AcceptedPair text octets ∧ address.bytesLe = octets.reverse ∧
        address.kind = kind := by
    rw [except_bind_eq_ok]
    exact readOctets_compact
  rw [parse]
  rcases hstrip : stripSuffix ['/', 'P'] value.toList with _ | text
  · refine (hparse value.toList kind).trans ?_
    constructor
    · rintro ⟨octets, hspelled, hbytes, hkind⟩
      exact ⟨_, octets, hspelled, hbytes, .inr ⟨rfl, hkind⟩⟩
    · rintro ⟨text, octets, hspelled, hbytes, ⟨htext, -⟩ | ⟨rfl, hkind⟩⟩
      · rw [stripSuffix_eq_some.mpr htext] at hstrip
        cases hstrip
      · exact ⟨octets, hspelled, hbytes, hkind⟩
  · rw [stripSuffix_eq_some] at hstrip
    refine (hparse text .pub).trans ?_
    constructor
    · rintro ⟨octets, hspelled, hbytes, hkind⟩
      exact ⟨text, octets, hspelled, hbytes, .inl ⟨hstrip, hkind⟩⟩
    · rintro ⟨text', octets, hspelled, hbytes, ⟨htext, hkind⟩ | ⟨rfl, -⟩⟩
      · rw [hstrip] at htext
        obtain rfl := List.append_cancel_right htext
        exact ⟨octets, hspelled, hbytes, hkind⟩
      · have hmem : 'P' ∈ value.toList := by
          rw [hstrip]
          simp
        exact absurd hmem hspelled.notMem_suffix

/-- The text of the grammar has no sign, and neither has the suffix. -/
theorem Denotes.notMem_plus {value : String} (h : Denotes DigitPair value kind address) :
    '+' ∉ value.toList := by
  obtain ⟨text, octets, hspelled, -, ⟨htext, -⟩ | ⟨htext, -⟩⟩ := h
  · rw [htext, List.mem_append, not_or]
    exact ⟨hspelled.notMem_plus, by decide⟩
  · rw [htext]
    exact hspelled.notMem_plus

/-- **The text of an address is read back.** -/
theorem parse_display (address : BluetoothAddress) :
    parse address.display address.kind = .ok address := by
  rw [parse_eq_ok_iff]
  have hdigit : ∀ octet : UInt8, DigitPair (upperHex octet) octet := by
    intro octet
    have hvalues : ∀ octet : UInt8,
        hexValue (upperDigit (octet.toNat / 16)) = some (octet.toNat / 16) ∧
        hexValue (upperDigit (octet.toNat % 16)) = some (octet.toNat % 16) ∧
        octet = UInt8.ofNat (16 * (octet.toNat / 16) + octet.toNat % 16) :=
      forall_byte (by decide +kernel)
    obtain ⟨hhigh, hlow, heq⟩ := hvalues octet
    exact ⟨_, _, _, _, rfl, hhigh, hlow, heq⟩
  have hsix : address.bytesLe.reverse.length = 6 :=
    (List.length_reverse ..).trans address.length_bytesLe
  have hgroups (octets : Bytes) : List.Forall₂ AcceptedPair (octets.map upperHex) octets := by
    rw [List.forall₂_map_left_iff, List.forall₂_same]
    exact fun octet _ => .inl (hdigit octet)
  refine ⟨[':'].intercalate (address.bytesLe.reverse.map upperHex), address.bytesLe.reverse,
    ⟨_, (List.length_map ..).trans hsix, hgroups _, .inr rfl⟩,
    (List.reverse_reverse _).symm, ?_⟩
  have htext : address.bytesLe.reverse.zipIdx.flatMap (fun (byte, index) =>
      (if index > 0 then [':'] else []) ++ upperHex byte) =
      [':'].intercalate (address.bytesLe.reverse.map upperHex) := by
    obtain ⟨o₀, o₁, o₂, o₃, o₄, o₅, hbytes⟩ := exists_six hsix
    rw [hbytes]
    rfl
  rw [display, String.toList_ofList, htext]
  cases hkind : address.kind with
  | pub => exact .inl ⟨rfl, rfl⟩
  | random => exact .inr ⟨List.append_nil _, rfl⟩

/-- **The grammar of addresses.** The text of every address is read back. A text is parsed as the
grammar says exactly when it is not one with a plus sign that would be an address if an octet could
have a sign. -/
theorem parse_grammar_iff (value : String) (kind : AddressKind) :
    (∀ address : BluetoothAddress, parse address.display address.kind = .ok address) ∧
    ((∀ address, parse value kind = .ok address ↔ Denotes DigitPair value kind address) ↔
      ¬ Signed value) := by
  refine ⟨parse_display, ?_⟩
  constructor
  · rintro hgrammar ⟨hplus, text, octets, hspelled, htext⟩
    have hsix : octets.length = 6 := by
      obtain ⟨groups, hsix, hgroups, -⟩ := hspelled
      rw [← hgroups.length_eq, hsix]
    have hreverse : octets.reverse.length = 6 := (List.length_reverse ..).trans hsix
    obtain ⟨address, haddress⟩ : ∃ address, Denotes AcceptedPair value kind address := by
      rcases htext with htext | htext
      · exact ⟨⟨octets.reverse, .pub, hreverse⟩, text, octets, hspelled, rfl, .inl ⟨htext, rfl⟩⟩
      · exact ⟨⟨octets.reverse, kind, hreverse⟩, text, octets, hspelled, rfl, .inr ⟨htext, rfl⟩⟩
    exact ((hgrammar address).mp (parse_eq_ok_iff.mpr haddress)).notMem_plus hplus
  · intro hsigned address
    rw [parse_eq_ok_iff]
    constructor
    · rintro ⟨text, octets, hspelled, hbytes, hvalue⟩
      have hplus : '+' ∉ value.toList := fun hmem =>
        hsigned ⟨hmem, text, octets, hspelled, hvalue.imp And.left And.left⟩
      refine ⟨text, octets, hspelled.digits fun hmem => hplus ?_, hbytes, hvalue⟩
      rcases hvalue with ⟨htext, -⟩ | ⟨htext, -⟩
      · rw [htext]
        exact List.mem_append_left _ hmem
      · rwa [htext]
    · rintro ⟨text, octets, hspelled, hbytes, hvalue⟩
      exact ⟨text, octets, hspelled.accepted, hbytes, hvalue⟩

/-- A text of six signed digits is parsed, although the grammar does not know it. -/
theorem parse_signed_digits :
    ¬ ∀ value kind address, parse value kind = .ok address ↔
      Denotes DigitPair value kind address := by
  intro hgrammar
  have hparse : parse "+1+2+3+4+5+6" .random =
      .ok (fromLeBytes [6, 5, 4, 3, 2, 1] rfl .random) := by decide +kernel
  have hdenotes := (hgrammar _ _ _).mp hparse
  exact hdenotes.notMem_plus (by decide)

end BluetoothAddress

end ClassicHid

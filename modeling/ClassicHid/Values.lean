import ClassicHid.Foundation.Exec
import ClassicHid.Foundation.Bytes

/-!
# Addresses, bonds and the bond store

The values that cross the boundary of the backend: Bluetooth device addresses, Classic link
keys, and the store of link keys that the caller provides.

## Main definitions

* `BluetoothAddress`: six address bytes in controller order, with their kind
* `ClassicBond`: a 16-byte link key with its type
* `BondStore S`: the operations the caller implements on a store `S`
* `RecordingStore S`: a store with the record of the bonds it was asked to keep
* `MemoryBondStore`: a store in memory
-/

namespace ClassicHid

open Foundation

/-- Address qualifier used at the backend boundary. -/
inductive AddressKind
  | pub
  | random
  deriving DecidableEq, Repr

/-- Six-byte Bluetooth device address, in the little-endian order of the controller. -/
structure BluetoothAddress where
  bytesLe : Bytes
  kind : AddressKind
  length_bytesLe : bytesLe.length = 6
  deriving DecidableEq, Repr

namespace BluetoothAddress

/-- An address from six bytes in controller order. -/
def fromLeBytes (bytes : Bytes) (h : bytes.length = 6) (kind : AddressKind) : BluetoothAddress :=
  ⟨bytes, kind, h⟩

/-- The bytes used by HCI packets. -/
def asLeBytes (a : BluetoothAddress) : Bytes := a.bytesLe

@[simp] theorem length_asLeBytes (a : BluetoothAddress) : a.asLeBytes.length = 6 :=
  a.length_bytesLe

end BluetoothAddress

/-- Classic pairing material retained for reconnect. -/
structure ClassicBond where
  linkKey : Bytes
  linkKeyType : UInt8
  authenticated : Bool
  length_linkKey : linkKey.length = 16
  deriving DecidableEq, Repr

/-- Failure returned by a caller-provided bond store. -/
inductive BondStoreError
  | loadFailed
  | listFailed
  | upsertFailed
  deriving DecidableEq, Repr

/-- Storage boundary for Classic link keys, implemented by the caller. -/
class BondStore (S : Type) where
  selectLocalAddress : BluetoothAddress → Exec S BondStoreError Unit := fun _ => pure ()
  load : S → BluetoothAddress → Except BondStoreError (Option ClassicBond)
  loadAll : S → Except BondStoreError (List (BluetoothAddress × ClassicBond))
  upsert : BluetoothAddress → ClassicBond → Exec S BondStoreError Unit

/-- A bond store with the record of the bonds it was asked to keep, in order. The record is not
part of the program: it makes the calls of `upsert` visible to statements about runs. -/
structure RecordingStore (S : Type) where
  inner : S
  upserts : List (BluetoothAddress × ClassicBond) := []

namespace RecordingStore

variable {S : Type} [BondStore S]

/-- `upsert` of the caller's store, entered into the record before it is answered. -/
def upsert (peer : BluetoothAddress) (bond : ClassicBond) :
    Exec (RecordingStore S) BondStoreError Unit := fun store =>
  ((BondStore.upsert peer bond store.inner).1,
    { inner := (BondStore.upsert peer bond store.inner).2,
      upserts := store.upserts ++ [(peer, bond)] })

@[simp] theorem upserts_upsert (peer : BluetoothAddress) (bond : ClassicBond)
    (store : RecordingStore S) :
    (upsert peer bond store).2.upserts = store.upserts ++ [(peer, bond)] := rfl

end RecordingStore

/-- A store that keeps its bonds in memory. -/
structure MemoryBondStore where
  bonds : List (BluetoothAddress × ClassicBond) := []
  deriving DecidableEq, Repr

instance : BondStore MemoryBondStore where
  load store peer := .ok ((store.bonds.find? (·.1 = peer)).map (·.2))
  loadAll store := .ok store.bonds
  upsert peer bond := Exec.modify fun store =>
    { bonds := store.bonds.filter (·.1 ≠ peer) ++ [(peer, bond)] }

end ClassicHid

import Madara.Lib.Codec

/-! A byte-keyed store holding several typed maps, each in a column of its
own: a value is kept, encoded, under the column's root followed by the encoding
of its key. This is how a key-value backend lays out maps whose keys are not
hashed, and how a reader that goes to the store directly finds them again.

`Holds` says that a store keeps a given map in a column; reading a key back
through the column then gives the map's value (`read_of_holds`). `overlay`
writes a whole map into a column over another store, and keeps every map held
in a column whose root differs but has the same length (`Holds.overlay`), so
that stores holding several maps at once can be built. -/
namespace KeyValue

open Scale

/-- The value under each key, if any. -/
abbrev Store := List UInt8 → Option (List UInt8)

variable {κ κ' ν ν' α : Type}

/-- The value under a key, decoded from the start of its bytes; nothing when
the key is absent or its bytes do not decode. -/
def read (codec : Codec α) (store : Store) (key : List UInt8) : Option α :=
  match store key with
  | some data => (codec.decode data).map Prod.fst
  | none => none

/-- A store that holds nothing. -/
def Store.empty : Store := fun _ => none

/-- Where a map lives in a store: a root, and the codecs of its keys and values. -/
structure Column (κ ν : Type) where
  root : List UInt8
  key : Codec κ
  value : Codec ν

namespace Column

/-- The store key of one map key. -/
def address (column : Column κ ν) (k : κ) : List UInt8 := column.root ++ column.key.encode k

/-- The store keeps the map `contents` in the column: the encoding of each
present value under its key's address, and nothing under the address of an
absent key. -/
def Holds (column : Column κ ν) (store : Store) (contents : κ → Option ν) : Prop :=
  ∀ k, store (column.address k) = (contents k).map column.value.encode

theorem read_encode {column : Column κ ν} (law : column.value.RoundTrip) (value : ν) :
    (column.value.decode (column.value.encode value)).map Prod.fst = some value := by
  have decoded := law value []
  rw [List.append_nil] at decoded
  rw [decoded]
  rfl

/-- Reading a key back through a column that holds a map gives the map's value. -/
theorem read_of_holds {column : Column κ ν} {store : Store} {contents : κ → Option ν}
    (law : column.value.RoundTrip) (holds : column.Holds store contents) (k : κ) :
    read column.value store (column.address k) = contents k := by
  unfold read
  rw [holds k]
  cases contents k with
  | none => rfl
  | some value => exact read_encode law value

/-- A map written into a column over a store: an address under the root whose
rest decodes, with nothing left over, to a key holds that key's value; every
other address keeps what `below` has. -/
def overlay (column : Column κ ν) (contents : κ → Option ν) (below : Store) : Store := fun address =>
  if address.take column.root.length = column.root then
    match column.key.decode (address.drop column.root.length) with
    | some (k, []) => (contents k).map column.value.encode
    | _ => below address
  else below address

/-- The overlay holds the map it writes, when the keys decode back. -/
theorem holds_overlay {column : Column κ ν} (keyLaw : column.key.RoundTrip)
    (contents : κ → Option ν) (below : Store) : column.Holds (column.overlay contents below) contents := by
  intro k
  have rootTaken : (column.address k).take column.root.length = column.root := by
    simp [address]
  have keyLeft : (column.address k).drop column.root.length = column.key.encode k ++ [] := by
    simp [address]
  simp only [overlay, rootTaken, ↓reduceIte, keyLeft, keyLaw k []]

/-- An overlay leaves every address of a column with another root of the same
length as it was. -/
theorem overlay_address_of_root_ne {column : Column κ ν} {other : Column κ' ν'}
    (sameLength : other.root.length = column.root.length) (distinct : other.root ≠ column.root)
    (contents : κ → Option ν) (below : Store) (k : κ') :
    column.overlay contents below (other.address k) = below (other.address k) := by
  have rootTaken : (other.address k).take column.root.length = other.root := by
    simp [address, ← sameLength]
  simp only [overlay, rootTaken, distinct, ↓reduceIte]

/-- Writing a map into one column keeps the maps held in the others. -/
theorem Holds.overlay {column : Column κ ν} {other : Column κ' ν'} {below : Store}
    {kept : κ' → Option ν'} (holds : other.Holds below kept)
    (sameLength : other.root.length = column.root.length) (distinct : other.root ≠ column.root)
    (contents : κ → Option ν) : other.Holds (column.overlay contents below) kept := by
  intro k
  rw [overlay_address_of_root_ne sameLength distinct contents below k]
  exact holds k

end Column

end KeyValue

import Madara.Lib.KeyValue
import Madara.Pallet

/-! The storage overrides of the client (`client/storage/src/overrides`): the
two ways an RPC handler reads the Starknet state of a block. `SchemaV1Override`
reads the block's raw storage where the pallet's items are laid out;
`RuntimeApiStorageOverride`, the fallback, calls the runtime API, which reads
the same items through the pallet's getters. `OverrideHandle` picks the first
when the block's storage says its schema is V1.

A block carries both views of its state, with the fact that FRAME lays the
items out in the raw storage (`LaidOut`: an `Identity`-hashed `StorageMap`
keeps the SCALE encoding of a value under the hashed names of the pallet and
the item followed by the SCALE encoding of the key). Under it the schema-V1
override reads exactly the pallet's maps (`SchemaV1Override.*_eq`), and the two
overrides are compared method by method: they agree on storage slots and on
classes by hash for every block, and on the three reads by address exactly for
deployed addresses. At an address with no class hash the runtime API's
`ValueQuery` getters answer with defaults where the schema-V1 override finds
nothing. -/
namespace Madara.Overrides

open Madara.Felt Madara.State Scale KeyValue

/-- `mp_storage::PALLET_STARKNET`. -/
def palletStarknet : List UInt8 := "Starknet".toUTF8.toList

/-- `mp_storage::STARKNET_CONTRACT_CLASS_HASH`. -/
def starknetContractClassHash : List UInt8 := "ContractClassHashes".toUTF8.toList

/-- `mp_storage::STARKNET_CONTRACT_CLASS`. -/
def starknetContractClass : List UInt8 := "ContractClasses".toUTF8.toList

/-- `mp_storage::STARKNET_NONCE`. -/
def starknetNonce : List UInt8 := "Nonces".toUTF8.toList

/-- `mp_storage::STARKNET_STORAGE`. -/
def starknetStorage : List UInt8 := "StorageView".toUTF8.toList

/-- `mp_storage::PALLET_STARKNET_SCHEMA`, the raw key of the schema version. -/
def palletStarknetSchema : List UInt8 := ":starknet_schema".toUTF8.toList

/-- `mp_storage::StarknetStorageSchemaVersion`. -/
inductive StarknetStorageSchemaVersion where
  | undefined
  | v1
  deriving DecidableEq, Repr

/-- The derived SCALE codec of the schema version: the variant's index. -/
def schemaVersionCodec : Codec StarknetStorageSchemaVersion :=
  Codec.enum (fun | .undefined => 0 | .v1 => 1) (fun _ => [])
    (fun tag rest =>
      if tag = 0 then some (.undefined, rest) else if tag = 1 then some (.v1, rest) else none)

theorem schemaVersionCodec_roundTrip : schemaVersionCodec.RoundTrip := by
  apply Codec.RoundTrip.enum
  rintro (_ | _) rest <;> rfl

/-- What ties the pallet's items to raw storage and comes from outside the
repository: `sp_io::hashing::twox_128`, the SCALE codec of `StarkFelt` (and so
of its newtypes `ContractAddress`, `StorageKey`, `ClassHash` and `Nonce`), and
the SCALE codec of the blockifier's `ContractClass`. -/
structure StorageEncoding (ContractClass : Type) where
  twox128 : List UInt8 → Vector UInt8 16
  starkFelt : LawfulCodec FieldElement
  contractClass : LawfulCodec ContractClass

/-- `storage_prefix_build`: the hashes of the pallet's and the item's names. -/
def storagePrefixBuild (twox128 : List UInt8 → Vector UInt8 16) (module storage : List UInt8) :
    List UInt8 :=
  (twox128 module).toList ++ (twox128 storage).toList

/-- `storage_key_build`: `Identity::hash` of a key is the key itself. -/
def storageKeyBuild (itemRoot key : List UInt8) : List UInt8 := itemRoot ++ key

theorem storagePrefixBuild_length (twox128 : List UInt8 → Vector UInt8 16) (module storage : List UInt8) :
    (storagePrefixBuild twox128 module storage).length = 32 := by
  simp [storagePrefixBuild]

section Items

variable {ContractClass : Type} (encoding : StorageEncoding ContractClass)

/-- `StorageView`, keyed by the SCALE pair `(ContractAddress, StorageKey)`. -/
def storageViewColumn : Column (FieldElement × FieldElement) FieldElement where
  root := storagePrefixBuild encoding.twox128 palletStarknet starknetStorage
  key := encoding.starkFelt.pair encoding.starkFelt.toCodec
  value := encoding.starkFelt.toCodec

/-- `Nonces`. -/
def noncesColumn : Column FieldElement FieldElement where
  root := storagePrefixBuild encoding.twox128 palletStarknet starknetNonce
  key := encoding.starkFelt.toCodec
  value := encoding.starkFelt.toCodec

/-- `ContractClassHashes`. -/
def contractClassHashesColumn : Column FieldElement FieldElement where
  root := storagePrefixBuild encoding.twox128 palletStarknet starknetContractClassHash
  key := encoding.starkFelt.toCodec
  value := encoding.starkFelt.toCodec

/-- `ContractClasses`. -/
def contractClassesColumn : Column FieldElement ContractClass where
  root := storagePrefixBuild encoding.twox128 palletStarknet starknetContractClass
  key := encoding.starkFelt.toCodec
  value := encoding.contractClass.toCodec

/-- The raw storage holds the four items of the pallet's contract state in
their columns. -/
structure LaidOut (raw : Store) (contracts : ContractState ContractClass) : Prop where
  storageView : (storageViewColumn encoding).Holds raw contracts.storageView
  nonces : (noncesColumn encoding).Holds raw contracts.nonces
  contractClassHashes : (contractClassHashesColumn encoding).Holds raw contracts.contractClassHashes
  contractClasses : (contractClassesColumn encoding).Holds raw contracts.contractClasses

/-- The hashes of the four items' names differ, as `twox_128` of these names
does. -/
def ItemRootsDistinct : Prop :=
  [encoding.twox128 starknetStorage, encoding.twox128 starknetNonce,
    encoding.twox128 starknetContractClassHash, encoding.twox128 starknetContractClass].Nodup

/-- The pallet's four items written into their columns over `below`. -/
def rawStorageOf (contracts : ContractState ContractClass) (below : Store) : Store :=
  (storageViewColumn encoding).overlay contracts.storageView <|
    (noncesColumn encoding).overlay contracts.nonces <|
      (contractClassHashesColumn encoding).overlay contracts.contractClassHashes <|
        (contractClassesColumn encoding).overlay contracts.contractClasses below

theorem storagePrefixBuild_ne {twox128 : List UInt8 → Vector UInt8 16} {module storage storage' : List UInt8}
    (distinct : twox128 storage ≠ twox128 storage') :
    storagePrefixBuild twox128 module storage ≠ storagePrefixBuild twox128 module storage' := by
  intro same
  have tails : (twox128 storage).toList = (twox128 storage').toList := List.append_cancel_left same
  exact distinct (Vector.toList_inj.mp tails)

/-- Every state of the pallet has a raw storage that lays it out: the layout
asks nothing of the state. -/
theorem rawStorageOf_laidOut (distinct : ItemRootsDistinct encoding) (contracts : ContractState ContractClass)
    (below : Store) : LaidOut encoding (rawStorageOf encoding contracts below) contracts := by
  obtain ⟨⟨storageNonce, storageHash, storageClass⟩, ⟨nonceHash, nonceClass⟩, hashClass⟩ :
      (encoding.twox128 starknetStorage ≠ encoding.twox128 starknetNonce ∧
        encoding.twox128 starknetStorage ≠ encoding.twox128 starknetContractClassHash ∧
        encoding.twox128 starknetStorage ≠ encoding.twox128 starknetContractClass) ∧
      (encoding.twox128 starknetNonce ≠ encoding.twox128 starknetContractClassHash ∧
        encoding.twox128 starknetNonce ≠ encoding.twox128 starknetContractClass) ∧
      encoding.twox128 starknetContractClassHash ≠ encoding.twox128 starknetContractClass := by
    simpa [ItemRootsDistinct] using distinct
  -- every column's root is 32 bytes long
  have rooted : ∀ storage storage', (storagePrefixBuild encoding.twox128 palletStarknet storage).length =
      (storagePrefixBuild encoding.twox128 palletStarknet storage').length := fun storage storage' =>
    (storagePrefixBuild_length _ _ _).trans (storagePrefixBuild_length _ _ _).symm
  have feltLaw := encoding.starkFelt.roundTrip
  -- each item holds in its own overlay, and the overlays above it leave it alone
  refine ⟨Column.holds_overlay (feltLaw.pair feltLaw) _ _, ?_, ?_, ?_⟩
  · exact (Column.holds_overlay feltLaw _ _).overlay (rooted _ _) (storagePrefixBuild_ne storageNonce.symm) _
  · exact ((Column.holds_overlay feltLaw _ _).overlay (rooted _ _) (storagePrefixBuild_ne nonceHash.symm) _).overlay
      (rooted _ _) (storagePrefixBuild_ne storageHash.symm) _
  · exact (((Column.holds_overlay feltLaw _ _).overlay (rooted _ _) (storagePrefixBuild_ne hashClass.symm) _).overlay
      (rooted _ _) (storagePrefixBuild_ne nonceClass.symm) _).overlay (rooted _ _)
      (storagePrefixBuild_ne storageClass.symm) _

/-- What the client reaches through a block hash: the raw storage of the
block's state, and the pallet's items as the runtime reads them in that state. -/
structure BlockState where
  raw : Store
  contracts : ContractState ContractClass
  laidOut : LaidOut encoding raw contracts

end Items

section Schema

variable {ContractClass : Type} (encoding : StorageEncoding ContractClass)

/-- `SchemaV1Override::query_storage`: the decoded value under a raw key. -/
def queryStorage {T : Type} (codec : Codec T) (raw : Store) (key : List UInt8) : Option T :=
  read codec raw key

namespace SchemaV1Override

/-- `SchemaV1Override::contract_class_hash_by_address`. -/
def contractClassHashByAddress (raw : Store) (address : FieldElement) : Option FieldElement :=
  queryStorage encoding.starkFelt.toCodec raw
    (storageKeyBuild (storagePrefixBuild encoding.twox128 palletStarknet starknetContractClassHash)
      (encoding.starkFelt.encode address))

/-- `SchemaV1Override::get_storage_by_storage_key`: nothing for an address with
no class hash, else the slot's value or its default. -/
def getStorageByStorageKey (raw : Store) (address key : FieldElement) : Option FieldElement :=
  match contractClassHashByAddress encoding raw address with
  | some _ =>
    match queryStorage encoding.starkFelt.toCodec raw
        (storageKeyBuild (storagePrefixBuild encoding.twox128 palletStarknet starknetStorage)
          ((encoding.starkFelt.pair encoding.starkFelt.toCodec).encode (address, key))) with
    | some storage => some storage
    | none => some 0
  | none => none

/-- `SchemaV1Override::contract_class_by_class_hash`. -/
def contractClassByClassHash (raw : Store) (contractClassHash : FieldElement) : Option ContractClass :=
  queryStorage encoding.contractClass.toCodec raw
    (storageKeyBuild (storagePrefixBuild encoding.twox128 palletStarknet starknetContractClass)
      (encoding.starkFelt.encode contractClassHash))

/-- `SchemaV1Override::contract_class_by_address`. -/
def contractClassByAddress (raw : Store) (address : FieldElement) : Option ContractClass := do
  let classHash ← contractClassHashByAddress encoding raw address
  contractClassByClassHash encoding raw classHash

/-- `SchemaV1Override::nonce`: nothing for an address with no class hash, else
the stored nonce or `Nonce::default()`. -/
def nonce (raw : Store) (address : FieldElement) : Option FieldElement := do
  let _ ← contractClassHashByAddress encoding raw address
  match queryStorage encoding.starkFelt.toCodec raw
      (storageKeyBuild (storagePrefixBuild encoding.twox128 palletStarknet starknetNonce)
        (encoding.starkFelt.encode address)) with
  | some nonce => some nonce
  | none => some 0

end SchemaV1Override

namespace RuntimeApiStorageOverride

variable {ContractClass : Type}

/-- `RuntimeApiStorageOverride::get_storage_by_storage_key`, through the
runtime API `get_storage_at`. -/
def getStorageByStorageKey (contracts : ContractState ContractClass) (address key : FieldElement) :
    Option FieldElement :=
  match Pallet.getStorageAt contracts address key with
  | .ok storage => some storage
  | .error _ => none

/-- `RuntimeApiStorageOverride::contract_class_hash_by_address`: the runtime
API returns the `ValueQuery` getter's value. -/
def contractClassHashByAddress (contracts : ContractState ContractClass) (address : FieldElement) :
    Option FieldElement :=
  some (contracts.contractClassHashByAddress address)

/-- `RuntimeApiStorageOverride::contract_class_by_class_hash`. -/
def contractClassByClassHash (contracts : ContractState ContractClass) (contractClassHash : FieldElement) :
    Option ContractClass :=
  contracts.contractClasses contractClassHash

/-- `RuntimeApiStorageOverride::contract_class_by_address`: the class under
whatever class hash the runtime API returns for the address. -/
def contractClassByAddress (contracts : ContractState ContractClass) (address : FieldElement) :
    Option ContractClass := do
  let contractClassHash ← contractClassHashByAddress contracts address
  contractClassByClassHash contracts contractClassHash

/-- `RuntimeApiStorageOverride::nonce`: the `ValueQuery` getter's value. -/
def nonce (contracts : ContractState ContractClass) (address : FieldElement) : Option FieldElement :=
  some (contracts.nonce address)

end RuntimeApiStorageOverride

/-- `StorageOverride`: the five reads of a block's Starknet state. -/
structure StorageOverride where
  getStorageByStorageKey : BlockState encoding → FieldElement → FieldElement → Option FieldElement
  contractClassByAddress : BlockState encoding → FieldElement → Option ContractClass
  contractClassHashByAddress : BlockState encoding → FieldElement → Option FieldElement
  contractClassByClassHash : BlockState encoding → FieldElement → Option ContractClass
  nonce : BlockState encoding → FieldElement → Option FieldElement

/-- `SchemaV1Override`, reading the block's raw storage. -/
@[simps]
def schemaV1Override : StorageOverride encoding where
  getStorageByStorageKey block := SchemaV1Override.getStorageByStorageKey encoding block.raw
  contractClassByAddress block := SchemaV1Override.contractClassByAddress encoding block.raw
  contractClassHashByAddress block := SchemaV1Override.contractClassHashByAddress encoding block.raw
  contractClassByClassHash block := SchemaV1Override.contractClassByClassHash encoding block.raw
  nonce block := SchemaV1Override.nonce encoding block.raw

/-- `RuntimeApiStorageOverride`, calling the runtime API on the block's state. -/
@[simps]
def runtimeApiStorageOverride : StorageOverride encoding where
  getStorageByStorageKey block := RuntimeApiStorageOverride.getStorageByStorageKey block.contracts
  contractClassByAddress block := RuntimeApiStorageOverride.contractClassByAddress block.contracts
  contractClassHashByAddress block := RuntimeApiStorageOverride.contractClassHashByAddress block.contracts
  contractClassByClassHash block := RuntimeApiStorageOverride.contractClassByClassHash block.contracts
  nonce block := RuntimeApiStorageOverride.nonce block.contracts

end Schema

section Refinement

variable {ContractClass : Type} {encoding : StorageEncoding ContractClass} (block : BlockState encoding)

namespace SchemaV1Override

/-- The schema-V1 override reads `ContractClassHashes` as the pallet keeps it. -/
theorem contractClassHashByAddress_eq (address : FieldElement) :
    contractClassHashByAddress encoding block.raw address = block.contracts.contractClassHashes address :=
  Column.read_of_holds encoding.starkFelt.roundTrip block.laidOut.contractClassHashes address

/-- The schema-V1 override reads `ContractClasses` as the pallet keeps it. -/
theorem contractClassByClassHash_eq (contractClassHash : FieldElement) :
    contractClassByClassHash encoding block.raw contractClassHash =
      block.contracts.contractClasses contractClassHash :=
  Column.read_of_holds encoding.contractClass.roundTrip block.laidOut.contractClasses contractClassHash

/-- A slot of a deployed contract is read with the `ValueQuery` default of
`StorageView`; nothing is read for an address with no class hash. -/
theorem getStorageByStorageKey_eq (address key : FieldElement) :
    getStorageByStorageKey encoding block.raw address key =
      (block.contracts.contractClassHashes address).map fun _ => block.contracts.storage (address, key) := by
  have slot : queryStorage encoding.starkFelt.toCodec block.raw
      (storageKeyBuild (storagePrefixBuild encoding.twox128 palletStarknet starknetStorage)
        ((encoding.starkFelt.pair encoding.starkFelt.toCodec).encode (address, key))) =
      block.contracts.storageView (address, key) :=
    Column.read_of_holds encoding.starkFelt.roundTrip block.laidOut.storageView (address, key)
  unfold getStorageByStorageKey ContractState.storage
  rw [contractClassHashByAddress_eq, slot]
  cases block.contracts.contractClassHashes address with
  | none => rfl
  | some classHash =>
    cases block.contracts.storageView (address, key) <;> rfl

/-- A deployed contract's nonce is read with the `ValueQuery` default of
`Nonces`; nothing is read for an address with no class hash. -/
theorem nonce_eq (address : FieldElement) :
    nonce encoding block.raw address =
      (block.contracts.contractClassHashes address).map fun _ => block.contracts.nonce address := by
  have stored : queryStorage encoding.starkFelt.toCodec block.raw
      (storageKeyBuild (storagePrefixBuild encoding.twox128 palletStarknet starknetNonce)
        (encoding.starkFelt.encode address)) = block.contracts.nonces address :=
    Column.read_of_holds encoding.starkFelt.roundTrip block.laidOut.nonces address
  unfold nonce ContractState.nonce
  rw [contractClassHashByAddress_eq, stored]
  cases block.contracts.contractClassHashes address with
  | none => rfl
  | some classHash =>
    cases block.contracts.nonces address <;> rfl

/-- The class of an address is the class under its stored class hash. -/
theorem contractClassByAddress_eq (address : FieldElement) :
    contractClassByAddress encoding block.raw address =
      (block.contracts.contractClassHashes address).bind block.contracts.contractClasses := by
  unfold contractClassByAddress
  rw [contractClassHashByAddress_eq]
  cases block.contracts.contractClassHashes address with
  | none => rfl
  | some classHash => exact contractClassByClassHash_eq block classHash

end SchemaV1Override

/-- `get_storage_at` of the runtime API finds a slot exactly for a deployed
contract. -/
theorem RuntimeApiStorageOverride.getStorageByStorageKey_eq (contracts : ContractState ContractClass)
    (address key : FieldElement) :
    RuntimeApiStorageOverride.getStorageByStorageKey contracts address key =
      (contracts.contractClassHashes address).map fun _ => contracts.storage (address, key) := by
  unfold RuntimeApiStorageOverride.getStorageByStorageKey Pallet.getStorageAt
  cases contracts.contractClassHashes address <;> rfl

/-- Both overrides read a storage slot alike, for every address. -/
theorem overrides_agree_on_storage (address key : FieldElement) :
    (schemaV1Override encoding).getStorageByStorageKey block address key =
      (runtimeApiStorageOverride encoding).getStorageByStorageKey block address key := by
  rw [schemaV1Override_getStorageByStorageKey, runtimeApiStorageOverride_getStorageByStorageKey,
    SchemaV1Override.getStorageByStorageKey_eq, RuntimeApiStorageOverride.getStorageByStorageKey_eq]

/-- Both overrides read a class by its hash alike. -/
theorem overrides_agree_on_class_by_hash (contractClassHash : FieldElement) :
    (schemaV1Override encoding).contractClassByClassHash block contractClassHash =
      (runtimeApiStorageOverride encoding).contractClassByClassHash block contractClassHash :=
  SchemaV1Override.contractClassByClassHash_eq block contractClassHash

/-- The overrides give the same class hash for an address exactly when it is
deployed; elsewhere the runtime API answers with the default class hash. -/
theorem class_hash_agree_iff_deployed (address : FieldElement) :
    (schemaV1Override encoding).contractClassHashByAddress block address =
        (runtimeApiStorageOverride encoding).contractClassHashByAddress block address ↔
      (block.contracts.contractClassHashes address).isSome := by
  rw [schemaV1Override_contractClassHashByAddress, runtimeApiStorageOverride_contractClassHashByAddress,
    SchemaV1Override.contractClassHashByAddress_eq]
  unfold RuntimeApiStorageOverride.contractClassHashByAddress ContractState.contractClassHashByAddress
  cases block.contracts.contractClassHashes address with
  | none => simp
  | some classHash => simp

/-- The overrides give the same nonce for an address exactly when it is
deployed; elsewhere the runtime API answers with the default nonce. -/
theorem nonce_agree_iff_deployed (address : FieldElement) :
    (schemaV1Override encoding).nonce block address = (runtimeApiStorageOverride encoding).nonce block address ↔
      (block.contracts.contractClassHashes address).isSome := by
  rw [schemaV1Override_nonce, runtimeApiStorageOverride_nonce, SchemaV1Override.nonce_eq]
  unfold RuntimeApiStorageOverride.nonce
  cases block.contracts.contractClassHashes address with
  | none => simp
  | some classHash => simp

/-- The overrides give the same class for an address when it is deployed, and
for one that is not exactly when no class is stored under the class hash `0`
the runtime API falls back to. -/
theorem class_agree_iff (address : FieldElement) :
    (schemaV1Override encoding).contractClassByAddress block address =
        (runtimeApiStorageOverride encoding).contractClassByAddress block address ↔
      (block.contracts.contractClassHashes address).isSome ∨ block.contracts.contractClasses 0 = none := by
  rw [schemaV1Override_contractClassByAddress, runtimeApiStorageOverride_contractClassByAddress,
    SchemaV1Override.contractClassByAddress_eq]
  unfold RuntimeApiStorageOverride.contractClassByAddress RuntimeApiStorageOverride.contractClassHashByAddress
    RuntimeApiStorageOverride.contractClassByClassHash ContractState.contractClassHashByAddress
  cases block.contracts.contractClassHashes address with
  | none => simp [eq_comm]
  | some classHash => simp

/-- At a deployed address the overrides agree on every read. -/
theorem overrides_agree_of_deployed {address : FieldElement}
    (deployed : (block.contracts.contractClassHashes address).isSome) (key contractClassHash : FieldElement) :
    (schemaV1Override encoding).getStorageByStorageKey block address key =
        (runtimeApiStorageOverride encoding).getStorageByStorageKey block address key ∧
      (schemaV1Override encoding).contractClassHashByAddress block address =
        (runtimeApiStorageOverride encoding).contractClassHashByAddress block address ∧
      (schemaV1Override encoding).contractClassByAddress block address =
        (runtimeApiStorageOverride encoding).contractClassByAddress block address ∧
      (schemaV1Override encoding).contractClassByClassHash block contractClassHash =
        (runtimeApiStorageOverride encoding).contractClassByClassHash block contractClassHash ∧
      (schemaV1Override encoding).nonce block address = (runtimeApiStorageOverride encoding).nonce block address :=
  ⟨overrides_agree_on_storage block address key, (class_hash_agree_iff_deployed block address).mpr deployed,
    (class_agree_iff block address).mpr (Or.inl deployed), overrides_agree_on_class_by_hash block contractClassHash,
    (nonce_agree_iff_deployed block address).mpr deployed⟩

/-- An encoding whose item roots repeat the length of the item's name, and
whose contract classes are booleans. -/
def lengthEncoding : StorageEncoding Bool where
  twox128 name := Vector.replicate 16 (UInt8.ofNat name.length)
  starkFelt := ⟨felt252WrapperCodec, felt252WrapperCodec_roundTrip⟩
  contractClass := ⟨Scale.Codec.bool, .bool⟩

theorem lengthEncoding_itemRootsDistinct : ItemRootsDistinct lengthEncoding := by
  unfold ItemRootsDistinct
  decide +kernel

/-- A block in which the address `1` holds the class `7`, and which stores
its slot `0` as `3`. -/
def deployedBlock : BlockState lengthEncoding :=
  let contracts : ContractState Bool :=
    ⟨fun slot => if slot = (1, 0) then some 3 else none, fun _ => none,
      fun address => if address = 1 then some 7 else none, fun _ => none, fun _ => none⟩
  ⟨rawStorageOf lengthEncoding contracts fun _ => none, contracts,
    rawStorageOf_laidOut lengthEncoding lengthEncoding_itemRootsDistinct contracts _⟩

/-- The two overrides agree on the deployed address `1` of `deployedBlock`. -/
theorem overrides_agree_on_deployed_block :
    (deployedBlock.contracts.contractClassHashes 1).isSome ∧
    (schemaV1Override lengthEncoding).getStorageByStorageKey deployedBlock 1 0 =
        (runtimeApiStorageOverride lengthEncoding).getStorageByStorageKey deployedBlock 1 0 ∧
      (schemaV1Override lengthEncoding).contractClassHashByAddress deployedBlock 1 =
        (runtimeApiStorageOverride lengthEncoding).contractClassHashByAddress deployedBlock 1 ∧
      (schemaV1Override lengthEncoding).contractClassByAddress deployedBlock 1 =
        (runtimeApiStorageOverride lengthEncoding).contractClassByAddress deployedBlock 1 ∧
      (schemaV1Override lengthEncoding).contractClassByClassHash deployedBlock 7 =
        (runtimeApiStorageOverride lengthEncoding).contractClassByClassHash deployedBlock 7 ∧
      (schemaV1Override lengthEncoding).nonce deployedBlock 1 =
        (runtimeApiStorageOverride lengthEncoding).nonce deployedBlock 1 :=
  have deployed : (deployedBlock.contracts.contractClassHashes 1).isSome := rfl
  ⟨deployed, overrides_agree_of_deployed deployedBlock deployed 0 7⟩

end Refinement

section Handle

variable {ContractClass : Type} (encoding : StorageEncoding ContractClass)

/-- `onchain_storage_schema`: the version stored under `PALLET_STARKNET_SCHEMA`,
or `Undefined` when there is none or it does not decode. -/
def onchainStorageSchema (raw : Store) : StarknetStorageSchemaVersion :=
  match raw palletStarknetSchema with
  | some bytes => ((schemaVersionCodec.decode bytes).map Prod.fst).getD .undefined
  | none => .undefined

/-- `OverrideHandle`: an override for each known schema version, and the
fallback for the others. -/
structure OverrideHandle where
  schemas : List (StarknetStorageSchemaVersion × StorageOverride encoding)
  fallback : StorageOverride encoding

namespace OverrideHandle

variable {encoding}

/-- `OverrideHandle::for_schema_version`. -/
def forSchemaVersion (handle : OverrideHandle encoding) (schemaVersion : StarknetStorageSchemaVersion) :
    StorageOverride encoding :=
  match handle.schemas.lookup schemaVersion with
  | some storageOverride => storageOverride
  | none => handle.fallback

/-- `OverrideHandle::for_block_hash`: the override for the schema the block's
storage names. -/
def forBlockHash (handle : OverrideHandle encoding) (block : BlockState encoding) : StorageOverride encoding :=
  handle.forSchemaVersion (onchainStorageSchema block.raw)

end OverrideHandle

/-- `overrides_handle`: the schema-V1 override, and the runtime API as the
fallback. -/
def overridesHandle : OverrideHandle encoding where
  schemas := [(.v1, schemaV1Override encoding)]
  fallback := runtimeApiStorageOverride encoding

/-- `StarknetRpcApiError`, by the variants the modelled handlers return. -/
inductive StarknetRpcApiError where
  | contractNotFound
  | blockNotFound
  | classHashNotFound
  | pageSizeTooBig
  | invalidContinuationToken
  | tooManyKeysInFilter
  | invalidContractClass
  | internalServerError
  deriving DecidableEq, Repr

/-- What the RPC handlers that read the state share: the override for the
block's schema makes one read, and a read that finds nothing is reported as
`missing`. -/
def readState {α : Type} (handle : OverrideHandle encoding) (block : BlockState encoding)
    (reading : StorageOverride encoding → Option α) (missing : StarknetRpcApiError) :
    Except StarknetRpcApiError α :=
  match reading (handle.forBlockHash block) with
  | some value => .ok value
  | none => .error missing

/-- `Starknet::get_storage_at` (RPC). -/
def getStorageAt (handle : OverrideHandle encoding) (block : BlockState encoding)
    (contractAddress key : FieldElement) : Except StarknetRpcApiError FieldElement :=
  readState encoding handle block (·.getStorageByStorageKey block contractAddress key) .contractNotFound

/-- `Starknet::get_class_hash_at`. -/
def getClassHashAt (handle : OverrideHandle encoding) (block : BlockState encoding)
    (contractAddress : FieldElement) : Except StarknetRpcApiError FieldElement :=
  readState encoding handle block (·.contractClassHashByAddress block contractAddress) .contractNotFound

/-- `Starknet::get_nonce`. -/
def getNonce (handle : OverrideHandle encoding) (block : BlockState encoding)
    (contractAddress : FieldElement) : Except StarknetRpcApiError FieldElement :=
  readState encoding handle block (·.nonce block contractAddress) .contractNotFound

/-- `Starknet::get_class_at`: the class of the address, then
`to_rpc_contract_class`, whose failure is reported as an invalid class. -/
def getClassAt {RpcContractClass : Type} (toRpcContractClass : ContractClass → Option RpcContractClass)
    (handle : OverrideHandle encoding) (block : BlockState encoding) (contractAddress : FieldElement) :
    Except StarknetRpcApiError RpcContractClass := do
  let contractClass ←
    readState encoding handle block (·.contractClassByAddress block contractAddress) .contractNotFound
  match toRpcContractClass contractClass with
  | some rpcContractClass => .ok rpcContractClass
  | none => .error .invalidContractClass

/-- `Starknet::get_class`: the class under a hash, then
`to_rpc_contract_class`, whose failure is reported as an internal error. -/
def getClass {RpcContractClass : Type} (toRpcContractClass : ContractClass → Option RpcContractClass)
    (handle : OverrideHandle encoding) (block : BlockState encoding) (classHash : FieldElement) :
    Except StarknetRpcApiError RpcContractClass := do
  let contractClass ←
    readState encoding handle block (·.contractClassByClassHash block classHash) .classHashNotFound
  match toRpcContractClass contractClass with
  | some rpcContractClass => .ok rpcContractClass
  | none => .error .internalServerError

variable {encoding} (block : BlockState encoding)

theorem forBlockHash_of_v1 (v1 : onchainStorageSchema block.raw = .v1) :
    (overridesHandle encoding).forBlockHash block = schemaV1Override encoding := by
  rw [OverrideHandle.forBlockHash, v1]
  rfl

theorem forBlockHash_of_undefined (undefined : onchainStorageSchema block.raw = .undefined) :
    (overridesHandle encoding).forBlockHash block = runtimeApiStorageOverride encoding := by
  rw [OverrideHandle.forBlockHash, undefined]
  rfl

/-- On a block whose storage names schema V1, `get_class_hash_at` reports an
address with no class hash as a contract not found. -/
theorem getClassHashAt_of_v1 (v1 : onchainStorageSchema block.raw = .v1) (address : FieldElement) :
    getClassHashAt encoding (overridesHandle encoding) block address =
      match block.contracts.contractClassHashes address with
      | some classHash => .ok classHash
      | none => .error .contractNotFound := by
  unfold getClassHashAt readState
  rw [forBlockHash_of_v1 block v1]
  dsimp only
  rw [schemaV1Override_contractClassHashByAddress, SchemaV1Override.contractClassHashByAddress_eq]
  cases block.contracts.contractClassHashes address <;> rfl

/-- On a block whose storage names no schema, `get_class_hash_at` answers for
every address, with the class hash `0` where none is stored. -/
theorem getClassHashAt_of_undefined (undefined : onchainStorageSchema block.raw = .undefined)
    (address : FieldElement) :
    getClassHashAt encoding (overridesHandle encoding) block address =
      .ok (block.contracts.contractClassHashByAddress address) := by
  unfold getClassHashAt readState
  rw [forBlockHash_of_undefined block undefined]
  rfl

/-- On a block whose storage names schema V1, `get_nonce` reports an address
with no class hash as a contract not found. -/
theorem getNonce_of_v1 (v1 : onchainStorageSchema block.raw = .v1) (address : FieldElement) :
    getNonce encoding (overridesHandle encoding) block address =
      match block.contracts.contractClassHashes address with
      | some _ => .ok (block.contracts.nonce address)
      | none => .error .contractNotFound := by
  unfold getNonce readState
  rw [forBlockHash_of_v1 block v1]
  dsimp only
  rw [schemaV1Override_nonce, SchemaV1Override.nonce_eq]
  cases block.contracts.contractClassHashes address <;> rfl

/-- On a block whose storage names no schema, `get_nonce` answers for every
address, with the nonce `0` where none is stored. -/
theorem getNonce_of_undefined (undefined : onchainStorageSchema block.raw = .undefined)
    (address : FieldElement) :
    getNonce encoding (overridesHandle encoding) block address = .ok (block.contracts.nonce address) := by
  unfold getNonce readState
  rw [forBlockHash_of_undefined block undefined]
  rfl

end Handle

section Undeployed

variable {ContractClass : Type} (encoding : StorageEncoding ContractClass)

/-- A Starknet state with nothing deployed and nothing stored. -/
def emptyContracts : ContractState ContractClass :=
  ⟨fun _ => none, fun _ => none, fun _ => none, fun _ => none, fun _ => none⟩

/-- Raw storage holding the schema version, if one is given, and nothing else. -/
def schemaStore (schemaVersion : Option StarknetStorageSchemaVersion) : Store := fun key =>
  match schemaVersion with
  | some version => if key = palletStarknetSchema then some (schemaVersionCodec.encode version) else none
  | none => none

theorem palletStarknetSchema_length : palletStarknetSchema.length = 16 := by
  decide +kernel

/-- The schema store holds nothing under a key longer than the schema key. -/
theorem schemaStore_of_long (schemaVersion : Option StarknetStorageSchemaVersion) {key : List UInt8}
    (long : 16 < key.length) : schemaStore schemaVersion key = none := by
  have other : key ≠ palletStarknetSchema := by
    intro same
    rw [same, palletStarknetSchema_length] at long
    exact Nat.lt_irrefl 16 long
  cases schemaVersion with
  | none => rfl
  | some version => simp [schemaStore, other]

theorem onchainStorageSchema_schemaStore (schemaVersion : Option StarknetStorageSchemaVersion) :
    onchainStorageSchema (schemaStore schemaVersion) = schemaVersion.getD .undefined := by
  cases schemaVersion with
  | none => rfl
  | some version =>
    have decoded := schemaVersionCodec_roundTrip version []
    rw [List.append_nil] at decoded
    simp [onchainStorageSchema, schemaStore, decoded]

/-- Every address of a column under a pallet item is longer than the schema key. -/
theorem address_long {κ ν : Type} {column : Column κ ν} (rooted : column.root.length = 32) (k : κ) :
    16 < (column.address k).length := by
  simp only [Column.address, List.length_append, rooted]
  omega

/-- The schema store lays out the empty state. -/
theorem laidOut_schemaStore (schemaVersion : Option StarknetStorageSchemaVersion) :
    LaidOut encoding (schemaStore schemaVersion) emptyContracts where
  storageView k := schemaStore_of_long schemaVersion (address_long (storagePrefixBuild_length _ _ _) k)
  nonces k := schemaStore_of_long schemaVersion (address_long (storagePrefixBuild_length _ _ _) k)
  contractClassHashes k := schemaStore_of_long schemaVersion (address_long (storagePrefixBuild_length _ _ _) k)
  contractClasses k := schemaStore_of_long schemaVersion (address_long (storagePrefixBuild_length _ _ _) k)

/-- A block in which nothing is deployed, its storage naming the given schema
version or none. -/
def undeployedBlock (schemaVersion : Option StarknetStorageSchemaVersion) : BlockState encoding :=
  ⟨schemaStore schemaVersion, emptyContracts, laidOut_schemaStore encoding schemaVersion⟩

/-- On the same empty state, the schema-V1 override finds no class hash and no
nonce for an address while the runtime API answers `0` for both, so
`get_class_hash_at` and `get_nonce` report a contract not found on a block
naming schema V1 and return `0` on a block naming none. -/
theorem storage_overrides_disagree_on_undeployed_address :
    (schemaV1Override encoding).contractClassHashByAddress (undeployedBlock encoding (some .v1)) 1 = none ∧
      (runtimeApiStorageOverride encoding).contractClassHashByAddress
        (undeployedBlock encoding (some .v1)) 1 = some 0 ∧
      (schemaV1Override encoding).nonce (undeployedBlock encoding (some .v1)) 1 = none ∧
      (runtimeApiStorageOverride encoding).nonce (undeployedBlock encoding (some .v1)) 1 = some 0 ∧
      getClassHashAt encoding (overridesHandle encoding) (undeployedBlock encoding (some .v1)) 1 =
        .error .contractNotFound ∧
      getClassHashAt encoding (overridesHandle encoding) (undeployedBlock encoding none) 1 = .ok 0 ∧
      getNonce encoding (overridesHandle encoding) (undeployedBlock encoding (some .v1)) 1 =
        .error .contractNotFound ∧
      getNonce encoding (overridesHandle encoding) (undeployedBlock encoding none) 1 = .ok 0 := by
  have v1 := onchainStorageSchema_schemaStore (some .v1)
  have undefined := onchainStorageSchema_schemaStore none
  refine ⟨SchemaV1Override.contractClassHashByAddress_eq _ 1, rfl, ?_, rfl, ?_, ?_, ?_, ?_⟩
  · rw [schemaV1Override_nonce, SchemaV1Override.nonce_eq]
    rfl
  · exact getClassHashAt_of_v1 _ v1 1
  · exact getClassHashAt_of_undefined _ undefined 1
  · exact getNonce_of_v1 _ v1 1
  · exact getNonce_of_undefined _ undefined 1

end Undeployed

end Madara.Overrides

import Madara.DaDb
import Madara.DataAvailability
import Madara.DigestLog
import Madara.L1Messages
import Madara.Overrides

/-! The commitment state diff of a block (`crates/client/commitment-state-diff/src/lib.rs`,
`build_commitment_state_diff`). The worker reads the storage changes of an
imported block from its notification. It keeps the changes of four items of
the Starknet pallet, telling them apart by the first 32 bytes of the key.
`Nonces`, `StorageView` and `CompiledClassHashes` go into `nonces`,
`storage_diffs` and `declared_classes`. A `ContractClassHashes` change goes
into `replaced_classes` when the runtime call `contract_class_by_class_hash`
succeeds, and into `deployed_contracts` otherwise. The addresses met along the
way are counted in `accessed_addrs`.

`Effects` is what a block's changes amount to: the last value written under
each key and the addresses touched. The loop records all of it
(`collectChanges_reflects`): every nonce, storage value and compiled class
hash with its last value, and the number of distinct addresses. The runtime
call tests whether the call failed, not whether the contract existed before
the block. A runtime that answers every class hash, as the pallet's does with
`Ok(None)` for an unknown one, therefore sends every class hash change to
`replaced_classes` (`collectChanges_replaces`), a new contract's included
(`commitment_diff_never_deploys`). -/
namespace Madara.CommitmentStateDiff

open Madara.SnosOutput (StarkFelt)
open Madara.DataAvailability (ThinStateDiff BlockDAData)
open Madara.Overrides (storagePrefixBuild palletStarknet starknetNonce starknetStorage starknetContractClassHash)
open Madara.DaDb (starkFeltScaleCodec)
open Madara.DigestLog Madara.StarknetBlock Madara.Transactions

/-- `STARKNET_COMPILED_CLASS_HASH`. -/
def starknetCompiledClassHash : List UInt8 := "CompiledClassHashes".toUTF8.toList

section Prefixes

variable (twox128 : List UInt8 → Vector UInt8 16)

/-- `SN_NONCE_PREFIX`. -/
def snNoncePrefix : List UInt8 := storagePrefixBuild twox128 palletStarknet starknetNonce

/-- `SN_STORAGE_PREFIX`. -/
def snStoragePrefix : List UInt8 := storagePrefixBuild twox128 palletStarknet starknetStorage

/-- `SN_CONTRACT_CLASS_HASH_PREFIX`. -/
def snContractClassHashPrefix : List UInt8 :=
  storagePrefixBuild twox128 palletStarknet starknetContractClassHash

/-- `SN_COMPILED_CLASS_HASH_PREFIX`. -/
def snCompiledClassHashPrefix : List UInt8 :=
  storagePrefixBuild twox128 palletStarknet starknetCompiledClassHash

/-- The hashes of the four items' names differ, as `twox_128` of these names
does. -/
def PrefixesDistinct : Prop :=
  [twox128 starknetNonce, twox128 starknetStorage, twox128 starknetContractClassHash,
    twox128 starknetCompiledClassHash].Nodup

instance : DecidablePred PrefixesDistinct := fun twox128 =>
  inferInstanceAs (Decidable (List.Nodup [twox128 starknetNonce, twox128 starknetStorage,
    twox128 starknetContractClassHash, twox128 starknetCompiledClassHash]))

end Prefixes

/-- One of `StorageNotification::changes`: the full storage key and the data
stored under it, `none` when the key was removed. The child-trie key is not
read. -/
structure StorageChange where
  key : List UInt8
  data : Option (List UInt8)

/-- `StarkFelt(slice.try_into().unwrap())`: `none`, a panic, unless the slice
has 32 bytes. -/
def starkFeltOfSlice (bytes : List UInt8) : Option StarkFelt :=
  if bytes.length = 32 then some ⟨ByteOrder.ofBytesBE bytes % 2 ^ 256, Nat.mod_lt _ (Nat.two_pow_pos 256)⟩
  else none

/-- A `ThinStateDiff` with every map empty. -/
def emptyStateDiff : ThinStateDiff := ⟨.empty, .empty, .empty, .empty, .empty⟩

/-- What the loop has built so far: `commitment_state_diff` and
`accessed_addrs`. -/
structure Accumulated where
  diff : ThinStateDiff
  accessedAddrs : IndexSet StarkFelt

/-- `BuildCommitmentStateDiffError`. The errors of the client's calls are kept
by their kind only. -/
inductive BuildCommitmentStateDiffError where
  | substrateHeaderBackend
  | blockNotFound
  | digestLogNotFound (error : FindLogError)
  | failedToGetConfigHash

section Build

variable (twox128 : List UInt8 → Vector UInt8 16) {ε ContractClass : Type}
  (contractClassByClassHash : StarkFelt → Except ε (Option ContractClass))

/-- One iteration of the loop of `build_commitment_state_diff`: `none` is a
panic. `contractClassByClassHash` is the runtime API's
`contract_class_by_class_hash` at the best block. -/
def collectChange (acc : Accumulated) (change : StorageChange) : Option Accumulated :=
  if change.key.length < 32 then some acc
  else
    let pfx := change.key.take 32
    if pfx = snNoncePrefix twox128 then
      (starkFeltOfSlice (change.key.drop 32)).bind fun contractAddress =>
        (change.data.bind starkFeltOfSlice).map fun nonce =>
          { diff := { acc.diff with nonces := acc.diff.nonces.insert contractAddress nonce }
            accessedAddrs := acc.accessedAddrs.insert contractAddress }
    else if pfx = snStoragePrefix twox128 then
      (starkFeltOfSlice ((change.key.drop 32).take 32)).bind fun contractAddress =>
        (starkFeltOfSlice (change.key.drop 64)).bind fun storageKey =>
          (change.data.bind starkFeltOfSlice).map fun value =>
            let storageDiffs :=
              match acc.diff.storageDiffs.get contractAddress with
              | some contractStorage =>
                acc.diff.storageDiffs.insert contractAddress (contractStorage.insert storageKey value)
              | none => acc.diff.storageDiffs.insert contractAddress (IndexMap.empty.insert storageKey value)
            { diff := { acc.diff with storageDiffs := storageDiffs }
              accessedAddrs := acc.accessedAddrs.insert contractAddress }
    else if pfx = snContractClassHashPrefix twox128 then
      (starkFeltOfSlice (change.key.drop 32)).bind fun contractAddress =>
        (change.data.bind starkFeltOfSlice).map fun classHash =>
          let contractExists := (contractClassByClassHash classHash).toBool
          { diff :=
              if contractExists then
                { acc.diff with replacedClasses := acc.diff.replacedClasses.insert contractAddress classHash }
              else { acc.diff with deployedContracts := acc.diff.deployedContracts.insert contractAddress classHash }
            accessedAddrs := acc.accessedAddrs.insert contractAddress }
    else if pfx = snCompiledClassHashPrefix twox128 then
      (starkFeltOfSlice (change.key.drop 32)).bind fun classHash =>
        (change.data.elim (some 0) starkFeltOfSlice).map fun compiledClassHash =>
          { acc with diff := { acc.diff with
              declaredClasses := acc.diff.declaredClasses.insert classHash compiledClassHash } }
    else some acc

/-- The loop over `storage_notification.changes`. -/
def collectChanges : List StorageChange → Accumulated → Option Accumulated
  | [], acc => some acc
  | change :: rest, acc => (collectChange twox128 contractClassByClassHash acc change).bind (collectChanges rest)

variable {headerError : Type} (leaves : ScaleLeaves)
  (tryAsRaw : OpaqueDigestItemId → DigestItem → Option (List UInt8)) (crypto : Crypto)

/-- `build_commitment_state_diff`. `header` is what `client.header` returned
for the notified block, by the header's digest; `configHash` is what the
runtime API's `config_hash` returned; `stateRoot` is the backend's
`temporary_global_state_root_getter`. -/
def buildCommitmentStateDiff (changes : List StorageChange) (header : Except headerError (Option (List DigestItem)))
    (configHash : Except ε StarkFelt) (stateRoot : StarkFelt) :
    Option (Except BuildCommitmentStateDiffError BlockDAData) :=
  (collectChanges twox128 contractClassByClassHash changes ⟨emptyStateDiff, IndexMap.empty⟩).map fun acc => do
    let found ← header.mapError fun _ => .substrateHeaderBackend
    let digest ← found.elim (.error .blockNotFound) .ok
    let currentBlock ← (findStarknetBlock leaves tryAsRaw digest).mapError .digestLogNotFound
    let configHash ← configHash.mapError fun _ => .failedToGetConfigHash
    pure
      { blockHash := L1Messages.starkFeltOf (currentBlock.header.hash crypto)
        stateDiff := acc.diff
        numAddrAccessed := acc.accessedAddrs.len
        blockNumber := currentBlock.header.blockNumber.toNat
        configHash := configHash
        newStateRoot := stateRoot
        previousStateRoot := stateRoot }

end Build

/-! ### How the pallet's items show in a notification -/

/-- A change a block makes to the storage, by the item it writes. `other` is
a change of any other storage. -/
inductive Change where
  | nonce (contractAddress nonce : StarkFelt)
  | storage (contractAddress storageKey value : StarkFelt)
  | contractClassHash (contractAddress classHash : StarkFelt)
  | compiledClassHash (classHash : StarkFelt) (compiledClassHash : Option StarkFelt)
  | other (change : StorageChange)

section Layout

variable (twox128 : List UInt8 → Vector UInt8 16)

/-- How a change shows in the notification: the item's prefix, then the
SCALE-encoded keys (the items hash their keys with `Identity`), and the
SCALE-encoded value. -/
def Change.raw : Change → StorageChange
  | .nonce contractAddress newNonce =>
    ⟨snNoncePrefix twox128 ++ starkFeltScaleCodec.encode contractAddress, some (starkFeltScaleCodec.encode newNonce)⟩
  | .storage contractAddress storageKey value =>
    ⟨snStoragePrefix twox128 ++ starkFeltScaleCodec.encode contractAddress ++ starkFeltScaleCodec.encode storageKey,
      some (starkFeltScaleCodec.encode value)⟩
  | .contractClassHash contractAddress classHash =>
    ⟨snContractClassHashPrefix twox128 ++ starkFeltScaleCodec.encode contractAddress,
      some (starkFeltScaleCodec.encode classHash)⟩
  | .compiledClassHash classHash compiled =>
    ⟨snCompiledClassHashPrefix twox128 ++ starkFeltScaleCodec.encode classHash, compiled.map starkFeltScaleCodec.encode⟩
  | .other change => change

/-- A change of another item: its key is shorter than a prefix, or starts with
none of the four. -/
def Unrelated (change : StorageChange) : Prop :=
  change.key.length < 32 ∨
    change.key.take 32 ∉ [snNoncePrefix twox128, snStoragePrefix twox128, snContractClassHashPrefix twox128,
      snCompiledClassHashPrefix twox128]

/-- The changes of the four items are laid out by `raw`; any other change is
unrelated. -/
def Change.LaidOut : Change → Prop
  | .other change => Unrelated twox128 change
  | _ => True

end Layout

/-! ### What a block's changes amount to -/

/-- The effect of a block's changes: the last value written under each key
(for a compiled class hash, `none` when it was removed), and the contracts
touched by a nonce, a storage value or a class hash. -/
structure Effects where
  nonces : StarkFelt → Option StarkFelt
  storage : StarkFelt → StarkFelt → Option StarkFelt
  classHashes : StarkFelt → Option StarkFelt
  compiledClassHashes : StarkFelt → Option (Option StarkFelt)
  accessed : Finset StarkFelt

/-- No change yet. -/
def Effects.empty : Effects := ⟨fun _ => none, fun _ _ => none, fun _ => none, fun _ => none, ∅⟩

/-- One more change. -/
def Effects.apply (effects : Effects) : Change → Effects
  | .nonce contractAddress nonce =>
    { effects with
      nonces := Function.update effects.nonces contractAddress (some nonce)
      accessed := insert contractAddress effects.accessed }
  | .storage contractAddress storageKey value =>
    { effects with
      storage := Function.update effects.storage contractAddress
        (Function.update (effects.storage contractAddress) storageKey (some value))
      accessed := insert contractAddress effects.accessed }
  | .contractClassHash contractAddress classHash =>
    { effects with
      classHashes := Function.update effects.classHashes contractAddress (some classHash)
      accessed := insert contractAddress effects.accessed }
  | .compiledClassHash classHash compiledClassHash =>
    { effects with
      compiledClassHashes := Function.update effects.compiledClassHashes classHash (some compiledClassHash) }
  | .other _ => effects

/-- The effect of a block's changes, in order. -/
def Effects.run (changes : List Change) : Effects := changes.foldl Effects.apply Effects.empty

/-- The loop's diff and address set record the effects. A removed compiled
class hash is recorded as the default hash, `0`. -/
structure Reflects (acc : Accumulated) (effects : Effects) : Prop where
  nonces : ∀ contractAddress, acc.diff.nonces.get contractAddress = effects.nonces contractAddress
  storage : ∀ contractAddress storageKey,
    (acc.diff.storageDiffs.get contractAddress).bind (·.get storageKey) = effects.storage contractAddress storageKey
  declaredClasses : ∀ classHash,
    acc.diff.declaredClasses.get classHash = (effects.compiledClassHashes classHash).map (·.getD 0)
  accessed : acc.accessedAddrs.keys.toFinset = effects.accessed

/-- Every class hash change is among the replaced classes, and nothing is
deployed. -/
structure AllReplaced (acc : Accumulated) (effects : Effects) : Prop where
  replaced : ∀ contractAddress, acc.diff.replacedClasses.get contractAddress = effects.classHashes contractAddress
  deployed : acc.diff.deployedContracts.entries = []

/-- Where a class hash change belongs: a contract with no class hash before
the block is deployed, any other has its class replaced. -/
def Placed (classHashBefore : StarkFelt → Option StarkFelt) (diff : ThinStateDiff) (contractAddress classHash : StarkFelt) :
    Prop :=
  if classHashBefore contractAddress = none then
    diff.deployedContracts.get contractAddress = some classHash ∧ diff.replacedClasses.get contractAddress = none
  else diff.replacedClasses.get contractAddress = some classHash ∧ diff.deployedContracts.get contractAddress = none

/-! ### The bytes of a change -/

theorem starkFeltOfSlice_encode (felt : StarkFelt) : starkFeltOfSlice (starkFeltScaleCodec.encode felt) = some felt := by
  have width : (ByteOrder.toBytesBE 32 felt.val).length = 32 := ByteOrder.toBytesBE_length 32 felt.val
  have bound : felt.val < 256 ^ 32 := felt.isLt.trans_eq (by norm_num)
  simp only [starkFeltOfSlice, starkFeltScaleCodec, width, ↓reduceIte, ByteOrder.ofBytesBE_toBytesBE_of_lt bound,
    Nat.mod_eq_of_lt felt.isLt]

theorem encode_length (felt : StarkFelt) : (starkFeltScaleCodec.encode felt).length = 32 :=
  ByteOrder.toBytesBE_length 32 felt.val

/-- A key that starts with a prefix: long enough, its first 32 bytes the
prefix, and the rest after them. -/
theorem prefixed_key {pfx : List UInt8} (rest : List UInt8) (width : pfx.length = 32) :
    ¬(pfx ++ rest).length < 32 ∧ (pfx ++ rest).take 32 = pfx ∧ (pfx ++ rest).drop 32 = rest := by
  refine ⟨?_, List.take_left' width, List.drop_left' width⟩
  rw [List.length_append, width]
  omega

section Branches

variable {twox128 : List UInt8 → Vector UInt8 16} {ε ContractClass : Type}
  (contractClassByClassHash : StarkFelt → Except ε (Option ContractClass))

/-- The six pairs of prefixes differ. -/
theorem prefixes_ne (distinct : PrefixesDistinct twox128) : snNoncePrefix twox128 ≠ snStoragePrefix twox128 ∧
    snNoncePrefix twox128 ≠ snContractClassHashPrefix twox128 ∧
    snNoncePrefix twox128 ≠ snCompiledClassHashPrefix twox128 ∧
    snStoragePrefix twox128 ≠ snContractClassHashPrefix twox128 ∧
    snStoragePrefix twox128 ≠ snCompiledClassHashPrefix twox128 ∧
    snContractClassHashPrefix twox128 ≠ snCompiledClassHashPrefix twox128 := by
  obtain ⟨⟨nonceStorage, nonceHash, nonceCompiled⟩, ⟨storageHash, storageCompiled⟩, hashCompiled⟩ :
      (twox128 starknetNonce ≠ twox128 starknetStorage ∧
        twox128 starknetNonce ≠ twox128 starknetContractClassHash ∧
        twox128 starknetNonce ≠ twox128 starknetCompiledClassHash) ∧
      (twox128 starknetStorage ≠ twox128 starknetContractClassHash ∧
        twox128 starknetStorage ≠ twox128 starknetCompiledClassHash) ∧
      twox128 starknetContractClassHash ≠ twox128 starknetCompiledClassHash := by
    simpa [PrefixesDistinct] using distinct
  exact ⟨Overrides.storagePrefixBuild_ne nonceStorage, Overrides.storagePrefixBuild_ne nonceHash,
    Overrides.storagePrefixBuild_ne nonceCompiled, Overrides.storagePrefixBuild_ne storageHash,
    Overrides.storagePrefixBuild_ne storageCompiled, Overrides.storagePrefixBuild_ne hashCompiled⟩

theorem collectChange_nonce (acc : Accumulated) (contractAddress nonce : StarkFelt) :
    collectChange twox128 contractClassByClassHash acc ((Change.nonce contractAddress nonce).raw twox128) =
      some { diff := { acc.diff with nonces := acc.diff.nonces.insert contractAddress nonce }
             accessedAddrs := acc.accessedAddrs.insert contractAddress } := by
  have width : (snNoncePrefix twox128).length = 32 :=
    Overrides.storagePrefixBuild_length twox128 palletStarknet starknetNonce
  obtain ⟨short, first, rest⟩ := prefixed_key (starkFeltScaleCodec.encode contractAddress) width
  simp only [collectChange, Change.raw, short, first, rest, ↓reduceIte, starkFeltOfSlice_encode,
    Option.bind_some, Option.map_some]

theorem collectChange_storage (distinct : PrefixesDistinct twox128) (acc : Accumulated)
    (contractAddress storageKey value : StarkFelt) :
    collectChange twox128 contractClassByClassHash acc ((Change.storage contractAddress storageKey value).raw twox128) =
      some { diff := { acc.diff with
               storageDiffs := acc.diff.storageDiffs.insert contractAddress
                 (((acc.diff.storageDiffs.get contractAddress).getD IndexMap.empty).insert storageKey value) }
             accessedAddrs := acc.accessedAddrs.insert contractAddress } := by
  have width : (snStoragePrefix twox128).length = 32 :=
    Overrides.storagePrefixBuild_length twox128 palletStarknet starknetStorage
  obtain ⟨short, first, rest⟩ :=
    prefixed_key (starkFeltScaleCodec.encode contractAddress ++ starkFeltScaleCodec.encode storageKey) width
  have address : (starkFeltScaleCodec.encode contractAddress ++ starkFeltScaleCodec.encode storageKey).take 32 =
      starkFeltScaleCodec.encode contractAddress := List.take_left' (encode_length contractAddress)
  have key : (snStoragePrefix twox128 ++ (starkFeltScaleCodec.encode contractAddress ++
      starkFeltScaleCodec.encode storageKey)).drop 64 = starkFeltScaleCodec.encode storageKey := by
    rw [← List.append_assoc]
    exact List.drop_left' (by rw [List.length_append, width, encode_length])
  simp only [collectChange, Change.raw, List.append_assoc, short, first, rest, address, key,
    (prefixes_ne distinct).1.symm, ↓reduceIte, starkFeltOfSlice_encode, Option.bind_some, Option.map_some]
  cases acc.diff.storageDiffs.get contractAddress with
  | none => rfl
  | some contractStorage => rfl

theorem collectChange_contractClassHash (distinct : PrefixesDistinct twox128) (acc : Accumulated)
    (contractAddress classHash : StarkFelt) :
    collectChange twox128 contractClassByClassHash acc ((Change.contractClassHash contractAddress classHash).raw twox128) =
      some { diff :=
               if (contractClassByClassHash classHash).toBool then
                 { acc.diff with replacedClasses := acc.diff.replacedClasses.insert contractAddress classHash }
               else { acc.diff with deployedContracts := acc.diff.deployedContracts.insert contractAddress classHash }
             accessedAddrs := acc.accessedAddrs.insert contractAddress } := by
  have width : (snContractClassHashPrefix twox128).length = 32 :=
    Overrides.storagePrefixBuild_length twox128 palletStarknet starknetContractClassHash
  obtain ⟨short, first, rest⟩ := prefixed_key (starkFeltScaleCodec.encode contractAddress) width
  have ne := prefixes_ne distinct
  simp only [collectChange, Change.raw, short, first, rest, ne.2.1.symm, ne.2.2.2.1.symm, ↓reduceIte,
    starkFeltOfSlice_encode, Option.bind_some, Option.map_some]

theorem collectChange_compiledClassHash (distinct : PrefixesDistinct twox128) (acc : Accumulated)
    (classHash : StarkFelt) (compiled : Option StarkFelt) :
    collectChange twox128 contractClassByClassHash acc ((Change.compiledClassHash classHash compiled).raw twox128) =
      some { acc with diff := { acc.diff with
        declaredClasses := acc.diff.declaredClasses.insert classHash (compiled.getD 0) } } := by
  have width : (snCompiledClassHashPrefix twox128).length = 32 :=
    Overrides.storagePrefixBuild_length twox128 palletStarknet starknetCompiledClassHash
  obtain ⟨short, first, rest⟩ := prefixed_key (starkFeltScaleCodec.encode classHash) width
  have ne := prefixes_ne distinct
  simp only [collectChange, Change.raw, short, first, rest, ne.2.2.1.symm, ne.2.2.2.2.1.symm, ne.2.2.2.2.2.symm,
    ↓reduceIte, starkFeltOfSlice_encode, Option.bind_some]
  cases compiled with
  | none => rfl
  | some compiledClassHash => simp only [Option.map_some, Option.elim_some, starkFeltOfSlice_encode]; rfl

/-- A change of another item is skipped. -/
theorem collectChange_unrelated {change : StorageChange} (unrelated : Unrelated twox128 change) (acc : Accumulated) :
    collectChange twox128 contractClassByClassHash acc change = some acc := by
  unfold collectChange
  by_cases short : change.key.length < 32
  · rw [if_pos short]
  · have outside := unrelated.resolve_left short
    simp only [List.mem_cons, List.not_mem_nil, or_false, not_or] at outside
    obtain ⟨notNonce, notStorage, notHash, notCompiled⟩ := outside
    simp only [short, notNonce, notStorage, notHash, notCompiled, ↓reduceIte]

end Branches

/-! ### The loop records the block's effects -/

theorem reflects_empty : Reflects ⟨emptyStateDiff, IndexMap.empty⟩ Effects.empty :=
  ⟨fun _ => rfl, fun _ _ => rfl, fun _ => rfl, rfl⟩

theorem allReplaced_empty : AllReplaced ⟨emptyStateDiff, IndexMap.empty⟩ Effects.empty :=
  ⟨fun _ => rfl, rfl⟩

theorem accessed_insert {acc : Accumulated} {effects : Effects} (reflects : Reflects acc effects)
    (contractAddress : StarkFelt) :
    (acc.accessedAddrs.insert contractAddress).keys.toFinset = insert contractAddress effects.accessed := by
  rw [IndexSet.keys_toFinset_insert, reflects.accessed]

section Records

variable {twox128 : List UInt8 → Vector UInt8 16} (distinct : PrefixesDistinct twox128) {ε ContractClass : Type}
  (contractClassByClassHash : StarkFelt → Except ε (Option ContractClass))

include distinct

/-- One change keeps the diff recording the effects. -/
theorem collectChange_reflects {acc : Accumulated} {effects : Effects} (reflects : Reflects acc effects)
    (change : Change) (laid : change.LaidOut twox128) :
    ∃ next, collectChange twox128 contractClassByClassHash acc (change.raw twox128) = some next ∧
      Reflects next (effects.apply change) := by
  cases change with
  | nonce contractAddress nonce =>
    refine ⟨_, collectChange_nonce contractClassByClassHash acc contractAddress nonce,
      ⟨fun address => ?_, reflects.storage, reflects.declaredClasses, accessed_insert reflects contractAddress⟩⟩
    show (acc.diff.nonces.insert contractAddress nonce).get address =
      Function.update effects.nonces contractAddress (some nonce) address
    rw [IndexMap.get_insert, Function.update_apply, reflects.nonces]
  | storage contractAddress storageKey value =>
    refine ⟨_, collectChange_storage contractClassByClassHash distinct acc contractAddress storageKey value,
      ⟨reflects.nonces, fun address key => ?_, reflects.declaredClasses, accessed_insert reflects contractAddress⟩⟩
    show ((acc.diff.storageDiffs.insert contractAddress
        (((acc.diff.storageDiffs.get contractAddress).getD IndexMap.empty).insert storageKey value)).get address).bind
        (·.get key) =
      Function.update effects.storage contractAddress
        (Function.update (effects.storage contractAddress) storageKey (some value)) address key
    rw [IndexMap.get_insert, Function.update_apply]
    by_cases same : address = contractAddress
    · subst same
      rw [if_pos rfl, if_pos rfl, Option.bind_some, IndexMap.get_insert, Function.update_apply, ← reflects.storage]
      -- a contract without storage changes yet starts from an empty map
      cases acc.diff.storageDiffs.get address with
      | none => rfl
      | some contractStorage => rfl
    · rw [if_neg same, if_neg same, reflects.storage]
  | contractClassHash contractAddress classHash =>
    refine ⟨_, collectChange_contractClassHash contractClassByClassHash distinct acc contractAddress classHash, ?_⟩
    split
    · exact ⟨reflects.nonces, reflects.storage, reflects.declaredClasses, accessed_insert reflects contractAddress⟩
    · exact ⟨reflects.nonces, reflects.storage, reflects.declaredClasses, accessed_insert reflects contractAddress⟩
  | compiledClassHash classHash compiled =>
    refine ⟨_, collectChange_compiledClassHash contractClassByClassHash distinct acc classHash compiled,
      ⟨reflects.nonces, reflects.storage, fun hash => ?_, reflects.accessed⟩⟩
    show (acc.diff.declaredClasses.insert classHash (compiled.getD 0)).get hash =
      (Function.update effects.compiledClassHashes classHash (some compiled) hash).map (·.getD 0)
    rw [IndexMap.get_insert, Function.update_apply, reflects.declaredClasses]
    split
    · rfl
    · rfl
  | other change => exact ⟨acc, collectChange_unrelated contractClassByClassHash laid acc, reflects⟩

/-- A run of changes keeps the diff recording the effects. -/
theorem collectChanges_reflects_from (changes : List Change) (laid : ∀ change ∈ changes, change.LaidOut twox128)
    {acc : Accumulated} {effects : Effects} (reflects : Reflects acc effects) :
    ∃ final, collectChanges twox128 contractClassByClassHash (changes.map (Change.raw twox128)) acc = some final ∧
      Reflects final (changes.foldl Effects.apply effects) := by
  induction changes generalizing acc effects with
  | nil => exact ⟨acc, rfl, reflects⟩
  | cons change rest ih =>
    obtain ⟨next, stepped, kept⟩ :=
      collectChange_reflects distinct contractClassByClassHash reflects change (laid change List.mem_cons_self)
    obtain ⟨final, ran, reflected⟩ := ih (fun other member => laid other (List.mem_cons_of_mem _ member)) kept
    refine ⟨final, ?_, reflected⟩
    rw [List.map_cons, collectChanges, stepped, Option.bind_some]
    exact ran

variable (answers : ∀ classHash, (contractClassByClassHash classHash).toBool = true)
include answers

/-- When the runtime call answers, one change keeps every class hash among the
replaced classes. -/
theorem collectChange_allReplaced {acc : Accumulated} {effects : Effects} (replaced : AllReplaced acc effects)
    (change : Change) (laid : change.LaidOut twox128) :
    ∃ next, collectChange twox128 contractClassByClassHash acc (change.raw twox128) = some next ∧
      AllReplaced next (effects.apply change) := by
  cases change with
  | nonce contractAddress nonce =>
    exact ⟨_, collectChange_nonce contractClassByClassHash acc contractAddress nonce,
      ⟨replaced.replaced, replaced.deployed⟩⟩
  | storage contractAddress storageKey value =>
    exact ⟨_, collectChange_storage contractClassByClassHash distinct acc contractAddress storageKey value,
      ⟨replaced.replaced, replaced.deployed⟩⟩
  | contractClassHash contractAddress classHash =>
    refine ⟨_, collectChange_contractClassHash contractClassByClassHash distinct acc contractAddress classHash, ?_⟩
    rw [answers classHash, if_pos rfl]
    refine ⟨fun address => ?_, replaced.deployed⟩
    show (acc.diff.replacedClasses.insert contractAddress classHash).get address =
      Function.update effects.classHashes contractAddress (some classHash) address
    rw [IndexMap.get_insert, Function.update_apply, replaced.replaced]
  | compiledClassHash classHash compiled =>
    exact ⟨_, collectChange_compiledClassHash contractClassByClassHash distinct acc classHash compiled,
      ⟨replaced.replaced, replaced.deployed⟩⟩
  | other change => exact ⟨acc, collectChange_unrelated contractClassByClassHash laid acc, replaced⟩

theorem collectChanges_allReplaced_from (changes : List Change) (laid : ∀ change ∈ changes, change.LaidOut twox128)
    {acc : Accumulated} {effects : Effects} (replaced : AllReplaced acc effects) :
    ∃ final, collectChanges twox128 contractClassByClassHash (changes.map (Change.raw twox128)) acc = some final ∧
      AllReplaced final (changes.foldl Effects.apply effects) := by
  induction changes generalizing acc effects with
  | nil => exact ⟨acc, rfl, replaced⟩
  | cons change rest ih =>
    obtain ⟨next, stepped, kept⟩ := collectChange_allReplaced distinct contractClassByClassHash answers replaced change
      (laid change List.mem_cons_self)
    obtain ⟨final, ran, kept⟩ := ih (fun other member => laid other (List.mem_cons_of_mem _ member)) kept
    refine ⟨final, ?_, kept⟩
    rw [List.map_cons, collectChanges, stepped, Option.bind_some]
    exact ran

end Records

/-! ### The state diff of a block -/

section Diff

variable {twox128 : List UInt8 → Vector UInt8 16} {ε ContractClass : Type}
  (contractClassByClassHash : StarkFelt → Except ε (Option ContractClass))

/-- The block data `build_commitment_state_diff` returns carries the loop's
diff and its count of addresses. -/
theorem buildCommitmentStateDiff_ok {headerError : Type} {leaves : ScaleLeaves}
    {tryAsRaw : OpaqueDigestItemId → DigestItem → Option (List UInt8)} {crypto : Crypto}
    {changes : List StorageChange} {header : Except headerError (Option (List DigestItem))}
    {configHash : Except ε StarkFelt} {stateRoot : StarkFelt} {data : BlockDAData}
    (built : buildCommitmentStateDiff twox128 contractClassByClassHash leaves tryAsRaw crypto changes header
      configHash stateRoot = some (.ok data)) :
    ∃ acc, collectChanges twox128 contractClassByClassHash changes ⟨emptyStateDiff, IndexMap.empty⟩ = some acc ∧
      data.stateDiff = acc.diff ∧ data.numAddrAccessed = acc.accessedAddrs.len := by
  unfold buildCommitmentStateDiff at built
  cases ran : collectChanges twox128 contractClassByClassHash changes ⟨emptyStateDiff, IndexMap.empty⟩ with
  | none =>
    rw [ran] at built
    cases built
  | some acc =>
    rw [ran, Option.map_some, Option.some.injEq] at built
    obtain ⟨_, _, rest⟩ := Transactional.bind_eq_ok built
    obtain ⟨_, _, rest⟩ := Transactional.bind_eq_ok rest
    obtain ⟨_, _, rest⟩ := Transactional.bind_eq_ok rest
    obtain ⟨_, _, rest⟩ := Transactional.bind_eq_ok rest
    cases rest
    exact ⟨acc, rfl, rfl, rfl⟩

variable (distinct : PrefixesDistinct twox128)
include distinct

/-- Over a notification of laid-out changes the loop does not panic. It
records every nonce, storage value and compiled class hash with its last
value, and counts each contract touched by a nonce, a storage value or a class
hash once. -/
theorem collectChanges_reflects (changes : List Change) (laid : ∀ change ∈ changes, change.LaidOut twox128) :
    ∃ acc, collectChanges twox128 contractClassByClassHash (changes.map (Change.raw twox128))
        ⟨emptyStateDiff, IndexMap.empty⟩ = some acc ∧
      Reflects acc (Effects.run changes) ∧ acc.accessedAddrs.len = (Effects.run changes).accessed.card := by
  obtain ⟨acc, ran, reflects⟩ :=
    collectChanges_reflects_from distinct contractClassByClassHash changes laid reflects_empty
  refine ⟨acc, ran, reflects, ?_⟩
  rw [IndexSet.len_eq_card, reflects.accessed]
  rfl

/-- When the runtime call answers every class hash, nothing is deployed and
every class hash change is among the replaced classes. -/
theorem collectChanges_replaces (answers : ∀ classHash, (contractClassByClassHash classHash).toBool = true)
    (changes : List Change) (laid : ∀ change ∈ changes, change.LaidOut twox128) :
    ∃ acc, collectChanges twox128 contractClassByClassHash (changes.map (Change.raw twox128))
        ⟨emptyStateDiff, IndexMap.empty⟩ = some acc ∧ AllReplaced acc (Effects.run changes) :=
  collectChanges_allReplaced_from distinct contractClassByClassHash answers changes laid allReplaced_empty

/-- A contract with no class hash before the block, whose class hash the block
sets, lands among the replaced classes. -/
theorem commitment_diff_never_deploys (answers : ∀ classHash, (contractClassByClassHash classHash).toBool = true)
    (changes : List Change) (laid : ∀ change ∈ changes, change.LaidOut twox128)
    (classHashBefore : StarkFelt → Option StarkFelt) (contractAddress classHash : StarkFelt)
    (changed : (Effects.run changes).classHashes contractAddress = some classHash)
    (fresh : classHashBefore contractAddress = none) :
    ∃ acc, collectChanges twox128 contractClassByClassHash (changes.map (Change.raw twox128))
        ⟨emptyStateDiff, IndexMap.empty⟩ = some acc ∧
      acc.diff.replacedClasses.get contractAddress = some classHash ∧
      ¬Placed classHashBefore acc.diff contractAddress classHash := by
  obtain ⟨acc, ran, allReplaced⟩ := collectChanges_replaces contractClassByClassHash distinct answers changes laid
  have replaced : acc.diff.replacedClasses.get contractAddress = some classHash := by
    rw [allReplaced.replaced, changed]
  refine ⟨acc, ran, replaced, ?_⟩
  unfold Placed
  rw [if_pos fresh]
  rintro ⟨_, notReplaced⟩
  rw [replaced] at notReplaced
  cases notReplaced

end Diff

/-- The first sixteen bytes of a name: a stand-in for `twox_128` that tells
the four items apart. -/
def nameBytes (name : List UInt8) : Vector UInt8 16 := Vector.ofFn fun i => name.getD i 0

/-- A runtime that knows no class, and answers `Ok(None)`. -/
def noClasses : StarkFelt → Except Unit (Option Unit) := fun _ => .ok none

theorem commitment_diff_never_deploys_fresh_contract :
    ∃ acc, collectChanges nameBytes noClasses ([Change.contractClassHash 1 2].map (Change.raw nameBytes))
        ⟨emptyStateDiff, IndexMap.empty⟩ = some acc ∧
      acc.diff.replacedClasses.get 1 = some 2 ∧ ¬Placed (fun _ => none) acc.diff 1 2 :=
  commitment_diff_never_deploys noClasses (by decide +kernel) (fun _ => rfl) [Change.contractClassHash 1 2]
    (fun change member => by rw [List.mem_singleton.mp member]; trivial) (fun _ => none) 1 2 rfl rfl

/-- A notification that sets a nonce of contract `1`, writes one of its slots
twice, and sets the class hash of contract `2`. -/
def twoContractChanges : List Change :=
  [.nonce 1 3, .storage 1 5 6, .contractClassHash 2 7, .storage 1 5 8]

theorem collectChanges_reflects_two_contracts :
    PrefixesDistinct nameBytes ∧ (∀ change ∈ twoContractChanges, change.LaidOut nameBytes) ∧
    ∃ acc, collectChanges nameBytes noClasses (twoContractChanges.map (Change.raw nameBytes))
        ⟨emptyStateDiff, IndexMap.empty⟩ = some acc ∧
      Reflects acc (Effects.run twoContractChanges) ∧
      acc.accessedAddrs.len = (Effects.run twoContractChanges).accessed.card := by
  have distinct : PrefixesDistinct nameBytes := by decide +kernel
  have laid : ∀ change ∈ twoContractChanges, change.LaidOut nameBytes := by
    simp [twoContractChanges, Change.LaidOut]
  exact ⟨distinct, laid, collectChanges_reflects noClasses distinct twoContractChanges laid⟩

end Madara.CommitmentStateDiff

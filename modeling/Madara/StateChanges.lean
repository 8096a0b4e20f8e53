import Mathlib.Data.Finset.Card
import Mathlib.Data.Finset.Image
import Madara.State

/-! `StateChanges::count_state_changes` of `BlockifierStateAdapter`
(`pallets/starknet/src/blockifier_state_adapter.rs`): the `StateChangesCount`
that `compute_transaction_resources` hands to `calculate_l1_gas_usage`. The fee
model expects each item counted once: every storage cell, every contract whose
storage, nonce or class hash changed, every contract given a class hash, and
every class hash given a compiled class hash.

1. **Storage cells are counted once.** The adapter keeps its storage writes in
   a `BTreeMap`, so its keys stay distinct through every write
   (`Records`, `records_applyStateCalls`). `n_storage_updates` is the number
   of distinct cells written, whatever the order and number of writes
   (`countStateChanges_applyStateCalls`).
2. **The other counts are not.** `n_modified_contracts` is read off the
   storage keys alone, so `increment_nonce` and `set_class_hash_at` add
   nothing to it. The two class-hash counters go up on every call. The count
   agrees with the fee model's exactly when no class hash is set twice for one
   contract or compiled class hash, and every contract whose nonce or class
   hash changed also has a storage write
   (`countStateChanges_eq_expected_iff`, `state_changes_count_diverges`). -/
namespace Madara.StateChanges

open Madara.Felt Madara.State

/-- `blockifier::state::cached_state::StateChangesCount`. -/
structure StateChangesCount where
  nStorageUpdates : Nat
  nClassHashUpdates : Nat
  nCompiledClassHashUpdates : Nat
  nModifiedContracts : Nat
  deriving DecidableEq, Repr

/-- `self.storage_update.keys()`. -/
def storageKeys (adapter : BlockifierStateAdapter) : List (FieldElement × FieldElement) :=
  adapter.storageUpdate.map Prod.fst

/-- `count_state_changes`: the contracts among the storage keys, the number
of keys, and the two counters. -/
def countStateChanges (adapter : BlockifierStateAdapter) : StateChangesCount :=
  let keys := storageKeys adapter
  let nContractUpdated := (keys.map Prod.fst).toFinset.card
  { nModifiedContracts := nContractUpdated
    nStorageUpdates := keys.length
    nClassHashUpdates := adapter.classHashUpdate
    nCompiledClassHashUpdates := adapter.compiledClassHashUpdate }

/-! ### What the fee model counts -/

variable {ContractClass : Type}

/-- The storage cell a write sets. -/
def storageWrite : StateCall ContractClass → Option (FieldElement × FieldElement)
  | .setStorageAt address key _ => some (address, key)
  | _ => none

/-- The contract a write changes the storage, nonce or class hash of. -/
def modifiedContract : StateCall ContractClass → Option FieldElement
  | .setStorageAt address _ _ | .incrementNonce address | .setClassHashAt address _ => some address
  | _ => none

/-- The contract a write gives a class hash. -/
def classHashWrite : StateCall ContractClass → Option FieldElement
  | .setClassHashAt address _ => some address
  | _ => none

/-- The class hash a write gives a compiled class hash. -/
def compiledClassHashWrite : StateCall ContractClass → Option FieldElement
  | .setCompiledClassHash classHash _ => some classHash
  | _ => none

/-- The count `calculate_l1_gas_usage` is written for: each item once, however
often and in whatever order it is written. -/
def expectedStateChanges (calls : List (StateCall ContractClass)) : StateChangesCount where
  nStorageUpdates := (calls.filterMap storageWrite).toFinset.card
  nClassHashUpdates := (calls.filterMap classHashWrite).toFinset.card
  nCompiledClassHashUpdates := (calls.filterMap compiledClassHashWrite).toFinset.card
  nModifiedContracts := (calls.filterMap modifiedContract).toFinset.card

theorem modifiedContract_of_storageWrite {call : StateCall ContractClass} {address key : FieldElement}
    (written : storageWrite call = some (address, key)) : modifiedContract call = some address := by
  cases call <;> simp_all [storageWrite, modifiedContract]

/-- Every contract with a storage write is a modified one. -/
theorem storageContracts_subset (calls : List (StateCall ContractClass)) :
    ((calls.filterMap storageWrite).map Prod.fst).toFinset ⊆ (calls.filterMap modifiedContract).toFinset := by
  intro address
  simp only [List.mem_toFinset, List.mem_map, List.mem_filterMap]
  rintro ⟨⟨_, key⟩, ⟨call, mem, written⟩, rfl⟩
  exact ⟨call, mem, modifiedContract_of_storageWrite written⟩

/-! ### The adapter's storage keys -/

theorem storageKeys_insertUpdate (key : FieldElement × FieldElement) (value : FieldElement)
    (adapter : BlockifierStateAdapter) :
    storageKeys { adapter with storageUpdate := insertUpdate key value adapter.storageUpdate } =
      (adapter.storageUpdate.filter fun entry => entry.1 ≠ key).map Prod.fst ++ [key] := by
  simp [storageKeys, insertUpdate]

/-- `BTreeMap::insert` keeps the keys distinct. -/
theorem insertUpdate_keys_nodup {adapter : BlockifierStateAdapter} (nodup : (storageKeys adapter).Nodup)
    (key : FieldElement × FieldElement) (value : FieldElement) :
    (storageKeys { adapter with storageUpdate := insertUpdate key value adapter.storageUpdate }).Nodup := by
  rw [storageKeys_insertUpdate, List.nodup_append]
  have kept : ((adapter.storageUpdate.filter fun entry => entry.1 ≠ key).map Prod.fst).Nodup :=
    nodup.sublist ((List.filter_sublist).map Prod.fst)
  refine ⟨kept, List.nodup_singleton key, ?_⟩
  simp only [List.mem_map, List.mem_filter, List.mem_singleton]
  rintro _ ⟨entry, ⟨_, other⟩, rfl⟩ _ rfl
  simpa using other

/-- After `BTreeMap::insert` the keys are the old ones and the new one. -/
theorem insertUpdate_keys_toFinset (key : FieldElement × FieldElement) (value : FieldElement)
    (adapter : BlockifierStateAdapter) :
    (storageKeys { adapter with storageUpdate := insertUpdate key value adapter.storageUpdate }).toFinset =
      insert key (storageKeys adapter).toFinset := by
  ext cell
  rw [storageKeys_insertUpdate]
  by_cases same : cell = key
  · simp [same]
  · simp [storageKeys, same]

/-! ### What the adapter records of a run -/

/-- What an adapter that has seen `done` records of it: distinct storage keys,
one for each cell written, and one class-hash update per call. -/
structure Records (adapter : BlockifierStateAdapter) (done : List (StateCall ContractClass)) : Prop where
  keys_nodup : (storageKeys adapter).Nodup
  keys : (storageKeys adapter).toFinset = (done.filterMap storageWrite).toFinset
  classHashUpdate : adapter.classHashUpdate = (done.filterMap classHashWrite).length
  compiledClassHashUpdate : adapter.compiledClassHashUpdate = (done.filterMap compiledClassHashWrite).length

theorem records_default : Records .default ([] : List (StateCall ContractClass)) :=
  ⟨List.nodup_nil, rfl, rfl, rfl⟩

/-- A record's list after one more write: what it kept, and this write if it
keeps it. -/
theorem filterMap_concat {α β : Type} (write : α → Option β) (done : List α) (call : α) :
    (done ++ [call]).filterMap write = done.filterMap write ++ (write call).toList := by
  cases seen : write call with
  | none => rw [List.filterMap_append, List.filterMap_cons_none seen, List.filterMap_nil, Option.toList_none]
  | some value => rw [List.filterMap_append, List.filterMap_cons_some seen, List.filterMap_nil, Option.toList_some]

/-- One write through the adapter is recorded. -/
theorem Records.step {adapter : BlockifierStateAdapter} {done : List (StateCall ContractClass)}
    (records : Records adapter done) (call : StateCall ContractClass) (state : ContractState ContractClass) :
    Records (applyStateCall call (state, adapter)).2 (done ++ [call]) := by
  obtain ⟨nodup, keys, classHashUpdate, compiledClassHashUpdate⟩ := records
  refine ⟨?_, ?_, ?_, ?_⟩
  · -- only a storage write changes the keys, and `BTreeMap::insert` keeps them distinct
    cases call with
    | setStorageAt address key value => exact insertUpdate_keys_nodup nodup (address, key) value
    | _ => exact nodup
  · rw [filterMap_concat, List.toFinset_append, ← keys]
    cases call with
    | setStorageAt address key value =>
      rw [applyStateCall, insertUpdate_keys_toFinset, storageWrite, Option.toList_some, Finset.insert_eq,
        Finset.union_comm]
      rfl
    | _ =>
      simp only [storageWrite, Option.toList_none, List.toFinset_nil, Finset.union_empty]
      rfl
  · -- the counters go up by one on each write of their kind
    rw [filterMap_concat, List.length_append, ← classHashUpdate]
    cases call <;> rfl
  · rw [filterMap_concat, List.length_append, ← compiledClassHashUpdate]
    cases call <;> rfl

/-- A sequence of writes is recorded, after whatever the adapter had seen. -/
theorem Records.run {done : List (StateCall ContractClass)} (calls : List (StateCall ContractClass))
    (start : ContractState ContractClass × BlockifierStateAdapter) (records : Records start.2 done) :
    Records (applyStateCalls calls start).2 (done ++ calls) := by
  induction calls generalizing start done with
  | nil => simpa using records
  | cons call calls ih =>
    obtain ⟨state, adapter⟩ := start
    have next := ih (applyStateCall call (state, adapter)) (records.step call state)
    rwa [List.append_assoc, List.singleton_append] at next

/-- A fresh adapter records every write of a transaction. -/
theorem records_applyStateCalls (calls : List (StateCall ContractClass)) (state : ContractState ContractClass) :
    Records (applyStateCalls calls (state, .default)).2 calls :=
  Records.run calls (state, .default) records_default

/-! ### What `count_state_changes` returns -/

/-- `count_state_changes` after a sequence of writes on a fresh adapter: the
distinct cells written, one class-hash update per call, and the contracts among
the cells. -/
theorem countStateChanges_applyStateCalls (calls : List (StateCall ContractClass))
    (state : ContractState ContractClass) :
    countStateChanges (applyStateCalls calls (state, .default)).2 =
      { nStorageUpdates := (calls.filterMap storageWrite).toFinset.card
        nClassHashUpdates := (calls.filterMap classHashWrite).length
        nCompiledClassHashUpdates := (calls.filterMap compiledClassHashWrite).length
        nModifiedContracts := ((calls.filterMap storageWrite).map Prod.fst).toFinset.card } := by
  obtain ⟨nodup, keys, classHashUpdate, compiledClassHashUpdate⟩ := records_applyStateCalls calls state
  have storageCount : (storageKeys (applyStateCalls calls (state, .default)).2).length =
      (calls.filterMap storageWrite).toFinset.card := by
    rw [← List.toFinset_card_of_nodup nodup, keys]
  -- the contracts are the first components of the keys, whose set is known
  have contracts : ((storageKeys (applyStateCalls calls (state, .default)).2).map Prod.fst).toFinset =
      ((calls.filterMap storageWrite).map Prod.fst).toFinset := by
    ext address
    have member := Finset.ext_iff.mp keys
    simp only [List.mem_toFinset] at member
    simp only [List.mem_toFinset, List.mem_map, member]
  simp only [countStateChanges, storageCount, contracts, classHashUpdate, compiledClassHashUpdate]

/-- A counter that goes up on every call agrees with the number of distinct
targets exactly when no target comes twice. -/
theorem length_eq_card_toFinset_iff {α : Type} [DecidableEq α] (targets : List α) :
    targets.length = targets.toFinset.card ↔ targets.Nodup := by
  rw [eq_comm]
  exact Multiset.toFinset_card_eq_card_iff_nodup

/-- When the count is the one the fee model expects: no contract is given a
class hash twice, no class hash a compiled class hash twice, and every
contract whose nonce or class hash changes also has a storage write. -/
theorem countStateChanges_eq_expected_iff (calls : List (StateCall ContractClass))
    (state : ContractState ContractClass) :
    countStateChanges (applyStateCalls calls (state, .default)).2 = expectedStateChanges calls ↔
      (calls.filterMap classHashWrite).Nodup ∧ (calls.filterMap compiledClassHashWrite).Nodup ∧
        (calls.filterMap modifiedContract).toFinset ⊆ ((calls.filterMap storageWrite).map Prod.fst).toFinset := by
  have contracts := storageContracts_subset calls
  rw [countStateChanges_applyStateCalls, expectedStateChanges, StateChangesCount.mk.injEq,
    length_eq_card_toFinset_iff, length_eq_card_toFinset_iff]
  -- the contracts with a storage write are among the modified ones, so their
  -- counts agree exactly when the two sets do
  have sameContracts : ((calls.filterMap storageWrite).map Prod.fst).toFinset.card =
      (calls.filterMap modifiedContract).toFinset.card ↔
      (calls.filterMap modifiedContract).toFinset ⊆ ((calls.filterMap storageWrite).map Prod.fst).toFinset := by
    constructor
    · intro same
      exact (Finset.eq_of_subset_of_card_le contracts same.ge).symm.subset
    · intro covered
      rw [Finset.Subset.antisymm contracts covered]
  rw [sameContracts]
  simp

/-- A transaction that bumps a nonce, sets one contract's class hash twice and
one class hash's compiled class hash twice, writing no storage. -/
def nonceAndClassCalls : List (StateCall ContractClass) :=
  [.incrementNonce 1, .setClassHashAt 2 5, .setClassHashAt 2 6, .setCompiledClassHash 7 8,
    .setCompiledClassHash 7 9]

theorem state_changes_count_diverges (state : ContractState ContractClass) :
    countStateChanges (applyStateCalls nonceAndClassCalls (state, .default)).2 = ⟨0, 2, 2, 0⟩ ∧
      expectedStateChanges (nonceAndClassCalls : List (StateCall ContractClass)) = ⟨0, 1, 1, 2⟩ := by
  rw [countStateChanges_applyStateCalls]
  exact ⟨rfl, rfl⟩

end Madara.StateChanges

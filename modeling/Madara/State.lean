import Madara.CallTree
import Madara.Transactions

/-! The part of the pallet storage the blockifier sees, and
`BlockifierStateAdapter` (`blockifier_state_adapter.rs`), through which it
reads and writes it. Storage maps are kept raw: `none` is a key that was never
written, so `contains_key` and a `ValueQuery` getter's default can both be read
off the same map. Every `State` write of the adapter goes straight into these
maps; the adapter itself only counts what was written. -/
namespace Madara.State

open Madara.Felt Madara.Transactions Madara.CallTree

/-- The storage items the adapter reads and writes. -/
structure ContractState (ContractClass : Type) where
  /-- `StorageView`, keyed by `(contract address, storage key)`, `ValueQuery`. -/
  storageView : FieldElement × FieldElement → Option FieldElement
  /-- `Nonces`, `ValueQuery`. -/
  nonces : FieldElement → Option FieldElement
  /-- `ContractClassHashes`, `ValueQuery`. -/
  contractClassHashes : FieldElement → Option FieldElement
  /-- `ContractClasses`, `OptionQuery`. -/
  contractClasses : FieldElement → Option ContractClass
  /-- `CompiledClassHashes`, `OptionQuery`. -/
  compiledClassHashes : FieldElement → Option FieldElement

namespace ContractState

variable {ContractClass : Type} (state : ContractState ContractClass)

/-- `Pallet::storage`, the `ValueQuery` getter of `StorageView`. -/
def storage (key : FieldElement × FieldElement) : FieldElement := (state.storageView key).getD 0

/-- `Pallet::nonce`. -/
def nonce (address : FieldElement) : FieldElement := (state.nonces address).getD 0

/-- `Pallet::contract_class_hash_by_address`. -/
def contractClassHashByAddress (address : FieldElement) : FieldElement :=
  (state.contractClassHashes address).getD 0

end ContractState

/-- A write of the blockifier's `State` trait. -/
inductive StateCall (ContractClass : Type) where
  | setStorageAt (address key value : FieldElement)
  | incrementNonce (address : FieldElement)
  | setClassHashAt (address classHash : FieldElement)
  | setContractClass (classHash : FieldElement) (contractClass : ContractClass)
  | setCompiledClassHash (classHash compiledClassHash : FieldElement)

/-- `BlockifierStateAdapter`: the keys written through `set_storage_at` with
their last value, and the two counters. -/
structure BlockifierStateAdapter where
  storageUpdate : List ((FieldElement × FieldElement) × FieldElement)
  classHashUpdate : Nat
  compiledClassHashUpdate : Nat

/-- `BlockifierStateAdapter::default()`. -/
def BlockifierStateAdapter.default : BlockifierStateAdapter := ⟨[], 0, 0⟩

/-- `BTreeMap::insert` on the adapter's storage updates. -/
def insertUpdate (key : FieldElement × FieldElement) (value : FieldElement)
    (updates : List ((FieldElement × FieldElement) × FieldElement)) :
    List ((FieldElement × FieldElement) × FieldElement) :=
  updates.filter (fun entry => entry.1 ≠ key) ++ [(key, value)]

/-- One `State` write through the adapter: the pallet storage it changes and
what the adapter records. `increment_nonce` adds one in the field. -/
def applyStateCall {ContractClass : Type} :
    StateCall ContractClass → ContractState ContractClass × BlockifierStateAdapter →
      ContractState ContractClass × BlockifierStateAdapter
  | .setStorageAt address key value, (state, adapter) =>
    ({ state with storageView := Function.update state.storageView (address, key) (some value) },
      { adapter with storageUpdate := insertUpdate (address, key) value adapter.storageUpdate })
  | .incrementNonce address, (state, adapter) =>
    ({ state with nonces := Function.update state.nonces address (some (state.nonce address + 1)) },
      adapter)
  | .setClassHashAt address classHash, (state, adapter) =>
    ({ state with contractClassHashes := Function.update state.contractClassHashes address (some classHash) },
      { adapter with classHashUpdate := adapter.classHashUpdate + 1 })
  | .setContractClass classHash contractClass, (state, adapter) =>
    ({ state with contractClasses := Function.update state.contractClasses classHash (some contractClass) },
      adapter)
  | .setCompiledClassHash classHash compiledClassHash, (state, adapter) =>
    ({ state with
        compiledClassHashes := Function.update state.compiledClassHashes classHash (some compiledClassHash) },
      { adapter with compiledClassHashUpdate := adapter.compiledClassHashUpdate + 1 })

/-- A sequence of writes, in order. -/
def applyStateCalls {ContractClass : Type} (calls : List (StateCall ContractClass))
    (start : ContractState ContractClass × BlockifierStateAdapter) :
    ContractState ContractClass × BlockifierStateAdapter :=
  calls.foldl (fun current call => applyStateCall call current) start

@[simp] theorem applyStateCalls_nil {ContractClass : Type}
    (start : ContractState ContractClass × BlockifierStateAdapter) : applyStateCalls [] start = start := rfl

@[simp] theorem applyStateCalls_cons {ContractClass : Type} (call : StateCall ContractClass)
    (calls : List (StateCall ContractClass)) (start : ContractState ContractClass × BlockifierStateAdapter) :
    applyStateCalls (call :: calls) start = applyStateCalls calls (applyStateCall call start) := rfl

/-- A write that changes a nonce: only `increment_nonce` does. -/
def StateCall.IsNonceWrite {ContractClass : Type} : StateCall ContractClass → Prop
  | .incrementNonce _ => True
  | _ => False

/-- Writes that change no nonce leave every nonce as it was. -/
theorem applyStateCalls_nonces {ContractClass : Type} (calls : List (StateCall ContractClass))
    (noNonce : ∀ call ∈ calls, ¬ call.IsNonceWrite) (start : ContractState ContractClass × BlockifierStateAdapter) :
    (applyStateCalls calls start).1.nonces = start.1.nonces := by
  induction calls generalizing start with
  | nil => rfl
  | cons call calls ih =>
    have rest := ih (fun other mem => noNonce other (List.mem_cons_of_mem _ mem)) (applyStateCall call start)
    have first := noNonce call List.mem_cons_self
    rw [applyStateCalls_cons, rest]
    obtain ⟨state, adapter⟩ := start
    cases call with
    | incrementNonce address => exact absurd trivial first
    | setStorageAt | setClassHashAt | setContractClass | setCompiledClassHash => rfl

/-- The block context the blockifier runs with (`Pallet::get_block_context`);
only the fields this development reads. -/
structure BlockContext where
  blockNumber : UInt64
  blockTimestamp : UInt64
  sequencerAddress : FieldElement
  feeTokenAddress : FieldElement
  gasPrice : U128

/-- `blockifier::execution::errors::EntryPointExecutionError`: a call whose
storage address has no class (`PreExecutionError::UninitializedStorageAddress`)
is told apart from every other failure. -/
inductive EntryPointExecutionError where
  | uninitializedStorageAddress (contractAddress : FieldElement)
  | other
  deriving DecidableEq, Repr

/-- `blockifier::transaction::errors::TransactionExecutionError`, by the
variants this development distinguishes. -/
inductive TransactionExecutionError where
  | invalidNonce (address expectedNonce actualNonce : FieldElement)
  | maxFeeExceedsBalance
  | feeTransferError
  | insufficientL1Fee (paidFee actualFee : U128)
  | validateTransactionError (cause : EntryPointExecutionError)
  | unauthorizedInnerCall
  | executionError (cause : EntryPointExecutionError)
  | stateError
  | cairoResourcesNotContainedInFeeCosts
  | fixedPointConversion
  deriving DecidableEq, Repr

/-- `TransactionExecutionInfo`, without the resources. -/
structure TransactionExecutionInfo where
  validateCallInfo : Option CallInfo
  executeCallInfo : Option CallInfo
  feeTransferCallInfo : Option CallInfo
  actualFee : U128
  revertError : Option String

/-- `Execute::execute` of an executable transaction on the adapter, seen from
the pallet: any function of the block context and the storage. -/
abbrev Executor (ContractClass : Type) :=
  BlockContext → Executable ContractClass → ContractState ContractClass →
    Except TransactionExecutionError (TransactionExecutionInfo × ContractState ContractClass)

end Madara.State

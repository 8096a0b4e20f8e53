import Madara.Fee
import Madara.State

/-! `Execute` (`primitives/transactions/src/execution.rs`) and the fee code it
calls (`primitives/fee`): how the pallet runs a transaction on the
`BlockifierStateAdapter`.

`execute` checks and increments the nonce, checks the fee balance, runs
`execute_inner` (validation and `run_execute`, in an order that depends on
the transaction kind, all in one `EntryPointExecutionContext`), then charges
the fee through a call of its own. Every `State` write goes through the adapter
straight into the pallet storage: the state of this model is the storage
together with the adapter, and nothing here ever restores an earlier state.
A revertible transaction whose `run_execute` fails is turned into a
successful result with a revert error, with the writes of the failed run in
place.

What the blockifier does when it runs an entry point is received in
`Blockifier`: for each call, the `State` writes it makes in order, then its
trace or the error it stopped with. The orders in the returned call trees are
the context's numbering (`CallTrace.number`). So is
`compute_transaction_resources`, the resources the blockifier counted for the
run. The fee of those resources is `calculate_tx_fee` of `Madara.Fee`. -/
namespace Madara.Execution

open Madara.Felt Madara.Transactions Madara.CallTree Madara.State

/-- `ExecutionConfig`. -/
structure ExecutionConfig where
  isQuery : Bool
  offsetVersion : Bool
  disableTransactionFee : Bool
  disableFeeCharge : Bool
  disableNonceValidation : Bool
  disableValidation : Bool

/-- `RuntimeExecutionConfigBuilder::new::<T>().build()`: the configuration of
a dispatch, from the runtime's two constants. -/
def ExecutionConfig.runtime (disableNonceValidation disableTransactionFee : Bool) : ExecutionConfig where
  isQuery := false
  offsetVersion := false
  disableTransactionFee := disableTransactionFee
  disableFeeCharge := false
  disableNonceValidation := disableNonceValidation
  disableValidation := false

/-- `ExecutionConfig::set_offset_version`. -/
def ExecutionConfig.setOffsetVersion (executionConfig : ExecutionConfig) (value : Bool) : ExecutionConfig :=
  { executionConfig with offsetVersion := value }

/-- A transaction's resources, as `compute_transaction_resources` returns them.
Their counts are bounded by the steps of the run, so `calculate_tx_fee` does
not panic on them: the `l1_gas_usage` entry is there, and no count is large
enough for its weighted value to overflow `FixedU128`. -/
structure ActualResources where
  resources : Fee.ResourcesMapping
  computes : ∀ blockContext, (Fee.calculateTxFee resources blockContext).isSome

/-- `calculate_tx_fee` of a transaction's resources. -/
def ActualResources.calculateTxFee (actualResources : ActualResources) (blockContext : BlockContext) :
    Except TransactionExecutionError U128 :=
  (Fee.calculateTxFee actualResources.resources blockContext).get (actualResources.computes blockContext)

/-- `AccountTransactionContext`, without the signature. -/
structure AccountTransactionContext where
  transactionHash : FieldElement
  maxFee : U128
  version : FieldElement
  nonce : FieldElement
  senderAddress : FieldElement

/-- `SimulateTxVersionOffset::apply_simulate_tx_version_offset` when asked. -/
def offsetVersionFelt (version : FieldElement) (offsetVersion : Bool) : FieldElement :=
  if offsetVersion then version + simulateTxVersionOffset else version

/-- `GetAccountTransactionContext::get_account_transaction_context` of each
executable kind. An invoke V0 has the default nonce; an L1 handler pays no
fee here and has version `0`, as its conversion sets it. -/
def accountTransactionContext {ContractClass : Type} (offsetVersion : Bool) :
    Executable ContractClass → AccountTransactionContext
  | .invoke (.v0 tx) txHash => ⟨txHash, tx.maxFee, offsetVersionFelt 0 offsetVersion, 0, tx.contractAddress⟩
  | .invoke (.v1 tx) txHash => ⟨txHash, tx.maxFee, offsetVersionFelt 1 offsetVersion, tx.nonce, tx.senderAddress⟩
  | .declare tx _ txHash =>
    ⟨txHash, tx.maxFee, offsetVersionFelt (Fin.ofNat _ tx.version) offsetVersion, tx.nonce, tx.senderAddress⟩
  | .deployAccount tx txHash contractAddress =>
    ⟨txHash, tx.maxFee, offsetVersionFelt 1 offsetVersion, tx.nonce, contractAddress⟩
  | .l1Handler tx _ txHash => ⟨txHash, 0, offsetVersionFelt 0 offsetVersion, ofU64 tx.nonce, tx.contractAddress⟩

/-- The state `Execute` works on: the pallet storage and the adapter's counts. -/
abbrev AdapterState (ContractClass : Type) := ContractState ContractClass × BlockifierStateAdapter

/-- What the blockifier does when `Execute` asks it to run an entry point. Each
call returns the `State` writes it made, in order, then either the trace of the
call or the error it stopped with. -/
structure Blockifier (ContractClass : Type) where
  /-- `CallEntryPoint::execute` of the sender's validation entry point. -/
  validateCall : Executable ContractClass → ContractState ContractClass →
    List (StateCall ContractClass) × Except EntryPointExecutionError CallTrace
  /-- `Executable::run_execute`; a declare returns no call. -/
  runExecute : Executable ContractClass → ContractState ContractClass →
    List (StateCall ContractClass) × Except TransactionExecutionError (Option CallTrace)
  /-- `CallEntryPoint::execute` of the fee token's `transfer` of the given amount. -/
  feeTransferCall : BlockContext → AccountTransactionContext → U128 → ContractState ContractClass →
    List (StateCall ContractClass) × Except EntryPointExecutionError CallTrace
  /-- `verify_no_calls_to_other_contracts` on the validation call. -/
  noCallsToOtherContracts : CallInfo → Bool
  /-- `compute_transaction_resources`, from the state changes the adapter
  counted, the execute and validation calls and, for an L1 handler, the size
  of its payload. -/
  computeTransactionResources : Executable ContractClass → BlockifierStateAdapter → Option CallInfo →
    Option CallInfo → Option Nat → Except TransactionExecutionError ActualResources
  /-- The fee token's storage keys of an account's balance, low and high word. -/
  balanceKeys : FieldElement → FieldElement × FieldElement
  /-- `EntryPointExecutionContext::error_trace`. -/
  errorTrace : String

section Execute

variable {ContractClass : Type} (blockifier : Blockifier ContractClass)
  (executionConfig : ExecutionConfig)

/-- A blockifier call run on the adapter: its writes land in the state whatever
the outcome, and a trace it returns is numbered from the context's counters. -/
def runCall (call : ContractState ContractClass →
      List (StateCall ContractClass) × Except EntryPointExecutionError CallTrace)
    (state : AdapterState ContractClass) (counters : Counters) :
    AdapterState ContractClass × Except EntryPointExecutionError (CallInfo × Counters) :=
  let (writes, outcome) := call state.1
  (applyStateCalls writes state, outcome.map (·.number counters))

/-- `Execute::handle_nonce`: a version-0 transaction has no nonce to check;
otherwise the sender's nonce must be the transaction's, and is incremented. -/
def handleNonce (context : AccountTransactionContext) (state : AdapterState ContractClass) :
    Except TransactionExecutionError (AdapterState ContractClass) :=
  if context.version = 0 then .ok state
  else
    let currentNonce := state.1.nonce context.senderAddress
    if currentNonce ≠ context.nonce then
      .error (.invalidNonce context.senderAddress currentNonce context.nonce)
    else .ok (applyStateCall (.incrementNonce context.senderAddress) state)

/-- `State::get_fee_token_balance`: the two words of the sender's balance in
the fee token's storage. -/
def getFeeTokenBalance (blockContext : BlockContext) (address : FieldElement)
    (state : ContractState ContractClass) : FieldElement × FieldElement :=
  let (low, high) := blockifier.balanceKeys address
  (state.storage (blockContext.feeTokenAddress, low), state.storage (blockContext.feeTokenAddress, high))

/-- `Execute::handle_nonce_and_check_fee_balance`. -/
def handleNonceAndCheckFeeBalance (blockContext : BlockContext) (context : AccountTransactionContext)
    (state : AdapterState ContractClass) : Except TransactionExecutionError (AdapterState ContractClass) := do
  let state ← if executionConfig.disableNonceValidation then pure state else handleNonce context state
  if context.maxFee ≠ 0 ∧ !executionConfig.disableFeeCharge ∧ !executionConfig.disableTransactionFee ∧
      !executionConfig.isQuery then
    let (low, high) := getFeeTokenBalance blockifier blockContext context.senderAddress state.1
    if high ≤ 0 ∧ low.val < context.maxFee.val then throw .maxFeeExceedsBalance
  pure state

/-- `Validate::validate_tx_inner`: nothing for a version-0 transaction;
otherwise the validation call, which must not call other contracts. -/
def validateTxInner (executable : Executable ContractClass) (context : AccountTransactionContext)
    (state : AdapterState ContractClass) (counters : Counters) :
    Except TransactionExecutionError (Option CallInfo × AdapterState ContractClass × Counters) :=
  if context.version = 0 then .ok (none, state, counters)
  else
    match runCall (blockifier.validateCall executable) state counters with
    | (_, .error cause) => .error (.validateTransactionError cause)
    | (state, .ok (callInfo, counters)) =>
      if blockifier.noCallsToOtherContracts callInfo then .ok (some callInfo, state, counters)
      else .error .unauthorizedInnerCall

/-- `Executable::run_execute` on the adapter: the writes stay whatever the outcome. -/
def runExecute (executable : Executable ContractClass) (state : AdapterState ContractClass)
    (counters : Counters) :
    AdapterState ContractClass × Except TransactionExecutionError (Option CallInfo × Counters) :=
  let (writes, outcome) := blockifier.runExecute executable state.1
  (applyStateCalls writes state, outcome.map fun trace? =>
    match trace? with
    | some trace => let (callInfo, after) := trace.number counters; (some callInfo, after)
    | none => (none, counters))

/-- `ValidateExecuteCallInfo`. -/
structure ValidateExecuteCallInfo where
  validateCallInfo : Option CallInfo
  executeCallInfo : Option CallInfo
  revertError : Option String

/-- The validation call unless validation is disabled. -/
def maybeValidate (executable : Executable ContractClass) (context : AccountTransactionContext)
    (state : AdapterState ContractClass) (counters : Counters) :
    Except TransactionExecutionError (Option CallInfo × AdapterState ContractClass × Counters) :=
  if executionConfig.disableValidation then .ok (none, state, counters)
  else validateTxInner blockifier executable context state counters

/-- `run_execute` of a transaction that cannot revert: its error is the
transaction's. -/
def executeAccepted (executable : Executable ContractClass) (validateCallInfo : Option CallInfo)
    (state : AdapterState ContractClass) (counters : Counters) :
    Except TransactionExecutionError (ValidateExecuteCallInfo × AdapterState ContractClass) :=
  match runExecute blockifier executable state counters with
  | (_, .error error) => .error error
  | (state, .ok (executeCallInfo, _)) => .ok (⟨validateCallInfo, executeCallInfo, none⟩, state)

/-- `run_execute` of a revertible transaction: an error becomes a revert
with the context's error trace, on the state the failed run left. -/
def executeRevertible (executable : Executable ContractClass) (validateCallInfo : Option CallInfo)
    (state : AdapterState ContractClass) (counters : Counters) :
    ValidateExecuteCallInfo × AdapterState ContractClass :=
  match runExecute blockifier executable state counters with
  | (state, .error _) => (⟨validateCallInfo, none, some blockifier.errorTrace⟩, state)
  | (state, .ok (executeCallInfo, _)) => (⟨validateCallInfo, executeCallInfo, none⟩, state)

/-- `Execute::execute_inner` of each kind, with one context for all its calls:
an invoke or a declare validates, then executes (reverting from version 1
on); a deploy_account executes its constructor, then validates; an L1 handler
only executes. -/
def executeInner (executable : Executable ContractClass) (context : AccountTransactionContext)
    (state : AdapterState ContractClass) :
    Except TransactionExecutionError (ValidateExecuteCallInfo × AdapterState ContractClass) :=
  match executable with
  | .invoke (.v0 _) _ | .declare (.v0 _) _ _ => do
    let (validateCallInfo, state, counters) ←
      maybeValidate blockifier executionConfig executable context state .fresh
    executeAccepted blockifier executable validateCallInfo state counters
  | .invoke (.v1 _) _ | .declare (.v1 _) _ _ | .declare (.v2 _) _ _ => do
    let (validateCallInfo, state, counters) ←
      maybeValidate blockifier executionConfig executable context state .fresh
    pure (executeRevertible blockifier executable validateCallInfo state counters)
  | .deployAccount .. =>
    match runExecute blockifier executable state .fresh with
    | (_, .error error) => .error error
    | (state, .ok (executeCallInfo, counters)) => do
      let (validateCallInfo, state, _) ←
        maybeValidate blockifier executionConfig executable context state counters
      pure (⟨validateCallInfo, executeCallInfo, none⟩, state)
  | .l1Handler .. => executeAccepted blockifier executable none state .fresh

/-- `execute_fee_transfer`: the transfer runs in a context of its own. -/
def executeFeeTransfer (blockContext : BlockContext) (context : AccountTransactionContext)
    (actualFee : U128) (state : AdapterState ContractClass) :
    Except TransactionExecutionError (CallInfo × AdapterState ContractClass) :=
  if context.maxFee < actualFee then .error .feeTransferError
  else
    match runCall (blockifier.feeTransferCall blockContext context actualFee) state .fresh with
    | (_, .error cause) => .error (.executionError cause)
    | (state, .ok (callInfo, _)) => .ok (callInfo, state)

/-- `charge_fee`: no fee when the transaction fee is disabled; otherwise the
fee of the resources, transferred unless the charge is disabled or the run is
a query. -/
def chargeFee (blockContext : BlockContext) (context : AccountTransactionContext) (resources : ActualResources)
    (state : AdapterState ContractClass) :
    Except TransactionExecutionError (U128 × Option CallInfo × AdapterState ContractClass) :=
  if executionConfig.disableTransactionFee then .ok (0, none, state)
  else do
    let actualFee ← resources.calculateTxFee blockContext
    if executionConfig.disableFeeCharge ∨ executionConfig.isQuery then pure (actualFee, none, state)
    else
      let (feeTransferCallInfo, state) ← executeFeeTransfer blockifier blockContext context actualFee state
      pure (actualFee, some feeTransferCallInfo, state)

/-- The payload size `handle_fee` of an L1 handler passes on: the calldata
without its `from` field, `calldata().0.len() - 1` as a wrapping `usize`. -/
def l1HandlerPayloadSize (tx : HandleL1MessageTransaction) : Nat := (UInt64.ofNat tx.calldata.length - 1).toNat

/-- `Execute::handle_fee`: the resources, then `charge_fee`. An L1 handler
computes its fee, charges nothing and only requires that some fee was paid
on L1. -/
def handleFee (executable : Executable ContractClass) (blockContext : BlockContext)
    (context : AccountTransactionContext) (calls : ValidateExecuteCallInfo)
    (state : AdapterState ContractClass) :
    Except TransactionExecutionError (U128 × Option CallInfo × AdapterState ContractClass) :=
  match executable with
  | .l1Handler tx paidFeeOnL1 _ => do
    let actualResources ← blockifier.computeTransactionResources executable state.2 calls.executeCallInfo
      calls.validateCallInfo (some (l1HandlerPayloadSize tx))
    let actualFee ← actualResources.calculateTxFee blockContext
    if paidFeeOnL1 = 0 then throw (.insufficientL1Fee paidFeeOnL1 actualFee)
    pure (0, none, state)
  | _ => do
    let actualResources ← blockifier.computeTransactionResources executable state.2 calls.executeCallInfo
      calls.validateCallInfo none
    chargeFee blockifier executionConfig blockContext context actualResources state

/-- `Execute::execute` on a fresh adapter over the pallet storage. -/
def execute : Executor ContractClass := fun blockContext executable contracts => do
  let context := accountTransactionContext executionConfig.offsetVersion executable
  let state ← handleNonceAndCheckFeeBalance blockifier executionConfig blockContext context
    (contracts, .default)
  let (calls, state) ← executeInner blockifier executionConfig executable context state
  let (actualFee, feeTransferCallInfo, state) ←
    handleFee blockifier executionConfig executable blockContext context calls state
  pure (⟨calls.validateCallInfo, calls.executeCallInfo, feeTransferCallInfo, actualFee, calls.revertError⟩,
    state.1)

end Execute

end Madara.Execution

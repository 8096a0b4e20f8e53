import Madara.Execution
import Madara.Lib.Transactional

/-! `Execute::execute` (`primitives/transactions/src/execution.rs`) with the
storage it leaves when nothing rolls it back. Every `State` write goes through
the `BlockifierStateAdapter` straight into the storage, so a call that fails
half way leaves what it wrote before it failed: the nonce `handle_nonce`
incremented before the balance check, the writes of a validation that was
refused, those of a `run_execute` that failed. A dispatch runs in a layer of
its own that discards them, and `Execution.execute` returns no state on
failure. The runtime API calls that execute transactions in turn have no layer
for each, so each transaction sees what the failed ones before it wrote.

Each function here returns the state it leaves together with its outcome, and
settles (`Transactional.settle`) to the function of `Execution` of the same
name: the two models agree on every success, state included, and on every
error (`execute_eq_settle`). -/
namespace Madara.AdapterWrites

open Madara.Felt Madara.Transactions Madara.CallTree Madara.State
open Madara.Execution (ExecutionConfig AccountTransactionContext accountTransactionContext AdapterState Blockifier
  ValidateExecuteCallInfo runCall handleNonce getFeeTokenBalance runExecute executeRevertible ActualResources
  l1HandlerPayloadSize)
open Transactional (settle andThen settle_andThen)

section Execute

variable {ContractClass : Type} (blockifier : Blockifier ContractClass) (executionConfig : ExecutionConfig)

/-- `Execute::handle_nonce_and_check_fee_balance`: the balance is checked
after the nonce was incremented. `handle_nonce` fails before it writes. -/
def handleNonceAndCheckFeeBalance (blockContext : BlockContext) (context : AccountTransactionContext)
    (state : AdapterState ContractClass) : AdapterState ContractClass × Except TransactionExecutionError Unit :=
  match (if executionConfig.disableNonceValidation then .ok state else handleNonce context state) with
  | .error error => (state, .error error)
  | .ok state =>
    if context.maxFee ≠ 0 ∧ !executionConfig.disableFeeCharge ∧ !executionConfig.disableTransactionFee ∧
        !executionConfig.isQuery then
      let (low, high) := getFeeTokenBalance blockifier blockContext context.senderAddress state.1
      if high ≤ 0 ∧ low.val < context.maxFee.val then (state, .error .maxFeeExceedsBalance)
      else (state, .ok ())
    else (state, .ok ())

/-- `Validate::validate_tx_inner`: a refused validation keeps its writes. -/
def validateTxInner (executable : Executable ContractClass) (context : AccountTransactionContext)
    (state : AdapterState ContractClass) (counters : Counters) :
    AdapterState ContractClass × Except TransactionExecutionError (Option CallInfo × Counters) :=
  if context.version = 0 then (state, .ok (none, counters))
  else
    match runCall (blockifier.validateCall executable) state counters with
    | (state, .error cause) => (state, .error (.validateTransactionError cause))
    | (state, .ok (callInfo, counters)) =>
      if blockifier.noCallsToOtherContracts callInfo then (state, .ok (some callInfo, counters))
      else (state, .error .unauthorizedInnerCall)

/-- The validation call unless validation is disabled. -/
def maybeValidate (executable : Executable ContractClass) (context : AccountTransactionContext)
    (state : AdapterState ContractClass) (counters : Counters) :
    AdapterState ContractClass × Except TransactionExecutionError (Option CallInfo × Counters) :=
  if executionConfig.disableValidation then (state, .ok (none, counters))
  else validateTxInner blockifier executable context state counters

/-- `run_execute` of a transaction that cannot revert: a failed run keeps its writes. -/
def executeAccepted (executable : Executable ContractClass) (validateCallInfo : Option CallInfo)
    (state : AdapterState ContractClass) (counters : Counters) :
    AdapterState ContractClass × Except TransactionExecutionError ValidateExecuteCallInfo :=
  andThen (runExecute blockifier executable state counters) fun (executeCallInfo, _) state =>
    (state, .ok ⟨validateCallInfo, executeCallInfo, none⟩)

/-- `Execute::execute_inner` of each kind, as in `Execution.executeInner`. -/
def executeInner (executable : Executable ContractClass) (context : AccountTransactionContext)
    (state : AdapterState ContractClass) :
    AdapterState ContractClass × Except TransactionExecutionError ValidateExecuteCallInfo :=
  match executable with
  | .invoke (.v0 _) _ | .declare (.v0 _) _ _ =>
    andThen (maybeValidate blockifier executionConfig executable context state .fresh)
      fun (validateCallInfo, counters) state => executeAccepted blockifier executable validateCallInfo state counters
  | .invoke (.v1 _) _ | .declare (.v1 _) _ _ | .declare (.v2 _) _ _ =>
    andThen (maybeValidate blockifier executionConfig executable context state .fresh)
      fun (validateCallInfo, counters) state =>
        let (calls, state) := executeRevertible blockifier executable validateCallInfo state counters
        (state, .ok calls)
  | .deployAccount .. =>
    andThen (runExecute blockifier executable state .fresh) fun (executeCallInfo, counters) state =>
      andThen (maybeValidate blockifier executionConfig executable context state counters)
        fun (validateCallInfo, _) state => (state, .ok ⟨validateCallInfo, executeCallInfo, none⟩)
  | .l1Handler .. => executeAccepted blockifier executable none state .fresh

/-- `execute_fee_transfer`: a failed transfer keeps its writes. -/
def executeFeeTransfer (blockContext : BlockContext) (context : AccountTransactionContext) (actualFee : U128)
    (state : AdapterState ContractClass) : AdapterState ContractClass × Except TransactionExecutionError CallInfo :=
  if context.maxFee < actualFee then (state, .error .feeTransferError)
  else
    match runCall (blockifier.feeTransferCall blockContext context actualFee) state .fresh with
    | (state, .error cause) => (state, .error (.executionError cause))
    | (state, .ok (callInfo, _)) => (state, .ok callInfo)

/-- `charge_fee`: a failed transfer keeps its writes. -/
def chargeFee (blockContext : BlockContext) (context : AccountTransactionContext) (resources : ActualResources)
    (state : AdapterState ContractClass) :
    AdapterState ContractClass × Except TransactionExecutionError (U128 × Option CallInfo) :=
  if executionConfig.disableTransactionFee then (state, .ok (0, none))
  else
    match resources.calculateTxFee blockContext with
    | .error error => (state, .error error)
    | .ok actualFee =>
      if executionConfig.disableFeeCharge ∨ executionConfig.isQuery then (state, .ok (actualFee, none))
      else
        andThen (executeFeeTransfer blockifier blockContext context actualFee state)
          fun feeTransferCallInfo state => (state, .ok (actualFee, some feeTransferCallInfo))

/-- `Execute::handle_fee`: the resources, then `charge_fee`. -/
def handleFee (executable : Executable ContractClass) (blockContext : BlockContext)
    (context : AccountTransactionContext) (calls : ValidateExecuteCallInfo) (state : AdapterState ContractClass) :
    AdapterState ContractClass × Except TransactionExecutionError (U128 × Option CallInfo) :=
  match executable with
  | .l1Handler tx paidFeeOnL1 _ =>
    match blockifier.computeTransactionResources executable state.2 calls.executeCallInfo calls.validateCallInfo
        (some (l1HandlerPayloadSize tx)) with
    | .error error => (state, .error error)
    | .ok actualResources =>
      match actualResources.calculateTxFee blockContext with
      | .error error => (state, .error error)
      | .ok actualFee =>
        if paidFeeOnL1 = 0 then (state, .error (.insufficientL1Fee paidFeeOnL1 actualFee)) else (state, .ok (0, none))
  | _ =>
    match blockifier.computeTransactionResources executable state.2 calls.executeCallInfo calls.validateCallInfo
        none with
    | .error error => (state, .error error)
    | .ok actualResources => chargeFee blockifier executionConfig blockContext context actualResources state

/-- `Execute::execute` on a fresh adapter over the pallet storage, with the
contract storage it leaves whether it succeeds or fails. -/
def execute (blockContext : BlockContext) (executable : Executable ContractClass)
    (contracts : ContractState ContractClass) :
    ContractState ContractClass × Except TransactionExecutionError TransactionExecutionInfo :=
  let context := accountTransactionContext executionConfig.offsetVersion executable
  let (state, outcome) :=
    andThen (handleNonceAndCheckFeeBalance blockifier executionConfig blockContext context (contracts, .default))
      fun () state =>
        andThen (executeInner blockifier executionConfig executable context state) fun calls state =>
          andThen (handleFee blockifier executionConfig executable blockContext context calls state)
            fun (actualFee, feeTransferCallInfo) state =>
              (state, .ok ⟨calls.validateCallInfo, calls.executeCallInfo, feeTransferCallInfo, actualFee,
                calls.revertError⟩)
  (state.1, outcome)

end Execute

/-! ### What a layer sees of each step -/

section Settle

variable {ContractClass : Type} {blockifier : Blockifier ContractClass} {executionConfig : ExecutionConfig}

theorem handleNonceAndCheckFeeBalance_settle (blockContext : BlockContext) (context : AccountTransactionContext)
    (state : AdapterState ContractClass) :
    Execution.handleNonceAndCheckFeeBalance blockifier executionConfig blockContext context state =
      (settle (handleNonceAndCheckFeeBalance blockifier executionConfig blockContext context state)).map Prod.snd := by
  unfold Execution.handleNonceAndCheckFeeBalance handleNonceAndCheckFeeBalance
  cases enabled : executionConfig.disableNonceValidation
  all_goals
    simp only [Bool.false_eq_true, ↓reduceIte]
  · cases handleNonce context state with
    | error error => rfl
    | ok nonced =>
      rw [Transactional.ok_bind]
      dsimp only
      split_ifs <;> rfl
  · rw [pure_bind]
    split_ifs <;> rfl

theorem validateTxInner_settle (executable : Executable ContractClass) (context : AccountTransactionContext)
    (state : AdapterState ContractClass) (counters : Counters) :
    Execution.validateTxInner blockifier executable context state counters =
      (settle (validateTxInner blockifier executable context state counters)).map
        fun ((callInfo, counters), state) => (callInfo, state, counters) := by
  unfold Execution.validateTxInner validateTxInner
  split_ifs
  · rfl
  · -- the validation call's outcome decides both
    rcases runCall (blockifier.validateCall executable) state counters with ⟨called, cause | ⟨callInfo, after⟩⟩
    · rfl
    · dsimp only
      split_ifs <;> rfl

theorem maybeValidate_settle (executable : Executable ContractClass) (context : AccountTransactionContext)
    (state : AdapterState ContractClass) (counters : Counters) :
    Execution.maybeValidate blockifier executionConfig executable context state counters =
      (settle (maybeValidate blockifier executionConfig executable context state counters)).map
        fun ((callInfo, counters), state) => (callInfo, state, counters) := by
  unfold Execution.maybeValidate maybeValidate
  split_ifs
  · rfl
  · exact validateTxInner_settle executable context state counters

/-- Going on after the validation, seen from a layer. -/
theorem settle_andThen_maybeValidate {β : Type} (executable : Executable ContractClass)
    (context : AccountTransactionContext) (state : AdapterState ContractClass) (counters : Counters)
    (rest : Option CallInfo × Counters → AdapterState ContractClass →
      AdapterState ContractClass × Except TransactionExecutionError β) :
    settle (andThen (maybeValidate blockifier executionConfig executable context state counters) rest) =
      Execution.maybeValidate blockifier executionConfig executable context state counters >>=
        fun (validateCallInfo, state, counters) => settle (rest (validateCallInfo, counters) state) := by
  rw [maybeValidate_settle]
  rcases maybeValidate blockifier executionConfig executable context state counters with
    ⟨validated, error | ⟨validateCallInfo, after⟩⟩ <;> rfl

theorem executeAccepted_settle (executable : Executable ContractClass) (validateCallInfo : Option CallInfo)
    (state : AdapterState ContractClass) (counters : Counters) :
    Execution.executeAccepted blockifier executable validateCallInfo state counters =
      settle (executeAccepted blockifier executable validateCallInfo state counters) := by
  unfold Execution.executeAccepted executeAccepted
  rcases runExecute blockifier executable state counters with ⟨ran, error | ⟨executeCallInfo, after⟩⟩ <;> rfl

theorem executeInner_settle (executable : Executable ContractClass) (context : AccountTransactionContext)
    (state : AdapterState ContractClass) :
    Execution.executeInner blockifier executionConfig executable context state =
      settle (executeInner blockifier executionConfig executable context state) := by
  rcases executable with ⟨_ | _, _⟩ | ⟨_ | _ | _, _, _⟩ | ⟨_, _, _⟩ | ⟨_, _, _⟩
  -- invoke V0 and declare V0: validate, then a run that cannot revert
  case invoke.v0 | declare.v0 =>
    simp only [Execution.executeInner, executeInner, settle_andThen_maybeValidate, executeAccepted_settle]
  -- invoke V1, declare V1 and V2: validate, then a run that may revert
  case invoke.v1 | declare.v1 | declare.v2 =>
    simp only [Execution.executeInner, executeInner, settle_andThen_maybeValidate]
    rfl
  -- deploy_account: the constructor runs first, then the validation
  case deployAccount =>
    simp only [Execution.executeInner, executeInner]
    rcases runExecute blockifier _ state .fresh with ⟨ran, error | ⟨executeCallInfo, counters⟩⟩
    · rfl
    · dsimp only
      rw [Transactional.andThen_ok, settle_andThen_maybeValidate]
      rfl
  case l1Handler =>
    exact executeAccepted_settle _ none state .fresh

theorem executeFeeTransfer_settle (blockContext : BlockContext) (context : AccountTransactionContext)
    (actualFee : U128) (state : AdapterState ContractClass) :
    Execution.executeFeeTransfer blockifier blockContext context actualFee state =
      settle (executeFeeTransfer blockifier blockContext context actualFee state) := by
  unfold Execution.executeFeeTransfer executeFeeTransfer
  split_ifs
  · rfl
  · rcases runCall (blockifier.feeTransferCall blockContext context actualFee) state .fresh with
      ⟨transferred, cause | ⟨callInfo, after⟩⟩ <;> rfl

theorem chargeFee_settle (blockContext : BlockContext) (context : AccountTransactionContext)
    (resources : ActualResources) (state : AdapterState ContractClass) :
    Execution.chargeFee blockifier executionConfig blockContext context resources state =
      (settle (chargeFee blockifier executionConfig blockContext context resources state)).map
        fun ((actualFee, feeTransferCallInfo), state) => (actualFee, feeTransferCallInfo, state) := by
  unfold Execution.chargeFee chargeFee
  split_ifs with disabled uncharged
  · rfl
  · cases resources.calculateTxFee blockContext <;> rfl
  · cases resources.calculateTxFee blockContext with
    | error error => rfl
    | ok actualFee =>
      -- the transfer's outcome decides both
      rw [Transactional.ok_bind, executeFeeTransfer_settle]
      dsimp only
      rcases executeFeeTransfer blockifier blockContext context actualFee state with
        ⟨transferred, error | feeTransferCallInfo⟩ <;> rfl

theorem handleFee_settle (executable : Executable ContractClass) (blockContext : BlockContext)
    (context : AccountTransactionContext) (calls : ValidateExecuteCallInfo) (state : AdapterState ContractClass) :
    Execution.handleFee blockifier executionConfig executable blockContext context calls state =
      (settle (handleFee blockifier executionConfig executable blockContext context calls state)).map
        fun ((actualFee, feeTransferCallInfo), state) => (actualFee, feeTransferCallInfo, state) := by
  unfold Execution.handleFee handleFee
  rcases executable with ⟨_, _⟩ | ⟨_, _, _⟩ | ⟨_, _, _⟩ | ⟨tx, paidFeeOnL1, txHash⟩
  case l1Handler =>
    -- an L1 handler computes the fee, and requires some fee paid on L1
    dsimp only
    cases blockifier.computeTransactionResources _ state.2 calls.executeCallInfo calls.validateCallInfo _ with
    | error error => rfl
    | ok actualResources =>
      rw [Transactional.ok_bind]
      dsimp only
      cases actualResources.calculateTxFee blockContext with
      | error error => rfl
      | ok actualFee =>
        rw [Transactional.ok_bind]
        dsimp only
        split_ifs <;> rfl
  all_goals
    dsimp only
    cases blockifier.computeTransactionResources _ state.2 calls.executeCallInfo calls.validateCallInfo none with
    | error error => rfl
    | ok actualResources =>
      rw [Transactional.ok_bind]
      exact chargeFee_settle blockContext context actualResources state

/-- **The layered execution settles the unlayered one.** On every input the
execution of `Execution` succeeds exactly when this one does, with the same
result and contract storage, and fails with the same error. -/
theorem execute_eq_settle (blockContext : BlockContext) (executable : Executable ContractClass)
    (contracts : ContractState ContractClass) :
    Execution.execute blockifier executionConfig blockContext executable contracts =
      settle (execute blockifier executionConfig blockContext executable contracts) := by
  unfold Execution.execute execute
  dsimp only
  rw [handleNonceAndCheckFeeBalance_settle]
  -- each step either stops both with its error, or hands both the same state
  rcases handleNonceAndCheckFeeBalance blockifier executionConfig blockContext
      (accountTransactionContext executionConfig.offsetVersion executable) (contracts, .default) with
    ⟨checked, error | ⟨⟩⟩
  · rfl
  simp only [Transactional.settle_ok, Transactional.andThen_ok, Except.map, Transactional.ok_bind,
    executeInner_settle]
  rcases executeInner blockifier executionConfig executable
      (accountTransactionContext executionConfig.offsetVersion executable) checked with
    ⟨ran, error | calls⟩
  · rfl
  simp only [Transactional.settle_ok, Transactional.andThen_ok, Transactional.ok_bind, handleFee_settle]
  rcases handleFee blockifier executionConfig executable blockContext
      (accountTransactionContext executionConfig.offsetVersion executable) calls ran with
    ⟨charged, error | ⟨actualFee, feeTransferCallInfo⟩⟩ <;> rfl

end Settle

end Madara.AdapterWrites

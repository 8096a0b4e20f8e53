import Madara.Validation
import Madara.AdapterWrites
import Madara.Receipt

/-! The runtime API calls that execute transactions without a block
(`pallets/starknet/src/simulations.rs`): fee estimation, simulation and the
re-execution behind `trace_block_transactions`. Each runs inside
`with_transaction` and rolls back, so it returns its result and leaves the
storage as it found it; here each is a function of the storage. Within one
call the transactions execute in turn on the `BlockifierStateAdapter`, so each
sees what the earlier ones wrote. The configuration of each call is built by
`RuntimeExecutionConfigBuilder` (`execution_config.rs`) from the runtime's
`DisableNonceValidation` and `DisableTransactionFee`.

1. **Re-execution replays a block.** `re_execute_transactions_inner` runs the
   transactions of a block in turn, with the configuration of a dispatch,
   until the first failure. Run on the contract storage and the block context
   the block's transactions started from, it returns one execution for each
   transaction the block holds, each the one its dispatch recorded, and ends
   on the contract storage the block ended with
   (`reExecuteTransactionsInner_replays_block`). A dispatch that failed left
   nothing behind, so it needs no replay (`Transactional.collect_history`).
   The hypothesis is that the block's transactions all ran under one block
   context, the one the re-execution reads: no inherent among them.
   `trace_block_transactions` calls it at the parent block, whose block
   number, timestamp and sequencer address are the parent's.

2. **An estimate is the fee a dispatch charges.** In query mode `execute`
   skips the balance check and the fee transfer, and does everything else as
   a dispatch does (`execute_query_of_runtime`). So the estimate of a
   transaction that a dispatch would accept fails exactly when the dispatch
   reverts it, and otherwise reports the fee the dispatch charges
   (`estimateFeeInner_of_dispatch`).

3. **A simulation predicts the block.** `simulate_transactions_inner` runs
   every transaction whether the ones before it failed or not, and nothing
   undoes what a failed one wrote: its executions are outside the layers
   (`AdapterWrites.execute`, which settles to `Execute::execute`). Without
   skip flags, on transactions that a block would all dispatch, it reports
   the executions the block records (`simulateTransactionsInner_predicts_block`).

4. **A message fee estimate reports no fee.** `estimate_message_fee_inner`
   executes the L1 handler of the message, and an L1 handler's `handle_fee`
   charges `Fee::default()` whatever the execution costs. So every estimate
   it returns has an overall fee of zero, and no revert ever stops it, since
   an L1 handler's run cannot revert (`estimateMessageFeeInner_eq_ok_iff`).

The L1 gas of an execution, which `estimate_fee` reads from the resources the
blockifier computes, is `l1GasUsage`, since the executions of this model do
not carry their resources. -/
namespace Madara.Simulations

open Madara.Felt Madara.Transactions Madara.CallTree Madara.State Madara.Execution Madara.Pallet
open Madara.Validation (getCallTransaction)

/-- `starknet_core::types::SimulationFlag`. -/
inductive SimulationFlag where
  | skipValidate
  | skipFeeCharge
  deriving DecidableEq, Repr

/-- `mp_simulations::SimulationFlags`. -/
structure SimulationFlags where
  skipValidate : Bool
  skipFeeCharge : Bool
  deriving DecidableEq, Repr

/-- The loop of `From<Vec<SimulationFlag>>`, from the flags set so far: each
flag sets its field, and the loop breaks once both are set. -/
def SimulationFlags.fromLoop (skipValidate skipFeeCharge : Bool) : List SimulationFlag → SimulationFlags
  | [] => ⟨skipValidate, skipFeeCharge⟩
  | flag :: flags =>
    let (skipValidate, skipFeeCharge) : Bool × Bool :=
      match flag with
      | .skipValidate => (true, skipFeeCharge)
      | .skipFeeCharge => (skipValidate, true)
    if skipValidate && skipFeeCharge then ⟨skipValidate, skipFeeCharge⟩
    else fromLoop skipValidate skipFeeCharge flags

/-- `From<Vec<SimulationFlag>> for SimulationFlags`. -/
def SimulationFlags.ofFlags (flags : List SimulationFlag) : SimulationFlags :=
  fromLoop false false flags

/-- The loop sets a field when it was set before or its flag is among those
left; the break skips only flags that could set nothing new. -/
theorem SimulationFlags.fromLoop_eq (skipValidate skipFeeCharge : Bool) (flags : List SimulationFlag) :
    fromLoop skipValidate skipFeeCharge flags =
      ⟨skipValidate || decide (.skipValidate ∈ flags), skipFeeCharge || decide (.skipFeeCharge ∈ flags)⟩ := by
  induction flags generalizing skipValidate skipFeeCharge with
  | nil => simp [fromLoop]
  | cons flag flags ih =>
    cases flag with
    | skipValidate =>
      cases skipFeeCharge
      · simp [fromLoop, ih]
      · simp [fromLoop]
    | skipFeeCharge =>
      cases skipValidate
      · simp [fromLoop, ih]
      · simp [fromLoop]

/-- `RuntimeExecutionConfigBuilder`. -/
structure RuntimeExecutionConfigBuilder where
  config : ExecutionConfig

namespace RuntimeExecutionConfigBuilder

/-- `RuntimeExecutionConfigBuilder::new`, from `T::DisableNonceValidation` and
`T::DisableTransactionFee`. -/
def new (disableNonceValidation disableTransactionFee : Bool) : RuntimeExecutionConfigBuilder where
  config :=
    { isQuery := false
      disableFeeCharge := false
      disableValidation := false
      disableNonceValidation := disableNonceValidation
      disableTransactionFee := disableTransactionFee
      offsetVersion := false }

def withQueryMode (builder : RuntimeExecutionConfigBuilder) : RuntimeExecutionConfigBuilder where
  config := { builder.config with isQuery := true }

def withSimulationMode (builder : RuntimeExecutionConfigBuilder) (simulationFlags : SimulationFlags) :
    RuntimeExecutionConfigBuilder where
  config :=
    { builder.config with
      disableFeeCharge := simulationFlags.skipFeeCharge
      disableValidation := simulationFlags.skipValidate }

def withDisableNonceValidation (builder : RuntimeExecutionConfigBuilder) : RuntimeExecutionConfigBuilder where
  config := { builder.config with disableNonceValidation := true }

def build (builder : RuntimeExecutionConfigBuilder) : ExecutionConfig := builder.config

/-- The builder with no mode is the configuration of a dispatch. -/
@[simp] theorem new_build (disableNonceValidation disableTransactionFee : Bool) :
    (new disableNonceValidation disableTransactionFee).build =
      ExecutionConfig.runtime disableNonceValidation disableTransactionFee :=
  rfl

end RuntimeExecutionConfigBuilder

/-! ### What the modes change in an execution -/

section Modes

variable {ContractClass : Type} {blockifier : Blockifier ContractClass}

/-- Validation is the one step that reads `disable_validation`. -/
theorem maybeValidate_congr {executionConfig executionConfig' : ExecutionConfig}
    (same : executionConfig.disableValidation = executionConfig'.disableValidation) :
    maybeValidate blockifier executionConfig = maybeValidate blockifier executionConfig' := by
  funext executable context state counters
  simp only [maybeValidate, same]

/-- `execute_inner` reads nothing of the configuration but `disable_validation`. -/
theorem executeInner_congr (executionConfig executionConfig' : ExecutionConfig)
    (same : executionConfig.disableValidation = executionConfig'.disableValidation) :
    executeInner blockifier executionConfig = executeInner blockifier executionConfig' := by
  funext executable context state
  unfold executeInner
  rw [maybeValidate_congr same]

/-- In query mode the balance check is skipped: whatever passes the check of
a configuration with the same nonce validation passes in query mode, on the
same state. -/
theorem handleNonceAndCheckFeeBalance_query {executionConfig : ExecutionConfig} {blockContext : BlockContext}
    {context : AccountTransactionContext} {state after : AdapterState ContractClass}
    (checked : handleNonceAndCheckFeeBalance blockifier executionConfig blockContext context state = .ok after)
    (query : ExecutionConfig) (sameNonce : query.disableNonceValidation = executionConfig.disableNonceValidation)
    (isQuery : query.isQuery = true) :
    handleNonceAndCheckFeeBalance blockifier query blockContext context state = .ok after := by
  unfold handleNonceAndCheckFeeBalance at checked ⊢
  rw [sameNonce]
  -- both take the same nonce step; the balance check then throws or passes
  cases enabled : executionConfig.disableNonceValidation <;> rw [enabled] at checked <;>
  · obtain ⟨nonced, handled, balance⟩ := Transactional.bind_eq_ok checked
    have passed : nonced = after := by
      dsimp only at balance
      split at balance
      · split at balance
        · cases balance
        · cases balance
          rfl
      · cases balance
        rfl
    subst passed
    simp only [Bool.false_eq_true, ↓reduceIte] at handled ⊢
    rw [handled]
    simp [isQuery]

/-- In query mode `charge_fee` computes the fee as a dispatch computes it,
and transfers nothing. -/
theorem chargeFee_query {executionConfig : ExecutionConfig} {blockContext : BlockContext}
    {context : AccountTransactionContext} {resources : ActualResources} {state after : AdapterState ContractClass}
    {fee : U128} {feeTransferCallInfo : Option CallInfo}
    (charged : chargeFee blockifier executionConfig blockContext context resources state =
      .ok (fee, feeTransferCallInfo, after))
    (query : ExecutionConfig) (sameFee : query.disableTransactionFee = executionConfig.disableTransactionFee)
    (isQuery : query.isQuery = true) :
    chargeFee blockifier query blockContext context resources state = .ok (fee, none, state) := by
  unfold chargeFee at charged ⊢
  rw [sameFee]
  split at charged
  · next disabled =>
    cases charged
    rw [if_pos disabled]
  · next enabled =>
    obtain ⟨actualFee, computed, transferred⟩ := Transactional.bind_eq_ok charged
    -- the fee returned is the one computed, whether it was transferred or not
    have same : actualFee = fee := by
      split at transferred
      · cases transferred
        rfl
      · obtain ⟨_, -, done⟩ := Transactional.bind_eq_ok transferred
        cases done
        rfl
    rw [if_neg enabled, computed, Transactional.ok_bind, if_pos (Or.inr isQuery), same]
    rfl

/-- In query mode the fee is computed as a dispatch computes it, and not
transferred. -/
theorem handleFee_query {executionConfig : ExecutionConfig} {executable : Executable ContractClass}
    {blockContext : BlockContext} {context : AccountTransactionContext} {calls : ValidateExecuteCallInfo}
    {state after : AdapterState ContractClass} {fee : U128} {feeTransferCallInfo : Option CallInfo}
    (charged : handleFee blockifier executionConfig executable blockContext context calls state =
      .ok (fee, feeTransferCallInfo, after))
    (query : ExecutionConfig) (sameFee : query.disableTransactionFee = executionConfig.disableTransactionFee)
    (isQuery : query.isQuery = true) :
    ∃ before, handleFee blockifier query executable blockContext context calls state = .ok (fee, none, before) := by
  rcases executable with ⟨_, _⟩ | ⟨_, _, _⟩ | ⟨_, _, _⟩ | ⟨tx, paidFeeOnL1, txHash⟩
  case l1Handler =>
    -- an L1 handler reads nothing of the configuration and transfers nothing
    have same : handleFee blockifier query (.l1Handler tx paidFeeOnL1 txHash) blockContext context calls state =
        handleFee blockifier executionConfig (.l1Handler tx paidFeeOnL1 txHash) blockContext context calls state :=
      rfl
    obtain ⟨-, noTransfer⟩ := Receipt.handleFee_l1Handler charged
    exact ⟨after, by rw [same, charged, noTransfer]⟩
  all_goals
    unfold handleFee at charged ⊢
    dsimp only at charged ⊢
    obtain ⟨resources, computed, charging⟩ := Transactional.bind_eq_ok charged
    refine ⟨state, ?_⟩
    rw [computed, Transactional.ok_bind]
    exact chargeFee_query charging query sameFee isQuery

/-- **An estimate is the dispatch without the fee.** Whenever the execution
of a dispatch succeeds, the same execution in query mode succeeds with the
same validation and execute calls, the same fee and the same revert error, and
no fee transfer. -/
theorem execute_query_of_runtime {disableNonceValidation disableTransactionFee : Bool}
    {blockContext : BlockContext} {executable : Executable ContractClass} {contracts after : ContractState ContractClass}
    {info : TransactionExecutionInfo}
    (executed : execute blockifier (.runtime disableNonceValidation disableTransactionFee) blockContext executable
      contracts = .ok (info, after)) :
    ∃ before, execute blockifier
        (RuntimeExecutionConfigBuilder.new disableNonceValidation disableTransactionFee).withQueryMode.build
        blockContext executable contracts = .ok ({ info with feeTransferCallInfo := none }, before) := by
  obtain ⟨checkedState, checked, rest⟩ := Transactional.bind_eq_ok executed
  obtain ⟨⟨calls, state⟩, inner, rest⟩ := Transactional.bind_eq_ok rest
  obtain ⟨⟨fee, feeTransferCallInfo, charged⟩, handled, rest⟩ := Transactional.bind_eq_ok rest
  cases rest
  -- the two configurations differ in `is_query` alone, and both leave the version unoffset
  have sameContext : accountTransactionContext
      (RuntimeExecutionConfigBuilder.new disableNonceValidation disableTransactionFee).withQueryMode.build.offsetVersion
        executable =
      accountTransactionContext (ExecutionConfig.runtime disableNonceValidation disableTransactionFee).offsetVersion
        executable := rfl
  obtain ⟨before, handledQuery⟩ := handleFee_query handled
    (RuntimeExecutionConfigBuilder.new disableNonceValidation disableTransactionFee).withQueryMode.build rfl rfl
  refine ⟨before.1, ?_⟩
  unfold execute
  dsimp only
  rw [sameContext,
    handleNonceAndCheckFeeBalance_query checked
      (RuntimeExecutionConfigBuilder.new disableNonceValidation disableTransactionFee).withQueryMode.build rfl rfl,
    Transactional.ok_bind,
    executeInner_congr (RuntimeExecutionConfigBuilder.new disableNonceValidation disableTransactionFee).withQueryMode.build
      (.runtime disableNonceValidation disableTransactionFee) rfl,
    inner, Transactional.ok_bind, handledQuery]
  rfl

end Modes

/-- `PlaceHolderErrorTypeForFailedStarknetExecution`. -/
structure PlaceHolderErrorTypeForFailedStarknetExecution where
  deriving DecidableEq, Repr

/-- The errors of `execute_user_transaction`: the blockifier's refusal of a
declared class for its declare version (`ContractClassVersionMismatch`), or an
error of `execute`. -/
inductive UserTransactionError where
  | contractClassVersionMismatch
  | execution (error : TransactionExecutionError)
  deriving DecidableEq, Repr

/-- The variants of the pallet's `Error` that the fee estimates return. -/
inductive EstimateError where
  | transactionExecutionFailed
  | missingL1GasUsage
  deriving DecidableEq, Repr

section Calls

variable {ContractClass : Type} (config : Config ContractClass) (blockifier : Blockifier ContractClass)
  (disableNonceValidation disableTransactionFee : Bool)

/-- `ConvertTransactionRuntimeApi::convert_transaction`, by the call the
extrinsic carries. -/
def convertTransaction : UserTransaction ContractClass → Call ContractClass
  | .declare tx contractClass => .declare tx contractClass
  | .deployAccount tx => .deployAccount tx
  | .invoke tx => .invoke tx

/-- `ConvertTransactionRuntimeApi::convert_l1_transaction`. -/
def convertL1Transaction (transaction : HandleL1MessageTransaction) (fee : U128) : Call ContractClass :=
  .consumeL1Message transaction fee

/-- The executable `execute_user_transaction` builds: each transaction with
its own `offset_version` as the query flag of its hash. The blockifier refuses
a declared class that does not fit the declare version. -/
def userExecutable : UserTransaction ContractClass → Option (Executable ContractClass)
  | .declare tx contractClass =>
    tx.tryIntoExecutable config.crypto config.chainId tx.offsetVersion config.accepts contractClass
  | .deployAccount tx => some (tx.intoExecutable config.crypto config.chainId tx.offsetVersion)
  | .invoke tx => some (tx.intoExecutable config.crypto config.chainId tx.offsetVersion)

/-- `Pallet::execute_user_transaction`. -/
def executeUserTransaction (transaction : UserTransaction ContractClass) (blockContext : BlockContext)
    (executionConfig : ExecutionConfig) (contracts : ContractState ContractClass) :
    Except UserTransactionError (TransactionExecutionInfo × ContractState ContractClass) :=
  match userExecutable config transaction with
  | none => .error .contractClassVersionMismatch
  | some executable => (execute blockifier executionConfig blockContext executable contracts).mapError .execution

/-! ### Fee estimation -/

variable (l1GasUsage : TransactionExecutionInfo → Option UInt64)

/-- The estimate of one transaction in `estimate_fee_inner`: a failed or
reverted execution fails the estimate, and the fee is cast to `u64`. -/
def estimateTransactionFee (blockContext : BlockContext) (executionConfig : ExecutionConfig)
    (transaction : UserTransaction ContractClass) (contracts : ContractState ContractClass) :
    Except EstimateError ((UInt64 × UInt64) × ContractState ContractClass) :=
  match executeUserTransaction config blockifier transaction blockContext
      (executionConfig.setOffsetVersion transaction.offsetVersion) contracts with
  | .error _ => .error .transactionExecutionFailed
  | .ok (info, contracts) =>
    if info.revertError.isSome then .error .transactionExecutionFailed
    else
      match l1GasUsage info with
      | none => .error .missingL1GasUsage
      | some gas => .ok ((UInt64.ofNat info.actualFee.val, gas), contracts)

/-- `Pallet::estimate_fee_inner`: the transactions are estimated in turn in
query mode until the first failure. -/
def estimateFeeInner (s : Storage ContractClass) (transactions : List (UserTransaction ContractClass)) :
    Except EstimateError (List (UInt64 × UInt64)) :=
  let executionConfig := (RuntimeExecutionConfigBuilder.new disableNonceValidation disableTransactionFee).withQueryMode.build
  (Transactional.collect (estimateTransactionFee config blockifier l1GasUsage (getBlockContext config s) executionConfig)
    transactions s.contracts).map Prod.fst

/-- `Pallet::estimate_message_fee_inner`: the message is executed as an L1
handler that paid `u128::MAX`, with a query hash, in query mode and without
nonce validation. -/
def estimateMessageFeeInner (s : Storage ContractClass) (message : HandleL1MessageTransaction) :
    Except EstimateError (U128 × UInt64 × UInt64) :=
  let executable : Executable ContractClass :=
    message.intoExecutable config.crypto config.chainId true (Fin.ofNat _ (2 ^ 128 - 1))
  let executionConfig :=
    (RuntimeExecutionConfigBuilder.new disableNonceValidation disableTransactionFee).withQueryMode.withDisableNonceValidation.build
  match execute blockifier executionConfig (getBlockContext config s) executable s.contracts with
  | .error _ => .error .transactionExecutionFailed
  | .ok (info, _) =>
    if info.revertError.isSome then .error .transactionExecutionFailed
    else
      match l1GasUsage info with
      | none => .error .missingL1GasUsage
      | some gas => .ok (config.l1GasPrice.priceInWei, UInt64.ofNat info.actualFee.val, gas)

/-! ### Simulation -/

/-- One transaction of `simulate_transactions_inner`, on the storage the
earlier ones left. Nothing rolls back a failed execution, so what it wrote
stays for the next transaction; the failure is reported as the placeholder
error. -/
def simulateTransaction (blockContext : BlockContext) (executionConfig : ExecutionConfig)
    (transaction : UserTransaction ContractClass) (contracts : ContractState ContractClass) :
    ContractState ContractClass × Except PlaceHolderErrorTypeForFailedStarknetExecution TransactionExecutionInfo :=
  match userExecutable config transaction with
  | none => (contracts, .error ⟨⟩)
  | some executable =>
    let (contracts, outcome) := AdapterWrites.execute blockifier
      (executionConfig.setOffsetVersion transaction.offsetVersion) blockContext executable contracts
    (contracts, outcome.mapError fun _ => ⟨⟩)

/-- `Pallet::simulate_transactions_inner`: every transaction is executed in
turn in simulation mode, whether the ones before it failed or not. -/
def simulateTransactionsInner (s : Storage ContractClass) (transactions : List (UserTransaction ContractClass))
    (simulationFlags : SimulationFlags) :
    List (Except PlaceHolderErrorTypeForFailedStarknetExecution TransactionExecutionInfo) :=
  let executionConfig :=
    ((RuntimeExecutionConfigBuilder.new disableNonceValidation disableTransactionFee).withSimulationMode
      simulationFlags).build
  (Transactional.runEach (simulateTransaction config blockifier (getBlockContext config s) executionConfig)
    transactions s.contracts).1

/-! ### Re-execution -/

/-- The re-execution of one transaction in `re_execute_transactions_inner`,
built as its dispatch builds it. -/
def reExecuteTransaction (blockContext : BlockContext) (executionConfig : ExecutionConfig) :
    UserOrL1HandlerTransaction ContractClass → ContractState ContractClass →
      Except PlaceHolderErrorTypeForFailedStarknetExecution (TransactionExecutionInfo × ContractState ContractClass)
  | .user (.declare tx contractClass), contracts =>
    match tx.tryIntoExecutable config.crypto config.chainId false config.accepts contractClass with
    | none => .error ⟨⟩
    | some executable => (execute blockifier executionConfig blockContext executable contracts).mapError fun _ => ⟨⟩
  | .user (.deployAccount tx), contracts =>
    (execute blockifier executionConfig blockContext (tx.intoExecutable config.crypto config.chainId false) contracts).mapError
      fun _ => ⟨⟩
  | .user (.invoke tx), contracts =>
    (execute blockifier executionConfig blockContext (tx.intoExecutable config.crypto config.chainId false) contracts).mapError
      fun _ => ⟨⟩
  | .l1Handler tx fee, contracts =>
    (execute blockifier executionConfig blockContext (tx.intoExecutable config.crypto config.chainId false fee)
      contracts).mapError fun _ => ⟨⟩

/-- `Pallet::re_execute_transactions_inner`: the transactions are re-executed
in turn with the configuration of a dispatch, until the first failure. -/
def reExecuteTransactionsInner (s : Storage ContractClass)
    (transactions : List (UserOrL1HandlerTransaction ContractClass)) :
    Except PlaceHolderErrorTypeForFailedStarknetExecution (List TransactionExecutionInfo) :=
  let executionConfig := (RuntimeExecutionConfigBuilder.new disableNonceValidation disableTransactionFee).build
  (Transactional.collect (reExecuteTransaction config blockifier (getBlockContext config s) executionConfig)
    transactions s.contracts).map Prod.fst

end Calls

/-! ### The replay of a block -/

section Replay

variable {ContractClass : Type} (config : Config ContractClass) (blockifier : Blockifier ContractClass)
  (disableNonceValidation disableTransactionFee : Bool)

/-- What a successful dispatch recorded of an execution: the transaction the
call carries, stored under its hash with the execution's events, messages and
revert error, on the storage the dispatch ran on with only `L1Messages` and
the contract storage changed. -/
def Recorded : Call ContractClass × Storage ContractClass × Storage ContractClass → TransactionExecutionInfo → Prop
  | (call, before, after), info =>
    ∃ tx, call.transaction = some tx ∧
      after = storeExecution (tx.computeHash config.crypto config.chainId false) tx info
        { before with l1Messages := after.l1Messages, contracts := after.contracts }

/-- A call that carries a transaction carries it as a `UserOrL1HandlerTransaction`. -/
theorem getCallTransaction_of_transaction {call : Call ContractClass} {tx : Transaction}
    (carried : call.transaction = some tx) : ∃ transaction, getCallTransaction call = .ok transaction := by
  cases call with
  | setSequencerAddress addr => cases carried
  | invoke transaction => exact ⟨_, rfl⟩
  | declare transaction contractClass => exact ⟨_, rfl⟩
  | deployAccount transaction => exact ⟨_, rfl⟩
  | consumeL1Message transaction paidFeeOnL1 => exact ⟨_, rfl⟩

/-- The re-execution of the transaction a call carries executes the
executable the call's dispatch builds. -/
theorem reExecuteTransaction_of_call {call : Call ContractClass}
    {transaction : UserOrL1HandlerTransaction ContractClass} (carried : getCallTransaction call = .ok transaction)
    {executable : Executable ContractClass} (built : call.intoExecutable config = some executable)
    (blockContext : BlockContext) (executionConfig : ExecutionConfig) (contracts : ContractState ContractClass) :
    reExecuteTransaction config blockifier blockContext executionConfig transaction contracts =
      (execute blockifier executionConfig blockContext executable contracts).mapError fun _ => ⟨⟩ := by
  cases call with
  | setSequencerAddress addr => cases carried
  | invoke tx =>
    cases carried
    cases built
    rfl
  | declare tx contractClass =>
    cases carried
    simp only [Call.intoExecutable] at built
    simp only [reExecuteTransaction, built]
  | deployAccount tx =>
    cases carried
    cases built
    rfl
  | consumeL1Message tx paidFeeOnL1 =>
    cases carried
    cases built
    rfl

/-- One successful dispatch of a transaction, replayed: the re-execution of
the transaction it carries, under its block context and from its contract
storage, returns the execution it recorded and the contract storage it left. -/
theorem reExecuteTransaction_of_dispatch {call : Call ContractClass} {s next : Storage ContractClass}
    {tx : Transaction} (carried : call.transaction = some tx)
    (succeeded : dispatch config (execute blockifier (.runtime disableNonceValidation disableTransactionFee)) call s = .ok next) :
    ∃ transaction info, (getCallTransaction call).toOption = some transaction ∧
      reExecuteTransaction config blockifier (getBlockContext config s)
          (RuntimeExecutionConfigBuilder.new disableNonceValidation disableTransactionFee).build transaction s.contracts =
        .ok (info, next.contracts) ∧
      Recorded config (call, s, next) info := by
  obtain ⟨executable, info, built, executed, stored⟩ := dispatch_records carried succeeded
  obtain ⟨transaction, carries⟩ := getCallTransaction_of_transaction carried
  refine ⟨transaction, info, by rw [carries]; rfl, ?_, tx, carried, stored⟩
  rw [reExecuteTransaction_of_call config blockifier carries built, RuntimeExecutionConfigBuilder.new_build, executed]
  rfl

/-- **Re-execution replays a block.** Dispatch the calls of a block's
transactions in turn from `s`, each in its own layer. Re-executing the
transactions of the calls that succeeded, from `s`, returns one execution for
each, the one its dispatch recorded, and ends on the contract storage the
block ended with. -/
theorem reExecuteTransactionsInner_replays_block (calls : List (Call ContractClass)) (s : Storage ContractClass)
    (transactionsOnly : ∀ call ∈ calls, call.transaction.isSome) :
    let block := dispatch config (execute blockifier (.runtime disableNonceValidation disableTransactionFee))
    let replayed := (Transactional.committed block calls s).filterMap fun call => (getCallTransaction call).toOption
    ∃ infos, reExecuteTransactionsInner config blockifier disableNonceValidation disableTransactionFee s replayed =
        .ok infos ∧
      List.Forall₂ (Recorded config) (Transactional.history block calls s) infos ∧
      Transactional.collect (reExecuteTransaction config blockifier (getBlockContext config s)
          (ExecutionConfig.runtime disableNonceValidation disableTransactionFee)) replayed s.contracts =
        .ok (infos, (Transactional.run block calls s).contracts) := by
  intro block replayed
  -- every dispatch of the run sees the block context of `s`
  obtain ⟨infos, collected, recorded⟩ :=
    Transactional.collect_history block
      (reExecuteTransaction config blockifier (getBlockContext config s)
        (ExecutionConfig.runtime disableNonceValidation disableTransactionFee))
      (fun call => (getCallTransaction call).toOption) (·.contracts)
      (fun state => getBlockContext config state = getBlockContext config s) (Recorded config) rfl
      (fun call member state next sameContext succeeded => by
        obtain ⟨tx, carried⟩ := Option.isSome_iff_exists.mp (transactionsOnly call member)
        obtain ⟨transaction, info, fed, replays, stored⟩ :=
          reExecuteTransaction_of_dispatch config blockifier disableNonceValidation disableTransactionFee carried
            succeeded
        rw [sameContext] at replays
        exact ⟨(getBlockContext_of_dispatch carried succeeded).trans sameContext, transaction, info, fed, replays,
          stored⟩)
  refine ⟨infos, ?_, recorded, collected⟩
  simp only [reExecuteTransactionsInner, RuntimeExecutionConfigBuilder.new_build]
  rw [collected]
  rfl

/-- Account `5`'s invokes of nonces `0` and `1`, with account `6`'s unfunded
invoke between them, dispatched under the quiet blockifier: the failed
dispatch is rolled back and not replayed, and the re-execution of the other
two, each on what the one before it left, replays the block. -/
theorem reExecuteTransactionsInner_replays_interleaved_block :
    (∀ call ∈ Validation.witnessInterleaved, call.transaction.isSome) ∧
    let block := dispatch witnessConfig (execute Runtime.quietBlockifier (.runtime false false))
    Transactional.committed block Validation.witnessInterleaved witnessStart =
      [.invoke witnessInvoke, .invoke Validation.witnessNextInvoke] ∧
    let replayed := (Transactional.committed block Validation.witnessInterleaved witnessStart).filterMap fun call =>
      (getCallTransaction call).toOption
    ∃ infos, reExecuteTransactionsInner witnessConfig Runtime.quietBlockifier false false witnessStart replayed =
        .ok infos ∧
      List.Forall₂ (Recorded witnessConfig) (Transactional.history block Validation.witnessInterleaved witnessStart)
        infos ∧
      Transactional.collect (reExecuteTransaction witnessConfig Runtime.quietBlockifier
          (getBlockContext witnessConfig witnessStart) (ExecutionConfig.runtime false false)) replayed
          witnessStart.contracts =
        .ok (infos, (Transactional.run block Validation.witnessInterleaved witnessStart).contracts) := by
  have carried : ∀ call ∈ Validation.witnessInterleaved, call.transaction.isSome := by
    simp [Validation.witnessInterleaved, Call.transaction]
  exact ⟨carried, rfl, reExecuteTransactionsInner_replays_block witnessConfig Runtime.quietBlockifier false false
    Validation.witnessInterleaved witnessStart carried⟩

/-- The call of a converted transaction carries it. -/
theorem convertTransaction_transaction (transaction : UserTransaction ContractClass) :
    ∃ tx, (convertTransaction transaction : Call ContractClass).transaction = some tx := by
  cases transaction <;> exact ⟨_, rfl⟩

/-- Without a query version, a user transaction's executable is the one its
dispatch builds. -/
theorem userExecutable_of_unoffset {transaction : UserTransaction ContractClass}
    (unoffset : transaction.offsetVersion = false) :
    userExecutable config transaction = (convertTransaction transaction).intoExecutable config := by
  cases transaction with
  | declare tx contractClass =>
    simp only [UserTransaction.offsetVersion] at unoffset
    simp only [userExecutable, unoffset, convertTransaction, Call.intoExecutable]
  | deployAccount tx =>
    simp only [UserTransaction.offsetVersion] at unoffset
    simp only [userExecutable, unoffset, convertTransaction, Call.intoExecutable]
  | invoke tx =>
    simp only [UserTransaction.offsetVersion] at unoffset
    simp only [userExecutable, unoffset, convertTransaction, Call.intoExecutable]

/-- One successful dispatch of a user transaction without a query version,
simulated without skip flags from its contract storage: the simulation
succeeds with the execution the dispatch recorded and leaves the contract
storage the dispatch left. -/
theorem simulateTransaction_of_dispatch {transaction : UserTransaction ContractClass}
    {s next : Storage ContractClass} (unoffset : transaction.offsetVersion = false)
    (succeeded : dispatch config (execute blockifier (.runtime disableNonceValidation disableTransactionFee))
      (convertTransaction transaction) s = .ok next) :
    ∃ info, simulateTransaction config blockifier (getBlockContext config s)
        ((RuntimeExecutionConfigBuilder.new disableNonceValidation disableTransactionFee).withSimulationMode
          ⟨false, false⟩).build transaction s.contracts = (next.contracts, .ok info) ∧
      Recorded config (convertTransaction transaction, s, next) info := by
  obtain ⟨tx, carried⟩ := convertTransaction_transaction transaction
  obtain ⟨executable, info, built, executed, stored⟩ := dispatch_records carried succeeded
  -- without skip flags and a query version, the simulation runs the dispatch's configuration
  have sameConfig : ((RuntimeExecutionConfigBuilder.new disableNonceValidation disableTransactionFee).withSimulationMode
      ⟨false, false⟩).build.setOffsetVersion transaction.offsetVersion =
      .runtime disableNonceValidation disableTransactionFee := by
    rw [unoffset]
    rfl
  rw [AdapterWrites.execute_eq_settle, ← sameConfig, Transactional.settle_eq_ok] at executed
  refine ⟨info, ?_, tx, carried, stored⟩
  rw [simulateTransaction, userExecutable_of_unoffset config unoffset, built]
  dsimp only
  rw [executed]
  rfl

/-- **Simulation predicts the block.** Dispatch the calls of user
transactions without a query version in turn from `s`, and say every one
succeeds. Then simulating the transactions from `s` without skip flags
succeeds at each of them, with the execution its dispatch recorded. -/
theorem simulateTransactionsInner_predicts_block (transactions : List (UserTransaction ContractClass))
    (s final : Storage ContractClass) (unoffset : ∀ transaction ∈ transactions, transaction.offsetVersion = false)
    (dispatched : Transactional.runAll
      (dispatch config (execute blockifier (.runtime disableNonceValidation disableTransactionFee)))
      (transactions.map convertTransaction) s = .ok final) :
    ∃ infos, simulateTransactionsInner config blockifier disableNonceValidation disableTransactionFee s
        transactions ⟨false, false⟩ = infos.map .ok ∧
      List.Forall₂ (Recorded config)
        (Transactional.history
          (dispatch config (execute blockifier (.runtime disableNonceValidation disableTransactionFee)))
          (transactions.map convertTransaction) s) infos := by
  -- every dispatch of the run sees the block context of `s`
  obtain ⟨infos, ran, recorded⟩ :=
    Transactional.runEach_of_runAll
      (dispatch config (execute blockifier (.runtime disableNonceValidation disableTransactionFee)))
      (simulateTransaction config blockifier (getBlockContext config s)
        ((RuntimeExecutionConfigBuilder.new disableNonceValidation disableTransactionFee).withSimulationMode
          ⟨false, false⟩).build)
      convertTransaction (·.contracts) (fun state => getBlockContext config state = getBlockContext config s)
      (Recorded config) rfl dispatched
      (fun transaction member state next sameContext succeeded => by
        obtain ⟨tx, carried⟩ := convertTransaction_transaction transaction
        obtain ⟨info, simulated, stored⟩ :=
          simulateTransaction_of_dispatch config blockifier disableNonceValidation disableTransactionFee
            (unoffset transaction member) succeeded
        rw [sameContext] at simulated
        exact ⟨(getBlockContext_of_dispatch carried succeeded).trans sameContext, info, simulated, stored⟩)
  refine ⟨infos, ?_, recorded⟩
  simp only [simulateTransactionsInner]
  rw [ran]

/-- An invoke V1 of account `6` with nonce `0`, which charges no fee. -/
def witnessOtherInvoke : InvokeTransaction := .v1 ⟨0, [], 0, 6, [], false⟩

/-- Account `5`'s invokes of nonces `0` and `1`, with account `6`'s invoke
between them. -/
def witnessThreeInvokes : List (UserTransaction Unit) :=
  [.invoke witnessInvoke, .invoke witnessOtherInvoke, .invoke Validation.witnessNextInvoke]

/-- Three invokes, dispatched under the quiet blockifier, are predicted by
their simulation, whose second invoke of account `5` sees the nonce the first
left. -/
theorem simulateTransactionsInner_predicts_three_invokes :
    (∀ transaction ∈ witnessThreeInvokes, transaction.offsetVersion = false) ∧
    ∃ final, Transactional.runAll (dispatch witnessConfig (execute Runtime.quietBlockifier (.runtime false false)))
        (witnessThreeInvokes.map convertTransaction) witnessStart = .ok final ∧
      ∃ infos, simulateTransactionsInner witnessConfig Runtime.quietBlockifier false false witnessStart
          witnessThreeInvokes ⟨false, false⟩ = infos.map .ok ∧
        List.Forall₂ (Recorded witnessConfig)
          (Transactional.history (dispatch witnessConfig (execute Runtime.quietBlockifier (.runtime false false)))
            (witnessThreeInvokes.map convertTransaction) witnessStart)
          infos := by
  have unoffset : ∀ transaction ∈ witnessThreeInvokes, transaction.offsetVersion = false := by
    simp [witnessThreeInvokes, UserTransaction.offsetVersion, InvokeTransaction.offsetVersion, witnessInvoke,
      witnessOtherInvoke, Validation.witnessNextInvoke]
  obtain ⟨final, dispatched⟩ : ∃ final,
      Transactional.runAll (dispatch witnessConfig (execute Runtime.quietBlockifier (.runtime false false)))
        (witnessThreeInvokes.map convertTransaction) witnessStart = .ok final := ⟨_, rfl⟩
  exact ⟨unoffset, final, dispatched,
    simulateTransactionsInner_predicts_block witnessConfig Runtime.quietBlockifier false false _ witnessStart final
      unoffset dispatched⟩

end Replay

/-! ### What an estimate reports -/

section Estimate

variable {ContractClass : Type} (config : Config ContractClass) (blockifier : Blockifier ContractClass)
  (disableNonceValidation disableTransactionFee : Bool) (l1GasUsage : TransactionExecutionInfo → Option UInt64)

/-- **A fee estimate is the fee a dispatch charges.** Say the dispatch of a
user transaction without a query version succeeds from `s` and records the
execution `info`. Then estimating the transaction's fee on `s` fails exactly
when the dispatch reverted it. Otherwise it reports the fee the dispatch
charged, with the L1 gas of the execution the query ran, which is `info`
without its fee transfer. -/
theorem estimateFeeInner_of_dispatch {transaction : UserTransaction ContractClass}
    {s next : Storage ContractClass} (unoffset : transaction.offsetVersion = false)
    (succeeded : dispatch config (execute blockifier (.runtime disableNonceValidation disableTransactionFee))
      (convertTransaction transaction) s = .ok next) :
    ∃ info, Recorded config (convertTransaction transaction, s, next) info ∧
      estimateFeeInner config blockifier disableNonceValidation disableTransactionFee l1GasUsage s [transaction] =
        if info.revertError.isSome then .error .transactionExecutionFailed
        else
          match l1GasUsage { info with feeTransferCallInfo := none } with
          | none => .error .missingL1GasUsage
          | some gas => .ok [(UInt64.ofNat info.actualFee.val, gas)] := by
  obtain ⟨tx, carried⟩ := convertTransaction_transaction transaction
  obtain ⟨executable, info, built, executed, stored⟩ := dispatch_records carried succeeded
  -- the query runs the dispatch's execution, without the fee transfer
  obtain ⟨before, queried⟩ := execute_query_of_runtime executed
  refine ⟨info, ⟨tx, carried, stored⟩, ?_⟩
  have sameConfig :
      (RuntimeExecutionConfigBuilder.new disableNonceValidation disableTransactionFee).withQueryMode.build.setOffsetVersion
        transaction.offsetVersion =
      (RuntimeExecutionConfigBuilder.new disableNonceValidation disableTransactionFee).withQueryMode.build := by
    rw [unoffset]
    rfl
  have estimated : estimateTransactionFee config blockifier l1GasUsage (getBlockContext config s)
      (RuntimeExecutionConfigBuilder.new disableNonceValidation disableTransactionFee).withQueryMode.build
      transaction s.contracts =
        if info.revertError.isSome then .error .transactionExecutionFailed
        else
          match l1GasUsage { info with feeTransferCallInfo := none } with
          | none => .error .missingL1GasUsage
          | some gas => .ok ((UInt64.ofNat info.actualFee.val, gas), before) := by
    unfold estimateTransactionFee executeUserTransaction
    rw [sameConfig, userExecutable_of_unoffset config unoffset, built]
    dsimp only
    rw [queried]
    rfl
  unfold estimateFeeInner
  dsimp only
  rw [Transactional.collect, estimated]
  by_cases reverted : info.revertError.isSome
  · simp only [reverted, if_true]
    rfl
  · simp only [reverted]
    cases l1GasUsage { info with feeTransferCallInfo := none } <;> rfl

/-- An `actual_resources` lookup that finds no L1 gas used. -/
def zeroL1Gas : TransactionExecutionInfo → Option UInt64 := fun _ => some 0

/-- The witness invoke, dispatched under the quiet blockifier, is estimated at
the fee its dispatch charged. -/
theorem estimateFeeInner_of_dispatch_quiet_invoke :
    (UserTransaction.invoke witnessInvoke : UserTransaction Unit).offsetVersion = false ∧
    ∃ next, dispatch witnessConfig (execute Runtime.quietBlockifier (.runtime false false))
        (convertTransaction (.invoke witnessInvoke)) witnessStart = .ok next ∧
      ∃ info, Recorded witnessConfig (convertTransaction (.invoke witnessInvoke), witnessStart, next) info ∧
        estimateFeeInner witnessConfig Runtime.quietBlockifier false false zeroL1Gas witnessStart
            [.invoke witnessInvoke] =
          if info.revertError.isSome then .error .transactionExecutionFailed
          else
            match zeroL1Gas { info with feeTransferCallInfo := none } with
            | none => .error .missingL1GasUsage
            | some gas => .ok [(UInt64.ofNat info.actualFee.val, gas)] := by
  have unoffset : (UserTransaction.invoke witnessInvoke : UserTransaction Unit).offsetVersion = false := rfl
  obtain ⟨next, succeeded⟩ : ∃ next, dispatch witnessConfig (execute Runtime.quietBlockifier (.runtime false false))
      (convertTransaction (.invoke witnessInvoke)) witnessStart = .ok next := ⟨_, rfl⟩
  exact ⟨unoffset, next, succeeded,
    estimateFeeInner_of_dispatch witnessConfig Runtime.quietBlockifier false false zeroL1Gas unoffset succeeded⟩

/-- An L1 handler's execution never reverts: its run is accepted or fails the
execution. -/
theorem execute_l1Handler_revertError {executionConfig : ExecutionConfig} {tx : HandleL1MessageTransaction}
    {paidFeeOnL1 : U128} {txHash : FieldElement} {blockContext : BlockContext}
    {contracts contracts' : ContractState ContractClass} {info : TransactionExecutionInfo}
    (executed : execute blockifier executionConfig blockContext (.l1Handler tx paidFeeOnL1 txHash) contracts =
      .ok (info, contracts')) :
    info.revertError = none := by
  obtain ⟨_, -, rest⟩ := Transactional.bind_eq_ok executed
  obtain ⟨⟨calls, state⟩, ran, rest⟩ := Transactional.bind_eq_ok rest
  obtain ⟨_, -, rest⟩ := Transactional.bind_eq_ok rest
  cases rest
  simp only [executeInner, executeAccepted] at ran
  split at ran
  · cases ran
  · cases ran
    rfl

/-- **A message fee estimate reports no fee.** `estimate_message_fee_inner`
succeeds exactly when the message's L1 handler, paid `u128::MAX` on L1 and
hashed as a query, executes and its L1 gas usage is found: a revert never
stops it. It then reports the L1 gas price, that gas usage, and an overall fee
of zero, whatever the execution cost. -/
theorem estimateMessageFeeInner_eq_ok_iff (s : Storage ContractClass) (message : HandleL1MessageTransaction)
    {price : U128} {fee gas : UInt64} :
    estimateMessageFeeInner config blockifier disableNonceValidation disableTransactionFee l1GasUsage s message =
        .ok (price, fee, gas) ↔
      price = config.l1GasPrice.priceInWei ∧ fee = 0 ∧
      ∃ info contracts, execute blockifier
          (RuntimeExecutionConfigBuilder.new disableNonceValidation disableTransactionFee).withQueryMode.withDisableNonceValidation.build
          (getBlockContext config s)
          (message.intoExecutable config.crypto config.chainId true (Fin.ofNat _ (2 ^ 128 - 1))) s.contracts =
          .ok (info, contracts) ∧
        l1GasUsage info = some gas := by
  unfold estimateMessageFeeInner
  dsimp only
  cases executed : execute blockifier
      (RuntimeExecutionConfigBuilder.new disableNonceValidation disableTransactionFee).withQueryMode.withDisableNonceValidation.build
      (getBlockContext config s)
      (message.intoExecutable config.crypto config.chainId true (Fin.ofNat _ (2 ^ 128 - 1))) s.contracts with
  | error error => simp
  | ok result =>
    obtain ⟨info, contracts⟩ := result
    -- the L1 handler neither reverts nor is charged
    have unreverted : info.revertError = none := execute_l1Handler_revertError blockifier executed
    obtain ⟨charged, -⟩ := Receipt.execute_l1Handler executed
    simp only [unreverted, Option.isSome_none, Bool.false_eq_true, if_false, charged]
    cases found : l1GasUsage info with
    | none => simp [found]
    | some used => simp [found, eq_comm]

end Estimate

end Madara.Simulations

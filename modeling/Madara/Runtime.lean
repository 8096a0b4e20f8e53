import Madara.Pallet
import Madara.Execution

/-! The pallet with `Execute::execute` as its executor: what a dispatch leaves
in the storage once the blockifier has run.

A revertible transaction (invoke V1, declare V1 and V2) whose `run_execute`
fails still dispatches successfully: `execute` returns its result with a
revert error, and the pallet stores it. Since the adapter writes through, the
storage it returns is the one the failed run left, changed afterwards only by
the fee transfer (`execute_reverted_keeps_failed_writes`).

The validation call and `run_execute` share one context, so what validation
emits takes the first orders, while the pallet walks the execute call's tree
from order `0`. -/
namespace Madara.Runtime

open Madara.Felt Madara.Transactions Madara.CallTree Madara.State Madara.Execution Madara.Pallet

section Revert

variable {ContractClass : Type} {blockifier : Blockifier ContractClass} {executionConfig : ExecutionConfig}

/-- A revertible execution whose `run_execute` fails returns a revert, on the
state with the failed run's writes. -/
theorem executeRevertible_of_error {executable : Executable ContractClass} {validateCallInfo : Option CallInfo}
    {state : AdapterState ContractClass} {counters : Counters} {error : TransactionExecutionError}
    (failed : (blockifier.runExecute executable state.1).2 = .error error) :
    executeRevertible blockifier executable validateCallInfo state counters =
      (⟨validateCallInfo, none, some blockifier.errorTrace⟩,
        applyStateCalls (blockifier.runExecute executable state.1).1 state) := by
  simp [executeRevertible, runExecute, failed, Except.map]

/-- A revertible execution whose `run_execute` succeeds returns no revert error. -/
theorem executeRevertible_revertError_of_ok {executable : Executable ContractClass}
    {validateCallInfo : Option CallInfo} {state : AdapterState ContractClass} {counters : Counters}
    {trace? : Option CallTrace} (succeeded : (blockifier.runExecute executable state.1).2 = .ok trace?) :
    (executeRevertible blockifier executable validateCallInfo state counters).1.revertError = none := by
  simp [executeRevertible, runExecute, succeeded, Except.map]

/-- The transactions `execute_inner` lets revert: invoke V1, declare V1 and V2. -/
def Revertible : Executable ContractClass → Prop
  | .invoke (.v1 _) _ | .declare (.v1 _) _ _ | .declare (.v2 _) _ _ => True
  | _ => False

/-- `execute_inner` of a revertible transaction: validate, then run
`run_execute` as a revertible execution in the same context. -/
theorem executeInner_of_revertible {executable : Executable ContractClass}
    (revertible : Revertible executable) (context : AccountTransactionContext)
    (state : AdapterState ContractClass) :
    executeInner blockifier executionConfig executable context state =
      (maybeValidate blockifier executionConfig executable context state .fresh >>= fun (validateCallInfo, state, counters) =>
        pure (executeRevertible blockifier executable validateCallInfo state counters)) := by
  rcases executable with ⟨_ | _, _⟩ | ⟨_ | _ | _, _, _⟩ | ⟨_, _, _⟩ | ⟨_, _, _⟩
  all_goals first | rfl | exact absurd revertible id

/-- What a revertible `execute_inner` returns with a revert error: the failed
run's writes on the state validation left. -/
theorem executeInner_reverted {executable : Executable ContractClass} {context : AccountTransactionContext}
    {state : AdapterState ContractClass} {calls : ValidateExecuteCallInfo} {after : AdapterState ContractClass}
    (revertible : Revertible executable)
    (executed : executeInner blockifier executionConfig executable context state = .ok (calls, after))
    (reverted : calls.revertError.isSome) :
    ∃ validated : AdapterState ContractClass,
      after = applyStateCalls (blockifier.runExecute executable validated.1).1 validated := by
  rw [executeInner_of_revertible revertible] at executed
  obtain ⟨⟨validateCallInfo, validated, counters⟩, -, ran⟩ := Transactional.bind_eq_ok executed
  have ran : executeRevertible blockifier executable validateCallInfo validated counters = (calls, after) :=
    Except.ok.inj ran
  cases outcome : (blockifier.runExecute executable validated.1).2 with
  | error error =>
    rw [executeRevertible_of_error outcome] at ran
    cases ran
    exact ⟨validated, rfl⟩
  | ok trace? =>
    have noRevert : (executeRevertible blockifier executable validateCallInfo validated counters).1.revertError =
        none := executeRevertible_revertError_of_ok outcome
    rw [ran] at noRevert
    rw [noRevert] at reverted
    cases reverted

/-- The fee transfer changes the state by the writes of its call. -/
theorem executeFeeTransfer_writes {blockContext : BlockContext} {context : AccountTransactionContext}
    {actualFee : U128} {state : AdapterState ContractClass} {callInfo : CallInfo}
    {after : AdapterState ContractClass}
    (transferred : executeFeeTransfer blockifier blockContext context actualFee state = .ok (callInfo, after)) :
    after = applyStateCalls (blockifier.feeTransferCall blockContext context actualFee state.1).1 state := by
  unfold executeFeeTransfer runCall at transferred
  split at transferred
  · cases transferred
  · split at transferred
    · cases transferred
    · rename_i written _ _ _ outcome
      cases transferred
      simp only [Prod.mk.injEq] at outcome
      exact outcome.1.symm

/-- What `charge_fee` can do when it succeeds: keep the state and transfer
nothing, or make the fee transfer of the fee it returns. -/
theorem chargeFee_eq_ok {blockContext : BlockContext} {context : AccountTransactionContext}
    {resources : ActualResources} {state after : AdapterState ContractClass} {fee : U128}
    {feeTransferCallInfo : Option CallInfo}
    (charged : chargeFee blockifier executionConfig blockContext context resources state =
      .ok (fee, feeTransferCallInfo, after)) :
    (after = state ∧ feeTransferCallInfo = none) ∨
      ∃ callInfo, executeFeeTransfer blockifier blockContext context fee state = .ok (callInfo, after) ∧
        feeTransferCallInfo = some callInfo := by
  unfold chargeFee at charged
  split at charged
  · cases charged
    exact .inl ⟨rfl, rfl⟩
  · obtain ⟨actualFee, -, transfer⟩ := Transactional.bind_eq_ok charged
    split at transfer
    · cases transfer
      exact .inl ⟨rfl, rfl⟩
    · obtain ⟨⟨callInfo, transferred⟩, executed, stored⟩ := Transactional.bind_eq_ok transfer
      cases stored
      exact .inr ⟨callInfo, executed, rfl⟩

/-- What `handle_fee` can do when it succeeds: what `charge_fee` can do, and
for an L1 handler keep the state and transfer nothing. -/
theorem handleFee_eq_ok {executable : Executable ContractClass} {blockContext : BlockContext}
    {context : AccountTransactionContext} {calls : ValidateExecuteCallInfo} {state after : AdapterState ContractClass}
    {fee : U128} {feeTransferCallInfo : Option CallInfo}
    (charged : handleFee blockifier executionConfig executable blockContext context calls state =
      .ok (fee, feeTransferCallInfo, after)) :
    (after = state ∧ feeTransferCallInfo = none) ∨
      ∃ callInfo, executeFeeTransfer blockifier blockContext context fee state = .ok (callInfo, after) ∧
        feeTransferCallInfo = some callInfo := by
  unfold handleFee at charged
  split at charged
  · -- an L1 handler charges nothing
    obtain ⟨_, -, computed⟩ := Transactional.bind_eq_ok charged
    obtain ⟨_, -, paid⟩ := Transactional.bind_eq_ok computed
    split at paid
    · cases paid
    · cases paid
      exact .inl ⟨rfl, rfl⟩
  · obtain ⟨resources, -, charging⟩ := Transactional.bind_eq_ok charged
    exact chargeFee_eq_ok charging

/-- `handle_fee` changes the state only by the writes of the fee transfer, if
it makes one. -/
theorem handleFee_writes {executable : Executable ContractClass} {blockContext : BlockContext}
    {context : AccountTransactionContext} {calls : ValidateExecuteCallInfo} {state : AdapterState ContractClass}
    {fee : U128} {feeTransferCallInfo : Option CallInfo} {after : AdapterState ContractClass}
    (charged : handleFee blockifier executionConfig executable blockContext context calls state =
      .ok (fee, feeTransferCallInfo, after)) :
    ∃ writes, after = applyStateCalls writes state := by
  rcases handleFee_eq_ok charged with ⟨rfl, -⟩ | ⟨callInfo, transferred, -⟩
  · exact ⟨[], rfl⟩
  · exact ⟨_, executeFeeTransfer_writes transferred⟩

/-- A reverted transaction: the storage `execute` returns is the one the failed
`run_execute` left on the validated state, changed afterwards only by the fee
transfer. Nothing restores what the failed run wrote. -/
theorem execute_reverted_keeps_failed_writes {blockContext : BlockContext}
    {executable : Executable ContractClass} {contracts after : ContractState ContractClass}
    {info : TransactionExecutionInfo} (revertible : Revertible executable)
    (executed : execute blockifier executionConfig blockContext executable contracts = .ok (info, after))
    (reverted : info.revertError.isSome) :
    ∃ validated : AdapterState ContractClass, ∃ feeWrites,
      after = (applyStateCalls feeWrites
        (applyStateCalls (blockifier.runExecute executable validated.1).1 validated)).1 := by
  obtain ⟨checked, -, rest⟩ := Transactional.bind_eq_ok executed
  obtain ⟨⟨calls, ran⟩, inner, rest⟩ := Transactional.bind_eq_ok rest
  obtain ⟨⟨fee, feeTransferCallInfo, charged⟩, handled, stored⟩ := Transactional.bind_eq_ok rest
  cases stored
  obtain ⟨validated, rfl⟩ := executeInner_reverted revertible inner reverted
  obtain ⟨feeWrites, rfl⟩ := handleFee_writes handled
  exact ⟨validated, feeWrites, rfl⟩

/-- A call of the contract at `address` that runs the given steps. -/
def callAt (address : FieldElement) (steps : List TraceStep) : CallTrace :=
  .mk ⟨none, .external, 0, [], address, 0, .call⟩ [] steps

/-- The resources of a run that used nothing: no L1 gas and no VM resource. -/
def noResources : Fee.ResourcesMapping := ⟨[(Fee.gasUsage, 0)], List.nodup_singleton Fee.gasUsage⟩

theorem noResources_computes (blockContext : BlockContext) : (Fee.calculateTxFee noResources blockContext).isSome :=
  rfl

/-- A blockifier whose calls write and emit nothing, and cost nothing. -/
def quietBlockifier : Blockifier Unit where
  validateCall _ _ := ([], .ok (callAt 5 []))
  runExecute _ _ := ([], .ok (some (callAt 5 [])))
  feeTransferCall _ _ _ _ := ([], .ok (callAt 0 []))
  noCallsToOtherContracts _ := true
  computeTransactionResources _ _ _ _ _ := .ok ⟨noResources, noResources_computes⟩
  balanceKeys address := (address, address + 1)
  errorTrace := "run_execute failed"

/-- An invoke V1 of the deployed account `5`, whose `run_execute` writes `9`
at key `1` of contract `7` and then fails: the dispatch succeeds with the
transaction reverted, the nonce is incremented, and the write of the failed
run is in `StorageView`. -/
theorem reverted_invoke_keeps_failed_storage_write :
    ∃ next, dispatch witnessConfig
        (execute { quietBlockifier with runExecute := fun _ _ => ([.setStorageAt 7 1 9], .error (.executionError .other)) }
          (.runtime false false))
        (.invoke witnessInvoke) witnessStart = .ok next ∧
      next.pending = [.invoke witnessInvoke] ∧
      next.txRevertError ((Transaction.invoke witnessInvoke).computeHash witnessConfig.crypto 0 false) =
        some "run_execute failed" ∧
      next.contracts.nonce 5 = 1 ∧
      witnessStart.contracts.storage (7, 1) = 0 ∧ next.contracts.storage (7, 1) = 9 :=
  ⟨_, rfl, rfl, rfl, rfl, rfl, rfl⟩

/-- The execute call a revertible execution returns is numbered from the
counters the validation left. -/
theorem executeRevertible_executeCallInfo {executable : Executable ContractClass}
    {validateCallInfo : Option CallInfo} {state : AdapterState ContractClass} {counters : Counters}
    {callInfo : CallInfo}
    (returned : (executeRevertible blockifier executable validateCallInfo state counters).1.executeCallInfo =
      some callInfo) :
    ∃ trace : CallTrace, callInfo = (trace.number counters).1 := by
  unfold executeRevertible runExecute at returned
  cases outcome : (blockifier.runExecute executable state.1).2 with
  | error error =>
    simp [outcome, Except.map] at returned
  | ok trace? =>
    cases trace? with
    | none => simp [outcome, Except.map] at returned
    | some trace =>
      simp only [outcome, Except.map, Option.some.injEq] at returned
      exact ⟨trace, returned.symm⟩

/-- With validation on, a transaction of a nonzero version is validated by
its validation call, and the context's counters are those that call left. -/
theorem maybeValidate_counters {executable : Executable ContractClass} {context : AccountTransactionContext}
    {state validated : AdapterState ContractClass} {validateCallInfo : Option CallInfo} {counters : Counters}
    {trace : CallTrace} (enabled : executionConfig.disableValidation = false) (versioned : context.version ≠ 0)
    (called : (blockifier.validateCall executable state.1).2 = .ok trace)
    (validation : maybeValidate blockifier executionConfig executable context state .fresh =
      .ok (validateCallInfo, validated, counters)) :
    counters = (trace.number .fresh).2 := by
  unfold maybeValidate at validation
  rw [enabled] at validation
  unfold validateTxInner at validation
  simp only [Bool.false_eq_true, ↓reduceIte, versioned, runCall, called, Except.map] at validation
  -- what remains is the check that validation called no other contract
  split at validation
  · cases validation
    rfl
  · cases validation

/-- A validation that emits an event leaves the pallet's walk of the execute
call nothing to record: for every revertible transaction executed with
validation on, if the validation call counted an event, the events that
`emit_events_in_call_info` takes from the execute call are none. -/
theorem execute_validate_event_hides_execute_events {blockContext : BlockContext}
    {executable : Executable ContractClass} {contracts after : ContractState ContractClass}
    {info : TransactionExecutionInfo} {callInfo : CallInfo} (revertible : Revertible executable)
    (enabled : executionConfig.disableValidation = false)
    (versioned : (accountTransactionContext executionConfig.offsetVersion executable).version ≠ 0)
    (validatedEvent : ∀ state, ∃ trace, (blockifier.validateCall executable state).2 = .ok trace ∧
      0 < (trace.number .fresh).2.events)
    (executed : execute blockifier executionConfig blockContext executable contracts = .ok (info, after))
    (returned : info.executeCallInfo = some callInfo) :
    emitEventsInCallInfo callInfo 0 = ([], 0) := by
  obtain ⟨checked, -, rest⟩ := Transactional.bind_eq_ok executed
  obtain ⟨⟨calls, ran⟩, inner, rest⟩ := Transactional.bind_eq_ok rest
  obtain ⟨⟨fee, feeTransferCallInfo, charged⟩, -, stored⟩ := Transactional.bind_eq_ok rest
  cases stored
  rw [executeInner_of_revertible revertible] at inner
  obtain ⟨⟨validateCallInfo, validated, counters⟩, validation, ran⟩ := Transactional.bind_eq_ok inner
  have reverted : (executeRevertible blockifier executable validateCallInfo validated counters).1 = calls :=
    congrArg Prod.fst (Except.ok.inj ran)
  rw [← reverted] at returned
  obtain ⟨validationTrace, called, counted⟩ := validatedEvent checked.1
  have numbered := maybeValidate_counters enabled versioned called validation
  obtain ⟨trace, rfl⟩ := executeRevertible_executeCallInfo returned
  rw [numbered]
  exact emitEventsInCallInfo_of_shifted trace counted

/-- An invoke V1 of account `5` whose `__validate__` emits one event and whose
execution emits another: the dispatch succeeds, and `TxEvents` of its hash is
empty, while the execute call's events and the fee transfer's, in execution
order, are the one event of the execution. -/
theorem validate_event_drops_execute_event :
    ∃ next, dispatch witnessConfig
        (execute { quietBlockifier with
            validateCall := fun _ _ => ([], .ok (callAt 5 [.event ⟨[1], []⟩]))
            runExecute := fun _ _ => ([], .ok (some (callAt 5 [.event ⟨[2], []⟩]))) }
          (.runtime false false))
        (.invoke witnessInvoke) witnessStart = .ok next ∧
      next.pending = [.invoke witnessInvoke] ∧
      next.txEvents ((Transaction.invoke witnessInvoke).computeHash witnessConfig.crypto 0 false) = [] ∧
      (callAt 5 [.event ⟨[2], []⟩]).events ++ (callAt 0 []).events = [⟨5, ⟨[2], []⟩⟩] :=
  ⟨_, rfl, rfl, rfl, rfl⟩

end Revert

section Nonces

variable {ContractClass : Type} {blockifier : Blockifier ContractClass} {executionConfig : ExecutionConfig}

/-- One blockifier call of `Execute`, with its writes landing on the adapter:
the validation call, `run_execute`, or the fee transfer. -/
inductive BlockifierStep (blockifier : Blockifier ContractClass) :
    AdapterState ContractClass → AdapterState ContractClass → Prop
  | validate (executable : Executable ContractClass) (state : AdapterState ContractClass) :
    BlockifierStep blockifier state (applyStateCalls (blockifier.validateCall executable state.1).1 state)
  | runExecute (executable : Executable ContractClass) (state : AdapterState ContractClass) :
    BlockifierStep blockifier state (applyStateCalls (blockifier.runExecute executable state.1).1 state)
  | feeTransfer (blockContext : BlockContext) (context : AccountTransactionContext) (fee : U128)
    (state : AdapterState ContractClass) :
    BlockifierStep blockifier state
      (applyStateCalls (blockifier.feeTransferCall blockContext context fee state.1).1 state)

/-- The states a sequence of blockifier calls leads to. -/
abbrev Reaches (blockifier : Blockifier ContractClass) :=
  Relation.ReflTransGen (BlockifierStep blockifier)

/-- The blockifier writes no nonce: no syscall increments one, so only
`handle_nonce` changes `Nonces`. -/
structure KeepsNonces (blockifier : Blockifier ContractClass) : Prop where
  validate : ∀ executable state, ∀ call ∈ (blockifier.validateCall executable state).1, ¬ call.IsNonceWrite
  runExecute : ∀ executable state, ∀ call ∈ (blockifier.runExecute executable state).1, ¬ call.IsNonceWrite
  feeTransfer : ∀ blockContext context fee state,
    ∀ call ∈ (blockifier.feeTransferCall blockContext context fee state).1, ¬ call.IsNonceWrite

theorem KeepsNonces.step_nonces (keeps : KeepsNonces blockifier) {state next : AdapterState ContractClass}
    (step : BlockifierStep blockifier state next) : next.1.nonces = state.1.nonces := by
  cases step with
  | validate executable => exact applyStateCalls_nonces _ (keeps.validate executable _) _
  | runExecute executable => exact applyStateCalls_nonces _ (keeps.runExecute executable _) _
  | feeTransfer blockContext context fee =>
    exact applyStateCalls_nonces _ (keeps.feeTransfer blockContext context fee _) _

/-- Along blockifier calls that write no nonce, every nonce stays. -/
theorem KeepsNonces.reaches_nonces (keeps : KeepsNonces blockifier) {state next : AdapterState ContractClass}
    (reaches : Reaches blockifier state next) : next.1.nonces = state.1.nonces := by
  induction reaches with
  | refl => rfl
  | tail _ step earlier => rw [keeps.step_nonces step, earlier]

theorem runExecute_reaches (executable : Executable ContractClass) (state : AdapterState ContractClass)
    (counters : Counters) : Reaches blockifier state (runExecute blockifier executable state counters).1 :=
  .single (.runExecute executable state)

theorem maybeValidate_reaches {executable : Executable ContractClass} {context : AccountTransactionContext}
    {state after : AdapterState ContractClass} {counters counters' : Counters} {validateCallInfo : Option CallInfo}
    (validated : maybeValidate blockifier executionConfig executable context state counters =
      .ok (validateCallInfo, after, counters')) :
    Reaches blockifier state after := by
  unfold maybeValidate at validated
  split at validated
  · cases validated
    exact .refl
  · unfold validateTxInner at validated
    split at validated
    · cases validated
      exact .refl
    · unfold runCall at validated
      split at validated
      · cases validated
      · rename_i newState callInfo newCounters outcome
        simp only [Prod.mk.injEq] at outcome
        obtain ⟨rfl, -⟩ := outcome
        -- the check that validation called no other contract
        split at validated
        · cases validated
          exact .single (.validate executable state)
        · cases validated

theorem executeAccepted_reaches {executable : Executable ContractClass} {validateCallInfo : Option CallInfo}
    {state after : AdapterState ContractClass} {counters : Counters} {calls : ValidateExecuteCallInfo}
    (executed : executeAccepted blockifier executable validateCallInfo state counters = .ok (calls, after)) :
    Reaches blockifier state after := by
  unfold executeAccepted at executed
  split at executed
  · cases executed
  · rename_i ran _ _ outcome
    cases executed
    have state_eq : (runExecute blockifier executable state counters).1 = after := congrArg Prod.fst outcome
    exact state_eq ▸ runExecute_reaches executable state counters

/-- A revertible execution ends on the state `run_execute` left, whatever its outcome. -/
theorem executeRevertible_state (executable : Executable ContractClass) (validateCallInfo : Option CallInfo)
    (state : AdapterState ContractClass) (counters : Counters) :
    (executeRevertible blockifier executable validateCallInfo state counters).2 =
      (runExecute blockifier executable state counters).1 := by
  unfold executeRevertible
  split
  all_goals
    rename_i outcome
    rw [outcome]

/-- A revertible `execute_inner` reaches its state by validation, then
`run_execute`. -/
theorem executeInner_reaches_of_revertible {executable : Executable ContractClass}
    {context : AccountTransactionContext} {state after : AdapterState ContractClass}
    {calls : ValidateExecuteCallInfo} (revertible : Revertible executable)
    (executed : executeInner blockifier executionConfig executable context state = .ok (calls, after)) :
    Reaches blockifier state after := by
  rw [executeInner_of_revertible revertible] at executed
  obtain ⟨⟨validateCallInfo, validated, counters⟩, validation, reverted⟩ := Transactional.bind_eq_ok executed
  have after_eq : after = (executeRevertible blockifier executable validateCallInfo validated counters).2 :=
    (congrArg Prod.snd (Except.ok.inj reverted)).symm
  rw [after_eq, executeRevertible_state]
  exact (maybeValidate_reaches validation).tail (.runExecute executable validated)

/-- `execute_inner` reaches its state by blockifier calls: validation and
`run_execute`, in the order of the transaction's kind. -/
theorem executeInner_reaches {executable : Executable ContractClass} {context : AccountTransactionContext}
    {state after : AdapterState ContractClass} {calls : ValidateExecuteCallInfo}
    (executed : executeInner blockifier executionConfig executable context state = .ok (calls, after)) :
    Reaches blockifier state after := by
  cases executable with
  | invoke tx txHash =>
    cases tx with
    | v0 tx =>
      obtain ⟨⟨validateCallInfo, validated, counters⟩, validation, accepted⟩ := Transactional.bind_eq_ok executed
      exact (maybeValidate_reaches validation).trans (executeAccepted_reaches accepted)
    | v1 tx => exact executeInner_reaches_of_revertible (by exact trivial) executed
  | declare tx contractClass txHash =>
    cases tx with
    | v0 tx =>
      obtain ⟨⟨validateCallInfo, validated, counters⟩, validation, accepted⟩ := Transactional.bind_eq_ok executed
      exact (maybeValidate_reaches validation).trans (executeAccepted_reaches accepted)
    | v1 tx | v2 tx => exact executeInner_reaches_of_revertible (by exact trivial) executed
  | deployAccount tx txHash contractAddress =>
    -- the constructor runs first, validation after it
    dsimp only [executeInner] at executed
    split at executed
    · cases executed
    · rename_i constructed _ _ ran
      obtain ⟨⟨validateCallInfo, validated, counters⟩, validation, stored⟩ := Transactional.bind_eq_ok executed
      cases stored
      have ran_state : (runExecute blockifier _ state .fresh).1 = constructed := congrArg Prod.fst ran
      have constructed_reached : Reaches blockifier state constructed := ran_state ▸ runExecute_reaches _ state .fresh
      exact constructed_reached.trans (maybeValidate_reaches validation)
  | l1Handler tx paidFeeOnL1 txHash => exact executeAccepted_reaches executed

/-- `handle_fee` reaches its state by the fee transfer, if it makes one. -/
theorem handleFee_reaches {executable : Executable ContractClass} {blockContext : BlockContext}
    {context : AccountTransactionContext} {calls : ValidateExecuteCallInfo} {state : AdapterState ContractClass}
    {fee : U128} {feeTransferCallInfo : Option CallInfo} {after : AdapterState ContractClass}
    (charged : handleFee blockifier executionConfig executable blockContext context calls state =
      .ok (fee, feeTransferCallInfo, after)) :
    Reaches blockifier state after := by
  rcases handleFee_eq_ok charged with ⟨rfl, -⟩ | ⟨callInfo, transferred, -⟩
  · exact .refl
  · rw [executeFeeTransfer_writes transferred]
    exact .single (.feeTransfer _ _ _ _)

/-- `handle_nonce` of a transaction of version `0` checks nothing. -/
theorem handleNonce_of_version_zero {context : AccountTransactionContext} (state : AdapterState ContractClass)
    (unversioned : context.version = 0) : handleNonce context state = .ok state := by
  simp [handleNonce, unversioned]

/-- `handle_nonce` of a versioned transaction: the sender's nonce was the
transaction's, and is now one more. -/
theorem handleNonce_of_versioned {context : AccountTransactionContext} {state after : AdapterState ContractClass}
    (versioned : context.version ≠ 0) (checked : handleNonce context state = .ok after) :
    state.1.nonce context.senderAddress = context.nonce ∧
      after.1.nonces = Function.update state.1.nonces context.senderAddress (some (context.nonce + 1)) := by
  unfold handleNonce at checked
  rw [if_neg versioned] at checked
  dsimp only at checked
  split at checked
  · cases checked
  · rename_i same
    cases checked
    have same : state.1.nonce context.senderAddress = context.nonce := not_not.mp same
    refine ⟨same, ?_⟩
    obtain ⟨contracts, adapter⟩ := state
    rw [← same]
    rfl

/-- `handle_nonce` accepts a transaction whose nonce is the sender's. -/
theorem handleNonce_of_nonce {context : AccountTransactionContext} {state : AdapterState ContractClass}
    (same : state.1.nonce context.senderAddress = context.nonce) : ∃ after, handleNonce context state = .ok after := by
  unfold handleNonce
  split
  · exact ⟨state, rfl⟩
  · dsimp only
    rw [if_neg (not_not.mpr same)]
    exact ⟨_, rfl⟩

/-- With nonce validation on, the fee balance check changes nothing after
`handle_nonce`. -/
theorem handleNonceAndCheckFeeBalance_handleNonce {blockContext : BlockContext}
    {context : AccountTransactionContext} {state after : AdapterState ContractClass}
    (enabled : executionConfig.disableNonceValidation = false)
    (checked : handleNonceAndCheckFeeBalance blockifier executionConfig blockContext context state = .ok after) :
    handleNonce context state = .ok after := by
  unfold handleNonceAndCheckFeeBalance at checked
  rw [enabled] at checked
  obtain ⟨nonced, handled, balance⟩ := Transactional.bind_eq_ok checked
  dsimp only at balance
  -- the balance check either throws or returns the state `handle_nonce` left
  split at balance
  · split at balance
    · cases balance
    · cases balance
      exact handled
  · cases balance
    exact handled

/-- A successful `execute` with nonce validation on passed `handle_nonce` on
the fresh adapter, and reached its storage from there by blockifier calls. -/
theorem execute_passes_handleNonce {blockContext : BlockContext} {executable : Executable ContractClass}
    {contracts after : ContractState ContractClass} {info : TransactionExecutionInfo}
    (enabled : executionConfig.disableNonceValidation = false)
    (executed : execute blockifier executionConfig blockContext executable contracts = .ok (info, after)) :
    ∃ checked final : AdapterState ContractClass,
      handleNonce (accountTransactionContext executionConfig.offsetVersion executable) (contracts, .default) =
        .ok checked ∧ Reaches blockifier checked final ∧ after = final.1 := by
  obtain ⟨checked, nonced, rest⟩ := Transactional.bind_eq_ok executed
  obtain ⟨⟨calls, ran⟩, inner, rest⟩ := Transactional.bind_eq_ok rest
  obtain ⟨⟨fee, feeTransferCallInfo, charged⟩, handled, stored⟩ := Transactional.bind_eq_ok rest
  cases stored
  exact ⟨checked, charged, handleNonceAndCheckFeeBalance_handleNonce enabled nonced,
    (executeInner_reaches inner).trans (handleFee_reaches handled), rfl⟩

section Keeps

variable (keeps : KeepsNonces blockifier) (enabled : executionConfig.disableNonceValidation = false)
include keeps enabled

/-- `execute` of a transaction of version `0` changes no nonce. -/
theorem execute_nonces_of_version_zero {blockContext : BlockContext} {executable : Executable ContractClass}
    {contracts after : ContractState ContractClass} {info : TransactionExecutionInfo}
    (unversioned : (accountTransactionContext executionConfig.offsetVersion executable).version = 0)
    (executed : execute blockifier executionConfig blockContext executable contracts = .ok (info, after)) :
    after.nonces = contracts.nonces := by
  obtain ⟨checked, final, nonced, reached, rfl⟩ := execute_passes_handleNonce enabled executed
  rw [handleNonce_of_version_zero _ unversioned] at nonced
  cases nonced
  exact keeps.reaches_nonces reached

/-- `execute` of a versioned transaction: the sender's nonce was the
transaction's, and only it changed, to one more. -/
theorem execute_nonces_of_versioned {blockContext : BlockContext} {executable : Executable ContractClass}
    {contracts after : ContractState ContractClass} {info : TransactionExecutionInfo}
    (versioned : (accountTransactionContext executionConfig.offsetVersion executable).version ≠ 0)
    (executed : execute blockifier executionConfig blockContext executable contracts = .ok (info, after)) :
    let context := accountTransactionContext executionConfig.offsetVersion executable
    contracts.nonce context.senderAddress = context.nonce ∧
      after.nonces = Function.update contracts.nonces context.senderAddress (some (context.nonce + 1)) := by
  obtain ⟨checked, final, nonced, reached, rfl⟩ := execute_passes_handleNonce enabled executed
  obtain ⟨same, incremented⟩ := handleNonce_of_versioned versioned nonced
  exact ⟨same, (keeps.reaches_nonces reached).trans incremented⟩

end Keeps

/-- The quiet blockifier writes nothing at all. -/
theorem quietBlockifier_keepsNonces : KeepsNonces quietBlockifier where
  validate _ _ _ written := nomatch written
  runExecute _ _ _ written := nomatch written
  feeTransfer _ _ _ _ _ written := nomatch written

end Nonces

end Madara.Runtime

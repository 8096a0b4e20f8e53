import Madara.TraceApi

/-! The trace of one transaction (`tx_execution_infos_to_tx_trace` in
`client/rpc/src/trace_api.rs`). It converts the validation's call tree, then
the fee transfer's, then the execution's, through one class-hash cache shared
by the three conversions, and puts them in the trace of the transaction's type.

1. **The shared cache changes nothing.** The trace is the one each call tree
   converted on its own, from an empty cache, gives
   (`txExecutionInfosToTxTrace_eq_traceOfEachCall`), since a conversion from
   any sound cache agrees with one from the empty cache
   (`convertCallInfo_agree`).
2. **What a trace holds.** Every invocation of a trace is the conversion of its
   call tree, and an invoke that was reverted carries its revert reason instead
   of an execution (`TraceConverts`, `txExecutionInfosToTxTrace_converts`). -/
namespace Madara.TxTrace

open Madara.Felt Madara.CallTree Madara.State Madara.TraceApi Transactional Relational

/-- `mp_transactions::TxType`. -/
inductive TxType where
  | invoke
  | declare
  | deployAccount
  | l1Handler
  deriving DecidableEq, Repr

/-- `starknet_core::types::ExecuteInvocation`. -/
inductive ExecuteInvocation where
  | success (invocation : FunctionInvocation)
  | reverted (revertReason : String)
  deriving Repr

/-- `starknet_core::types::TransactionTrace`, without the `state_diff` that
every variant sets to `None`. -/
inductive TransactionTrace where
  | invoke (validateInvocation : Option FunctionInvocation) (executeInvocation : ExecuteInvocation)
      (feeTransferInvocation : Option FunctionInvocation)
  | declare (validateInvocation feeTransferInvocation : Option FunctionInvocation)
  | deployAccount (validateInvocation : Option FunctionInvocation) (constructorInvocation : FunctionInvocation)
      (feeTransferInvocation : Option FunctionInvocation)
  | l1Handler (functionInvocation : FunctionInvocation)
  deriving Repr

/-- `ConvertCallInfoToExecuteInvocationError`. -/
inductive ConvertCallInfoToExecuteInvocationError where
  | transactionExecutionFailed
  | getFunctionInvocation (error : TryFuntionInvocationFromCallInfoError)
  deriving DecidableEq, Repr

section Conversion

variable (contractClassHashByAddress : FieldElement → Option FieldElement)
  (getSortedL2ToL1PayloadsLength : CallInfo → Except TransactionExecutionError (List Nat))

/-- `try_get_funtion_invocation_from_call_info` with the shared cache, its
error taken into `ConvertCallInfoToExecuteInvocationError` by `?`. -/
def convertCallInfo (callInfo : CallInfo) (classHashCache : ClassHashCache) :
    Except ConvertCallInfoToExecuteInvocationError (FunctionInvocation × ClassHashCache) :=
  (tryGetFuntionInvocationFromCallInfo contractClassHashByAddress getSortedL2ToL1PayloadsLength callInfo
    classHashCache).mapError ConvertCallInfoToExecuteInvocationError.getFunctionInvocation

/-- `.as_ref().map(..).transpose()?` on a call tree that a simulation may skip. -/
def convertOptionalCallInfo : Option CallInfo → ClassHashCache →
    Except ConvertCallInfoToExecuteInvocationError (Option FunctionInvocation × ClassHashCache)
  | none, classHashCache => .ok (none, classHashCache)
  | some callInfo, classHashCache => do
    let (invocation, classHashCache) ← convertCallInfo contractClassHashByAddress getSortedL2ToL1PayloadsLength
      callInfo classHashCache
    pure (some invocation, classHashCache)

/-- `tx_exec_info.execute_call_info.as_ref().unwrap()` converted with the
cache: a panic when the transaction has no execute call. -/
def convertExecuteCallInfo (txExecInfo : TransactionExecutionInfo) (classHashCache : ClassHashCache) :
    ExceptT ConvertCallInfoToExecuteInvocationError Option FunctionInvocation := do
  let callInfo ← ExceptT.lift txExecInfo.executeCallInfo
  let (invocation, _) ← liftM (convertCallInfo contractClassHashByAddress getSortedL2ToL1PayloadsLength
    callInfo classHashCache)
  pure invocation

/-- The `execute_invocation` of an invoke: its revert reason, else its
execute call converted. -/
def executeInvocationOf (txExecInfo : TransactionExecutionInfo) (classHashCache : ClassHashCache) :
    ExceptT ConvertCallInfoToExecuteInvocationError Option ExecuteInvocation :=
  match txExecInfo.revertError with
  | some revertReason => pure (.reverted revertReason)
  | none => do
    let invocation ← convertExecuteCallInfo contractClassHashByAddress getSortedL2ToL1PayloadsLength txExecInfo
      classHashCache
    pure (.success invocation)

/-- `tx_execution_infos_to_tx_trace`: the validation, then the fee transfer,
then the execution the transaction's type asks for, all through one cache. -/
def txExecutionInfosToTxTrace (txType : TxType) (txExecInfo : TransactionExecutionInfo) :
    ExceptT ConvertCallInfoToExecuteInvocationError Option TransactionTrace := do
  let (validateInvocation, classHashCache) ←
    liftM (convertOptionalCallInfo contractClassHashByAddress getSortedL2ToL1PayloadsLength
      txExecInfo.validateCallInfo fun _ => none)
  let (feeTransferInvocation, classHashCache) ←
    liftM (convertOptionalCallInfo contractClassHashByAddress getSortedL2ToL1PayloadsLength
      txExecInfo.feeTransferCallInfo classHashCache)
  match txType with
  | .invoke => do
    let executeInvocation ← executeInvocationOf contractClassHashByAddress getSortedL2ToL1PayloadsLength txExecInfo
      classHashCache
    pure (.invoke validateInvocation executeInvocation feeTransferInvocation)
  | .declare => pure (.declare validateInvocation feeTransferInvocation)
  | .deployAccount => do
    let constructorInvocation ← convertExecuteCallInfo contractClassHashByAddress getSortedL2ToL1PayloadsLength
      txExecInfo classHashCache
    pure (.deployAccount validateInvocation constructorInvocation feeTransferInvocation)
  | .l1Handler => do
    let functionInvocation ← convertExecuteCallInfo contractClassHashByAddress getSortedL2ToL1PayloadsLength
      txExecInfo classHashCache
    pure (.l1Handler functionInvocation)

/-! ### Each call tree on its own -/

/-- A call tree converted on its own, from an empty cache. -/
def convertAlone (callInfo : CallInfo) : Except ConvertCallInfoToExecuteInvocationError FunctionInvocation :=
  (convertCallInfo contractClassHashByAddress getSortedL2ToL1PayloadsLength callInfo fun _ => none).map Prod.fst

/-- The execute call converted on its own. -/
def executeAlone (txExecInfo : TransactionExecutionInfo) :
    ExceptT ConvertCallInfoToExecuteInvocationError Option FunctionInvocation := do
  let callInfo ← ExceptT.lift txExecInfo.executeCallInfo
  liftM (convertAlone contractClassHashByAddress getSortedL2ToL1PayloadsLength callInfo)

/-- The `execute_invocation` of an invoke with its execute call converted on
its own. -/
def executeInvocationAlone (txExecInfo : TransactionExecutionInfo) :
    ExceptT ConvertCallInfoToExecuteInvocationError Option ExecuteInvocation :=
  match txExecInfo.revertError with
  | some revertReason => pure (.reverted revertReason)
  | none => do
    let invocation ← executeAlone contractClassHashByAddress getSortedL2ToL1PayloadsLength txExecInfo
    pure (.success invocation)

/-- The trace that converts each call tree on its own: what the shared cache
should not change. -/
def traceOfEachCall (txType : TxType) (txExecInfo : TransactionExecutionInfo) :
    ExceptT ConvertCallInfoToExecuteInvocationError Option TransactionTrace := do
  let validateInvocation ←
    liftM (txExecInfo.validateCallInfo.mapM (convertAlone contractClassHashByAddress getSortedL2ToL1PayloadsLength))
  let feeTransferInvocation ←
    liftM (txExecInfo.feeTransferCallInfo.mapM (convertAlone contractClassHashByAddress getSortedL2ToL1PayloadsLength))
  match txType with
  | .invoke => do
    let executeInvocation ← executeInvocationAlone contractClassHashByAddress getSortedL2ToL1PayloadsLength txExecInfo
    pure (.invoke validateInvocation executeInvocation feeTransferInvocation)
  | .declare => pure (.declare validateInvocation feeTransferInvocation)
  | .deployAccount => do
    let constructorInvocation ← executeAlone contractClassHashByAddress getSortedL2ToL1PayloadsLength txExecInfo
    pure (.deployAccount validateInvocation constructorInvocation feeTransferInvocation)
  | .l1Handler => do
    let functionInvocation ← executeAlone contractClassHashByAddress getSortedL2ToL1PayloadsLength txExecInfo
    pure (.l1Handler functionInvocation)

/-- A conversion from a sound cache that gave the value on its own. -/
def AloneFrom {α : Type} : α × ClassHashCache → α → Prop
  | (value, classHashCache), value' => value = value' ∧ CacheSound contractClassHashByAddress classHashCache

/-- A conversion from a sound cache agrees with the one on its own. -/
theorem convertCallInfo_agree (callInfo : CallInfo) {classHashCache : ClassHashCache}
    (sound : CacheSound contractClassHashByAddress classHashCache) :
    Agree (AloneFrom contractClassHashByAddress)
      (convertCallInfo contractClassHashByAddress getSortedL2ToL1PayloadsLength callInfo classHashCache)
      (convertAlone contractClassHashByAddress getSortedL2ToL1PayloadsLength callInfo) := by
  have agree := (tryGetFuntionInvocationFromCallInfo_agree contractClassHashByAddress getSortedL2ToL1PayloadsLength
    callInfo sound (cacheSound_empty contractClassHashByAddress)).mapError
      ConvertCallInfoToExecuteInvocationError.getFunctionInvocation
  refine agree.map_right ?_
  rintro ⟨invocation, next⟩ ⟨_, _⟩ ⟨rfl, nextSound, -⟩
  exact ⟨rfl, nextSound⟩

theorem convertOptionalCallInfo_agree (callInfo : Option CallInfo) {classHashCache : ClassHashCache}
    (sound : CacheSound contractClassHashByAddress classHashCache) :
    Agree (AloneFrom contractClassHashByAddress)
      (convertOptionalCallInfo contractClassHashByAddress getSortedL2ToL1PayloadsLength callInfo classHashCache)
      (callInfo.mapM (convertAlone contractClassHashByAddress getSortedL2ToL1PayloadsLength)) := by
  cases callInfo with
  | none => exact Agree.ok ⟨rfl, sound⟩
  | some callInfo =>
    rw [convertOptionalCallInfo, Option.mapM_some, ← bind_pure_comp]
    refine Agree.bind (convertCallInfo_agree contractClassHashByAddress getSortedL2ToL1PayloadsLength callInfo sound) ?_
    rintro ⟨invocation, next⟩ _ ⟨rfl, nextSound⟩
    exact Agree.ok ⟨rfl, nextSound⟩

theorem convertExecuteCallInfo_agree (txExecInfo : TransactionExecutionInfo) {classHashCache : ClassHashCache}
    (sound : CacheSound contractClassHashByAddress classHashCache) :
    AgreeT Eq (convertExecuteCallInfo contractClassHashByAddress getSortedL2ToL1PayloadsLength txExecInfo classHashCache)
      (executeAlone contractClassHashByAddress getSortedL2ToL1PayloadsLength txExecInfo) := by
  unfold convertExecuteCallInfo executeAlone
  refine AgreeT.bind (AgreeT.liftOption _ Eq.refl) ?_
  rintro callInfo _ rfl
  rw [← bind_pure (liftM (convertAlone _ _ callInfo))]
  refine AgreeT.bind (AgreeT.lift (convertCallInfo_agree contractClassHashByAddress getSortedL2ToL1PayloadsLength
    callInfo sound)) ?_
  rintro ⟨invocation, _⟩ _ ⟨rfl, -⟩
  exact AgreeT.pure rfl

theorem executeInvocationOf_agree (txExecInfo : TransactionExecutionInfo) {classHashCache : ClassHashCache}
    (sound : CacheSound contractClassHashByAddress classHashCache) :
    AgreeT Eq (executeInvocationOf contractClassHashByAddress getSortedL2ToL1PayloadsLength txExecInfo classHashCache)
      (executeInvocationAlone contractClassHashByAddress getSortedL2ToL1PayloadsLength txExecInfo) := by
  unfold executeInvocationOf executeInvocationAlone
  cases txExecInfo.revertError with
  | some revertReason => exact AgreeT.pure rfl
  | none =>
    refine AgreeT.bind (convertExecuteCallInfo_agree contractClassHashByAddress getSortedL2ToL1PayloadsLength
      txExecInfo sound) ?_
    rintro invocation _ rfl
    exact AgreeT.pure rfl

/-- The shared cache changes nothing: the trace is the one each call tree
converted on its own gives, with the same errors and the same panics. -/
theorem txExecutionInfosToTxTrace_eq_traceOfEachCall (txType : TxType) (txExecInfo : TransactionExecutionInfo) :
    txExecutionInfosToTxTrace contractClassHashByAddress getSortedL2ToL1PayloadsLength txType txExecInfo =
      traceOfEachCall contractClassHashByAddress getSortedL2ToL1PayloadsLength txType txExecInfo := by
  apply AgreeT.eq
  unfold txExecutionInfosToTxTrace traceOfEachCall
  -- the validation from the empty cache, then the fee transfer from the cache it left
  refine AgreeT.bind (AgreeT.lift (convertOptionalCallInfo_agree contractClassHashByAddress
    getSortedL2ToL1PayloadsLength _ (cacheSound_empty contractClassHashByAddress))) ?_
  rintro ⟨validateInvocation, afterValidate⟩ _ ⟨rfl, validateSound⟩
  refine AgreeT.bind (AgreeT.lift (convertOptionalCallInfo_agree contractClassHashByAddress
    getSortedL2ToL1PayloadsLength _ validateSound)) ?_
  rintro ⟨feeTransferInvocation, afterFeeTransfer⟩ _ ⟨rfl, feeTransferSound⟩
  -- then the execution the type asks for, from the cache the two left
  have executed := convertExecuteCallInfo_agree contractClassHashByAddress getSortedL2ToL1PayloadsLength txExecInfo
    feeTransferSound
  cases txType with
  | invoke =>
    refine AgreeT.bind (executeInvocationOf_agree contractClassHashByAddress getSortedL2ToL1PayloadsLength txExecInfo
      feeTransferSound) ?_
    rintro executeInvocation _ rfl
    exact AgreeT.pure rfl
  | declare => exact AgreeT.pure rfl
  | deployAccount =>
    refine AgreeT.bind executed ?_
    rintro constructorInvocation _ rfl
    exact AgreeT.pure rfl
  | l1Handler =>
    refine AgreeT.bind executed ?_
    rintro functionInvocation _ rfl
    exact AgreeT.pure rfl

/-! ### What a trace holds -/

/-- The `execute_invocation` an invoke should carry: its revert reason when it
was reverted, else the conversion of its execute call. -/
def ExecuteConverts (txExecInfo : TransactionExecutionInfo) : ExecuteInvocation → Prop
  | .reverted revertReason => txExecInfo.revertError = some revertReason
  | .success invocation =>
    txExecInfo.revertError = none ∧ Option.Rel (Converts contractClassHashByAddress) txExecInfo.executeCallInfo
      (some invocation)

/-- The trace a transaction should get: the variant of its type, and each
invocation the conversion of its call tree. -/
def TraceConverts (txType : TxType) (txExecInfo : TransactionExecutionInfo) : TransactionTrace → Prop
  | .invoke validateInvocation executeInvocation feeTransferInvocation =>
    txType = .invoke ∧ Option.Rel (Converts contractClassHashByAddress) txExecInfo.validateCallInfo validateInvocation ∧
      ExecuteConverts contractClassHashByAddress txExecInfo executeInvocation ∧
      Option.Rel (Converts contractClassHashByAddress) txExecInfo.feeTransferCallInfo feeTransferInvocation
  | .declare validateInvocation feeTransferInvocation =>
    txType = .declare ∧ Option.Rel (Converts contractClassHashByAddress) txExecInfo.validateCallInfo validateInvocation ∧
      Option.Rel (Converts contractClassHashByAddress) txExecInfo.feeTransferCallInfo feeTransferInvocation
  | .deployAccount validateInvocation constructorInvocation feeTransferInvocation =>
    txType = .deployAccount ∧
      Option.Rel (Converts contractClassHashByAddress) txExecInfo.validateCallInfo validateInvocation ∧
      Option.Rel (Converts contractClassHashByAddress) txExecInfo.executeCallInfo (some constructorInvocation) ∧
      Option.Rel (Converts contractClassHashByAddress) txExecInfo.feeTransferCallInfo feeTransferInvocation
  | .l1Handler functionInvocation =>
    txType = .l1Handler ∧
      Option.Rel (Converts contractClassHashByAddress) txExecInfo.executeCallInfo (some functionInvocation)

theorem convertAlone_converts {callInfo : CallInfo} {invocation : FunctionInvocation}
    (converted : convertAlone contractClassHashByAddress getSortedL2ToL1PayloadsLength callInfo = .ok invocation) :
    Converts contractClassHashByAddress callInfo invocation := by
  unfold convertAlone convertCallInfo at converted
  cases result : tryGetFuntionInvocationFromCallInfo contractClassHashByAddress getSortedL2ToL1PayloadsLength callInfo
      fun _ => none with
  | error error =>
    rw [result] at converted
    cases converted
  | ok value =>
    rw [result] at converted
    cases converted
    exact (tryGetFuntionInvocationFromCallInfo_converts contractClassHashByAddress getSortedL2ToL1PayloadsLength
      callInfo (cacheSound_empty contractClassHashByAddress) result).1

theorem mapM_convertAlone_converts {callInfo : Option CallInfo} {invocation : Option FunctionInvocation}
    (converted : callInfo.mapM (convertAlone contractClassHashByAddress getSortedL2ToL1PayloadsLength) =
      .ok invocation) :
    Option.Rel (Converts contractClassHashByAddress) callInfo invocation := by
  cases callInfo with
  | none =>
    cases converted
    exact .none
  | some callInfo =>
    rw [Option.mapM_some] at converted
    cases alone : convertAlone contractClassHashByAddress getSortedL2ToL1PayloadsLength callInfo with
    | error error =>
      rw [alone] at converted
      cases converted
    | ok value =>
      rw [alone] at converted
      cases converted
      exact .some (convertAlone_converts contractClassHashByAddress getSortedL2ToL1PayloadsLength alone)

theorem executeAlone_converts {txExecInfo : TransactionExecutionInfo} {invocation : FunctionInvocation}
    (executed : (executeAlone contractClassHashByAddress getSortedL2ToL1PayloadsLength txExecInfo).run =
      some (.ok invocation)) :
    Option.Rel (Converts contractClassHashByAddress) txExecInfo.executeCallInfo (some invocation) := by
  obtain ⟨callInfo, present, converted⟩ := run_bind_eq_ok executed
  have alone : convertAlone contractClassHashByAddress getSortedL2ToL1PayloadsLength callInfo = .ok invocation :=
    Option.some.inj converted
  cases execute : txExecInfo.executeCallInfo with
  | none =>
    rw [execute] at present
    cases present
  | some callInfo' =>
    rw [execute] at present
    cases present
    exact .some (convertAlone_converts contractClassHashByAddress getSortedL2ToL1PayloadsLength alone)

theorem executeInvocationAlone_converts {txExecInfo : TransactionExecutionInfo} {executeInvocation : ExecuteInvocation}
    (executed : (executeInvocationAlone contractClassHashByAddress getSortedL2ToL1PayloadsLength txExecInfo).run =
      some (.ok executeInvocation)) :
    ExecuteConverts contractClassHashByAddress txExecInfo executeInvocation := by
  unfold executeInvocationAlone at executed
  split at executed
  · next reverted =>
    cases executed
    exact reverted
  · next notReverted =>
    obtain ⟨invocation, converted, finished⟩ := run_bind_eq_ok executed
    cases finished
    exact ⟨notReverted, executeAlone_converts contractClassHashByAddress getSortedL2ToL1PayloadsLength converted⟩

/-- A trace the conversion returns holds what the transaction's trace should. -/
theorem txExecutionInfosToTxTrace_converts {txType : TxType} {txExecInfo : TransactionExecutionInfo}
    {trace : TransactionTrace}
    (traced : (txExecutionInfosToTxTrace contractClassHashByAddress getSortedL2ToL1PayloadsLength txType
      txExecInfo).run = some (.ok trace)) :
    TraceConverts contractClassHashByAddress txType txExecInfo trace := by
  rw [txExecutionInfosToTxTrace_eq_traceOfEachCall, traceOfEachCall] at traced
  obtain ⟨validateInvocation, validated, traced⟩ := run_bind_eq_ok traced
  have validateConverts := mapM_convertAlone_converts contractClassHashByAddress getSortedL2ToL1PayloadsLength
    (Option.some.inj validated)
  obtain ⟨feeTransferInvocation, feeTransferred, traced⟩ := run_bind_eq_ok traced
  have feeTransferConverts := mapM_convertAlone_converts contractClassHashByAddress getSortedL2ToL1PayloadsLength
    (Option.some.inj feeTransferred)
  cases txType with
  | invoke =>
    obtain ⟨executeInvocation, executed, finished⟩ := run_bind_eq_ok traced
    cases finished
    exact ⟨rfl, validateConverts,
      executeInvocationAlone_converts contractClassHashByAddress getSortedL2ToL1PayloadsLength executed,
      feeTransferConverts⟩
  | declare =>
    cases traced
    exact ⟨rfl, validateConverts, feeTransferConverts⟩
  | deployAccount =>
    obtain ⟨constructorInvocation, executed, finished⟩ := run_bind_eq_ok traced
    cases finished
    exact ⟨rfl, validateConverts, executeAlone_converts contractClassHashByAddress getSortedL2ToL1PayloadsLength
      executed, feeTransferConverts⟩
  | l1Handler =>
    obtain ⟨functionInvocation, executed, finished⟩ := run_bind_eq_ok traced
    cases finished
    exact ⟨rfl, executeAlone_converts contractClassHashByAddress getSortedL2ToL1PayloadsLength executed⟩

/-- An invoke whose execute call sends a message after an inner call's. -/
def messagingInvoke : TransactionExecutionInfo :=
  ⟨none, some (messageAfterInnerCall.number .fresh).1, none, 0, none⟩

theorem txExecutionInfosToTxTrace_converts_messaging_invoke :
    ∃ trace, (txExecutionInfosToTxTrace (fun _ => none) (fun _ => .ok []) .invoke messagingInvoke).run =
        some (.ok trace) ∧
      TraceConverts (fun _ => none) .invoke messagingInvoke trace := by
  obtain ⟨trace, traced⟩ : ∃ trace,
      (txExecutionInfosToTxTrace (fun _ => none) (fun _ => .ok []) .invoke messagingInvoke).run = some (.ok trace) :=
    ⟨_, rfl⟩
  exact ⟨trace, traced, txExecutionInfosToTxTrace_converts (fun _ => none) (fun _ => .ok []) traced⟩

end Conversion

end Madara.TxTrace

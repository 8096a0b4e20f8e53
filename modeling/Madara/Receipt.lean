import Madara.BlockEvents
import Madara.Runtime

/-! The fee `get_transaction_receipt` reports (`client/rpc/src/lib.rs`). With
transaction fees enabled, the RPC reads the third data word of the
transaction's last event. It trusts that this event is the fee token's
`Transfer` of the fee: `emit_and_store_tx_and_fees_events` stores the fee
transfer's events after those of the execute call.

1. **A charged transaction reports its transfer.** When the fee transfer's
   events end with a `Transfer` whose data are the sender, the recipient and
   the two words of the amount, the receipt reports the low word
   (`actualFee_of_transfer`). In every block, the receipt of a transaction
   that succeeded reads exactly the events its execution stored, so it reports
   that low word (`uncached_receipt_reads_own_events`).
2. **An L1 handler does not report zero.** `handle_fee` of an L1 handler
   charges nothing and makes no fee transfer (`execute_l1Handler`), so the
   last event is the handler's own (`actualFee_of_l1Handler`). In every block,
   the receipt of an L1 handler reports that event's third data word
   (`uncached_receipt_of_l1Handler`), and panics when the handler emitted no
   event or its last event has fewer than three data words
   (`receipt_panics_for_quiet_l1_handler`). -/
namespace Madara.Receipt

open Madara.Felt Madara.Transactions Madara.CallTree Madara.State Madara.Execution Madara.Pallet
open Madara.BlockEvents
open Madara.Overrides (StarknetRpcApiError)

/-- The `actual_fee` of `get_transaction_receipt`: zero with transaction fees
disabled, else `data[2]` of the transaction's last event. `none` is a panic,
of the `unwrap` of no last event or of the index past the event's data. -/
def actualFee (feeDisabled : Bool) (events : List Event) : Option FieldElement :=
  if feeDisabled then some 0
  else do
    let last ← events.getLast?
    last.content.data[2]?

section Rpc

variable {ContractClass : Type} (crypto : Crypto) (chainId : Felt252Wrapper)

/-- `get_transaction_receipt` up to its `actual_fee`: the transaction's events
as the receipt finds them, then the fee read from them. -/
def receiptActualFee (feeDisabled : Bool) (blockExtrinsics : List (Extrinsic ContractClass))
    (records : List (Phase × Event)) (txnHashes : Option (List FieldElement)) (transactionHash : Felt252Wrapper) :
    Except StarknetRpcApiError (Option FieldElement) := do
  let (_, _, events) ← getTransactionReceipt crypto chainId blockExtrinsics records txnHashes transactionHash
  pure (actualFee feeDisabled events)

end Rpc

/-! ### The fee an execution stores events for -/

/-- The events of the execute call, walked from order `0`. -/
def executeEvents (info : TransactionExecutionInfo) : List Event :=
  (info.executeCallInfo.map fun callInfo => (emitEventsInCallInfo callInfo 0).1).getD []

/-- The events of the fee transfer, walked from order `0`. -/
def feeTransferEvents (info : TransactionExecutionInfo) : List Event :=
  (info.feeTransferCallInfo.map fun callInfo => (emitEventsInCallInfo callInfo 0).1).getD []

theorem emittedEvents_eq (info : TransactionExecutionInfo) :
    emittedEvents info = executeEvents info ++ feeTransferEvents info := rfl

/-- With fees enabled, the receipt reads the last event of the fee transfer
when it emitted any. -/
theorem actualFee_of_feeTransferEvents {info : TransactionExecutionInfo} {last : Event}
    (transferredLast : (feeTransferEvents info).getLast? = some last) :
    actualFee false (emittedEvents info) = last.content.data[2]? := by
  have nonempty : feeTransferEvents info ≠ [] := by
    intro none
    rw [none] at transferredLast
    cases transferredLast
  rw [actualFee, if_neg Bool.false_ne_true, emittedEvents_eq, List.getLast?_append_of_ne_nil _ nonempty,
    transferredLast]
  rfl

/-- A charged transaction whose fee transfer ends with a `Transfer` of the fee
token reports the low word of the amount. -/
theorem actualFee_of_transfer {info : TransactionExecutionInfo} {feeToken sender recipient low high : FieldElement}
    {keys : List FieldElement}
    (transferredLast : (feeTransferEvents info).getLast? = some ⟨feeToken, ⟨keys, [sender, recipient, low, high]⟩⟩) :
    actualFee false (emittedEvents info) = some low := by
  rw [actualFee_of_feeTransferEvents transferredLast]
  rfl

section L1Handler

variable {ContractClass : Type} {blockifier : Blockifier ContractClass} {executionConfig : ExecutionConfig}

/-- `handle_fee` of an L1 handler charges nothing and makes no fee transfer. -/
theorem handleFee_l1Handler {tx : HandleL1MessageTransaction} {paidFeeOnL1 : U128} {txHash : FieldElement}
    {blockContext : BlockContext} {context : AccountTransactionContext} {calls : ValidateExecuteCallInfo}
    {state after : AdapterState ContractClass} {fee : U128} {feeTransferCallInfo : Option CallInfo}
    (handled : handleFee blockifier executionConfig (.l1Handler tx paidFeeOnL1 txHash) blockContext context calls
      state = .ok (fee, feeTransferCallInfo, after)) :
    fee = 0 ∧ feeTransferCallInfo = none := by
  obtain ⟨_, -, computed⟩ := Transactional.bind_eq_ok handled
  obtain ⟨_, -, rest⟩ := Transactional.bind_eq_ok computed
  by_cases unpaid : paidFeeOnL1 = 0
  · simp [unpaid, throw, throwThe, MonadExceptOf.throw] at rest
  · simp only [unpaid, if_false] at rest
    cases rest
    exact ⟨rfl, rfl⟩

/-- An L1 handler executes with no fee charged and no fee transfer. -/
theorem execute_l1Handler {tx : HandleL1MessageTransaction} {paidFeeOnL1 : U128} {txHash : FieldElement}
    {blockContext : BlockContext} {contracts contracts' : ContractState ContractClass}
    {info : TransactionExecutionInfo}
    (executed : execute blockifier executionConfig blockContext (.l1Handler tx paidFeeOnL1 txHash) contracts =
      .ok (info, contracts')) :
    info.actualFee = 0 ∧ info.feeTransferCallInfo = none := by
  obtain ⟨_, -, rest⟩ := Transactional.bind_eq_ok executed
  obtain ⟨⟨calls, state⟩, -, rest⟩ := Transactional.bind_eq_ok rest
  obtain ⟨⟨fee, feeTransferCallInfo, after⟩, handled, rest⟩ := Transactional.bind_eq_ok rest
  obtain ⟨charged, noTransfer⟩ := handleFee_l1Handler handled
  cases rest
  exact ⟨charged, noTransfer⟩

/-- The receipt of an L1 handler reads the handler's own last event, though
nothing was charged. -/
theorem actualFee_of_l1Handler {tx : HandleL1MessageTransaction} {paidFeeOnL1 : U128} {txHash : FieldElement}
    {blockContext : BlockContext} {contracts contracts' : ContractState ContractClass}
    {info : TransactionExecutionInfo}
    (executed : execute blockifier executionConfig blockContext (.l1Handler tx paidFeeOnL1 txHash) contracts =
      .ok (info, contracts')) :
    info.actualFee = 0 ∧ emittedEvents info = executeEvents info ∧
      actualFee false (emittedEvents info) = (executeEvents info).getLast?.bind fun last => last.content.data[2]? := by
  obtain ⟨charged, noTransfer⟩ := execute_l1Handler executed
  have ownEvents : emittedEvents info = executeEvents info := by
    rw [emittedEvents_eq, feeTransferEvents, noTransfer, Option.map_none, Option.getD_none, List.append_nil]
  refine ⟨charged, ownEvents, ?_⟩
  rw [ownEvents, actualFee, if_neg Bool.false_ne_true]
  rfl

end L1Handler

/-! ### The events of one extrinsic in a run -/

section Run

variable {ContractClass : Type} (config : Config ContractClass) (execute : Executor ContractClass)

theorem applyExtrinsics_append (index : Nat) (first second : List (Extrinsic ContractClass))
    (s : Storage ContractClass) :
    applyExtrinsics config execute index (first ++ second) s =
      ((applyExtrinsics config execute (index + first.length) second (applyExtrinsics config execute index first s).1).1,
        (applyExtrinsics config execute index first s).2 ++
          (applyExtrinsics config execute (index + first.length) second (applyExtrinsics config execute index first s).1).2) := by
  induction first generalizing index s with
  | nil => rfl
  | cons xt first ih =>
    rw [List.cons_append, applyExtrinsics_cons, ih, applyExtrinsics_cons, List.length_cons, Nat.add_assoc,
      Nat.add_comm 1]
    rfl

/-- In a run from a state with no events, the events deposited in the phase of
extrinsic `k` are those its own application deposited, on the state the
extrinsics before it left, in which no event of that phase is yet. -/
theorem eventsOfExtrinsic_run {xts : List (Extrinsic ContractClass)} {start : Storage ContractClass}
    (initialized : start.events = []) {k : Nat} {xt : Extrinsic ContractClass} (atK : xts[k]? = some xt) :
    ∃ before : Storage ContractClass,
      (applyExtrinsics config execute 0 xts start).2[k]? = some (applyExtrinsic config execute k xt before).2 ∧
      eventsOfExtrinsic k (applyExtrinsics config execute 0 xts start).1.events =
        eventsOfExtrinsic k (applyExtrinsic config execute k xt before).1.events ∧
      eventsOfExtrinsic k before.events = [] := by
  have within : k < xts.length := (List.getElem?_eq_some_iff.mp atK).1
  have split : xts = xts.take k ++ xt :: xts.drop (k + 1) := by
    rw [← (List.getElem?_eq_some_iff.mp atK).2, ← List.drop_eq_getElem_cons within, List.take_append_drop]
  -- the run is the extrinsics before `k`, then `k`, then those after it
  have run := applyExtrinsics_append config execute 0 (xts.take k) (xt :: xts.drop (k + 1)) start
  rw [← split, Nat.zero_add, List.length_take_of_le (Nat.le_of_lt within), applyExtrinsics_cons] at run
  let before := (applyExtrinsics config execute 0 (xts.take k) start).1
  obtain ⟨earlier, extrinsics, outcomes, -, beforeEvents⟩ := applyExtrinsics_trace config execute 0 (xts.take k) start
  obtain ⟨later, -, -, -, laterEvents⟩ :=
    applyExtrinsics_trace config execute (k + 1) (xts.drop (k + 1)) (applyExtrinsic config execute k xt before).1
  have earlierLength : earlier.length = k := by
    rw [← List.length_map Applied.extrinsic, extrinsics, List.length_take_of_le (Nat.le_of_lt within)]
  refine ⟨before, ?_, ?_, ?_⟩
  · have outcomesLength : (applyExtrinsics config execute 0 (xts.take k) start).2.length = k := by
      rw [← outcomes, List.length_map, earlierLength]
    rw [run, List.getElem?_append_right (Nat.le_of_eq outcomesLength), outcomesLength, Nat.sub_self]
    rfl
  · -- the extrinsics after `k` deposit in later phases only
    rw [run, laterEvents, eventsOfExtrinsic_append, List.append_right_eq_self]
    exact eventsOfExtrinsic_of_phases fun _ member => deposited_phase_ne_of_lt (Nat.lt_succ_self k) member
  · -- and those before it in earlier ones
    rw [beforeEvents, initialized, List.nil_append]
    exact eventsOfExtrinsic_of_phases fun _ member => deposited_phase_ne_of_le (by omega) member

/-- An L1 handler extrinsic whose dispatch succeeded has executed its
executable and deposited the events of that execution in its phase. -/
theorem applyExtrinsic_consumeL1Message {index : Nat} {transaction : HandleL1MessageTransaction}
    {paidFeeOnL1 : U128} {s : Storage ContractClass}
    (succeeded : (applyExtrinsic config execute index (.starknet (.consumeL1Message transaction paidFeeOnL1)) s).2 =
      .ok ()) :
    ∃ info contracts, execute (getBlockContext config s)
        (transaction.intoExecutable config.crypto config.chainId false paidFeeOnL1) s.contracts = .ok (info, contracts) ∧
      (applyExtrinsic config execute index (.starknet (.consumeL1Message transaction paidFeeOnL1)) s).1.events =
        s.events ++ (emittedEvents info).map (.applyExtrinsic index, ·) := by
  simp only [applyExtrinsic] at succeeded ⊢
  cases dispatched : dispatch config execute (.consumeL1Message transaction paidFeeOnL1)
      { s with phase := .applyExtrinsic index } with
  | error failure =>
    rw [dispatched] at succeeded
    cases succeeded
  | ok next =>
    simp only [dispatch, consumeL1Message] at dispatched
    split at dispatched
    · -- the nonce was recorded, then the transaction executed and was stored
      obtain ⟨info, contracts, executed, rfl⟩ := executeAndStore_ok dispatched
      obtain ⟨-, -, -, events⟩ := storeExecution_spec _ _ (Transaction.l1Handler transaction) info
      exact ⟨info, contracts, executed, by rw [events]⟩
    · cases dispatched

/-- A Starknet call that carries a transaction and succeeded has executed the
executable it builds and deposited the events of that execution in its phase. -/
theorem applyExtrinsic_of_transaction {index : Nat} {call : Call ContractClass} {tx : Transaction}
    {s : Storage ContractClass} (carried : call.transaction = some tx)
    (succeeded : (applyExtrinsic config execute index (.starknet call) s).2 = .ok ()) :
    ∃ executable info contracts, call.intoExecutable config = some executable ∧
      execute (getBlockContext config s) executable s.contracts = .ok (info, contracts) ∧
      (applyExtrinsic config execute index (.starknet call) s).1.events =
        s.events ++ (emittedEvents info).map (.applyExtrinsic index, ·) := by
  simp only [applyExtrinsic] at succeeded ⊢
  cases dispatched : dispatch config execute call { s with phase := .applyExtrinsic index } with
  | error failure =>
    rw [dispatched] at succeeded
    cases succeeded
  | ok next =>
    -- the phase is not read by the block context, and the record appends in that phase
    obtain ⟨executable, info, built, executed, stored⟩ := dispatch_records carried dispatched
    obtain ⟨-, -, -, events⟩ := storeExecution_spec _ _ tx info
    refine ⟨executable, info, next.contracts, built, executed, ?_⟩
    dsimp only
    rw [stored, events]

end Run

section Receipt

variable {ContractClass : Type} (config : Config ContractClass)

/-- Without the hash cache, the receipt of an L1 handler that succeeded in a
block, and whose hash no earlier Starknet transaction of the body has, reads
its fee from the handler's own last event, though its execution charged
nothing. -/
theorem uncached_receipt_of_l1Handler (body : BlockBody ContractClass) {blockifier : Blockifier ContractClass}
    {executionConfig : ExecutionConfig} {start final : Storage ContractClass}
    {outcomes : List (Except DispatchFailure Unit)} (initialized : start.events = [])
    (run : applyExtrinsics config (execute blockifier executionConfig) 0 body.extrinsics start = (final, outcomes))
    {k : Nat} {transaction : HandleL1MessageTransaction} {paidFeeOnL1 : U128}
    (atK : body.extrinsics[k]? = some (.starknet (.consumeL1Message transaction paidFeeOnL1)))
    (succeeded : outcomes[k]? = some (.ok ()))
    (first : ∀ other ∈ extrinsicFilter (body.extrinsics.take k),
      other.computeHash config.crypto config.chainId false ≠
        (Transaction.l1Handler transaction).computeHash config.crypto config.chainId false) :
    ∃ blockContext contracts info contracts',
      execute blockifier executionConfig blockContext
          (transaction.intoExecutable config.crypto config.chainId false paidFeeOnL1) contracts = .ok (info, contracts') ∧
        info.actualFee = 0 ∧
        receiptActualFee config.crypto config.chainId false body.extrinsics final.events none
            ((Transaction.l1Handler transaction).computeHash config.crypto config.chainId false) =
          .ok ((executeEvents info).getLast?.bind fun last => last.content.data[2]?) := by
  have carried : body.extrinsics[k]?.bind Extrinsic.transaction = some (.l1Handler transaction) := by
    rw [atK]
    rfl
  have receipt := uncached_receipt config (execute blockifier executionConfig) body initialized run carried first
  -- the extrinsic's own application: its dispatch succeeded and executed the handler
  obtain ⟨before, outcomeAt, eventsAt, noneBefore⟩ :=
    eventsOfExtrinsic_run config (execute blockifier executionConfig) initialized atK
  rw [run] at outcomeAt eventsAt
  have dispatched : (applyExtrinsic config (execute blockifier executionConfig) k
      (.starknet (.consumeL1Message transaction paidFeeOnL1)) before).2 = .ok () := by
    rw [succeeded] at outcomeAt
    exact (Option.some.inj outcomeAt).symm
  obtain ⟨info, contracts', executed, deposited⟩ :=
    applyExtrinsic_consumeL1Message config (execute blockifier executionConfig) dispatched
  obtain ⟨charged, ownEvents, fee⟩ := actualFee_of_l1Handler executed
  have stored : eventsOfExtrinsic k final.events = emittedEvents info := by
    rw [eventsAt, deposited, eventsOfExtrinsic_append, noneBefore, eventsOfExtrinsic_map, List.nil_append]
  refine ⟨_, _, info, contracts', executed, charged, ?_⟩
  rw [receiptActualFee, receipt, Transactional.ok_bind, stored]
  exact congrArg Except.ok fee

/-- **A receipt reads the fee from its transaction's own events.** Without the
hash cache, take a Starknet transaction that succeeded in a block and whose
hash no earlier Starknet transaction of the body has. Its receipt computes
`actual_fee` from exactly the events its execution stored: those of its
execute call, then those of its fee transfer. So with fees enabled, when the
fee transfer ends with the fee token's `Transfer` of an amount, the receipt
reports the amount's low word. -/
theorem uncached_receipt_reads_own_events (body : BlockBody ContractClass) (execute : Executor ContractClass)
    (feeDisabled : Bool) {start final : Storage ContractClass} {outcomes : List (Except DispatchFailure Unit)}
    (initialized : start.events = [])
    (run : applyExtrinsics config execute 0 body.extrinsics start = (final, outcomes))
    {k : Nat} {call : Call ContractClass} {tx : Transaction} (atK : body.extrinsics[k]? = some (.starknet call))
    (carried : call.transaction = some tx) (succeeded : outcomes[k]? = some (.ok ()))
    (first : ∀ other ∈ extrinsicFilter (body.extrinsics.take k),
      other.computeHash config.crypto config.chainId false ≠ tx.computeHash config.crypto config.chainId false) :
    ∃ blockContext contracts executable info contracts', call.intoExecutable config = some executable ∧
      execute blockContext executable contracts = .ok (info, contracts') ∧
      receiptActualFee config.crypto config.chainId feeDisabled body.extrinsics final.events none
          (tx.computeHash config.crypto config.chainId false) =
        .ok (actualFee feeDisabled (emittedEvents info)) ∧
      ∀ feeToken keys sender recipient low high,
        (feeTransferEvents info).getLast? = some ⟨feeToken, ⟨keys, [sender, recipient, low, high]⟩⟩ →
        receiptActualFee config.crypto config.chainId false body.extrinsics final.events none
            (tx.computeHash config.crypto config.chainId false) =
          .ok (some low) := by
  have found : body.extrinsics[k]?.bind Extrinsic.transaction = some tx := by
    rw [atK]
    exact carried
  have receipt := uncached_receipt config execute body initialized run found first
  -- the extrinsic's own application: its dispatch succeeded and executed the transaction
  obtain ⟨before, outcomeAt, eventsAt, noneBefore⟩ := eventsOfExtrinsic_run config execute initialized atK
  rw [run] at outcomeAt eventsAt
  have dispatched : (applyExtrinsic config execute k (.starknet call) before).2 = .ok () := by
    rw [succeeded] at outcomeAt
    exact (Option.some.inj outcomeAt).symm
  obtain ⟨executable, info, contracts', built, executed, deposited⟩ :=
    applyExtrinsic_of_transaction config execute carried dispatched
  have stored : eventsOfExtrinsic k final.events = emittedEvents info := by
    rw [eventsAt, deposited, eventsOfExtrinsic_append, noneBefore, eventsOfExtrinsic_map, List.nil_append]
  -- for any fee setting, the receipt reads the stored events
  have reads : ∀ feeDisabled, receiptActualFee config.crypto config.chainId feeDisabled body.extrinsics final.events
      none (tx.computeHash config.crypto config.chainId false) = .ok (actualFee feeDisabled (emittedEvents info)) := by
    intro feeDisabled
    rw [receiptActualFee, receipt, Transactional.ok_bind, stored]
    rfl
  refine ⟨_, _, executable, info, contracts', built, executed, reads feeDisabled, ?_⟩
  intro feeToken keys sender recipient low high transferredLast
  rw [reads false, actualFee_of_transfer transferredLast]

/-- An execution whose fee transfer, at the fee token `0`, ends with a
`Transfer` from `5` to `0` of the amount `7`. -/
def transferInfo : TransactionExecutionInfo :=
  ⟨none, none, some (.mk ⟨none, .external, 0, [], 0, 0, .call⟩ ⟨[], [⟨0, ⟨[1], [5, 0, 7, 0]⟩⟩], []⟩ []), 7, none⟩

/-- Every transaction executes as `transferInfo`. -/
def transferExecute : Executor Unit := fun _ _ contracts => .ok (transferInfo, contracts)

def transferRun : Storage Unit × List (Except DispatchFailure Unit) :=
  applyExtrinsics attributionConfig transferExecute 0 agreementBody.extrinsics attributionStart

/-- The first invoke of the account `5`, at extrinsic `2`, is charged `7`,
and its receipt reports `7`. -/
theorem uncached_receipt_reads_own_events_of_transfer :
    attributionStart.events = [] ∧
    agreementBody.extrinsics[2]? = some (.starknet (.invoke (attributionInvoke 5 2))) ∧
    (Call.invoke (attributionInvoke 5 2) : Call Unit).transaction = some (.invoke (attributionInvoke 5 2)) ∧
    transferRun.2[2]? = some (.ok ()) ∧
    (∀ other ∈ extrinsicFilter (agreementBody.extrinsics.take 2),
      other.computeHash attributionConfig.crypto attributionConfig.chainId false ≠
        (Transaction.invoke (attributionInvoke 5 2)).computeHash attributionConfig.crypto attributionConfig.chainId
          false) ∧
    ∃ blockContext contracts executable info contracts',
      (Call.invoke (attributionInvoke 5 2) : Call Unit).intoExecutable attributionConfig = some executable ∧
      transferExecute blockContext executable contracts = .ok (info, contracts') ∧
      receiptActualFee attributionConfig.crypto attributionConfig.chainId false agreementBody.extrinsics
          transferRun.1.events none
          ((Transaction.invoke (attributionInvoke 5 2)).computeHash attributionConfig.crypto attributionConfig.chainId
            false) =
        .ok (actualFee false (emittedEvents info)) ∧
      ∀ feeToken keys sender recipient low high,
        (feeTransferEvents info).getLast? = some ⟨feeToken, ⟨keys, [sender, recipient, low, high]⟩⟩ →
        receiptActualFee attributionConfig.crypto attributionConfig.chainId false agreementBody.extrinsics
            transferRun.1.events none
            ((Transaction.invoke (attributionInvoke 5 2)).computeHash attributionConfig.crypto
              attributionConfig.chainId false) =
          .ok (some low) := by
  have atK : agreementBody.extrinsics[2]? = some (.starknet (.invoke (attributionInvoke 5 2))) := rfl
  have succeeded : transferRun.2[2]? = some (.ok ()) := by decide
  have first : ∀ other ∈ extrinsicFilter (agreementBody.extrinsics.take 2),
      other.computeHash attributionConfig.crypto attributionConfig.chainId false ≠
        (Transaction.invoke (attributionInvoke 5 2)).computeHash attributionConfig.crypto attributionConfig.chainId
          false := by
    decide
  exact ⟨rfl, atK, rfl, succeeded, first,
    uncached_receipt_reads_own_events attributionConfig agreementBody transferExecute false rfl
      (show applyExtrinsics attributionConfig transferExecute 0 agreementBody.extrinsics attributionStart =
        (transferRun.1, transferRun.2) from rfl) atK rfl succeeded first⟩

end Receipt

/-! ### A block with an L1 handler -/

section QuietHandler

open Madara.Runtime (quietBlockifier callAt)

/-- An L1 message with nonce `4` for the contract at `5`. -/
def quietL1Handler : HandleL1MessageTransaction := ⟨4, 5, 0, []⟩

/-- The two inherents of `attributionBody`, then the L1 handler, paid `1` on L1. -/
def l1HandlerBody : BlockBody Unit where
  inherents := attributionBody.inherents
  transactions := [.starknet (.consumeL1Message quietL1Handler 1)]
  inherent := attributionBody.inherent
  carries := by simp [Extrinsic.transaction, Call.transaction]

/-- The block applied by the runtime's `execute`, with transaction fees
enabled, over a blockifier whose handler call runs the given steps. -/
def l1HandlerRun (steps : List TraceStep) : Storage Unit × List (Except DispatchFailure Unit) :=
  applyExtrinsics attributionConfig
    (execute { quietBlockifier with runExecute := fun _ _ => ([], .ok (some (callAt 5 steps))) } (.runtime false false))
    0 l1HandlerBody.extrinsics attributionStart

/-- With fees enabled, the L1 handler with hash `4` executes and is charged
nothing. When its call emits no event, its receipt panics; when the call's
last event has data `[1, 2, 3]`, its receipt reports a fee of `3`. -/
theorem receipt_panics_for_quiet_l1_handler :
    (Transaction.l1Handler quietL1Handler).computeHash attributionCrypto 0 false = 4 ∧
    (l1HandlerRun []).2 = [.ok (), .ok (), .ok ()] ∧
    receiptActualFee attributionCrypto 0 false l1HandlerBody.extrinsics (l1HandlerRun []).1.events none 4 =
      .ok none ∧
    (l1HandlerRun [.event ⟨[], [1, 2, 3]⟩]).2 = [.ok (), .ok (), .ok ()] ∧
    receiptActualFee attributionCrypto 0 false l1HandlerBody.extrinsics
        (l1HandlerRun [.event ⟨[], [1, 2, 3]⟩]).1.events none 4 = .ok (some 3) := by
  refine ⟨?_, ?_, ?_, ?_, ?_⟩ <;> decide

end QuietHandler

end Madara.Receipt

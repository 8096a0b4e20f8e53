import Madara.DigestLog
import Madara.State
import Madara.Lib.Transactional
import Mathlib.Algebra.BigOperators.Group.Finset.Piecewise

/-! The Starknet pallet (`pallets/starknet/src/lib.rs`) as a state machine over
the runtime storage: the dispatchables that carry transactions, the inherent
that sets the sequencer address, and `on_finalize` with `store_block`.

Each dispatch runs in a storage layer of its own (FRAME dispatchables are
transactional), so one that fails leaves the storage as it found it; this is
`Transactional.run`. A panic (`assert!`) also keeps nothing: the block builder
drops the extrinsic. The blockifier, with the `Execute` code around it, is any
`Executor`: the pallet's invariants hold whatever it returns.

The pallet keeps three storage items in step while a block is built: the
transactions in `Pending`, their hashes in `PendingHashes`, and the events of
each hash in `TxEvents`, with every event also deposited to `frame_system`.
`PendingConsistent` states how they agree; every dispatch keeps it
(`dispatch_consistent`), and `store_block` turns a consistent storage into the
block it deposits in the digest (`storeBlock_spec`).

`L1Messages` records the nonce of every L1 message consumed. A dispatch of an
L1 handler refuses a recorded nonce and records its own before it executes,
and its layer drops the record when it fails; so along any run the consumed
messages carry distinct, new nonces (`run_consumes_l1_messages_once`). -/
namespace Madara.Pallet

open Madara.Felt Madara.Transactions Madara.StarknetBlock Madara.DigestLog Madara.CallTree
open Madara.State

/-- `frame_system::Phase`. -/
inductive Phase where
  | applyExtrinsic (index : Nat)
  | finalization
  | initialization
  deriving DecidableEq, Repr

/-- The pallet's `Error`, by the variants the modelled calls and getters return. -/
inductive Error where
  | contractNotFound
  | accountNotDeployed
  | transactionExecutionFailed
  | classHashAlreadyDeclared
  | accountAlreadyDeployed
  | sequencerAddressNotValid
  | invalidContractClassForThisDeclareVersion
  | l1MessageAlreadyExecuted
  deriving DecidableEq, Repr

/-- How a call ends without a new storage: with an error of the pallet, or in
a panic. -/
inductive DispatchFailure where
  | module (error : Error)
  | panic (message : String)
  deriving DecidableEq, Repr

/-- The runtime's `Config` of the pallet, with the code it relies on from
outside the repository: `T::SystemHash` and the Pedersen chain, the SCALE
leaves of the block codec, the blockifier's check of a declared class against
the declare version, and the `starknet_api` conversion of 32 bytes into a
contract address (`StarkFelt::new`, then `PatriciaKey::try_from`). -/
structure Config (ContractClass : Type) where
  crypto : Crypto
  chainId : Felt252Wrapper
  protocolVersion : UInt8
  l1GasPrice : ResourcePrice
  leaves : ScaleLeaves
  accepts : DeclareTransaction → ContractClass → Bool
  toContractAddress : Fin (256 ^ 32) → Option FieldElement

/-- The runtime storage the pallet reads and writes: its own items, then those
of `frame_system` and `pallet_timestamp` it uses. `ValueQuery` maps hold their
default where nothing was written. -/
structure Storage (ContractClass : Type) where
  contracts : ContractState ContractClass
  pending : List Transaction
  pendingHashes : List FieldElement
  txEvents : FieldElement → List Event
  txMessages : FieldElement → List MessageToL1
  txRevertError : FieldElement → Option String
  blockHash : UInt64 → Option Felt252Wrapper
  /-- `L1Messages`, a `BTreeSet<Nonce>`. -/
  l1Messages : List FieldElement
  feeTokenAddress : FieldElement
  sequencerAddress : FieldElement
  seqAddrUpdate : Option Bool
  /-- `frame_system::Number`. -/
  blockNumber : UInt64
  /-- `pallet_timestamp::Now`, in milliseconds. -/
  now : UInt64
  /-- `frame_system::ExecutionPhase`. -/
  phase : Phase
  /-- `frame_system::Events`, the pallet's own among them. -/
  events : List (Phase × Event)
  /-- `frame_system::Digest`. -/
  digest : List DigestItem

/-- The pallet's calls. -/
inductive Call (ContractClass : Type) where
  | setSequencerAddress (addr : Fin (256 ^ 32))
  | invoke (transaction : InvokeTransaction)
  | declare (transaction : DeclareTransaction) (contractClass : ContractClass)
  | deployAccount (transaction : DeployAccountTransaction)
  | consumeL1Message (transaction : HandleL1MessageTransaction) (paidFeeOnL1 : U128)

/-- The transaction a call stores in `Pending` when it succeeds. -/
def Call.transaction {ContractClass : Type} : Call ContractClass → Option Transaction
  | .setSequencerAddress _ => none
  | .invoke transaction => some (.invoke transaction)
  | .declare transaction _ => some (.declare transaction)
  | .deployAccount transaction => some (.deployAccount transaction)
  | .consumeL1Message transaction _ => some (.l1Handler transaction)

/-- `Pallet::get_storage_at`, behind the runtime API of the same name: the
`ValueQuery` value of a storage slot, once the address is known to hold a
contract. -/
def getStorageAt {ContractClass : Type} (contracts : ContractState ContractClass)
    (contractAddress key : FieldElement) : Except Error FieldElement :=
  if (contracts.contractClassHashes contractAddress).isSome then
    .ok (contracts.storage (contractAddress, key))
  else .error .contractNotFound

section Dispatch

variable {ContractClass : Type} (config : Config ContractClass) (execute : Executor ContractClass)

/-- `Pallet::block_timestamp`: `now` in seconds. -/
def blockTimestamp (s : Storage ContractClass) : UInt64 := s.now / 1000

/-- `Pallet::get_block_context`. -/
def getBlockContext (s : Storage ContractClass) : BlockContext where
  blockNumber := s.blockNumber
  blockTimestamp := blockTimestamp s
  sequencerAddress := s.sequencerAddress
  feeTokenAddress := s.feeTokenAddress
  gasPrice := config.l1GasPrice.priceInWei

/-- `deposit_event` and `TxEvents::append` of each event, in turn. -/
def emitEvents (txHash : FieldElement) (emitted : List Event) (s : Storage ContractClass) :
    Storage ContractClass :=
  { s with
    events := s.events ++ emitted.map (s.phase, ·)
    txEvents := Function.update s.txEvents txHash (s.txEvents txHash ++ emitted) }

/-- `TxMessages::append` of each message, in turn. -/
def storeMessages (txHash : FieldElement) (messages : List MessageToL1) (s : Storage ContractClass) :
    Storage ContractClass :=
  { s with txMessages := Function.update s.txMessages txHash (s.txMessages txHash ++ messages) }

/-- The events and the messages of one call tree, both walked from order `0`. -/
def storeCallInfo (txHash : FieldElement) (callInfo : CallInfo) (s : Storage ContractClass) :
    Storage ContractClass :=
  storeMessages txHash (aggregateMessagesInCallInfo callInfo 0).1
    (emitEvents txHash (emitEventsInCallInfo callInfo 0).1 s)

/-- `Pallet::emit_and_store_tx_and_fees_events`. -/
def emitAndStoreTxAndFeesEvents (txHash : FieldElement)
    (executeCallInfo feeTransferCallInfo : Option CallInfo) (s : Storage ContractClass) :
    Storage ContractClass :=
  let s := match executeCallInfo with
    | some callInfo => storeCallInfo txHash callInfo s
    | none => s
  match feeTransferCallInfo with
  | some callInfo => storeCallInfo txHash callInfo s
  | none => s

/-- `Pallet::store_transaction`. -/
def storeTransaction (txHash : FieldElement) (tx : Transaction) (revertReason : Option String)
    (s : Storage ContractClass) : Storage ContractClass :=
  { s with
    pending := s.pending ++ [tx]
    pendingHashes := s.pendingHashes ++ [txHash]
    txRevertError := Function.update s.txRevertError txHash revertReason }

/-- What a transaction dispatch records once the transaction has executed. -/
def storeExecution (txHash : FieldElement) (tx : Transaction) (info : TransactionExecutionInfo)
    (s : Storage ContractClass) : Storage ContractClass :=
  storeTransaction txHash tx info.revertError
    (emitAndStoreTxAndFeesEvents txHash info.executeCallInfo info.feeTransferCallInfo s)

/-- The events a recorded execution deposits and appends to `TxEvents`: those
of the execute call, then those of the fee transfer, each walked from order `0`. -/
def emittedEvents (info : TransactionExecutionInfo) : List Event :=
  (info.executeCallInfo.map fun callInfo => (emitEventsInCallInfo callInfo 0).1).getD [] ++
    (info.feeTransferCallInfo.map fun callInfo => (emitEventsInCallInfo callInfo 0).1).getD []

/-- The common end of the four transaction dispatches: execute on the
adapter (an error becomes `TransactionExecutionFailed`), then record. -/
def executeAndStore (executable : Executable ContractClass) (tx : Transaction)
    (s : Storage ContractClass) : Except DispatchFailure (Storage ContractClass) :=
  match execute (getBlockContext config s) executable s.contracts with
  | .error _ => .error (.module .transactionExecutionFailed)
  | .ok (info, contracts) => .ok (storeExecution executable.txHash tx info { s with contracts })

/-! What recording does to the pending items and the deposited events. -/

section Recording

variable (txHash : FieldElement) (s : Storage ContractClass)

@[simp] theorem storeMessages_pending (messages : List MessageToL1) :
    (storeMessages txHash messages s).pending = s.pending := rfl
@[simp] theorem storeMessages_pendingHashes (messages : List MessageToL1) :
    (storeMessages txHash messages s).pendingHashes = s.pendingHashes := rfl
@[simp] theorem storeMessages_txEvents (messages : List MessageToL1) :
    (storeMessages txHash messages s).txEvents = s.txEvents := rfl
@[simp] theorem storeMessages_events (messages : List MessageToL1) :
    (storeMessages txHash messages s).events = s.events := rfl
@[simp] theorem storeMessages_phase (messages : List MessageToL1) :
    (storeMessages txHash messages s).phase = s.phase := rfl

/-- Recording an execution appends the transaction and its hash, appends the
emitted events under the hash and deposits them in the current phase. -/
theorem storeExecution_spec (tx : Transaction) (info : TransactionExecutionInfo) :
    let next := storeExecution txHash tx info s
    next.pending = s.pending ++ [tx] ∧ next.pendingHashes = s.pendingHashes ++ [txHash] ∧
      next.txEvents = Function.update s.txEvents txHash (s.txEvents txHash ++ emittedEvents info) ∧
      next.events = s.events ++ (emittedEvents info).map (s.phase, ·) := by
  obtain ⟨validate, executeCall, feeCall, fee, revert⟩ := info
  cases executeCall <;> cases feeCall <;>
    simp [storeExecution, storeTransaction, emitAndStoreTxAndFeesEvents, storeCallInfo, emitEvents,
      emittedEvents]

/-- Recording leaves the contract storage as execution returned it. -/
@[simp] theorem storeExecution_contracts (tx : Transaction) (info : TransactionExecutionInfo) :
    (storeExecution txHash tx info s).contracts = s.contracts := by
  obtain ⟨validate, executeCall, feeCall, fee, revert⟩ := info
  cases executeCall <;> cases feeCall <;> rfl

/-- Recording leaves `L1Messages` alone. -/
@[simp] theorem storeExecution_l1Messages (tx : Transaction) (info : TransactionExecutionInfo) :
    (storeExecution txHash tx info s).l1Messages = s.l1Messages := by
  obtain ⟨validate, executeCall, feeCall, fee, revert⟩ := info
  cases executeCall <;> cases feeCall <;> rfl

/-- Recording writes nothing the block context reads. -/
@[simp] theorem getBlockContext_storeExecution (tx : Transaction) (info : TransactionExecutionInfo) :
    getBlockContext config (storeExecution txHash tx info s) = getBlockContext config s := by
  obtain ⟨validate, executeCall, feeCall, fee, revert⟩ := info
  cases executeCall <;> cases feeCall <;> rfl

end Recording

/-- `Pallet::set_sequencer_address`. -/
def setSequencerAddress (addr : Fin (256 ^ 32)) (s : Storage ContractClass) :
    Except DispatchFailure (Storage ContractClass) :=
  if 1 < s.blockNumber ∧ s.seqAddrUpdate.isSome then
    .error (.panic "Sequencer address can be updated only once in the block")
  else
    match config.toContractAddress addr with
    | none => .error (.module .sequencerAddressNotValid)
    | some address => .ok { s with sequencerAddress := address, seqAddrUpdate := some true }

/-- `Pallet::invoke`. -/
def invoke (transaction : InvokeTransaction) (s : Storage ContractClass) :
    Except DispatchFailure (Storage ContractClass) :=
  let executable : Executable ContractClass :=
    transaction.intoExecutable config.crypto config.chainId false
  if (s.contracts.contractClassHashes transaction.senderAddress).isSome then
    executeAndStore config execute executable (.invoke transaction) s
  else .error (.module .accountNotDeployed)

/-- `Pallet::declare`. -/
def declare (transaction : DeclareTransaction) (contractClass : ContractClass)
    (s : Storage ContractClass) : Except DispatchFailure (Storage ContractClass) :=
  match transaction.tryIntoExecutable config.crypto config.chainId false config.accepts contractClass with
  | none => .error (.module .invalidContractClassForThisDeclareVersion)
  | some executable =>
    if (s.contracts.contractClasses transaction.classHash).isSome then
      .error (.module .classHashAlreadyDeclared)
    else if (s.contracts.contractClassHashes transaction.senderAddress).isSome then
      executeAndStore config execute executable (.declare transaction) s
    else .error (.module .accountNotDeployed)

/-- `Pallet::deploy_account`. `into_executable` stores the account address in
the blockifier transaction, where the check reads it. -/
def deployAccount (transaction : DeployAccountTransaction) (s : Storage ContractClass) :
    Except DispatchFailure (Storage ContractClass) :=
  let executable : Executable ContractClass :=
    transaction.intoExecutable config.crypto config.chainId false
  if (s.contracts.contractClassHashes (transaction.getAccountAddress config.crypto)).isSome then
    .error (.module .accountAlreadyDeployed)
  else executeAndStore config execute executable (.deployAccount transaction) s

/-- `Pallet::ensure_l1_message_not_executed`. -/
def ensureL1MessageNotExecuted (nonce : FieldElement) (s : Storage ContractClass) : Bool :=
  nonce ∉ s.l1Messages

/-- `Pallet::consume_l1_message`: the nonce is recorded before execution. -/
def consumeL1Message (transaction : HandleL1MessageTransaction) (paidFeeOnL1 : U128)
    (s : Storage ContractClass) : Except DispatchFailure (Storage ContractClass) :=
  let executable : Executable ContractClass :=
    transaction.intoExecutable config.crypto config.chainId false paidFeeOnL1
  let nonce := ofU64 transaction.nonce
  if ensureL1MessageNotExecuted nonce s then
    executeAndStore config execute executable (.l1Handler transaction)
      { s with l1Messages := s.l1Messages.insert nonce }
  else .error (.module .l1MessageAlreadyExecuted)

/-- The pallet's dispatch of a call. -/
def dispatch : Call ContractClass → Storage ContractClass → Except DispatchFailure (Storage ContractClass)
  | .setSequencerAddress addr => setSequencerAddress config addr
  | .invoke transaction => invoke config execute transaction
  | .declare transaction contractClass => declare config execute transaction contractClass
  | .deployAccount transaction => deployAccount config execute transaction
  | .consumeL1Message transaction paidFeeOnL1 => consumeL1Message config execute transaction paidFeeOnL1

/-- The executable a call's dispatch builds before it executes, if it builds one. -/
def Call.intoExecutable (call : Call ContractClass) : Option (Executable ContractClass) :=
  match call with
  | .setSequencerAddress _ => none
  | .invoke transaction => some (transaction.intoExecutable config.crypto config.chainId false)
  | .declare transaction contractClass =>
    transaction.tryIntoExecutable config.crypto config.chainId false config.accepts contractClass
  | .deployAccount transaction => some (transaction.intoExecutable config.crypto config.chainId false)
  | .consumeL1Message transaction paidFeeOnL1 =>
    some (transaction.intoExecutable config.crypto config.chainId false paidFeeOnL1)

/-! ### What a successful dispatch did -/

variable {config execute}

/-- A successful execution stored the executed transaction under the
executable's hash, after the adapter's writes. -/
theorem executeAndStore_ok {executable : Executable ContractClass} {tx : Transaction}
    {s next : Storage ContractClass} (stored : executeAndStore config execute executable tx s = .ok next) :
    ∃ info contracts, execute (getBlockContext config s) executable s.contracts = .ok (info, contracts) ∧
      next = storeExecution executable.txHash tx info { s with contracts } := by
  unfold executeAndStore at stored
  split at stored
  · cases stored
  · rename_i info contracts executed
    cases stored
    exact ⟨info, contracts, executed, rfl⟩

/-- Inversion of `dispatch`: a successful call either set the sequencer
address, or ran `executeAndStore` on the executable it builds and the
transaction it carries, whose hashes agree, from a storage that differs from
the one it started from at most in `L1Messages`. -/
theorem dispatch_cases {call : Call ContractClass} {s next : Storage ContractClass}
    (succeeded : dispatch config execute call s = .ok next) :
    (call.transaction = none ∧ ∃ address,
        next = { s with sequencerAddress := address, seqAddrUpdate := some true }) ∨
    ∃ executable tx l1Messages, call.intoExecutable config = some executable ∧ call.transaction = some tx ∧
      executable.txHash = tx.computeHash config.crypto config.chainId false ∧
      executeAndStore config execute executable tx { s with l1Messages } = .ok next := by
  cases call with
  | setSequencerAddress addr =>
    simp only [dispatch, setSequencerAddress] at succeeded
    split at succeeded
    · cases succeeded
    · split at succeeded
      · cases succeeded
      · rename_i address _
        cases succeeded
        exact .inl ⟨rfl, address, rfl⟩
  | invoke transaction =>
    simp only [dispatch, invoke] at succeeded
    split at succeeded
    · exact .inr ⟨_, _, s.l1Messages, rfl, rfl, rfl, succeeded⟩
    · cases succeeded
  | declare transaction contractClass =>
    simp only [dispatch, declare] at succeeded
    split at succeeded
    · cases succeeded
    · rename_i executable built
      split at succeeded
      · cases succeeded
      · split at succeeded
        · exact .inr ⟨executable, _, s.l1Messages, built, rfl,
            declare_tryIntoExecutable_txHash config.crypto config.chainId false built, succeeded⟩
        · cases succeeded
  | deployAccount transaction =>
    simp only [dispatch, deployAccount] at succeeded
    split at succeeded
    · cases succeeded
    · exact .inr ⟨_, _, s.l1Messages, rfl, rfl, rfl, succeeded⟩
  | consumeL1Message transaction paidFeeOnL1 =>
    -- the nonce goes into `L1Messages` before execution
    simp only [dispatch, consumeL1Message] at succeeded
    split at succeeded
    · exact .inr ⟨_, _, _, rfl, rfl, rfl, succeeded⟩
    · cases succeeded

/-- A successful call either set the sequencer address, or executed the
transaction it carries and recorded it under that transaction's
`compute_hash`, on a storage that differs from the one it started from at
most in `L1Messages` and the adapter's writes. -/
theorem dispatch_ok {call : Call ContractClass} {s next : Storage ContractClass}
    (succeeded : dispatch config execute call s = .ok next) :
    (call.transaction = none ∧ ∃ address,
        next = { s with sequencerAddress := address, seqAddrUpdate := some true }) ∨
    ∃ tx info, ∃ executed : Storage ContractClass, call.transaction = some tx ∧
      executed.pending = s.pending ∧ executed.pendingHashes = s.pendingHashes ∧
      executed.txEvents = s.txEvents ∧ executed.events = s.events ∧ executed.phase = s.phase ∧
      next = storeExecution (tx.computeHash config.crypto config.chainId false) tx info executed := by
  rcases dispatch_cases succeeded with setAddress | ⟨executable, tx, l1Messages, -, carried, hashed, stored⟩
  · exact .inl setAddress
  · obtain ⟨info, contracts, -, rfl⟩ := executeAndStore_ok stored
    exact .inr ⟨tx, info, { s with l1Messages, contracts }, carried, rfl, rfl, rfl, rfl, rfl, by rw [hashed]⟩

/-- A successful dispatch either set the sequencer address and left the
contract storage alone, or executed the executable it built on the contract
storage and kept the storage `execute` returned. -/
theorem dispatch_executes {call : Call ContractClass} {s next : Storage ContractClass}
    (succeeded : dispatch config execute call s = .ok next) :
    (call.transaction = none ∧ next.contracts = s.contracts) ∨
    ∃ executable info, call.intoExecutable config = some executable ∧
      execute (getBlockContext config s) executable s.contracts = .ok (info, next.contracts) := by
  rcases dispatch_cases succeeded with ⟨inherent, address, rfl⟩ | ⟨executable, tx, l1Messages, built, -, -, stored⟩
  · exact .inl ⟨inherent, rfl⟩
  · -- `L1Messages` is not read by the block context
    obtain ⟨info, contracts, executed, rfl⟩ := executeAndStore_ok stored
    have sameContext : getBlockContext config { s with l1Messages } = getBlockContext config s := rfl
    rw [sameContext] at executed
    exact .inr ⟨executable, info, built, by rw [storeExecution_contracts]; exact executed⟩

/-- A successful dispatch of a call that carries a transaction executed the
executable the call builds, under the block context of the storage it ran on,
and recorded the result under the transaction's hash on that storage, with
only `L1Messages` and the contract storage changed. -/
theorem dispatch_records {call : Call ContractClass} {s next : Storage ContractClass} {tx : Transaction}
    (carried : call.transaction = some tx) (succeeded : dispatch config execute call s = .ok next) :
    ∃ executable info, call.intoExecutable config = some executable ∧
      execute (getBlockContext config s) executable s.contracts = .ok (info, next.contracts) ∧
      next = storeExecution (tx.computeHash config.crypto config.chainId false) tx info
        { s with l1Messages := next.l1Messages, contracts := next.contracts } := by
  rcases dispatch_cases succeeded with ⟨inherent, -⟩ | ⟨executable, tx', l1Messages, built, carried', hashed, stored⟩
  · rw [carried] at inherent
    cases inherent
  · rw [carried] at carried'
    cases carried'
    obtain ⟨info, contracts, executed, rfl⟩ := executeAndStore_ok stored
    refine ⟨executable, info, built, ?_, ?_⟩
    · -- `L1Messages` is not read by the block context
      rw [storeExecution_contracts]
      exact executed
    · rw [storeExecution_l1Messages, storeExecution_contracts, hashed]

/-- A dispatch of a call that carries a transaction leaves the block context
as it was. -/
theorem getBlockContext_of_dispatch {call : Call ContractClass} {s next : Storage ContractClass}
    {tx : Transaction} (carried : call.transaction = some tx) (succeeded : dispatch config execute call s = .ok next) :
    getBlockContext config next = getBlockContext config s := by
  obtain ⟨executable, info, -, -, stored⟩ := dispatch_records carried succeeded
  rw [stored, getBlockContext_storeExecution]
  rfl

end Dispatch

/-! ### `store_block` and `on_finalize` -/

section Finalize

variable {ContractClass : Type} (config : Config ContractClass)

/-- `TxEvents::take` of each hash in turn: the events read, in order, and the
map left behind. -/
def takeTxEvents : List FieldElement → (FieldElement → List Event) → List Event × (FieldElement → List Event)
  | [], txEvents => ([], txEvents)
  | hash :: hashes, txEvents =>
    let (later, remaining) := takeTxEvents hashes (Function.update txEvents hash [])
    (txEvents hash ++ later, remaining)

/-- `Pallet::parent_block_hash`: the `ValueQuery` getter of `BlockHash` at the
previous number, zero for block `0`. -/
def parentBlockHash (s : Storage ContractClass) (currentBlockNumber : UInt64) : Felt252Wrapper :=
  if currentBlockNumber = 0 then 0 else (s.blockHash (currentBlockNumber - 1)).getD 0

/-- The block `store_block` builds from the storage and the events it took. -/
def pendingBlock (s : Storage ContractClass) (blockNumber : UInt64) (events : List Event) : Block where
  header :=
    { parentBlockHash := parentBlockHash s blockNumber
      blockNumber := blockNumber
      sequencerAddress := s.sequencerAddress
      blockTimestamp := blockTimestamp s
      transactionCount := Fin.ofNat _ s.pending.length
      eventCount := Fin.ofNat _ events.length
      protocolVersion := config.protocolVersion
      l1GasPrice := config.l1GasPrice
      extraData := none }
  transactions := s.pending

/-- `Pallet::store_block`; `none` is the panic of its `assert_eq!`. -/
def storeBlock (blockNumber : UInt64) (s : Storage ContractClass) : Option (Storage ContractClass) :=
  if s.pending.length = s.pendingHashes.length then
    let (events, txEvents) := takeTxEvents s.pendingHashes s.txEvents
    let block := pendingBlock config s blockNumber events
    some { s with
      txEvents
      blockHash := Function.update s.blockHash blockNumber (some (block.header.hash config.crypto))
      pending := []
      pendingHashes := []
      digest := s.digest ++ [depositedLog config.leaves block] }
  else none

/-- `on_finalize`: `SeqAddrUpdate::take()` must read `true`, then the block is stored. -/
def onFinalize (s : Storage ContractClass) : Option (Storage ContractClass) :=
  if s.seqAddrUpdate.getD false then storeBlock config s.blockNumber { s with seqAddrUpdate := none }
  else none

/-- `TxEvents::take` over a list of hashes reads each hash's events once,
however often it occurs. -/
theorem takeTxEvents_length (hashes : List FieldElement) (txEvents : FieldElement → List Event) :
    (takeTxEvents hashes txEvents).1.length = ∑ hash ∈ hashes.toFinset, (txEvents hash).length := by
  induction hashes generalizing txEvents with
  | nil => rfl
  | cons hash hashes ih =>
    simp only [takeTxEvents, List.length_append, ih, List.toFinset_cons]
    -- the update empties `hash`, so the rest reads every other hash as before
    have emptied : ∀ k, (Function.update txEvents hash [] k).length =
        Function.update (fun k => (txEvents k).length) hash 0 k := by
      intro k
      by_cases same : k = hash
      · subst same; simp
      · simp [same]
    simp only [emptied]
    by_cases member : hash ∈ hashes.toFinset
    · rw [Finset.sum_update_of_mem member, Finset.insert_eq_of_mem member,
        Finset.sum_eq_add_sum_sdiff_singleton_of_mem member]
      omega
    · rw [Finset.sum_update_of_notMem member, Finset.sum_insert member]

/-- After the takes, the hashes taken are empty and the others untouched. -/
theorem takeTxEvents_remaining (hashes : List FieldElement) (txEvents : FieldElement → List Event) :
    (takeTxEvents hashes txEvents).2 = fun k => if k ∈ hashes then [] else txEvents k := by
  induction hashes generalizing txEvents with
  | nil => rfl
  | cons hash hashes ih =>
    funext k
    simp only [takeTxEvents, ih, List.mem_cons]
    by_cases same : k = hash
    · simp [same]
    · simp [same]

/-- `on_finalize` once the inherent has set the sequencer address. -/
theorem onFinalize_of_seqAddrUpdate {s : Storage ContractClass} (updated : s.seqAddrUpdate = some true) :
    onFinalize config s = storeBlock config s.blockNumber { s with seqAddrUpdate := none } := by
  simp [onFinalize, updated]

end Finalize

/-! ### The pending items agree -/

section Consistency

variable {ContractClass : Type} (config : Config ContractClass)

/-- The events `TxEvents` holds under the pending hashes, each hash counted once. -/
def pendingEventCount (s : Storage ContractClass) : Nat :=
  ∑ hash ∈ s.pendingHashes.toFinset, (s.txEvents hash).length

/-- How the pending items agree while a block is built. `eventsBefore` is the
number of events deposited before the block's first transaction. -/
structure PendingConsistent (eventsBefore : Nat) (s : Storage ContractClass) : Prop where
  /-- `PendingHashes` holds the `compute_hash` of each pending transaction, in order. -/
  hashes : s.pendingHashes = s.pending.map (Transaction.computeHash config.crypto config.chainId false)
  /-- Every key of `TxEvents` is a pending hash. -/
  txEvents_pending : ∀ hash, s.txEvents hash ≠ [] → hash ∈ s.pendingHashes
  /-- Every event deposited in the block is in `TxEvents`. -/
  deposited : s.events.length = eventsBefore + pendingEventCount s

/-- The storage at the start of a block: nothing pending. -/
structure BlockStart (s : Storage ContractClass) : Prop where
  pending : s.pending = []
  pendingHashes : s.pendingHashes = []
  txEvents : ∀ hash, s.txEvents hash = []

variable {config}

theorem BlockStart.consistent {s : Storage ContractClass} (start : BlockStart s) :
    PendingConsistent config s.events.length s where
  hashes := by rw [start.pending, start.pendingHashes]; rfl
  txEvents_pending hash nonempty := absurd (start.txEvents hash) nonempty
  deposited := by simp [pendingEventCount, start.pendingHashes]

/-- The invariant reads only the pending items and the deposited events. -/
theorem PendingConsistent.of_eq {eventsBefore : Nat} {s s' : Storage ContractClass}
    (holds : PendingConsistent config eventsBefore s) (pending : s'.pending = s.pending)
    (pendingHashes : s'.pendingHashes = s.pendingHashes) (txEvents : s'.txEvents = s.txEvents)
    (events : s'.events = s.events) : PendingConsistent config eventsBefore s' where
  hashes := by rw [pending, pendingHashes]; exact holds.hashes
  txEvents_pending := by rw [pendingHashes, txEvents]; exact holds.txEvents_pending
  deposited := by rw [events, pendingEventCount, pendingHashes, txEvents]; exact holds.deposited

/-- Appending events under a hash adds their number to the count, provided a
hash that is not yet pending has no events. -/
theorem eventCount_append (hashes : List FieldElement) (txEvents : FieldElement → List Event)
    (hash : FieldElement) (emitted : List Event) (fresh : hash ∉ hashes → txEvents hash = []) :
    ∑ k ∈ (hashes ++ [hash]).toFinset, (Function.update txEvents hash (txEvents hash ++ emitted) k).length =
      ∑ k ∈ hashes.toFinset, (txEvents k).length + emitted.length := by
  have lengths : ∀ k, (Function.update txEvents hash (txEvents hash ++ emitted) k).length =
      Function.update (fun k => (txEvents k).length) hash ((txEvents hash).length + emitted.length) k := by
    intro k
    by_cases same : k = hash
    · subst same; simp
    · simp [same]
  simp only [lengths, List.toFinset_append, List.toFinset_cons, List.toFinset_nil, insert_empty_eq]
  by_cases member : hash ∈ hashes
  · have inSet : hash ∈ hashes.toFinset := List.mem_toFinset.2 member
    rw [Finset.union_singleton, Finset.insert_eq_of_mem inSet, Finset.sum_update_of_mem inSet,
      Finset.sum_eq_add_sum_sdiff_singleton_of_mem inSet]
    omega
  · have notInSet : hash ∉ hashes.toFinset := fun inSet => member (List.mem_toFinset.1 inSet)
    rw [Finset.union_singleton, Finset.sum_insert notInSet, Finset.sum_update_of_notMem notInSet]
    simp [fresh member]
    omega

/-- Recording an execution under the transaction's own hash keeps the invariant. -/
theorem storeExecution_consistent {eventsBefore : Nat} {s : Storage ContractClass}
    (holds : PendingConsistent config eventsBefore s) (tx : Transaction) (info : TransactionExecutionInfo) :
    PendingConsistent config eventsBefore
      (storeExecution (tx.computeHash config.crypto config.chainId false) tx info s) := by
  obtain ⟨pending, pendingHashes, txEvents, events⟩ :=
    storeExecution_spec (tx.computeHash config.crypto config.chainId false) s tx info
  constructor
  · rw [pending, pendingHashes, holds.hashes, List.map_append]
    rfl
  · intro hash nonempty
    rw [pendingHashes]
    by_cases same : hash = tx.computeHash config.crypto config.chainId false
    · simp [same]
    · rw [txEvents, Function.update_of_ne same] at nonempty
      exact List.mem_append_left _ (holds.txEvents_pending hash nonempty)
  · have fresh : tx.computeHash config.crypto config.chainId false ∉ s.pendingHashes →
        s.txEvents (tx.computeHash config.crypto config.chainId false) = [] := by
      intro absent
      by_contra nonempty
      exact absent (holds.txEvents_pending _ nonempty)
    rw [events, pendingEventCount, pendingHashes, txEvents, eventCount_append _ _ _ _ fresh,
      List.length_append, List.length_map, holds.deposited, pendingEventCount]
    omega

variable {execute : Executor ContractClass}

/-- Every successful dispatch keeps the invariant. -/
theorem dispatch_consistent {eventsBefore : Nat} {call : Call ContractClass} {s next : Storage ContractClass}
    (holds : PendingConsistent config eventsBefore s) (succeeded : dispatch config execute call s = .ok next) :
    PendingConsistent config eventsBefore next := by
  rcases dispatch_ok succeeded with ⟨-, address, rfl⟩ | ⟨tx, info, executed, -, pending, pendingHashes, txEvents, events, -, rfl⟩
  · exact holds.of_eq rfl rfl rfl rfl
  · exact storeExecution_consistent (holds.of_eq pending pendingHashes txEvents events) tx info

/-- Whatever calls a block runs, each in its own layer, the invariant holds
after each of them. -/
theorem run_consistent {eventsBefore : Nat} (calls : List (Call ContractClass)) {s : Storage ContractClass}
    (holds : PendingConsistent config eventsBefore s) :
    PendingConsistent config eventsBefore (Transactional.run (dispatch config execute) calls s) :=
  Transactional.run_invariant _ _ (fun _ _ _ => dispatch_consistent) calls holds

/-- A successful dispatch appends the transaction it carries, and nothing else. -/
theorem dispatch_pending {call : Call ContractClass} {s next : Storage ContractClass}
    (succeeded : dispatch config execute call s = .ok next) :
    next.pending = s.pending ++ call.transaction.toList := by
  rcases dispatch_ok succeeded with ⟨none, address, rfl⟩ | ⟨tx, info, executed, some, pending, -, -, -, -, rfl⟩
  · simp [none]
  · rw [(storeExecution_spec _ executed tx info).1, pending, some]
    rfl

/-- After a run of successful dispatches, the pending transactions are those
the calls carried, in dispatch order. -/
theorem runAll_pending {calls : List (Call ContractClass)} {s final : Storage ContractClass}
    (succeeds : Transactional.runAll (dispatch config execute) calls s = .ok final) :
    final.pending = s.pending ++ calls.filterMap Call.transaction := by
  induction calls generalizing s with
  | nil =>
    cases succeeds
    simp
  | cons call calls ih =>
    obtain ⟨next, stepped, rest⟩ := Transactional.runAll_cons_ok succeeds
    rw [ih rest, dispatch_pending stepped, List.filterMap_cons]
    cases call.transaction <;> simp

/-- `store_block` on a consistent storage: its `assert_eq!` holds, every
event is taken, and the block it deposits holds the pending transactions and
as many events as were deposited in the block. -/
theorem storeBlock_spec {eventsBefore : Nat} {s : Storage ContractClass}
    (holds : PendingConsistent config eventsBefore s) (blockNumber : UInt64) :
    ∃ events : List Event, events.length = s.events.length - eventsBefore ∧
      storeBlock config blockNumber s = some { s with
        txEvents := fun _ => []
        blockHash := Function.update s.blockHash blockNumber
          (some ((pendingBlock config s blockNumber events).header.hash config.crypto))
        pending := []
        pendingHashes := []
        digest := s.digest ++ [depositedLog config.leaves (pendingBlock config s blockNumber events)] } := by
  have lengths : s.pending.length = s.pendingHashes.length := by rw [holds.hashes, List.length_map]
  -- a hash that is not pending has no events, so taking the pending ones empties the map
  have emptied : (takeTxEvents s.pendingHashes s.txEvents).2 = fun _ => [] := by
    rw [takeTxEvents_remaining]
    funext hash
    split
    · rfl
    · rename_i absent
      by_contra nonempty
      exact absent (holds.txEvents_pending hash nonempty)
  refine ⟨(takeTxEvents s.pendingHashes s.txEvents).1, ?_, ?_⟩
  · rw [takeTxEvents_length, holds.deposited, pendingEventCount]
    omega
  · simp only [storeBlock, lengths, ↓reduceIte, emptied]

end Consistency

/-! ### Each L1 message is consumed once -/

section L1Messages

variable {ContractClass : Type} {config : Config ContractClass} {execute : Executor ContractClass}

/-- The nonce a call's dispatch records in `L1Messages`: that of the L1
message it consumes. -/
def Call.consumedNonce : Call ContractClass → Option FieldElement
  | .consumeL1Message transaction _ => some (ofU64 transaction.nonce)
  | _ => none

theorem executeAndStore_l1Messages {executable : Executable ContractClass} {tx : Transaction}
    {s next : Storage ContractClass} (stored : executeAndStore config execute executable tx s = .ok next) :
    next.l1Messages = s.l1Messages := by
  obtain ⟨info, contracts, -, rfl⟩ := executeAndStore_ok stored
  rw [storeExecution_l1Messages]

/-- A successful dispatch records the nonce of the L1 message it consumes,
which was not recorded before, and changes `L1Messages` in no other way. -/
theorem dispatch_l1Messages {call : Call ContractClass} {s next : Storage ContractClass}
    (succeeded : dispatch config execute call s = .ok next) :
    (∀ nonce ∈ call.consumedNonce, nonce ∉ s.l1Messages) ∧
      next.l1Messages = call.consumedNonce.toList ++ s.l1Messages := by
  cases call with
  | setSequencerAddress addr =>
    simp only [dispatch, setSequencerAddress] at succeeded
    split at succeeded
    · cases succeeded
    · split at succeeded
      · cases succeeded
      · cases succeeded
        simp [Call.consumedNonce]
  | invoke transaction =>
    simp only [dispatch, invoke] at succeeded
    split at succeeded
    · simpa [Call.consumedNonce] using executeAndStore_l1Messages succeeded
    · cases succeeded
  | declare transaction contractClass =>
    simp only [dispatch, declare] at succeeded
    split at succeeded
    · cases succeeded
    · split at succeeded
      · cases succeeded
      · split at succeeded
        · simpa [Call.consumedNonce] using executeAndStore_l1Messages succeeded
        · cases succeeded
  | deployAccount transaction =>
    simp only [dispatch, deployAccount] at succeeded
    split at succeeded
    · cases succeeded
    · simpa [Call.consumedNonce] using executeAndStore_l1Messages succeeded
  | consumeL1Message transaction paidFeeOnL1 =>
    simp only [dispatch, consumeL1Message] at succeeded
    split at succeeded
    · rename_i unrecorded
      have fresh : ofU64 transaction.nonce ∉ s.l1Messages := by
        simpa [ensureL1MessageNotExecuted] using unrecorded
      -- the nonce goes in before execution, which leaves `L1Messages` alone
      rw [executeAndStore_l1Messages succeeded]
      simpa [Call.consumedNonce, List.insert_of_not_mem fresh] using fresh
    · cases succeeded

/-- **Each L1 message is consumed once.** Along any run of dispatches, each in
its own layer, the L1 messages that the successful calls consume carry
pairwise distinct nonces, none of them recorded before the run, and
`L1Messages` ends as the nonces recorded before with these put in front,
newest first. -/
theorem run_consumes_l1_messages_once (calls : List (Call ContractClass)) (s : Storage ContractClass) :
    ((Transactional.committed (dispatch config execute) calls s).filterMap Call.consumedNonce).Nodup ∧
      (∀ nonce ∈ (Transactional.committed (dispatch config execute) calls s).filterMap Call.consumedNonce,
        nonce ∉ s.l1Messages) ∧
      (Transactional.run (dispatch config execute) calls s).l1Messages =
        ((Transactional.committed (dispatch config execute) calls s).filterMap Call.consumedNonce).reverse ++
          s.l1Messages := by
  induction calls generalizing s with
  | nil => simp [Transactional.committed, Transactional.history, Transactional.run]
  | cons call calls ih =>
    cases stepped : dispatch config execute call s with
    | error error =>
      -- the failed call's layer is dropped, nonce and all
      rw [Transactional.committed_cons_of_error _ stepped, Transactional.run_cons_of_error _ stepped]
      exact ih s
    | ok next =>
      obtain ⟨fresh, recorded⟩ := dispatch_l1Messages stepped
      obtain ⟨distinct, unseen, final⟩ := ih next
      rw [Transactional.committed_cons_of_ok _ stepped, Transactional.run_cons_of_ok _ stepped,
        List.filterMap_cons]
      cases consumed : call.consumedNonce with
      | none =>
        rw [consumed, Option.toList_none, List.nil_append] at recorded
        rw [recorded] at unseen final
        exact ⟨distinct, unseen, final⟩
      | some nonce =>
        rw [consumed, Option.toList_some, List.singleton_append] at recorded
        have freshNonce : nonce ∉ s.l1Messages := fresh nonce consumed
        rw [recorded] at unseen final
        refine ⟨List.nodup_cons.mpr ⟨fun later => unseen nonce later List.mem_cons_self, distinct⟩, ?_, ?_⟩
        · intro other member
          rcases List.mem_cons.mp member with rfl | later
          · exact freshNonce
          · exact fun before => unseen other later (List.mem_cons_of_mem _ before)
        · rw [final, List.reverse_cons, List.append_assoc, List.singleton_append]

end L1Messages

/-! ### A block -/

section Block

variable {ContractClass : Type}

/-- A block built from a fresh start by successful dispatches keeps its three
pending items in step after every dispatch; the transactions pend in dispatch
order; and `on_finalize` deposits the one block log of the pending
transactions with every event of the block counted once, records the block's
hash and empties the pending items. -/
theorem pallet_block_building_invariant (config : Config ContractClass) (execute : Executor ContractClass)
    (start : Storage ContractClass) (calls : List (Call ContractClass)) (final : Storage ContractClass)
    (fresh : BlockStart start)
    (succeeds : Transactional.runAll (dispatch config execute) calls start = .ok final) :
    (∀ count, let s := Transactional.run (dispatch config execute) (calls.take count) start
      s.pendingHashes.length = s.pending.length ∧
      (∀ i (lt : i < s.pending.length),
        s.pendingHashes[i]? = some (s.pending[i].computeHash config.crypto config.chainId false)) ∧
      ∀ hash, s.txEvents hash ≠ [] → hash ∈ s.pendingHashes) ∧
    final.pending = calls.filterMap Call.transaction ∧
    final.events.length = start.events.length + ∑ hash ∈ final.pendingHashes.toFinset, (final.txEvents hash).length ∧
    (final.seqAddrUpdate = some true →
      ∃ finished block, onFinalize config final = some finished ∧
        finished.digest = final.digest ++ [depositedLog config.leaves block] ∧
        block.transactions = final.pending ∧
        block.header.blockNumber = final.blockNumber ∧
        block.header.transactionCount = Fin.ofNat _ final.pending.length ∧
        block.header.eventCount = Fin.ofNat _ (final.events.length - start.events.length) ∧
        block.header.parentBlockHash =
          (if final.blockNumber = 0 then 0 else (final.blockHash (final.blockNumber - 1)).getD 0) ∧
        finished.blockHash final.blockNumber = some (block.header.hash config.crypto) ∧
        finished.pending = [] ∧ finished.pendingHashes = [] ∧ ∀ hash, finished.txEvents hash = []) := by
  have initial : PendingConsistent config start.events.length start := fresh.consistent
  have reached : Transactional.run (dispatch config execute) calls start = final :=
    Transactional.run_eq_of_runAll succeeds
  have holds : PendingConsistent config start.events.length final := reached ▸ run_consistent calls initial
  refine ⟨fun count => ?_, ?_, holds.deposited, fun updated => ?_⟩
  · -- (i) and (ii) after the first `count` dispatches
    have prefixHolds : PendingConsistent config start.events.length
        (Transactional.run (dispatch config execute) (calls.take count) start) :=
      run_consistent (calls.take count) initial
    refine ⟨by rw [prefixHolds.hashes, List.length_map], fun i lt => ?_, prefixHolds.txEvents_pending⟩
    rw [prefixHolds.hashes, List.getElem?_map, List.getElem?_eq_getElem lt]
    rfl
  · rw [runAll_pending succeeds, fresh.pending, List.nil_append]
  · -- `on_finalize` takes `SeqAddrUpdate`, which the invariant does not read
    have cleared : PendingConsistent config start.events.length { final with seqAddrUpdate := none } :=
      holds.of_eq rfl rfl rfl rfl
    obtain ⟨events, counted, stored⟩ := storeBlock_spec cleared final.blockNumber
    rw [onFinalize_of_seqAddrUpdate config updated, stored]
    refine ⟨_, _, rfl, rfl, rfl, rfl, rfl, ?_, rfl, ?_, rfl, rfl, fun _ => rfl⟩
    · simp only [pendingBlock, counted]
    · simp

/-- A runtime configuration with constant hashes and the SCALE leaves of
`sp_runtime`. -/
def witnessConfig : Config Unit where
  crypto := ⟨fun _ => 0, fun _ => 0, fun _ => 0⟩
  chainId := 0
  protocolVersion := 0
  l1GasPrice := ⟨none, 0⟩
  leaves := witnessLeaves
  accepts := fun _ _ => true
  toContractAddress := fun _ => some 0

/-- A block start in which every address has a class hash. -/
def witnessStart : Storage Unit where
  contracts := ⟨fun _ => none, fun _ => none, fun _ => some 0, fun _ => none, fun _ => none⟩
  pending := []
  pendingHashes := []
  txEvents := fun _ => []
  txMessages := fun _ => []
  txRevertError := fun _ => none
  blockHash := fun _ => none
  l1Messages := []
  feeTokenAddress := 0
  sequencerAddress := 0
  seqAddrUpdate := some true
  blockNumber := 1
  now := 0
  phase := .applyExtrinsic 1
  events := []
  digest := []

/-- An execution whose execute call, at address `5`, emits one event. -/
def witnessInfo : TransactionExecutionInfo :=
  ⟨none, some (.mk ⟨none, .external, 0, [], 5, 0, .call⟩ ⟨[], [⟨0, ⟨[1], []⟩⟩], []⟩ []), none, 0, none⟩

def witnessInvoke : InvokeTransaction := .v1 ⟨0, [], 0, 5, [], false⟩

/-- An L1 message of nonce `0` to contract `9`. -/
def witnessMessage : HandleL1MessageTransaction := ⟨0, 9, 0, []⟩

/-- An invoke, the consumption of an L1 message paid on L1, and the invoke
again. -/
def witnessCalls : List (Call Unit) := [.invoke witnessInvoke, .consumeL1Message witnessMessage 1, .invoke witnessInvoke]

/-- Three dispatches in a row, each emitting one event: the transactions pend
in order, and the three events are counted once. -/
theorem pallet_block_building_invariant_three_calls :
    BlockStart witnessStart ∧
    ∃ final, Transactional.runAll (dispatch witnessConfig fun _ _ contracts => .ok (witnessInfo, contracts))
        witnessCalls witnessStart = .ok final ∧
      final.pending = witnessCalls.filterMap Call.transaction ∧
      final.events.length =
        witnessStart.events.length + ∑ hash ∈ final.pendingHashes.toFinset, (final.txEvents hash).length := by
  have fresh : BlockStart witnessStart := ⟨rfl, rfl, fun _ => rfl⟩
  obtain ⟨final, succeeds⟩ : ∃ final,
      Transactional.runAll (dispatch witnessConfig fun _ _ contracts => .ok (witnessInfo, contracts))
        witnessCalls witnessStart = .ok final := ⟨_, rfl⟩
  have built := pallet_block_building_invariant _ _ _ _ _ fresh succeeds
  exact ⟨fresh, final, succeeds, built.2.1, built.2.2.1⟩

end Block

end Madara.Pallet

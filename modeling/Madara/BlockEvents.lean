import Madara.Events
import Madara.Lib.Positions
import Mathlib.Data.List.TakeWhile

/-! Which transaction an event belongs to: `get_block_events` and the index
lookup of `get_transaction_receipt` (`client/rpc`), over the block the runtime
builds. The body holds the inherents, then the Starknet transactions.
`frame_system` notes the phase `ApplyExtrinsic(k)` while extrinsic `k` is
applied, so every Starknet event carries the index of the extrinsic that
deposited it. A dispatch that fails stays in the body but leaves nothing in
`Pending`, so the Starknet block holds the transactions of the successful
dispatches only.

The RPC looks an event's transaction up at `k - inherent_count`. With the hash
cache off it looks in the body's Starknet transactions (`extrinsic_filter`),
and finds the event's own transaction (`uncached_hash_of_event`). With the
cache on it looks in mapping-sync's hashes of the Starknet block's
transactions. These count the successful transactions only, so the lookup
lands as many places past the event's own transaction as failed transactions
precede it (`cached_hash_of_event`). The two paths agree exactly when none
does. -/
namespace Madara.BlockEvents

open Madara.Felt Madara.Transactions Madara.StarknetBlock Madara.CallTree Madara.State Madara.Pallet
open Madara.Overrides (StarknetRpcApiError)
open Madara.Events (EmittedEvent)

/-- An extrinsic of a Madara block: `pallet_timestamp::set`, or a call of the
Starknet pallet. -/
inductive Extrinsic (ContractClass : Type) where
  | timestampSet (now : UInt64)
  | starknet (call : Call ContractClass)

variable {ContractClass : Type}

/-- The transaction `extrinsic_filter` finds in an extrinsic: the one a
Starknet call carries. -/
def Extrinsic.transaction : Extrinsic ContractClass → Option Transaction
  | .timestampSet _ => none
  | .starknet call => call.transaction

/-- The transaction a dispatch stored in `Pending`: the one its extrinsic
carries, when it succeeded. -/
def recordedTransaction (xt : Extrinsic ContractClass) : Except DispatchFailure Unit → Option Transaction
  | .ok () => xt.transaction
  | .error _ => none

theorem recordedTransaction_eq_some {xt : Extrinsic ContractClass} {outcome : Except DispatchFailure Unit}
    {tx : Transaction} (recorded : recordedTransaction xt outcome = some tx) :
    xt.transaction = some tx ∧ outcome = .ok () := by
  cases outcome with
  | ok _ => exact ⟨recorded, rfl⟩
  | error _ => cases recorded

/-! ### Applying a block's extrinsics -/

section Apply

variable (config : Config ContractClass) (execute : Executor ContractClass)

/-- `Executive::apply_extrinsic` of the extrinsic at `index`: `frame_system`
notes the phase, then the call runs in a layer of its own, and its
`DispatchOutcome` says whether it succeeded. -/
def applyExtrinsic (index : Nat) (xt : Extrinsic ContractClass) (s : Storage ContractClass) :
    Storage ContractClass × Except DispatchFailure Unit :=
  let s := { s with phase := .applyExtrinsic index }
  match xt with
  | .timestampSet now => ({ s with now }, .ok ())
  | .starknet call =>
    match dispatch config execute call s with
    | .ok next => (next, .ok ())
    | .error failure => (s, .error failure)

/-- The extrinsics of a block body applied in turn from `index`, with the
outcome of each. -/
def applyExtrinsics (index : Nat) : List (Extrinsic ContractClass) → Storage ContractClass →
    Storage ContractClass × List (Except DispatchFailure Unit)
  | [], s => (s, [])
  | xt :: xts, s =>
    let (next, outcome) := applyExtrinsic config execute index xt s
    let (final, outcomes) := applyExtrinsics (index + 1) xts next
    (final, outcome :: outcomes)

theorem applyExtrinsics_cons (index : Nat) (xt : Extrinsic ContractClass) (xts : List (Extrinsic ContractClass))
    (s : Storage ContractClass) :
    applyExtrinsics config execute index (xt :: xts) s =
      ((applyExtrinsics config execute (index + 1) xts (applyExtrinsic config execute index xt s).1).1,
        (applyExtrinsic config execute index xt s).2 ::
          (applyExtrinsics config execute (index + 1) xts (applyExtrinsic config execute index xt s).1).2) :=
  rfl

end Apply

/-! ### What a run leaves behind -/

/-- One applied extrinsic as the run leaves it: the extrinsic, its outcome,
and the Starknet events deposited while it was applied. Only a dispatch that
recorded a transaction deposits any. -/
structure Applied (ContractClass : Type) where
  extrinsic : Extrinsic ContractClass
  outcome : Except DispatchFailure Unit
  emitted : List Event
  quiet : recordedTransaction extrinsic outcome = none → emitted = []

/-- The transaction the applied extrinsic left in `Pending`. -/
def Applied.recorded (applied : Applied ContractClass) : Option Transaction :=
  recordedTransaction applied.extrinsic applied.outcome

/-- The transaction `extrinsic_filter` finds in the applied extrinsic. -/
def Applied.transaction (applied : Applied ContractClass) : Option Transaction :=
  applied.extrinsic.transaction

/-- The event records a run deposits: the events of the extrinsic at position
`j` in phase `ApplyExtrinsic(index + j)`, in order. -/
def depositedRecords (index : Nat) : List (Applied ContractClass) → List (Phase × Event)
  | [] => []
  | applied :: rest => applied.emitted.map (.applyExtrinsic index, ·) ++ depositedRecords (index + 1) rest

/-- An extrinsic that deposited an event recorded a transaction. -/
theorem Applied.recorded_of_mem_emitted {applied : Applied ContractClass} {event : Event}
    (member : event ∈ applied.emitted) : ∃ tx, applied.recorded = some tx := by
  cases recorded : applied.recorded with
  | none => rw [applied.quiet recorded] at member; cases member
  | some tx => exact ⟨tx, rfl⟩

section Run

variable (config : Config ContractClass) (execute : Executor ContractClass)

/-- One extrinsic: `Pending` gets the transaction it recorded, and the events
it deposited are noted in its phase. -/
theorem applyExtrinsic_applied (index : Nat) (xt : Extrinsic ContractClass) (s : Storage ContractClass) :
    ∃ applied : Applied ContractClass, applied.extrinsic = xt ∧
      applied.outcome = (applyExtrinsic config execute index xt s).2 ∧
      (applyExtrinsic config execute index xt s).1.pending = s.pending ++ applied.recorded.toList ∧
      (applyExtrinsic config execute index xt s).1.events =
        s.events ++ applied.emitted.map (.applyExtrinsic index, ·) := by
  cases xt with
  | timestampSet now =>
    exact ⟨⟨.timestampSet now, .ok (), [], fun _ => rfl⟩, rfl, rfl, by simp [applyExtrinsic, Applied.recorded,
      recordedTransaction, Extrinsic.transaction], by simp [applyExtrinsic]⟩
  | starknet call =>
    simp only [applyExtrinsic]
    split
    · next next dispatched =>
      rcases dispatch_ok dispatched with ⟨carried, address, rfl⟩ |
        ⟨tx, info, executed, carried, pending, -, -, events, phase, rfl⟩
      · -- the inherent set the sequencer address and recorded nothing
        refine ⟨⟨.starknet call, .ok (), [], fun _ => rfl⟩, rfl, rfl, ?_, ?_⟩
        · simp [Applied.recorded, recordedTransaction, Extrinsic.transaction, carried]
        · simp
      · obtain ⟨pending', -, -, events'⟩ :=
          storeExecution_spec (tx.computeHash config.crypto config.chainId false) executed tx info
        refine ⟨⟨.starknet call, .ok (), emittedEvents info, fun none => ?_⟩, rfl, rfl, ?_, ?_⟩
        · simp [recordedTransaction, Extrinsic.transaction, carried] at none
        · rw [pending', pending]
          simp [Applied.recorded, recordedTransaction, Extrinsic.transaction, carried]
        · rw [events', events, phase]
    · next failure failed =>
      exact ⟨⟨.starknet call, .error failure, [], fun _ => rfl⟩, rfl, rfl,
        by simp [Applied.recorded, recordedTransaction], by simp⟩

/-- A run of extrinsics: `Pending` gets the recorded transactions in order,
and each extrinsic's events are deposited in its phase, in order. -/
theorem applyExtrinsics_trace (index : Nat) (xts : List (Extrinsic ContractClass)) (s : Storage ContractClass) :
    ∃ history : List (Applied ContractClass), history.map Applied.extrinsic = xts ∧
      history.map Applied.outcome = (applyExtrinsics config execute index xts s).2 ∧
      (applyExtrinsics config execute index xts s).1.pending = s.pending ++ history.filterMap Applied.recorded ∧
      (applyExtrinsics config execute index xts s).1.events = s.events ++ depositedRecords index history := by
  induction xts generalizing index s with
  | nil => exact ⟨[], rfl, rfl, by simp [applyExtrinsics], by simp [applyExtrinsics, depositedRecords]⟩
  | cons xt xts ih =>
    obtain ⟨applied, extrinsic, outcome, pending, events⟩ := applyExtrinsic_applied config execute index xt s
    obtain ⟨history, extrinsics, outcomes, pending', events'⟩ :=
      ih (index + 1) (applyExtrinsic config execute index xt s).1
    refine ⟨applied :: history, ?_, ?_, ?_, ?_⟩
    · rw [List.map_cons, extrinsic, extrinsics]
    · rw [List.map_cons, outcome, outcomes, applyExtrinsics_cons]
    · rw [applyExtrinsics_cons, pending', pending, List.filterMap_cons]
      cases applied.recorded <;> simp
    · rw [applyExtrinsics_cons, events', events, depositedRecords, List.append_assoc]

end Run

/-! ### What the runtime and mapping-sync hand the RPC -/

/-- `get_starknet_events_and_their_associated_tx_index`: each Starknet event
deposited while an extrinsic was applied, with the extrinsic's index. -/
def getStarknetEventsAndTheirAssociatedTxIndex (records : List (Phase × Event)) : List (Nat × Event) :=
  records.filterMap fun record =>
    match record.1 with
    | .applyExtrinsic index => some (index, record.2)
    | _ => none

/-- `extrinsic_filter`: the transactions of a body's Starknet calls, in order. -/
def extrinsicFilter (xts : List (Extrinsic ContractClass)) : List Transaction :=
  xts.filterMap Extrinsic.transaction

/-- The `take_while` of `get_events_for_tx_by_index`: the events that follow
on in the phase of extrinsic `txIndex`. A record of a phase other than
`ApplyExtrinsic` reaches its `panic!`, here `none`. -/
def takeEventsOfTx (txIndex : Nat) : List (Phase × Event) → Option (List Event)
  | [] => some []
  | (phase, event) :: rest =>
    match phase with
    | .applyExtrinsic index => if txIndex = index then (takeEventsOfTx txIndex rest).map (event :: ·) else some []
    | _ => none

/-- The `skip_while` test of `get_events_for_tx_by_index`: a record that
extrinsic `txIndex` did not deposit. -/
def skipsRecord (txIndex : Nat) (record : Phase × Event) : Bool :=
  match record.1 with
  | .applyExtrinsic index => txIndex != index
  | _ => true

/-- `get_events_for_tx_by_index`: skip to the first event of the extrinsic,
then take its events. -/
def getEventsForTxByIndex (txIndex : Nat) (records : List (Phase × Event)) : Option (List Event) :=
  takeEventsOfTx txIndex (records.dropWhile (skipsRecord txIndex))

/-- The `starknet_transaction_hashes` of the `MappingCommitment` mapping-sync
writes for a block: the hashes of the Starknet block's transactions. -/
def mappingCommitmentHashes (crypto : Crypto) (chainId : Felt252Wrapper) (block : Block) : List FieldElement :=
  block.transactions.map (·.computeHash crypto chainId false)

/-- `cached_transaction_hashes_from_block_hash` for a block mapping-sync has
synced: nothing while `cache_more_things` is off, the hashes it wrote when on. -/
def cachedTransactionHashesFromBlockHash (cacheMoreThings : Bool) (crypto : Crypto) (chainId : Felt252Wrapper)
    (block : Block) : Option (List FieldElement) :=
  if cacheMoreThings then some (mappingCommitmentHashes crypto chainId block) else none

/-! ### The RPC -/

section Rpc

variable (crypto : Crypto) (chainId : Felt252Wrapper)

/-- `try_txn_hash_from_cache`: the hash at `tx_index` of the cached list when
there is one, else the hash of the transaction at `tx_index`. -/
def tryTxnHashFromCache (txIndex : Nat) (cachedTransactions : Option (List FieldElement))
    (transactions : List Transaction) : Except StarknetRpcApiError Felt252Wrapper :=
  match cachedTransactions with
  | some txnHashes =>
    match txnHashes[txIndex]? with
    | some txnHash => .ok txnHash
    | none => .error .internalServerError
  | none =>
    match transactions[txIndex]? with
    | some transaction => .ok (transaction.computeHash crypto chainId false)
    | none => .error .internalServerError

/-- The loop of `get_block_events` over the events: each with the hash at its
extrinsic index less the inherents; the first failed lookup ends it. -/
def collectTxHashAndEvents (inherentCount : Nat) (txnHashes : Option (List FieldElement))
    (starknetTxs : List Transaction) : List (Nat × Event) → Except StarknetRpcApiError (List (Felt252Wrapper × Event))
  | [] => .ok []
  | (index, event) :: rest => do
    let txHash ← tryTxnHashFromCache crypto chainId (index - inherentCount) txnHashes starknetTxs
    let later ← collectTxHashAndEvents inherentCount txnHashes starknetTxs rest
    pure ((txHash, event) :: later)

/-- The `EmittedEvent` of an event of the block. -/
def emittedEvent (blockHash : Felt252Wrapper) (blockNumber : Nat) (txHash : Felt252Wrapper) (event : Event) :
    EmittedEvent where
  fromAddress := event.fromAddress
  keys := event.content.keys
  data := event.content.data
  blockHash := blockHash
  blockNumber := blockNumber
  transactionHash := txHash

/-- `get_block_events`, from the Starknet block, the Substrate block's body and
events, and the hashes `get_cached_transaction_hashes` found. -/
def getBlockEvents (blockNumber : Nat) (starknetBlock : Block) (blockExtrinsics : List (Extrinsic ContractClass))
    (records : List (Phase × Event)) (txnHashes : Option (List FieldElement)) :
    Except StarknetRpcApiError (List EmittedEvent) := do
  let indexAndEvents := getStarknetEventsAndTheirAssociatedTxIndex records
  let starknetTxs := extrinsicFilter blockExtrinsics
  let inherentCount := blockExtrinsics.length - starknetTxs.length
  let txHashAndEvents ← collectTxHashAndEvents crypto chainId inherentCount txnHashes starknetTxs indexAndEvents
  let blockHash := starknetBlock.header.hash crypto
  pure (txHashAndEvents.map fun (txHash, event) => emittedEvent blockHash blockNumber txHash event)

/-- The search of `get_transaction_receipt` through the block's transactions,
in order, for the requested hash; a failed hash lookup ends it. -/
def findTransaction (txnHashes : Option (List FieldElement)) (transactions : List Transaction)
    (transactionHash : Felt252Wrapper) : List (Transaction × Nat) → Except StarknetRpcApiError (Option (Nat × Transaction))
  | [] => .ok none
  | (tx, index) :: rest => do
    let txHash ← tryTxnHashFromCache crypto chainId index txnHashes transactions
    if txHash = transactionHash then pure (some (index, tx))
    else findTransaction txnHashes transactions transactionHash rest

/-- `get_transaction_receipt` up to its events: the transaction with the
requested hash, its index among the block's extrinsics, and the events
`get_events_for_tx_by_index` returns for that index, where a panic of the
runtime is an internal error. -/
def getTransactionReceipt (blockExtrinsics : List (Extrinsic ContractClass)) (records : List (Phase × Event))
    (txnHashes : Option (List FieldElement)) (transactionHash : Felt252Wrapper) :
    Except StarknetRpcApiError (Nat × Transaction × List Event) := do
  let blockExtrinsicsLen := blockExtrinsics.length
  let transactions := extrinsicFilter blockExtrinsics
  match ← findTransaction crypto chainId txnHashes transactions transactionHash transactions.zipIdx with
  | none => .error .internalServerError
  | some (txIndex, transaction) =>
    -- the inherents come first in the body
    let txIndex := txIndex + blockExtrinsicsLen - transactions.length
    match getEventsForTxByIndex txIndex records with
    | none => .error .internalServerError
    | some events => pure (txIndex, transaction, events)

end Rpc

/-! ### The RPC's loops -/

section Loops

variable (crypto : Crypto) (chainId : Felt252Wrapper) (inherentCount : Nat) (starknetTxs : List Transaction)

/-- With the hash cache on, a lookup reads the hash of the synced block's
transaction at the index, whatever the transactions it is handed. -/
theorem tryTxnHashFromCache_cached (block : Block) (txIndex : Nat) (transactions : List Transaction) :
    tryTxnHashFromCache crypto chainId txIndex (cachedTransactionHashesFromBlockHash true crypto chainId block)
        transactions =
      match block.transactions[txIndex]? with
      | some tx => .ok (tx.computeHash crypto chainId false)
      | none => .error .internalServerError := by
  rw [cachedTransactionHashesFromBlockHash, if_pos rfl, tryTxnHashFromCache, mappingCommitmentHashes,
    List.getElem?_map]
  cases block.transactions[txIndex]? <;> rfl

/-- The loop of `get_block_events` depends only on each event's lookup. -/
theorem collectTxHashAndEvents_congr {txnHashes txnHashes' : Option (List FieldElement)} {entries : List (Nat × Event)}
    (same : ∀ entry ∈ entries,
      tryTxnHashFromCache crypto chainId (entry.1 - inherentCount) txnHashes starknetTxs =
        tryTxnHashFromCache crypto chainId (entry.1 - inherentCount) txnHashes' starknetTxs) :
    collectTxHashAndEvents crypto chainId inherentCount txnHashes starknetTxs entries =
      collectTxHashAndEvents crypto chainId inherentCount txnHashes' starknetTxs entries := by
  induction entries with
  | nil => rfl
  | cons entry rest ih =>
    obtain ⟨index, event⟩ := entry
    rw [collectTxHashAndEvents, collectTxHashAndEvents, same (index, event) List.mem_cons_self,
      ih (fun later member => same later (List.mem_cons_of_mem _ member))]

/-- The loop of `get_block_events` when every lookup succeeds: each event with
the hash its lookup found, in order. -/
theorem collectTxHashAndEvents_of_ok {txnHashes : Option (List FieldElement)} {entries : List (Nat × Event)}
    (hashOf : Nat → Felt252Wrapper)
    (found : ∀ entry ∈ entries,
      tryTxnHashFromCache crypto chainId (entry.1 - inherentCount) txnHashes starknetTxs = .ok (hashOf entry.1)) :
    collectTxHashAndEvents crypto chainId inherentCount txnHashes starknetTxs entries =
      .ok (entries.map fun entry => (hashOf entry.1, entry.2)) := by
  induction entries with
  | nil => rfl
  | cons entry rest ih =>
    obtain ⟨index, event⟩ := entry
    rw [collectTxHashAndEvents, found (index, event) List.mem_cons_self,
      ih (fun later member => found later (List.mem_cons_of_mem _ member))]
    rfl

/-- The search of `get_transaction_receipt` ends at the first position whose
lookup finds the requested hash, when every lookup before it succeeds. -/
theorem findTransaction_zipIdx (txnHashes : Option (List FieldElement)) (transactions : List Transaction)
    (transactionHash : Felt252Wrapper) {candidates : List Transaction} {n p : Nat} {selected : Transaction}
    (at_p : candidates[p]? = some selected)
    (passed : ∀ i < p, ∃ other, tryTxnHashFromCache crypto chainId (n + i) txnHashes transactions = .ok other ∧
      other ≠ transactionHash)
    (found : tryTxnHashFromCache crypto chainId (n + p) txnHashes transactions = .ok transactionHash) :
    findTransaction crypto chainId txnHashes transactions transactionHash (candidates.zipIdx n) =
      .ok (some (n + p, selected)) := by
  induction candidates generalizing n p with
  | nil => cases at_p
  | cons candidate rest ih =>
    rw [List.zipIdx_cons, findTransaction]
    cases p with
    | zero =>
      -- the head is the transaction looked for
      rw [List.getElem?_cons_zero, Option.some.injEq] at at_p
      rw [Nat.add_zero] at found ⊢
      rw [found, at_p]
      exact if_pos rfl
    | succ p =>
      obtain ⟨other, looked, differ⟩ := passed 0 (Nat.zero_lt_succ p)
      rw [Nat.add_zero] at looked
      rw [looked]
      show (if other = transactionHash then _ else _) = _
      -- the rest is searched from the next position
      have passedRest : ∀ i < p, ∃ other, tryTxnHashFromCache crypto chainId (n + 1 + i) txnHashes transactions =
          .ok other ∧ other ≠ transactionHash := by
        intro i before
        rw [Nat.add_assoc, Nat.add_comm 1 i]
        exact passed (i + 1) (Nat.succ_lt_succ before)
      have foundRest : tryTxnHashFromCache crypto chainId (n + 1 + p) txnHashes transactions = .ok transactionHash := by
        rw [Nat.add_assoc, Nat.add_comm 1 p]
        exact found
      rw [if_neg differ, ih at_p passedRest foundRest, Nat.add_assoc, Nat.add_comm 1 p]

end Loops

/-! ### The events a run deposits, as the runtime reads them -/

section Deposited

/-- The Starknet events deposited in the phase of extrinsic `k`, in order. -/
def eventsOfExtrinsic (k : Nat) (records : List (Phase × Event)) : List Event :=
  records.filterMap fun record => if record.1 = .applyExtrinsic k then some record.2 else none

theorem eventsOfExtrinsic_append (k : Nat) (first second : List (Phase × Event)) :
    eventsOfExtrinsic k (first ++ second) = eventsOfExtrinsic k first ++ eventsOfExtrinsic k second :=
  List.filterMap_append

theorem depositedRecords_cons (index : Nat) (applied : Applied ContractClass) (rest : List (Applied ContractClass)) :
    depositedRecords index (applied :: rest) =
      applied.emitted.map (.applyExtrinsic index, ·) ++ depositedRecords (index + 1) rest :=
  rfl

/-- A run from `index` deposits in the phases of extrinsics from `index` on. -/
theorem mem_depositedRecords {index : Nat} {history : List (Applied ContractClass)} {record : Phase × Event}
    (member : record ∈ depositedRecords index history) : ∃ j, index ≤ j ∧ record.1 = .applyExtrinsic j := by
  induction history generalizing index with
  | nil => cases member
  | cons applied rest ih =>
    rw [depositedRecords_cons, List.mem_append] at member
    rcases member with own | later
    · obtain ⟨event, -, rfl⟩ := List.mem_map.mp own
      exact ⟨index, Nat.le_refl _, rfl⟩
    · obtain ⟨j, after, phase⟩ := ih later
      exact ⟨j, by omega, phase⟩

/-- A run from `index` over `history` deposits in the phases of the extrinsics
it applied, below `index + history.length`. -/
theorem mem_depositedRecords_lt {index : Nat} {history : List (Applied ContractClass)} {record : Phase × Event}
    (member : record ∈ depositedRecords index history) : ∃ j, j < index + history.length ∧ record.1 = .applyExtrinsic j := by
  induction history generalizing index with
  | nil => cases member
  | cons applied rest ih =>
    rw [depositedRecords_cons, List.mem_append] at member
    rcases member with own | later
    · obtain ⟨event, -, rfl⟩ := List.mem_map.mp own
      exact ⟨index, by simp, rfl⟩
    · obtain ⟨j, below, phase⟩ := ih later
      exact ⟨j, by simp only [List.length_cons]; omega, phase⟩

/-- A run from `index` deposits nothing in the phase of an extrinsic before `index`. -/
theorem deposited_phase_ne_of_lt {k index : Nat} (before : k < index) {history : List (Applied ContractClass)}
    {record : Phase × Event} (member : record ∈ depositedRecords index history) : record.1 ≠ .applyExtrinsic k := by
  obtain ⟨j, after, phase⟩ := mem_depositedRecords member
  rw [phase, Ne, Phase.applyExtrinsic.injEq]
  omega

/-- Nor in the phase of an extrinsic past those it applied. -/
theorem deposited_phase_ne_of_le {k index : Nat} {history : List (Applied ContractClass)}
    (after : index + history.length ≤ k) {record : Phase × Event} (member : record ∈ depositedRecords index history) :
    record.1 ≠ .applyExtrinsic k := by
  obtain ⟨j, below, phase⟩ := mem_depositedRecords_lt member
  rw [phase, Ne, Phase.applyExtrinsic.injEq]
  omega

theorem eventsOfExtrinsic_of_phases {k : Nat} {records : List (Phase × Event)}
    (elsewhere : ∀ record ∈ records, record.1 ≠ .applyExtrinsic k) : eventsOfExtrinsic k records = [] := by
  apply List.filterMap_eq_nil_iff.mpr
  intro record member
  simp [elsewhere record member]

theorem eventsOfExtrinsic_map (k : Nat) (events : List Event) :
    eventsOfExtrinsic k (events.map (.applyExtrinsic k, ·)) = events := by
  simp [eventsOfExtrinsic, List.filterMap_map]

/-- "skip_while" passes every record of another extrinsic's phase. -/
theorem skipsRecord_of_ne {k : Nat} {record : Phase × Event} (other : record.1 ≠ .applyExtrinsic k) :
    skipsRecord k record = true := by
  obtain ⟨phase, event⟩ := record
  cases phase with
  | applyExtrinsic index =>
    have apart : k ≠ index := fun same => other (same ▸ rfl)
    simpa [skipsRecord] using apart
  | finalization => rfl
  | initialization => rfl

/-- The runtime reads each deposited event with the index of the extrinsic at
its position in the run. -/
theorem mem_getStarknetEvents_deposited {index k : Nat} {event : Event} {history : List (Applied ContractClass)}
    (member : (k, event) ∈ getStarknetEventsAndTheirAssociatedTxIndex (depositedRecords index history)) :
    index ≤ k ∧ ∃ applied, history[k - index]? = some applied ∧ event ∈ applied.emitted := by
  induction history generalizing index with
  | nil => cases member
  | cons applied rest ih =>
    rw [getStarknetEventsAndTheirAssociatedTxIndex, depositedRecords_cons, List.filterMap_append,
      List.mem_append] at member
    rcases member with own | later
    · -- an event of the head extrinsic, read with its own index
      obtain ⟨record, recorded, read⟩ := List.mem_filterMap.mp own
      obtain ⟨emitted, isEmitted, rfl⟩ := List.mem_map.mp recorded
      simp only [Option.some.injEq, Prod.mk.injEq] at read
      obtain ⟨rfl, rfl⟩ := read
      exact ⟨Nat.le_refl _, applied, by simp, isEmitted⟩
    · obtain ⟨after, found, step, isEmitted⟩ := ih later
      have shifted : k - index = k - (index + 1) + 1 := by omega
      exact ⟨by omega, found, by rw [shifted, List.getElem?_cons_succ, step], isEmitted⟩

theorem takeEventsOfTx_map_append (k : Nat) (events : List Event) (rest : List (Phase × Event)) :
    takeEventsOfTx k (events.map (.applyExtrinsic k, ·) ++ rest) = (takeEventsOfTx k rest).map (events ++ ·) := by
  induction events with
  | nil => simp
  | cons event events ih =>
    rw [List.map_cons, List.cons_append, takeEventsOfTx]
    rw [if_pos rfl, ih, Option.map_map]
    rfl

/-- Past the phases of extrinsic `k`, `take_while` stops at once. -/
theorem takeEventsOfTx_deposited_of_lt {k index : Nat} (before : k < index) (history : List (Applied ContractClass)) :
    takeEventsOfTx k (depositedRecords index history) = some [] := by
  cases records : depositedRecords index history with
  | nil => rfl
  | cons record rest =>
    obtain ⟨phase, event⟩ := record
    obtain ⟨j, after, isPhase⟩ := mem_depositedRecords (records ▸ List.mem_cons_self : (phase, event) ∈ _)
    dsimp only at isPhase
    subst isPhase
    rw [takeEventsOfTx, if_neg (by omega)]

/-- `get_events_for_tx_by_index` on the events of a run: exactly the events
deposited in the extrinsic's phase, since each extrinsic's events are
deposited together. -/
theorem getEventsForTxByIndex_deposited (k index : Nat) (history : List (Applied ContractClass)) :
    getEventsForTxByIndex k (depositedRecords index history) = some (eventsOfExtrinsic k (depositedRecords index history)) := by
  induction history generalizing index with
  | nil => rfl
  | cons applied rest ih =>
    rw [getEventsForTxByIndex, depositedRecords_cons]
    by_cases same : k = index
    · -- the extrinsic's own events come first, then the later ones are skipped or end the take
      subst same
      have later : ∀ record ∈ depositedRecords (k + 1) rest, record.1 ≠ .applyExtrinsic k :=
        fun _ member => deposited_phase_ne_of_lt (Nat.lt_succ_self k) member
      rw [eventsOfExtrinsic_append, eventsOfExtrinsic_map, eventsOfExtrinsic_of_phases later, List.append_nil]
      cases emitted : applied.emitted with
      | nil =>
        rw [List.map_nil, List.nil_append,
          List.dropWhile_eq_nil_iff.mpr (fun record member => skipsRecord_of_ne (later record member))]
        rfl
      | cons event events =>
        rw [List.map_cons, List.cons_append, List.dropWhile_cons_of_neg (by simp [skipsRecord]), ← List.cons_append,
          ← List.map_cons, takeEventsOfTx_map_append, takeEventsOfTx_deposited_of_lt (Nat.lt_succ_self k),
          Option.map_some, List.append_nil]
    · -- the extrinsic's own events are skipped
      have own : ∀ record ∈ applied.emitted.map (Phase.applyExtrinsic index, ·), record.1 ≠ .applyExtrinsic k := by
        intro record member
        obtain ⟨event, -, rfl⟩ := List.mem_map.mp member
        exact fun phase => same (Phase.applyExtrinsic.inj phase).symm
      rw [List.dropWhile_append_of_pos (fun record member => skipsRecord_of_ne (own record member)),
        ← getEventsForTxByIndex, ih, eventsOfExtrinsic_append, eventsOfExtrinsic_of_phases own, List.nil_append]

end Deposited

/-! ### Block bodies -/

/-- A block body as the block builder lays it out: the inherents, none of
which carries a transaction, then the Starknet transactions. -/
structure BlockBody (ContractClass : Type) where
  inherents : List (Extrinsic ContractClass)
  transactions : List (Extrinsic ContractClass)
  inherent : ∀ xt ∈ inherents, xt.transaction = none
  carries : ∀ xt ∈ transactions, xt.transaction.isSome

namespace BlockBody

variable (body : BlockBody ContractClass)

/-- The extrinsics of the body, in order. -/
def extrinsics : List (Extrinsic ContractClass) := body.inherents ++ body.transactions

/-- `block_extrinsics_len - starknet_txs.len()` counts the inherents. -/
theorem inherentCount : body.extrinsics.length - (extrinsicFilter body.extrinsics).length = body.inherents.length :=
  Positions.length_sub_length_filterMap_append body.inherent body.carries

/-- The transaction at position `i` of `extrinsic_filter` is that of the
extrinsic `i` places past the inherents. -/
theorem getElem?_extrinsicFilter (i : Nat) :
    (extrinsicFilter body.extrinsics)[i]? = body.extrinsics[body.inherents.length + i]?.bind Extrinsic.transaction := by
  have dropped : body.inherents.filterMap Extrinsic.transaction = [] := List.filterMap_eq_nil_iff.mpr body.inherent
  rw [extrinsicFilter, extrinsics, List.filterMap_append, dropped, List.nil_append,
    Positions.getElem?_filterMap_of_forall_isSome body.carries, List.getElem?_append_right (Nat.le_add_right _ _),
    Nat.add_sub_cancel_left]

variable {body}

/-- Only an extrinsic past the inherents carries a transaction. -/
theorem inherents_length_le {k : Nat} {tx : Transaction}
    (carried : body.extrinsics[k]?.bind Extrinsic.transaction = some tx) : body.inherents.length ≤ k := by
  apply Nat.le_of_not_lt
  intro before
  rw [extrinsics, List.getElem?_append_left before] at carried
  obtain ⟨xt, found, carries⟩ := Option.bind_eq_some_iff.mp carried
  rw [body.inherent xt (List.mem_of_getElem? found)] at carries
  cases carries

/-- The Starknet transactions among the first `k` extrinsics: those past the
inherents. -/
theorem transactions_before {k : Nat} (within : k ≤ body.extrinsics.length) :
    ((body.extrinsics.take k).filterMap Extrinsic.transaction).length = k - body.inherents.length := by
  rw [extrinsics, List.length_append] at within
  exact Positions.length_filterMap_take_append body.inherent body.carries within

/-- The transaction an extrinsic carries sits in `extrinsic_filter` as many
places on as the extrinsic is past the inherents. -/
theorem getElem?_extrinsicFilter_of_carried {k : Nat} {tx : Transaction}
    (carried : body.extrinsics[k]?.bind Extrinsic.transaction = some tx) :
    (extrinsicFilter body.extrinsics)[k - body.inherents.length]? = some tx := by
  rw [getElem?_extrinsicFilter, Nat.add_sub_cancel' (inherents_length_le carried), carried]

/-- The lookup of `get_block_events` without the cache, at an extrinsic that
carries a transaction, finds that transaction. -/
theorem getElem?_extrinsicFilter_inherentCount {k : Nat} {tx : Transaction}
    (carried : body.extrinsics[k]?.bind Extrinsic.transaction = some tx) :
    (extrinsicFilter body.extrinsics)[k - (body.extrinsics.length - (extrinsicFilter body.extrinsics).length)]? =
      some tx := by
  rw [body.inherentCount]
  exact getElem?_extrinsicFilter_of_carried carried

end BlockBody

/-! ### Which transaction an event is attributed to -/

/-- The Starknet transactions among the first `k` extrinsics that `Pending`
recorded: where the transaction of extrinsic `k` sits in the Starknet block. -/
def recordedBefore (xts : List (Extrinsic ContractClass)) (outcomes : List (Except DispatchFailure Unit)) (k : Nat) :
    Nat :=
  (((xts.zip outcomes).take k).filterMap fun applied => recordedTransaction applied.1 applied.2).length

/-- The Starknet transactions among the first `k` extrinsics whose dispatch
failed: in the body, but not in the Starknet block. -/
def failedBefore (xts : List (Extrinsic ContractClass)) (outcomes : List (Except DispatchFailure Unit)) (k : Nat) :
    Nat :=
  ((xts.zip outcomes).take k).countP fun applied =>
    applied.1.transaction.isSome && (recordedTransaction applied.1 applied.2).isNone

section History

variable {history : List (Applied ContractClass)} {xts : List (Extrinsic ContractClass)}
  {outcomes : List (Except DispatchFailure Unit)}

theorem Applied.transaction_isSome_of_recorded (applied : Applied ContractClass) (recorded : applied.recorded.isSome) :
    applied.transaction.isSome := by
  obtain ⟨tx, isTx⟩ := Option.isSome_iff_exists.mp recorded
  rw [Applied.transaction, (recordedTransaction_eq_some isTx).1]
  rfl

theorem zip_of_history (extrinsics : history.map Applied.extrinsic = xts) (outcomes' : history.map Applied.outcome = outcomes) :
    xts.zip outcomes = history.map fun applied => (applied.extrinsic, applied.outcome) := by
  rw [← extrinsics, ← outcomes', List.zip_map']

theorem recordedBefore_of_history (extrinsics : history.map Applied.extrinsic = xts)
    (outcomes' : history.map Applied.outcome = outcomes) (k : Nat) :
    recordedBefore xts outcomes k = ((history.take k).filterMap Applied.recorded).length := by
  rw [recordedBefore, zip_of_history extrinsics outcomes', ← List.map_take, List.filterMap_map]
  rfl

theorem failedBefore_of_history (extrinsics : history.map Applied.extrinsic = xts)
    (outcomes' : history.map Applied.outcome = outcomes) (k : Nat) :
    failedBefore xts outcomes k =
      (history.take k).countP fun applied => applied.transaction.isSome && applied.recorded.isNone := by
  rw [failedBefore, zip_of_history extrinsics outcomes', ← List.map_take, List.countP_map]
  rfl

/-- The extrinsic that deposited an event recorded its transaction. -/
theorem origin_of_deposited {k : Nat} {event : Event}
    (deposited : (k, event) ∈ getStarknetEventsAndTheirAssociatedTxIndex (depositedRecords 0 history)) :
    ∃ applied tx, history[k]? = some applied ∧ applied.recorded = some tx := by
  obtain ⟨-, applied, found, emitted⟩ := mem_getStarknetEvents_deposited deposited
  obtain ⟨tx, recorded⟩ := applied.recorded_of_mem_emitted emitted
  exact ⟨applied, tx, by simpa using found, recorded⟩

theorem carried_of_history (extrinsics : history.map Applied.extrinsic = xts) {k : Nat} {applied : Applied ContractClass}
    (found : history[k]? = some applied) : xts[k]?.bind Extrinsic.transaction = applied.transaction := by
  rw [← extrinsics, List.getElem?_map, found]
  rfl

/-- An extrinsic that carries a transaction and whose dispatch succeeded
recorded it. -/
theorem recorded_of_succeeded (extrinsics : history.map Applied.extrinsic = xts)
    (outcomes' : history.map Applied.outcome = outcomes) {k : Nat} {tx : Transaction}
    (carried : xts[k]?.bind Extrinsic.transaction = some tx) (succeeded : outcomes[k]? = some (.ok ())) :
    ∃ applied, history[k]? = some applied ∧ applied.recorded = some tx := by
  obtain ⟨xt, atK, -⟩ := Option.bind_eq_some_iff.mp carried
  rw [← extrinsics, List.getElem?_map] at atK
  obtain ⟨applied, found, -⟩ := Option.map_eq_some_iff.mp atK
  have outcome : applied.outcome = .ok () := by
    rw [← outcomes', List.getElem?_map, found, Option.map_some, Option.some.injEq] at succeeded
    exact succeeded
  refine ⟨applied, found, ?_⟩
  rw [Applied.recorded, outcome, recordedTransaction, ← Applied.transaction, ← carried_of_history extrinsics found,
    carried]

/-- A transaction recorded before extrinsic `k` is a Starknet transaction of
the body before it. -/
theorem mem_extrinsicFilter_take_of_recorded (extrinsics : history.map Applied.extrinsic = xts) {k i : Nat}
    {earlier : Transaction} (before : i < ((history.take k).filterMap Applied.recorded).length)
    (at_i : (history.filterMap Applied.recorded)[i]? = some earlier) : earlier ∈ extrinsicFilter (xts.take k) := by
  rw [Positions.getElem?_filterMap_take before] at at_i
  obtain ⟨applied, member, recorded⟩ := List.mem_filterMap.mp (List.mem_of_getElem? at_i)
  rw [extrinsicFilter, ← extrinsics, ← List.map_take, List.filterMap_map]
  exact List.mem_filterMap.mpr ⟨applied, member, (recordedTransaction_eq_some recorded).1⟩

/-- Where the transaction extrinsic `k` recorded sits: in `Pending` after the
transactions recorded before it, and in `extrinsic_filter` after the
inherents, as many places further as failed transactions precede it. -/
theorem positions_of_recorded (body : BlockBody ContractClass) (extrinsics : history.map Applied.extrinsic = body.extrinsics)
    (outcomes' : history.map Applied.outcome = outcomes) {k : Nat} {applied : Applied ContractClass} {tx : Transaction}
    (found : history[k]? = some applied) (recorded : applied.recorded = some tx) :
    (history.filterMap Applied.recorded)[recordedBefore body.extrinsics outcomes k]? = some tx ∧
      k - body.inherents.length = recordedBefore body.extrinsics outcomes k + failedBefore body.extrinsics outcomes k := by
  have kept : history[k]?.bind Applied.recorded = some tx := by rw [found]; exact recorded
  have within : k ≤ body.extrinsics.length := by
    rw [← extrinsics, List.length_map]
    exact Nat.le_of_lt (List.getElem?_eq_some_iff.mp found).1
  have transactionsBefore : ((history.take k).filterMap Applied.transaction).length = k - body.inherents.length := by
    rw [← BlockBody.transactions_before within, ← extrinsics, ← List.map_take, List.filterMap_map]
    rfl
  refine ⟨?_, ?_⟩
  · rw [recordedBefore_of_history extrinsics outcomes']
    exact Positions.getElem?_filterMap_take_length kept
  · rw [← transactionsBefore, recordedBefore_of_history extrinsics outcomes', failedBefore_of_history extrinsics outcomes',
      Positions.length_filterMap_eq_add_countP Applied.transaction_isSome_of_recorded]

end History

section Attribution

variable (config : Config ContractClass) (execute : Executor ContractClass)

/-- The trace of a block's run from a state that holds no events yet: the
events are exactly those the run deposits. -/
theorem trace_of_run {xts : List (Extrinsic ContractClass)} {start final : Storage ContractClass}
    {outcomes : List (Except DispatchFailure Unit)} (initialized : start.events = [])
    (run : applyExtrinsics config execute 0 xts start = (final, outcomes)) :
    ∃ history : List (Applied ContractClass), history.map Applied.extrinsic = xts ∧
      history.map Applied.outcome = outcomes ∧ final.pending = start.pending ++ history.filterMap Applied.recorded ∧
      final.events = depositedRecords 0 history := by
  obtain ⟨history, extrinsics, outcomes', pending, events⟩ := applyExtrinsics_trace config execute 0 xts start
  rw [run] at outcomes' pending events
  rw [initialized, List.nil_append] at events
  exact ⟨history, extrinsics, outcomes', pending, events⟩

/-- Without the hash cache, `get_block_events` gives every event of a block
the hash of the transaction whose dispatch deposited it, and that dispatch
succeeded. -/
theorem uncached_hash_of_event (body : BlockBody ContractClass) {start final : Storage ContractClass}
    {outcomes : List (Except DispatchFailure Unit)} (initialized : start.events = [])
    (run : applyExtrinsics config execute 0 body.extrinsics start = (final, outcomes))
    {k : Nat} {event : Event} (deposited : (k, event) ∈ getStarknetEventsAndTheirAssociatedTxIndex final.events) :
    ∃ tx, body.extrinsics[k]?.bind Extrinsic.transaction = some tx ∧ outcomes[k]? = some (.ok ()) ∧
      tryTxnHashFromCache config.crypto config.chainId
          (k - (body.extrinsics.length - (extrinsicFilter body.extrinsics).length)) none
          (extrinsicFilter body.extrinsics) =
        .ok (tx.computeHash config.crypto config.chainId false) := by
  obtain ⟨history, extrinsics, outcomes', -, events⟩ := trace_of_run config execute initialized run
  rw [events] at deposited
  obtain ⟨applied, tx, found, recorded⟩ := origin_of_deposited deposited
  obtain ⟨carries, succeeded⟩ := recordedTransaction_eq_some recorded
  have carried : body.extrinsics[k]?.bind Extrinsic.transaction = some tx := by
    rw [carried_of_history extrinsics found]
    exact carries
  refine ⟨tx, carried, by rw [← outcomes', List.getElem?_map, found, Option.map_some, succeeded], ?_⟩
  rw [tryTxnHashFromCache, BlockBody.getElem?_extrinsicFilter_inherentCount carried]

/-- With the hash cache, `get_block_events` reads the hash of the Starknet
block's transaction as many places past the event's own as failed Starknet
transactions precede the event's in the body: an error past the end of the
block, and the hash of another transaction where there is one. -/
theorem cached_hash_of_event (body : BlockBody ContractClass) {start final : Storage ContractClass}
    {outcomes : List (Except DispatchFailure Unit)} (initialized : start.events = []) (empty : start.pending = [])
    (run : applyExtrinsics config execute 0 body.extrinsics start = (final, outcomes))
    (block : Block) (stored : block.transactions = final.pending)
    {k : Nat} {event : Event} (deposited : (k, event) ∈ getStarknetEventsAndTheirAssociatedTxIndex final.events) :
    ∃ tx, body.extrinsics[k]?.bind Extrinsic.transaction = some tx ∧
      final.pending[recordedBefore body.extrinsics outcomes k]? = some tx ∧
      tryTxnHashFromCache config.crypto config.chainId
          (k - (body.extrinsics.length - (extrinsicFilter body.extrinsics).length))
          (cachedTransactionHashesFromBlockHash true config.crypto config.chainId block)
          (extrinsicFilter body.extrinsics) =
        match final.pending[recordedBefore body.extrinsics outcomes k + failedBefore body.extrinsics outcomes k]? with
        | some later => .ok (later.computeHash config.crypto config.chainId false)
        | none => .error .internalServerError := by
  obtain ⟨history, extrinsics, outcomes', pending, events⟩ := trace_of_run config execute initialized run
  rw [empty, List.nil_append] at pending
  rw [events] at deposited
  obtain ⟨applied, tx, found, recorded⟩ := origin_of_deposited deposited
  have carried : body.extrinsics[k]?.bind Extrinsic.transaction = some tx := by
    rw [carried_of_history extrinsics found]
    exact (recordedTransaction_eq_some recorded).1
  -- the lookup reads `Pending` as many places further as failed transactions precede
  obtain ⟨pendingAt, reads⟩ := positions_of_recorded body extrinsics outcomes' found recorded
  rw [← pending] at pendingAt
  refine ⟨tx, carried, pendingAt, ?_⟩
  rw [body.inherentCount, reads, tryTxnHashFromCache_cached, stored]

/-- When no failed Starknet transaction precedes an event's, the lookups of
`get_block_events` with and without the hash cache agree on it. -/
theorem hash_of_event_agrees (body : BlockBody ContractClass) {start final : Storage ContractClass}
    {outcomes : List (Except DispatchFailure Unit)} (initialized : start.events = []) (empty : start.pending = [])
    (run : applyExtrinsics config execute 0 body.extrinsics start = (final, outcomes))
    (block : Block) (stored : block.transactions = final.pending)
    {k : Nat} {event : Event} (deposited : (k, event) ∈ getStarknetEventsAndTheirAssociatedTxIndex final.events)
    (noFailure : failedBefore body.extrinsics outcomes k = 0) :
    tryTxnHashFromCache config.crypto config.chainId (k - (body.extrinsics.length - (extrinsicFilter body.extrinsics).length))
        (cachedTransactionHashesFromBlockHash true config.crypto config.chainId block) (extrinsicFilter body.extrinsics) =
      tryTxnHashFromCache config.crypto config.chainId (k - (body.extrinsics.length - (extrinsicFilter body.extrinsics).length))
        (cachedTransactionHashesFromBlockHash false config.crypto config.chainId block) (extrinsicFilter body.extrinsics) := by
  obtain ⟨tx, carried, -, uncached⟩ := uncached_hash_of_event config execute body initialized run deposited
  obtain ⟨tx', carried', pendingAt, cached⟩ := cached_hash_of_event config execute body initialized empty run block stored deposited
  have same : tx' = tx := Option.some.inj (carried'.symm.trans carried)
  rw [cached, noFailure, Nat.add_zero, pendingAt, same]
  exact uncached.symm

/-- When no failed Starknet transaction precedes any event's, `get_block_events`
answers alike with and without the hash cache. -/
theorem getBlockEvents_cache_agrees (body : BlockBody ContractClass) {start final : Storage ContractClass}
    {outcomes : List (Except DispatchFailure Unit)} (initialized : start.events = []) (empty : start.pending = [])
    (run : applyExtrinsics config execute 0 body.extrinsics start = (final, outcomes))
    (block : Block) (stored : block.transactions = final.pending) (blockNumber : Nat)
    (noFailure : ∀ entry ∈ getStarknetEventsAndTheirAssociatedTxIndex final.events,
      failedBefore body.extrinsics outcomes entry.1 = 0) :
    getBlockEvents config.crypto config.chainId blockNumber block body.extrinsics final.events
        (cachedTransactionHashesFromBlockHash true config.crypto config.chainId block) =
      getBlockEvents config.crypto config.chainId blockNumber block body.extrinsics final.events
        (cachedTransactionHashesFromBlockHash false config.crypto config.chainId block) := by
  unfold getBlockEvents
  dsimp only
  rw [collectTxHashAndEvents_congr _ _ _ _ fun entry member =>
    hash_of_event_agrees config execute body initialized empty run block stored member (noFailure entry member)]

/-- Without the hash cache, `get_block_events` returns every event of the
block, in order, each with the hash of the transaction that deposited it. -/
theorem getBlockEvents_uncached (body : BlockBody ContractClass) {start final : Storage ContractClass}
    {outcomes : List (Except DispatchFailure Unit)} (initialized : start.events = [])
    (run : applyExtrinsics config execute 0 body.extrinsics start = (final, outcomes))
    (blockNumber : Nat) (block : Block) (hashOf : Nat → Felt252Wrapper)
    (hashes : ∀ k tx, body.extrinsics[k]?.bind Extrinsic.transaction = some tx →
      hashOf k = tx.computeHash config.crypto config.chainId false) :
    getBlockEvents config.crypto config.chainId blockNumber block body.extrinsics final.events none =
      .ok ((getStarknetEventsAndTheirAssociatedTxIndex final.events).map fun entry =>
        emittedEvent (block.header.hash config.crypto) blockNumber (hashOf entry.1) entry.2) := by
  have lookups : ∀ entry ∈ getStarknetEventsAndTheirAssociatedTxIndex final.events,
      tryTxnHashFromCache config.crypto config.chainId
          (entry.1 - (body.extrinsics.length - (extrinsicFilter body.extrinsics).length)) none
          (extrinsicFilter body.extrinsics) = .ok (hashOf entry.1) := by
    intro entry member
    obtain ⟨tx, carried, -, lookup⟩ := uncached_hash_of_event config execute body initialized run member
    rw [lookup, hashes _ _ carried]
  unfold getBlockEvents
  dsimp only
  rw [collectTxHashAndEvents_of_ok _ _ _ _ hashOf lookups]
  show Except.ok (List.map _ (List.map _ _)) = _
  rw [List.map_map]
  rfl

/-! The receipt's index lookup. -/

/-- Once the search has found a transaction, the receipt takes its index past
the inherents and the events deposited in that extrinsic's phase. -/
theorem getTransactionReceipt_of_found {xts : List (Extrinsic ContractClass)} {history : List (Applied ContractClass)}
    {txnHashes : Option (List FieldElement)} {transactionHash : Felt252Wrapper} {p : Nat} {selected : Transaction}
    (found : findTransaction config.crypto config.chainId txnHashes (extrinsicFilter xts) transactionHash
      (extrinsicFilter xts).zipIdx = .ok (some (p, selected))) :
    getTransactionReceipt config.crypto config.chainId xts (depositedRecords 0 history) txnHashes transactionHash =
      .ok (p + (xts.length - (extrinsicFilter xts).length), selected,
        eventsOfExtrinsic (p + (xts.length - (extrinsicFilter xts).length)) (depositedRecords 0 history)) := by
  have fewer : (extrinsicFilter xts).length ≤ xts.length := List.length_filterMap_le _ _
  unfold getTransactionReceipt
  dsimp only
  rw [found]
  simp only [bind, Except.bind]
  rw [Nat.add_sub_assoc fewer, getEventsForTxByIndex_deposited]
  rfl

/-- Without the hash cache, the receipt of a transaction whose hash no earlier
Starknet transaction of the body has is read at its own extrinsic, with the
events deposited there. -/
theorem uncached_receipt (body : BlockBody ContractClass) {start final : Storage ContractClass}
    {outcomes : List (Except DispatchFailure Unit)} (initialized : start.events = [])
    (run : applyExtrinsics config execute 0 body.extrinsics start = (final, outcomes))
    {k : Nat} {tx : Transaction} (carried : body.extrinsics[k]?.bind Extrinsic.transaction = some tx)
    (first : ∀ other ∈ extrinsicFilter (body.extrinsics.take k),
      other.computeHash config.crypto config.chainId false ≠ tx.computeHash config.crypto config.chainId false) :
    getTransactionReceipt config.crypto config.chainId body.extrinsics final.events none
        (tx.computeHash config.crypto config.chainId false) =
      .ok (k, tx, eventsOfExtrinsic k final.events) := by
  obtain ⟨history, -, -, -, events⟩ := trace_of_run config execute initialized run
  have after := BlockBody.inherents_length_le carried
  have within : k ≤ body.extrinsics.length := by
    obtain ⟨xt, found, -⟩ := Option.bind_eq_some_iff.mp carried
    exact Nat.le_of_lt (List.getElem?_eq_some_iff.mp found).1
  -- the transaction sits past the Starknet transactions before it
  have atPosition := BlockBody.getElem?_extrinsicFilter_of_carried carried
  have earlierCount : ((body.extrinsics.take k).filterMap Extrinsic.transaction).length = k - body.inherents.length :=
    BlockBody.transactions_before within
  have passed : ∀ i < k - body.inherents.length, ∃ other,
      tryTxnHashFromCache config.crypto config.chainId (0 + i) none (extrinsicFilter body.extrinsics) = .ok other ∧
        other ≠ tx.computeHash config.crypto config.chainId false := by
    intro i before
    rw [← earlierCount] at before
    obtain ⟨other, otherAt⟩ : ∃ other, ((body.extrinsics.take k).filterMap Extrinsic.transaction)[i]? = some other :=
      ⟨_, List.getElem?_eq_getElem before⟩
    have isEarlier : (extrinsicFilter body.extrinsics)[i]? = some other := by
      rw [extrinsicFilter, Positions.getElem?_filterMap_take before, otherAt]
    refine ⟨other.computeHash config.crypto config.chainId false, ?_, first other (List.mem_of_getElem? otherAt)⟩
    rw [Nat.zero_add, tryTxnHashFromCache, isEarlier]
  have found := findTransaction_zipIdx config.crypto config.chainId none (extrinsicFilter body.extrinsics)
    (tx.computeHash config.crypto config.chainId false) atPosition passed
    (by rw [Nat.zero_add, tryTxnHashFromCache, atPosition])
  rw [Nat.zero_add] at found
  rw [events, getTransactionReceipt_of_found config found, body.inherentCount, Nat.sub_add_cancel after]

/-- With the hash cache, the receipt of a transaction of the Starknet block
whose hash no earlier Starknet transaction of the body has is read as many
extrinsics too early as failed Starknet transactions precede it: the
transaction there, and the events deposited there. -/
theorem cached_receipt (body : BlockBody ContractClass) {start final : Storage ContractClass}
    {outcomes : List (Except DispatchFailure Unit)} (initialized : start.events = []) (empty : start.pending = [])
    (run : applyExtrinsics config execute 0 body.extrinsics start = (final, outcomes))
    (block : Block) (stored : block.transactions = final.pending)
    {k : Nat} {tx : Transaction} (carried : body.extrinsics[k]?.bind Extrinsic.transaction = some tx)
    (succeeded : outcomes[k]? = some (.ok ()))
    (first : ∀ other ∈ extrinsicFilter (body.extrinsics.take k),
      other.computeHash config.crypto config.chainId false ≠ tx.computeHash config.crypto config.chainId false) :
    ∃ selected, body.extrinsics[k - failedBefore body.extrinsics outcomes k]?.bind Extrinsic.transaction = some selected ∧
      getTransactionReceipt config.crypto config.chainId body.extrinsics final.events
          (cachedTransactionHashesFromBlockHash true config.crypto config.chainId block)
          (tx.computeHash config.crypto config.chainId false) =
        .ok (k - failedBefore body.extrinsics outcomes k, selected,
          eventsOfExtrinsic (k - failedBefore body.extrinsics outcomes k) final.events) := by
  obtain ⟨history, extrinsics, outcomes', pending, events⟩ := trace_of_run config execute initialized run
  rw [empty, List.nil_append] at pending
  have after := BlockBody.inherents_length_le carried
  obtain ⟨applied, found, recorded⟩ := recorded_of_succeeded extrinsics outcomes' carried succeeded
  obtain ⟨pendingAt, reads⟩ := positions_of_recorded body extrinsics outcomes' found recorded
  -- the search stops at the transaction's place in `Pending`
  have inBlock := BlockBody.getElem?_extrinsicFilter_of_carried carried
  obtain ⟨selected, selectedAt⟩ : ∃ selected,
      (extrinsicFilter body.extrinsics)[recordedBefore body.extrinsics outcomes k]? = some selected := by
    have shorter : recordedBefore body.extrinsics outcomes k < (extrinsicFilter body.extrinsics).length := by
      have := (List.getElem?_eq_some_iff.mp inBlock).1
      omega
    exact ⟨_, List.getElem?_eq_getElem shorter⟩
  have passed : ∀ i < recordedBefore body.extrinsics outcomes k, ∃ other,
      tryTxnHashFromCache config.crypto config.chainId (0 + i)
          (cachedTransactionHashesFromBlockHash true config.crypto config.chainId block) (extrinsicFilter body.extrinsics) =
        .ok other ∧ other ≠ tx.computeHash config.crypto config.chainId false := by
    intro i before
    have earlier : i < ((history.take k).filterMap Applied.recorded).length := by
      rwa [← recordedBefore_of_history extrinsics outcomes']
    obtain ⟨other, otherAt⟩ : ∃ other, (history.filterMap Applied.recorded)[i]? = some other :=
      ⟨_, List.getElem?_eq_getElem (Nat.lt_of_lt_of_le earlier (List.IsPrefix.length_le
        ⟨_, (List.filterMap_append).symm.trans (by rw [List.take_append_drop])⟩))⟩
    refine ⟨other.computeHash config.crypto config.chainId false, ?_,
      first other (mem_extrinsicFilter_take_of_recorded extrinsics earlier otherAt)⟩
    rw [Nat.zero_add, tryTxnHashFromCache_cached, stored, pending, otherAt]
  have search := findTransaction_zipIdx config.crypto config.chainId
    (cachedTransactionHashesFromBlockHash true config.crypto config.chainId block) (extrinsicFilter body.extrinsics)
    (tx.computeHash config.crypto config.chainId false) selectedAt passed
    (by rw [Nat.zero_add, tryTxnHashFromCache_cached, stored, pending, pendingAt])
  rw [Nat.zero_add] at search
  -- the index past the inherents is the extrinsic's less the failed transactions
  have index : recordedBefore body.extrinsics outcomes k + (body.extrinsics.length - (extrinsicFilter body.extrinsics).length) =
      k - failedBefore body.extrinsics outcomes k := by
    rw [body.inherentCount]
    omega
  refine ⟨selected, ?_, ?_⟩
  · rw [← index, body.inherentCount, Nat.add_comm, ← BlockBody.getElem?_extrinsicFilter, selectedAt]
  · rw [events, getTransactionReceipt_of_found config search, index]

end Attribution


/-! ### A block where a failed transaction precedes an event's -/

section FailedBefore

/-- Hashes that keep the last element hashed, so that an invoke's hash is its
nonce. -/
def attributionCrypto : Crypto := ⟨fun _ => 0, fun elements => elements.getLast?.getD 0, fun _ => 0⟩

def attributionConfig : Config Unit where
  crypto := attributionCrypto
  chainId := 0
  protocolVersion := 0
  l1GasPrice := ⟨none, 0⟩
  leaves := Madara.DigestLog.witnessLeaves
  accepts := fun _ _ => true
  toContractAddress := fun _ => some 0

/-- An execution whose execute call, at address `5`, emits one event. -/
def attributionInfo : TransactionExecutionInfo :=
  ⟨none, some (.mk ⟨none, .external, 0, [], 5, 0, .call⟩ ⟨[], [⟨0, ⟨[1], []⟩⟩], []⟩ []), none, 0, none⟩

/-- The transaction with hash `2` emits the event; every other one emits nothing. -/
def attributionExecute : Executor Unit := fun _ executable contracts =>
  .ok (if executable.txHash = 2 then attributionInfo else ⟨none, none, none, 0, none⟩, contracts)

/-- A block start in which only address `5` holds an account. -/
def attributionStart : Storage Unit where
  contracts := ⟨fun _ => none, fun _ => none, fun address => if address = 5 then some 0 else none, fun _ => none,
    fun _ => none⟩
  pending := []
  pendingHashes := []
  txEvents := fun _ => []
  txMessages := fun _ => []
  txRevertError := fun _ => none
  blockHash := fun _ => none
  l1Messages := []
  feeTokenAddress := 0
  sequencerAddress := 0
  seqAddrUpdate := none
  blockNumber := 1
  now := 0
  phase := .initialization
  events := []
  digest := []

def attributionInvoke (sender nonce : FieldElement) : InvokeTransaction := .v1 ⟨0, [], nonce, sender, [], false⟩

/-- The two inherents, then an invoke from the undeployed address `7` (hash
`1`) and two from the account `5` (hashes `2` and `3`). -/
def attributionBody : BlockBody Unit where
  inherents := [.timestampSet 0, .starknet (.setSequencerAddress 0)]
  transactions := [.starknet (.invoke (attributionInvoke 7 1)), .starknet (.invoke (attributionInvoke 5 2)),
    .starknet (.invoke (attributionInvoke 5 3))]
  inherent := by simp [Extrinsic.transaction, Call.transaction]
  carries := by simp [Extrinsic.transaction, Call.transaction]

def attributionRun : Storage Unit × List (Except DispatchFailure Unit) :=
  applyExtrinsics attributionConfig attributionExecute 0 attributionBody.extrinsics attributionStart

/-- The Starknet block `store_block` builds from the run. -/
def attributionBlock : Block :=
  pendingBlock attributionConfig attributionRun.1 attributionRun.1.blockNumber
    (takeTxEvents attributionRun.1.pendingHashes attributionRun.1.txEvents).1

/-- The invoke from `7` fails, so the Starknet block holds the invokes with
hashes `2` and `3` and the event of the first is deposited at extrinsic `3`.
With the cache, `get_block_events` gives that event the hash `3` of the next
transaction, and the receipt of hash `2` is read at extrinsic `2`: the failed
invoke, with no events. Without the cache both name the invoke with hash `2`. -/
theorem cache_attributes_event_past_failed_transaction :
    attributionRun.2 = [.ok (), .ok (), .error (.module .accountNotDeployed), .ok (), .ok ()] ∧
    attributionBlock.transactions = [.invoke (attributionInvoke 5 2), .invoke (attributionInvoke 5 3)] ∧
    (Transaction.invoke (attributionInvoke 5 2)).computeHash attributionCrypto 0 false = 2 ∧
    attributionRun.1.events = [(.applyExtrinsic 3, ⟨5, ⟨[1], []⟩⟩)] ∧
    getBlockEvents attributionCrypto 0 1 attributionBlock attributionBody.extrinsics attributionRun.1.events
        (cachedTransactionHashesFromBlockHash true attributionCrypto 0 attributionBlock) =
      .ok [emittedEvent (attributionBlock.header.hash attributionCrypto) 1 3 ⟨5, ⟨[1], []⟩⟩] ∧
    getBlockEvents attributionCrypto 0 1 attributionBlock attributionBody.extrinsics attributionRun.1.events
        (cachedTransactionHashesFromBlockHash false attributionCrypto 0 attributionBlock) =
      .ok [emittedEvent (attributionBlock.header.hash attributionCrypto) 1 2 ⟨5, ⟨[1], []⟩⟩] ∧
    getTransactionReceipt attributionCrypto 0 attributionBody.extrinsics attributionRun.1.events
        (cachedTransactionHashesFromBlockHash true attributionCrypto 0 attributionBlock) 2 =
      .ok (2, .invoke (attributionInvoke 7 1), []) ∧
    getTransactionReceipt attributionCrypto 0 attributionBody.extrinsics attributionRun.1.events
        (cachedTransactionHashesFromBlockHash false attributionCrypto 0 attributionBlock) 2 =
      .ok (3, .invoke (attributionInvoke 5 2), [⟨5, ⟨[1], []⟩⟩]) := by
  refine ⟨?_, ?_, ?_, ?_, ?_, ?_, ?_, ?_⟩ <;> decide

/-- The hash of the transaction an extrinsic of the body carries, under the
witness hashes. -/
def hashAt (body : BlockBody Unit) (k : Nat) : Felt252Wrapper :=
  ((body.extrinsics[k]?.bind Extrinsic.transaction).map fun tx => tx.computeHash attributionCrypto 0 false).getD 0

/-- Even past the failed invoke, `get_block_events` without the cache names
each event's own transaction. -/
theorem getBlockEvents_uncached_past_failed_transaction :
    attributionStart.events = [] ∧
    (∀ k tx, attributionBody.extrinsics[k]?.bind Extrinsic.transaction = some tx →
      hashAt attributionBody k = tx.computeHash attributionConfig.crypto attributionConfig.chainId false) ∧
    getBlockEvents attributionConfig.crypto attributionConfig.chainId 1 attributionBlock attributionBody.extrinsics
        attributionRun.1.events none =
      .ok ((getStarknetEventsAndTheirAssociatedTxIndex attributionRun.1.events).map fun entry =>
        emittedEvent (attributionBlock.header.hash attributionConfig.crypto) 1 (hashAt attributionBody entry.1)
          entry.2) := by
  have hashes : ∀ k tx, attributionBody.extrinsics[k]?.bind Extrinsic.transaction = some tx →
      hashAt attributionBody k = tx.computeHash attributionConfig.crypto attributionConfig.chainId false := by
    intro k tx carried
    simp only [hashAt, carried, Option.map_some, Option.getD_some]
    rfl
  exact ⟨rfl, hashes, getBlockEvents_uncached attributionConfig attributionExecute attributionBody rfl
    (show applyExtrinsics attributionConfig attributionExecute 0 attributionBody.extrinsics attributionStart =
      (attributionRun.1, attributionRun.2) from rfl) 1 attributionBlock (hashAt attributionBody) hashes⟩

/-- The two invokes of the account `5` alone, which both succeed. -/
def agreementBody : BlockBody Unit where
  inherents := [.timestampSet 0, .starknet (.setSequencerAddress 0)]
  transactions := [.starknet (.invoke (attributionInvoke 5 2)), .starknet (.invoke (attributionInvoke 5 3))]
  inherent := by simp [Extrinsic.transaction, Call.transaction]
  carries := by simp [Extrinsic.transaction, Call.transaction]

def agreementRun : Storage Unit × List (Except DispatchFailure Unit) :=
  applyExtrinsics attributionConfig attributionExecute 0 agreementBody.extrinsics attributionStart

def agreementBlock : Block :=
  pendingBlock attributionConfig agreementRun.1 agreementRun.1.blockNumber
    (takeTxEvents agreementRun.1.pendingHashes agreementRun.1.txEvents).1

/-- With no failed transaction in the block, the cache attributes the event
as the uncached lookup does. -/
theorem getBlockEvents_cache_agrees_without_failure :
    attributionStart.events = [] ∧ attributionStart.pending = [] ∧
    agreementBlock.transactions = agreementRun.1.pending ∧
    (∀ entry ∈ getStarknetEventsAndTheirAssociatedTxIndex agreementRun.1.events,
      failedBefore agreementBody.extrinsics agreementRun.2 entry.1 = 0) ∧
    getBlockEvents attributionConfig.crypto attributionConfig.chainId 1 agreementBlock agreementBody.extrinsics
        agreementRun.1.events (cachedTransactionHashesFromBlockHash true attributionConfig.crypto
          attributionConfig.chainId agreementBlock) =
      getBlockEvents attributionConfig.crypto attributionConfig.chainId 1 agreementBlock agreementBody.extrinsics
        agreementRun.1.events (cachedTransactionHashesFromBlockHash false attributionConfig.crypto
          attributionConfig.chainId agreementBlock) := by
  have noFailure : ∀ entry ∈ getStarknetEventsAndTheirAssociatedTxIndex agreementRun.1.events,
      failedBefore agreementBody.extrinsics agreementRun.2 entry.1 = 0 := by
    decide
  exact ⟨rfl, rfl, rfl, noFailure, getBlockEvents_cache_agrees attributionConfig attributionExecute agreementBody
    rfl rfl (show applyExtrinsics attributionConfig attributionExecute 0 agreementBody.extrinsics attributionStart =
      (agreementRun.1, agreementRun.2) from rfl) agreementBlock rfl 1 noFailure⟩

end FailedBefore

end Madara.BlockEvents

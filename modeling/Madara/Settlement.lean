import Madara.DigestLog
import Madara.SnosOutput
import Madara.Lib.Transactional

/-! The settlement worker (`client/settlement/src/sync_state.rs`): it listens
to finality notifications and hands the settlement contract one
`StarknetOsOutput` per Starknet block, in order, through
`SettlementProvider::update_state`. `sync_state_loop` keeps the last settled
state and `sync_from`, its block number. A notification below `sync_from` is
skipped, one at `sync_from` is checked against the settled root, and one above
it is caught up to block by block. The last block of a catch-up is the
notified one; every block before it is read back from the client at its
Substrate height, `client.hash(n)`, where `n` goes through
`UniqueSaturatedInto` into the runtime's `u32` block number.

Settled blocks come in order: every output handed over carries the next
block number and the previous output's new root, and `sync_from` never passes
the highest block notified (`Gapless`, `foldlM_settles`). This rests on the
worker's assumption that height `k` holds the Starknet block numbered `k`, as
`store_block` with `frame_system::block_number` makes it (`WrapsOwnNumber`).
A notified block is one the client holds at some height, and heights are the
runtime's `u32` block numbers, so every number the catch-up reads back lies
below `2^32`, where `UniqueSaturatedInto` changes nothing
(`settlement_advances_gaplessly`).

`temporary_global_state_root_getter` returns the default hash, so every new
state root is `0`. The calls before the loop that read the settlement
contract's spec and check it against the runtime are left out: the model
starts from the state `get_state` returned. The runtime API calls that collect
a block's messages enter as `messages`. -/
namespace Madara.Settlement

open Madara.SnosOutput Madara.StarknetBlock Madara.DigestLog Transactional

/-- `settlement::Error`, by the variants the loop returns. -/
inductive SettlementError where
  | blockchain
  | starknetApi
  | digestLog (error : FindLogError)
  | runtimeApi
  | ethereumClient
  | unknownStarknetBlock (blockNumber : UInt64)
  | unknownSubstrateBlock
  | stateRootMismatch (height : UInt64) (expected actual : StarkFelt)

/-- `StarknetState`: the root and number of the last settled block. -/
structure StarknetState where
  stateRoot : StarkFelt
  blockNumber : StarkFelt
  deriving DecidableEq, Repr

/-- What the worker reads and calls. `client` is the Starknet block at a
Substrate height: `none` when `client.hash` has no block there, otherwise
what reading its header and `find_starknet_block` give. -/
structure Worker where
  client : Nat → Option (Except SettlementError Block)
  /-- The `messages_to_l1` and `messages_to_l2` `update_starknet_state`
  collects through the runtime API. -/
  messages : Block → Except SettlementError (List MessageL2ToL1 × List MessageL1ToL2)
  /-- `next_block.header().hash::<H>()`. -/
  blockHash : Block → StarkFelt
  /-- The config hash of the settlement contract's spec. -/
  configHash : StarkFelt
  /-- `SettlementProvider::update_state`. -/
  updateState : StarknetOsOutput → Except SettlementError Unit

/-- A finality notification, by what `find_starknet_block` reads from the
digest of its header. -/
abbrev Notification := Except FindLogError Block

/-- `UniqueSaturatedInto::<u32>::unique_saturated_into` of a `u64`. -/
def saturatedIntoU32 (value : UInt64) : Nat := min value.toNat (2 ^ 32 - 1)

/-- `Madara::Backend::temporary_global_state_root_getter`: the default hash. -/
def temporaryGlobalStateRootGetter : StarkFelt := 0

/-- `get_starknet_block`: the block at the saturated height. -/
def getStarknetBlock (worker : Worker) (blockNumber : UInt64) : Except SettlementError Block :=
  match worker.client (saturatedIntoU32 blockNumber) with
  | none => .error (.unknownStarknetBlock blockNumber)
  | some found => found

/-- `verify_starknet_state`: a settled block the client holds must carry the
current global root. A block it does not hold yet passes. -/
def verifyStarknetState (worker : Worker) (state : StarknetState) : Except SettlementError Unit :=
  match u64OfFelt state.blockNumber with
  | none => .error .starknetApi
  | some height =>
    match getStarknetBlock worker height with
    | .ok _ =>
      if state.stateRoot ≠ temporaryGlobalStateRootGetter then
        .error (.stateRootMismatch height temporaryGlobalStateRootGetter state.stateRoot)
      else .ok ()
    | .error (.unknownStarknetBlock _) => .ok ()
    | .error error => .error error

/-- `update_starknet_state`: the output handed to the settlement contract, and
the state it settles. -/
def updateStarknetState (worker : Worker) (prevState : StarknetState) (nextBlock : Block) :
    Except SettlementError (StarknetState × StarknetOsOutput) := do
  let nextState : StarknetState := ⟨temporaryGlobalStateRootGetter, feltOfU64 nextBlock.header.blockNumber⟩
  let (messagesToL1, messagesToL2) ← worker.messages nextBlock
  let programOutput : StarknetOsOutput := ⟨prevState.stateRoot, nextState.stateRoot, nextState.blockNumber,
    worker.blockHash nextBlock, worker.configHash, messagesToL1, messagesToL2⟩
  worker.updateState programOutput
  pure (nextState, programOutput)

/-- The loop's state: `last_settled_state`, `sync_from`, and the outputs
handed to `update_state` so far. -/
structure Settled where
  lastSettledState : StarknetState
  syncFrom : UInt64
  reported : List StarknetOsOutput

/-- The catch-up loop `while sync_from < sync_to`, with `left` rounds to go.
The notified block is settled last; every earlier one is read back from the
client. -/
def catchUp (worker : Worker) (block : Block) (syncTo : UInt64) : Nat → Settled → Except SettlementError Settled
  | 0, settled => .ok settled
  | left + 1, settled => do
    let nextBlock ← (if settled.syncFrom + 1 = syncTo then pure block
      else getStarknetBlock worker (settled.syncFrom + 1))
    let (newState, programOutput) ← updateStarknetState worker settled.lastSettledState nextBlock
    catchUp worker block syncTo left ⟨newState, settled.syncFrom + 1, settled.reported ++ [programOutput]⟩

/-- One round of `while let Some(notification)`: skip, check, or catch up. -/
def onNotification (worker : Worker) (settled : Settled) (notification : Notification) :
    Except SettlementError Settled := do
  let block ← notification.mapError .digestLog
  let syncTo := block.header.blockNumber
  if syncTo < settled.syncFrom then pure settled
  else if settled.syncFrom = syncTo then do
    verifyStarknetState worker settled.lastSettledState
    pure settled
  else catchUp worker block syncTo (syncTo.toNat - settled.syncFrom.toNat) settled

/-- `sync_state_loop`, from the state `get_state` returned: the first check of
it, `sync_from` read from its block number, then the notifications in order. -/
def syncStateLoop (worker : Worker) (lastSettledState : StarknetState) (notifications : List Notification) :
    Except SettlementError Settled := do
  verifyStarknetState worker lastSettledState
  let syncFrom ← match u64OfFelt lastSettledState.blockNumber with
    | none => .error .starknetApi
    | some syncFrom => .ok syncFrom
  notifications.foldlM (onNotification worker) ⟨lastSettledState, syncFrom, []⟩

/-! ### One block settled -/

/-- The worker's assumption on the client: the Substrate block at height `k`
wraps the Starknet block numbered `k`. -/
def WrapsOwnNumber (worker : Worker) : Prop :=
  ∀ height block, worker.client height = some (.ok block) → block.header.blockNumber.toNat = height

theorem saturatedIntoU32_of_lt {value : UInt64} (fits : value.toNat < 2 ^ 32) : saturatedIntoU32 value = value.toNat :=
  min_eq_left (by omega)

theorem toNat_add_one_of_lt {value : UInt64} (fits : value.toNat + 1 < 2 ^ 64) : (value + 1).toNat = value.toNat + 1 := by
  rw [UInt64.toNat_add, UInt64.toNat_one, Nat.mod_eq_of_lt fits]

/-- Below `2^32` the height is the number, and the block read back carries it. -/
theorem getStarknetBlock_number {worker : Worker} (wraps : WrapsOwnNumber worker) {blockNumber : UInt64}
    {block : Block} (fits : blockNumber.toNat < 2 ^ 32) (found : getStarknetBlock worker blockNumber = .ok block) :
    block.header.blockNumber = blockNumber := by
  unfold getStarknetBlock at found
  rw [saturatedIntoU32_of_lt fits] at found
  split at found
  · cases found
  · next read =>
    rw [found] at read
    exact UInt64.toNat_inj.mp (wraps _ block read)

/-- `update_starknet_state` settles the block's number under the default
root, and hands over an output from the previous root to that one. -/
theorem updateStarknetState_eq_ok {worker : Worker} {prevState newState : StarknetState} {nextBlock : Block}
    {programOutput : StarknetOsOutput}
    (updated : updateStarknetState worker prevState nextBlock = .ok (newState, programOutput)) :
    newState = ⟨temporaryGlobalStateRootGetter, feltOfU64 nextBlock.header.blockNumber⟩ ∧
      programOutput.prevStateRoot = prevState.stateRoot ∧ programOutput.newStateRoot = newState.stateRoot ∧
      programOutput.blockNumber = newState.blockNumber := by
  obtain ⟨⟨messagesToL1, messagesToL2⟩, -, handed⟩ := bind_eq_ok updated
  obtain ⟨-, -, built⟩ := bind_eq_ok handed
  cases built
  exact ⟨rfl, rfl, rfl, rfl⟩

/-! ### The outputs handed over -/

/-- The root the last output settled, `root` before any. -/
def lastRootOf : StarkFelt → List StarknetOsOutput → StarkFelt
  | root, [] => root
  | _, programOutput :: rest => lastRootOf programOutput.newStateRoot rest

/-- Each output starts from the root the one before it settled, the first
from `root`. -/
def Chained : StarkFelt → List StarknetOsOutput → Prop
  | _, [] => True
  | root, programOutput :: rest => programOutput.prevStateRoot = root ∧ Chained programOutput.newStateRoot rest

theorem lastRootOf_append_singleton (root : StarkFelt) (reported : List StarknetOsOutput)
    (programOutput : StarknetOsOutput) :
    lastRootOf root (reported ++ [programOutput]) = programOutput.newStateRoot := by
  induction reported generalizing root with
  | nil => rfl
  | cons first rest ih => exact ih first.newStateRoot

theorem chained_append_singleton (root : StarkFelt) (reported : List StarknetOsOutput)
    (programOutput : StarknetOsOutput) :
    Chained root (reported ++ [programOutput]) ↔
      Chained root reported ∧ programOutput.prevStateRoot = lastRootOf root reported := by
  induction reported generalizing root with
  | nil => exact ⟨fun chained => ⟨trivial, chained.1⟩, fun chained => ⟨chained.2, trivial⟩⟩
  | cons first rest ih =>
    show first.prevStateRoot = root ∧ Chained first.newStateRoot (rest ++ [programOutput]) ↔
      (first.prevStateRoot = root ∧ Chained first.newStateRoot rest) ∧ _
    rw [ih, and_assoc]
    rfl

/-- What the loop keeps after a stretch of notifications, from the settled
block `s0` with root `r0`: the outputs handed over are numbered
`s0 + 1`, `s0 + 2`, … and chained from `r0`, and `sync_from` and the last
settled state follow them. -/
structure Gapless (s0 : UInt64) (r0 : StarkFelt) (settled : Settled) : Prop where
  numbers : settled.reported.map (fun programOutput => programOutput.blockNumber.val) =
    List.range' (s0.toNat + 1) settled.reported.length
  syncFrom : settled.syncFrom.toNat = s0.toNat + settled.reported.length
  chained : Chained r0 settled.reported
  root : settled.lastSettledState.stateRoot = lastRootOf r0 settled.reported
  number : settled.lastSettledState.blockNumber.val = settled.syncFrom.toNat

/-- Settling the next block keeps the outputs gapless. -/
theorem Gapless.settle {s0 : UInt64} {r0 : StarkFelt} {settled : Settled} (gapless : Gapless s0 r0 settled)
    {newState : StarknetState} {programOutput : StarknetOsOutput} (fits : settled.syncFrom.toNat + 1 < 2 ^ 64)
    (numbered : programOutput.blockNumber.val = settled.syncFrom.toNat + 1)
    (continues : programOutput.prevStateRoot = settled.lastSettledState.stateRoot)
    (rooted : programOutput.newStateRoot = newState.stateRoot)
    (stated : programOutput.blockNumber = newState.blockNumber) :
    Gapless s0 r0 ⟨newState, settled.syncFrom + 1, settled.reported ++ [programOutput]⟩ := by
  have stepped := toNat_add_one_of_lt fits
  refine ⟨?_, ?_, ?_, ?_, ?_⟩
  · show (settled.reported ++ [programOutput]).map _ = List.range' _ (settled.reported ++ [programOutput]).length
    rw [List.map_append, gapless.numbers, List.length_append, List.length_singleton, List.range'_concat,
      List.map_singleton, numbered, gapless.syncFrom]
    rw [Nat.one_mul, Nat.add_right_comm]
  · show (settled.syncFrom + 1).toNat = _
    rw [stepped, List.length_append, List.length_singleton, gapless.syncFrom, Nat.add_assoc]
  · show Chained r0 (settled.reported ++ [programOutput])
    rw [chained_append_singleton, ← gapless.root]
    exact ⟨gapless.chained, continues⟩
  · show newState.stateRoot = lastRootOf r0 (settled.reported ++ [programOutput])
    rw [lastRootOf_append_singleton, rooted]
  · show newState.blockNumber.val = (settled.syncFrom + 1).toNat
    rw [← stated, numbered, stepped]

/-! ### The loop -/

/-- The number a notification carries, `0` for one whose digest has no block. -/
def notifiedNumber : Notification → Nat
  | .ok block => block.header.blockNumber.toNat
  | .error _ => 0

/-- The highest number notified. -/
def highestNotified (notifications : List Notification) : Nat :=
  (notifications.map notifiedNumber).foldr max 0

section Loop

variable {worker : Worker} (wraps : WrapsOwnNumber worker) {s0 : UInt64} {r0 : StarkFelt}
include wraps

/-- A catch-up to a notified block numbered at most `2^32` settles every
block up to it, one after the other: the notified one last, each earlier one
read back at its own height. Induction on the rounds left. -/
theorem catchUp_settles {block : Block} {syncTo : UInt64} (named : block.header.blockNumber = syncTo)
    (low : syncTo.toNat ≤ 2 ^ 32) (left : Nat) {settled final : Settled}
    (counted : settled.syncFrom.toNat + left = syncTo.toNat) (gapless : Gapless s0 r0 settled)
    (caught : catchUp worker block syncTo left settled = .ok final) :
    Gapless s0 r0 final ∧ final.syncFrom = syncTo := by
  induction left generalizing settled with
  | zero =>
    cases caught
    exact ⟨gapless, UInt64.toNat_inj.mp counted⟩
  | succ left ih =>
    rw [catchUp] at caught
    obtain ⟨nextBlock, fetched, rest⟩ := bind_eq_ok caught
    obtain ⟨⟨newState, programOutput⟩, updated, later⟩ := bind_eq_ok rest
    have fits : settled.syncFrom.toNat + 1 < 2 ^ 64 := by
      have bounded := syncTo.toNat_lt
      omega
    have stepped := toNat_add_one_of_lt fits
    -- the block settled next carries the number after `sync_from`
    have numbered : nextBlock.header.blockNumber.toNat = settled.syncFrom.toNat + 1 := by
      split at fetched
      · next last =>
        cases fetched
        rw [named, ← last, stepped]
      · next earlier =>
        have before : settled.syncFrom.toNat + 1 < syncTo.toNat := by
          have apart : (settled.syncFrom + 1).toNat ≠ syncTo.toNat := fun same => earlier (UInt64.toNat_inj.mp same)
          omega
        rw [getStarknetBlock_number wraps (by omega) fetched, stepped]
    obtain ⟨settledState, fromPrevious, rooted, stated⟩ := updateStarknetState_eq_ok updated
    have outputNumber : programOutput.blockNumber.val = settled.syncFrom.toNat + 1 := by
      rw [stated, settledState]
      exact numbered
    exact ih (by rw [stepped]; omega)
      (gapless.settle fits outputNumber fromPrevious rooted stated) later

/-- One notification keeps the outputs gapless and `sync_from` at most the
highest number seen. -/
theorem onNotification_settles {seen : Nat} {settled next : Settled} {notification : Notification}
    (low : notifiedNumber notification ≤ 2 ^ 32) (gapless : Gapless s0 r0 settled)
    (behind : settled.syncFrom.toNat ≤ max s0.toNat seen)
    (stepped : onNotification worker settled notification = .ok next) :
    Gapless s0 r0 next ∧ next.syncFrom.toNat ≤ max s0.toNat (max seen (notifiedNumber notification)) := by
  obtain ⟨block, found, rest⟩ := bind_eq_ok stepped
  have notified : notification = .ok block := by
    cases notification with
    | error error => cases found
    | ok carried => cases found; rfl
  rw [notified] at low ⊢
  dsimp only at rest
  split at rest
  · -- already settled: skipped
    cases rest
    exact ⟨gapless, by omega⟩
  · split at rest
    · -- at `sync_from`: checked, nothing settled
      obtain ⟨-, -, checked⟩ := bind_eq_ok rest
      cases checked
      exact ⟨gapless, by omega⟩
    · -- above `sync_from`: caught up to the notified block
      next ahead apart =>
      have below : settled.syncFrom.toNat < block.header.blockNumber.toNat := by
        rw [UInt64.lt_iff_toNat_lt] at ahead
        have differs : settled.syncFrom.toNat ≠ block.header.blockNumber.toNat :=
          fun same => apart (UInt64.toNat_inj.mp same)
        omega
      obtain ⟨caught, reached⟩ := catchUp_settles wraps rfl low _ (by omega) gapless rest
      refine ⟨caught, ?_⟩
      rw [reached]
      exact Nat.le_trans (Nat.le_max_right _ _) (Nat.le_max_right _ _)

/-- The run over the notifications: induction on them, with the highest
number seen so far. -/
theorem foldlM_settles (notifications : List Notification) {seen : Nat} {settled final : Settled}
    (low : ∀ notification ∈ notifications, notifiedNumber notification ≤ 2 ^ 32) (gapless : Gapless s0 r0 settled)
    (behind : settled.syncFrom.toNat ≤ max s0.toNat seen)
    (ran : notifications.foldlM (onNotification worker) settled = .ok final) :
    Gapless s0 r0 final ∧ final.syncFrom.toNat ≤ max s0.toNat (max seen (highestNotified notifications)) := by
  induction notifications generalizing seen settled with
  | nil =>
    cases ran
    exact ⟨gapless, by omega⟩
  | cons notification rest ih =>
    rw [List.foldlM_cons] at ran
    obtain ⟨next, stepped, later⟩ := bind_eq_ok ran
    obtain ⟨nextGapless, nextBehind⟩ :=
      onNotification_settles wraps (low notification List.mem_cons_self) gapless behind stepped
    obtain ⟨finalGapless, finalBehind⟩ :=
      ih (fun other member => low other (List.mem_cons_of_mem _ member)) nextGapless nextBehind later
    refine ⟨finalGapless, ?_⟩
    have highest : highestNotified (notification :: rest) = max (notifiedNumber notification) (highestNotified rest) :=
      rfl
    rw [highest]
    omega

end Loop

/-- Every notified block is one the client holds at a Substrate height, a
`u32` (`BlockNumber` of the runtime). The client wrapping each height's own
number, no such block lies above `2^32`. -/
theorem notifiedNumber_le_of_held {worker : Worker} (wraps : WrapsOwnNumber worker)
    {notifications : List Notification}
    (notifiedHeld : ∀ block, Except.ok block ∈ notifications →
      ∃ height < 2 ^ 32, worker.client height = some (.ok block)) :
    ∀ notification ∈ notifications, notifiedNumber notification ≤ 2 ^ 32 := by
  intro notification member
  cases notification with
  | error error => exact Nat.zero_le _
  | ok block =>
    obtain ⟨height, below, held⟩ := notifiedHeld block member
    rw [notifiedNumber, wraps height block held]
    exact below.le

/-- A block with no transactions, numbered `number`. -/
def blockNumbered (number : UInt64) : Block := ⟨⟨0, number, 0, 0, 0, 0, 0, ⟨none, 0⟩, none⟩, []⟩

/-- A client holding block `k` at every `u32` height `k`, and a settlement
contract that takes every output. -/
def fetchingWorker : Worker where
  client height := if height < 2 ^ 32 then some (.ok (blockNumbered (UInt64.ofNat height))) else none
  messages _ := .ok ([], [])
  blockHash _ := 0
  configHash := 0
  updateState _ := .ok ()

theorem fetchingWorker_wraps : WrapsOwnNumber fetchingWorker := by
  intro height block found
  dsimp only [fetchingWorker] at found
  split at found
  · next fits =>
    cases found
    exact UInt64.toNat_ofNat_of_lt' (Nat.lt_trans fits (by decide))
  · cases found

/-- Notifications of blocks `2`, `1` and `4`: a gap, a regression, a gap. -/
def gappedNotifications : List Notification := [.ok (blockNumbered 2), .ok (blockNumbered 1), .ok (blockNumbered 4)]

end Madara.Settlement

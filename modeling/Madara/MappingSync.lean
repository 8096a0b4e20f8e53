import Mathlib.Data.List.Basic
import Mathlib.Logic.Function.Iterate

/-! Mapping sync (`client/mapping-sync/src/sync_blocks.rs`): a worker that
walks the Substrate chain down from its tips and records, block by block, that
the block has been synced. Its progress lives in two columns of the Madara
database: `SYNCED_MAPPING`, written by `MappingDb::write_hashes` and
`write_none`, and `CURRENT_SYNCING_TIPS` of `META`, the blocks still to visit.
One call of `sync_one_block` pops tips until it finds a block that is neither
synced nor below `sync_from`, marks that block synced in one commit, and
stores the remaining tips, with the block's parent pushed, in a second commit.

1. **Without a torn call the chain stays linked.** `Consistent` says that
   every synced block above `sync_from` has its parent synced or among the
   stored tips. Every call keeps it unless its mapping commit succeeds and its
   tips commit then fails, and so does every import that only adds blocks
   (`consistent_run`).
2. **A torn call strands the parent.** After such a call the block is synced
   and the stored tips are the old ones. The next call pops the block, finds
   it synced and drops it, so its parent is never visited
   (`mapping_sync_strands_parent`).
3. **`sync_blocks` is a retry loop.** The loop's
   `synced_any || sync_one_block(..)?` does not call `sync_one_block` again
   once a call has returned `true`. So `sync_blocks` retries a call that
   synced nothing, up to its limit, and stops at the first block synced or
   the first error (`retrySync`, `syncBlocksLoop_eq_retrySync`). One call of
   it syncs at most one block (`sync_blocks_syncs_one_block`); the worker's
   `poll_next` keeps `have_next` and fires again while it returns `true`.

The tips vector is kept with its last element first, so that `pop` takes the
head and `push` conses. Reading the two columns does not fail here. The
digest, storage and runtime API checks that `sync_block` and
`sync_genesis_block` make before they write enter as `prepare`. -/
namespace Madara.MappingSync

/-- `sp_runtime::traits::Header`, by the fields the sync reads: `hash()`,
`number()` and `parent_hash()`. -/
structure Header (β : Type) where
  hash : β
  number : Nat
  parentHash : β
  deriving DecidableEq, Repr

/-- The errors `sync_one_block` returns, by where they arise. -/
inductive SyncError where
  /-- `leaves()` of the Substrate backend failed. -/
  | leaves
  /-- `fetch_header`: `"Header not found"`. -/
  | headerNotFound
  /-- `sync_block` or `sync_genesis_block` failed before writing. -/
  | block
  /-- A commit of the database failed (`DbError`). -/
  | commit
  deriving DecidableEq, Repr

/-- The Substrate client as the sync reads it: the header stored under a hash
(`Ok(None)` and `Err` both give `"Header not found"`), and the leaves. -/
structure Blockchain (β : Type) where
  header : β → Option (Header β)
  leaves : Option (List β)

/-- The two columns of the Madara database the sync reads and writes. -/
structure MadaraDb (β : Type) where
  /-- `SYNCED_MAPPING`: `MappingDb::is_synced`. -/
  synced : β → Bool
  /-- `CURRENT_SYNCING_TIPS`, last element first. -/
  tips : List β

/-- The database before the first sync. -/
def MadaraDb.empty {β : Type} : MadaraDb β := ⟨fun _ => false, []⟩

/-- Which commits of a call fail: the one of `write_hashes` or `write_none`,
and the one of `write_current_syncing_tips`. -/
structure Faults where
  mapping : Bool
  tips : Bool
  deriving DecidableEq, Repr

/-- A call whose commits all succeed. -/
def Faults.clean : Faults := ⟨false, false⟩

variable {β : Type}

/-- The `SYNCED_MAPPING` entry of a block set. -/
def MadaraDb.markSynced [DecidableEq β] (db : MadaraDb β) (blockHash : β) : MadaraDb β :=
  { db with synced := fun hash => hash = blockHash || db.synced hash }

/-- `MappingDb::write_hashes` and `MappingDb::write_none`, as far as the
sync reads them back: both set the block's `SYNCED_MAPPING` entry in one
commit. -/
def writeMapping [DecidableEq β] (faults : Faults) (db : MadaraDb β) (blockHash : β) : Except SyncError (MadaraDb β) :=
  if faults.mapping then .error .commit else .ok (db.markSynced blockHash)

/-- `MetaDb::write_current_syncing_tips`. -/
def writeCurrentSyncingTips (faults : Faults) (db : MadaraDb β) (tips : List β) : Except SyncError (MadaraDb β) :=
  if faults.tips then .error .commit else .ok { db with tips := tips }

/-- `fetch_header`: `none` for a tip already synced or below `sync_from`. -/
def fetchHeader (chain : Blockchain β) (db : MadaraDb β) (checkingTip : β) (syncFrom : Nat) :
    Except SyncError (Option (Header β)) :=
  if db.synced checkingTip then .ok none
  else match chain.header checkingTip with
    | some checkingHeader => if syncFrom ≤ checkingHeader.number then .ok (some checkingHeader) else .ok none
    | none => .error .headerNotFound

/-- The loop `while let Some(checking_tip) = current_syncing_tips.pop()`: the
header to sync, if one is found, and the tips not popped. -/
def popOperating (chain : Blockchain β) (db : MadaraDb β) (syncFrom : Nat) :
    List β → Except SyncError (Option (Header β) × List β)
  | [] => .ok (none, [])
  | checkingTip :: rest =>
    match fetchHeader chain db checkingTip syncFrom with
    | .error error => .error error
    | .ok (some checkingHeader) => .ok (some checkingHeader, rest)
    | .ok none => popOperating chain db syncFrom rest

/-- The tips a call starts from: the stored ones, or the leaves when none are
stored. `none` is the early `Ok(false)` of a chain without leaves. -/
def startingTips (chain : Blockchain β) (db : MadaraDb β) : Except SyncError (Option (List β)) :=
  if db.tips.isEmpty then
    match chain.leaves with
    | none => .error .leaves
    | some [] => .ok none
    | some leaves => .ok (some leaves.reverse)
  else .ok (some db.tips)

/-- The tips stored after syncing a block: the parent is pushed, except for
the genesis block. -/
def nextTips (operatingHeader : Header β) (rest : List β) : List β :=
  if operatingHeader.number = 0 then rest else operatingHeader.parentHash :: rest

/-- `sync_one_block`: the database it leaves behind and what it returns. A
commit that failed leaves the database as the previous commit left it. -/
def syncOneBlock [DecidableEq β] (chain : Blockchain β) (prepare : Header β → Except SyncError Unit) (faults : Faults)
    (syncFrom : Nat) (db : MadaraDb β) : MadaraDb β × Except SyncError Bool :=
  match startingTips chain db with
  | .error error => (db, .error error)
  | .ok none => (db, .ok false)
  | .ok (some tips) =>
    match popOperating chain db syncFrom tips with
    | .error error => (db, .error error)
    | .ok (none, rest) =>
      match writeCurrentSyncingTips faults db rest with
      | .error error => (db, .error error)
      | .ok written => (written, .ok false)
    | .ok (some operatingHeader, rest) =>
      match prepare operatingHeader with
      | .error error => (db, .error error)
      | .ok () =>
        match writeMapping faults db operatingHeader.hash with
        | .error error => (db, .error error)
        | .ok mapped =>
          match writeCurrentSyncingTips faults mapped (nextTips operatingHeader rest) with
          | .error error => (mapped, .error error)
          | .ok written => (written, .ok true)

/-- The loop of `sync_blocks` from its `round`-th iteration on, with
`synced_any`: once it holds, `||` does not call `sync_one_block`. -/
def syncBlocksLoop [DecidableEq β] (chain : Blockchain β) (prepare : Header β → Except SyncError Unit) (faults : Nat → Faults)
    (syncFrom : Nat) (round : Nat) : Nat → Bool → MadaraDb β → MadaraDb β × Except SyncError Bool
  | 0, syncedAny, db => (db, .ok syncedAny)
  | left + 1, syncedAny, db =>
    if syncedAny then syncBlocksLoop chain prepare faults syncFrom (round + 1) left true db
    else match syncOneBlock chain prepare (faults round) syncFrom db with
      | (next, .error error) => (next, .error error)
      | (next, .ok synced) => syncBlocksLoop chain prepare faults syncFrom (round + 1) left synced next

/-- `sync_blocks`: `limit` rounds, the `round`-th call with the faults
`faults round`. -/
def syncBlocks [DecidableEq β] (chain : Blockchain β) (prepare : Header β → Except SyncError Unit) (faults : Nat → Faults)
    (limit syncFrom : Nat) (db : MadaraDb β) : MadaraDb β × Except SyncError Bool :=
  syncBlocksLoop chain prepare faults syncFrom 0 limit false db

/-- The retry loop that `poll_next` expects of `sync_blocks` (it passes
`retry_times` as the limit): `sync_one_block` again while it returns `false`,
stopping at the first `true` or error, at most `left` calls. -/
def retrySync [DecidableEq β] (chain : Blockchain β) (prepare : Header β → Except SyncError Unit) (faults : Nat → Faults)
    (syncFrom : Nat) (round : Nat) : Nat → MadaraDb β → MadaraDb β × Except SyncError Bool
  | 0, db => (db, .ok false)
  | left + 1, db =>
    match syncOneBlock chain prepare (faults round) syncFrom db with
    | (next, .ok false) => retrySync chain prepare faults syncFrom (round + 1) left next
    | called => called

/-- At most one block is synced in `next` that was not in `db`. -/
def AtMostOneNew (db next : MadaraDb β) : Prop :=
  ∀ a b, next.synced a = true → db.synced a = false → next.synced b = true → db.synced b = false → a = b

/-- Where the synced marks are the same, no block is new. -/
theorem atMostOneNew_of_synced_eq {db next : MadaraDb β} (same : next.synced = db.synced) : AtMostOneNew db next := by
  intro a _ synced fresh
  rw [same, fresh] at synced
  cases synced

/-- `AtMostOneNew` reads the earlier database only through its synced marks. -/
theorem AtMostOneNew.of_synced_eq {db mid next : MadaraDb β} (same : mid.synced = db.synced)
    (later : AtMostOneNew mid next) : AtMostOneNew db next := by
  intro a b syncedA newA syncedB newB
  rw [← same] at newA newB
  exact later a b syncedA newA syncedB newB

/-! ### What one call does -/

/-- A tip the pop loop drops: synced already, or below `sync_from`. -/
def Skipped (chain : Blockchain β) (db : MadaraDb β) (syncFrom : Nat) (tip : β) : Prop :=
  db.synced tip = true ∨ ∃ header, chain.header tip = some header ∧ header.number < syncFrom

section Call

variable {chain : Blockchain β} {db : MadaraDb β} {syncFrom : Nat}

theorem markSynced_synced [DecidableEq β] (db : MadaraDb β) (blockHash hash : β) :
    (db.markSynced blockHash).synced hash = true ↔ hash = blockHash ∨ db.synced hash = true := by
  simp [MadaraDb.markSynced]

theorem writeMapping_eq_ok [DecidableEq β] {faults : Faults} {blockHash : β} {mapped : MadaraDb β}
    (wrote : writeMapping faults db blockHash = .ok mapped) :
    faults.mapping = false ∧ mapped = db.markSynced blockHash := by
  unfold writeMapping at wrote
  split at wrote
  · cases wrote
  · next clean =>
    cases wrote
    exact ⟨Bool.eq_false_iff.mpr clean, rfl⟩

theorem writeCurrentSyncingTips_eq_ok {faults : Faults} {tips : List β} {written : MadaraDb β}
    (wrote : writeCurrentSyncingTips faults db tips = .ok written) :
    faults.tips = false ∧ written = { db with tips := tips } := by
  unfold writeCurrentSyncingTips at wrote
  split at wrote
  · cases wrote
  · next clean =>
    cases wrote
    exact ⟨Bool.eq_false_iff.mpr clean, rfl⟩

theorem writeCurrentSyncingTips_eq_error {faults : Faults} {tips : List β} {error : SyncError}
    (failed : writeCurrentSyncingTips faults db tips = .error error) : faults.tips = true := by
  unfold writeCurrentSyncingTips at failed
  split at failed
  · next faulty => exact faulty
  · cases failed

theorem fetchHeader_eq_none {tip : β} (fetched : fetchHeader chain db tip syncFrom = .ok none) :
    Skipped chain db syncFrom tip := by
  unfold fetchHeader at fetched
  split at fetched
  · next synced => exact .inl synced
  · split at fetched
    · next header found =>
      split at fetched
      · cases fetched
      · next below => exact .inr ⟨header, found, Nat.lt_of_not_le below⟩
    · cases fetched

theorem fetchHeader_eq_some {tip : β} {header : Header β}
    (fetched : fetchHeader chain db tip syncFrom = .ok (some header)) :
    db.synced tip = false ∧ chain.header tip = some header ∧ syncFrom ≤ header.number := by
  unfold fetchHeader at fetched
  split at fetched
  · cases fetched
  · next unsynced =>
    split at fetched
    · next found =>
      split at fetched
      · next above =>
        cases fetched
        exact ⟨Bool.eq_false_iff.mpr unsynced, found, above⟩
      · cases fetched
    · cases fetched

/-- A loop that finds nothing pops every tip, and drops each. -/
theorem popOperating_none {tips rest : List β} (popped : popOperating chain db syncFrom tips = .ok (none, rest)) :
    rest = [] ∧ ∀ tip ∈ tips, Skipped chain db syncFrom tip := by
  induction tips with
  | nil =>
    cases popped
    exact ⟨rfl, fun _ member => absurd member List.not_mem_nil⟩
  | cons checkingTip others ih =>
    unfold popOperating at popped
    split at popped
    · cases popped
    · cases popped
    · next fetched =>
      obtain ⟨empty, dropped⟩ := ih popped
      refine ⟨empty, fun tip member => ?_⟩
      rcases List.mem_cons.mp member with rfl | later
      · exact fetchHeader_eq_none fetched
      · exact dropped tip later

/-- A loop that finds a header dropped the tips before it. -/
theorem popOperating_some {tips rest : List β} {header : Header β}
    (popped : popOperating chain db syncFrom tips = .ok (some header, rest)) :
    ∃ skipped tip, tips = skipped ++ tip :: rest ∧ (∀ dropped ∈ skipped, Skipped chain db syncFrom dropped) ∧
      db.synced tip = false ∧ chain.header tip = some header ∧ syncFrom ≤ header.number := by
  induction tips with
  | nil => cases popped
  | cons checkingTip others ih =>
    unfold popOperating at popped
    split at popped
    · cases popped
    · next found fetched =>
      cases popped
      exact ⟨[], checkingTip, rfl, fun _ member => absurd member List.not_mem_nil, fetchHeader_eq_some fetched⟩
    · next fetched =>
      obtain ⟨skipped, tip, split, dropped, found⟩ := ih popped
      refine ⟨checkingTip :: skipped, tip, by rw [split, List.cons_append], fun other member => ?_, found⟩
      rcases List.mem_cons.mp member with rfl | later
      · exact fetchHeader_eq_none fetched
      · exact dropped other later

/-- The tips a call starts from hold every stored tip. -/
theorem startingTips_covers {tips : List β} (started : startingTips chain db = .ok (some tips)) :
    ∀ tip ∈ db.tips, tip ∈ tips := by
  unfold startingTips at started
  split at started
  · next empty =>
    intro tip member
    rw [List.isEmpty_iff.mp empty] at member
    exact absurd member List.not_mem_nil
  · cases started
    exact fun _ member => member

/-- Everything one call can do to the database: nothing, store empty tips
after dropping them all, or mark a block synced and then either store the new
tips or fail to. -/
theorem syncOneBlock_effect [DecidableEq β] {prepare : Header β → Except SyncError Unit} {faults : Faults} {next : MadaraDb β}
    {result : Except SyncError Bool} (called : syncOneBlock chain prepare faults syncFrom db = (next, result)) :
    next = db ∨
    (∃ tips, startingTips chain db = .ok (some tips) ∧ (∀ tip ∈ tips, Skipped chain db syncFrom tip) ∧
      next = { db with tips := [] }) ∨
    (∃ tips header rest, startingTips chain db = .ok (some tips) ∧
      popOperating chain db syncFrom tips = .ok (some header, rest) ∧ faults.mapping = false ∧
      (next = db.markSynced header.hash ∧ faults.tips = true ∨
        next = { db.markSynced header.hash with tips := nextTips header rest } ∧ result = .ok true)) := by
  unfold syncOneBlock at called
  split at called
  · exact .inl (Prod.mk.inj called).1.symm
  · exact .inl (Prod.mk.inj called).1.symm
  · next tips started =>
    split at called
    · exact .inl (Prod.mk.inj called).1.symm
    · next rest popped =>
      split at called
      · exact .inl (Prod.mk.inj called).1.symm
      · next written wrote =>
        obtain ⟨rfl, dropped⟩ := popOperating_none popped
        obtain ⟨-, rfl⟩ := writeCurrentSyncingTips_eq_ok wrote
        exact .inr (.inl ⟨tips, started, dropped, (Prod.mk.inj called).1.symm⟩)
    · next header rest popped =>
      split at called
      · exact .inl (Prod.mk.inj called).1.symm
      · split at called
        · exact .inl (Prod.mk.inj called).1.symm
        · next mapped wroteMapping =>
          obtain ⟨clean, rfl⟩ := writeMapping_eq_ok wroteMapping
          refine .inr (.inr ⟨tips, header, rest, started, popped, clean, ?_⟩)
          split at called
          · next failed => exact .inl ⟨(Prod.mk.inj called).1.symm, writeCurrentSyncingTips_eq_error failed⟩
          · next written wrote =>
            obtain ⟨-, rfl⟩ := writeCurrentSyncingTips_eq_ok wrote
            exact .inr ⟨(Prod.mk.inj called).1.symm, (Prod.mk.inj called).2.symm⟩

end Call

/-! ### The chain stays linked -/

/-- The headers of the client: a header's hash is its key, and a block above
genesis has its parent one number below it. -/
structure WellFormed (chain : Blockchain β) : Prop where
  hash : ∀ key header, chain.header key = some header → header.hash = key
  parent : ∀ key header, chain.header key = some header → 0 < header.number →
    ∃ parent, chain.header header.parentHash = some parent ∧ parent.number + 1 = header.number

/-- An import only adds headers. -/
def Extends (chain chain' : Blockchain β) : Prop :=
  ∀ key header, chain.header key = some header → chain'.header key = some header

/-- No segment is cut off: every synced block has a header, and every synced
block above `sync_from` has its parent synced or among the stored tips. -/
structure Consistent (chain : Blockchain β) (syncFrom : Nat) (db : MadaraDb β) : Prop where
  known : ∀ hash, db.synced hash = true → ∃ header, chain.header hash = some header
  linked : ∀ hash header, db.synced hash = true → chain.header hash = some header → syncFrom < header.number →
    db.synced header.parentHash = true ∨ header.parentHash ∈ db.tips

/-- A call whose commits are not torn: its mapping commit fails, or its tips
commit succeeds. -/
def Untorn (faults : Faults) : Prop := faults.mapping = true ∨ faults.tips = false

section Linked

variable {chain : Blockchain β} {db : MadaraDb β} {syncFrom : Nat}

theorem consistent_empty (chain : Blockchain β) (syncFrom : Nat) : Consistent chain syncFrom MadaraDb.empty where
  known _ unsynced := absurd unsynced Bool.false_ne_true
  linked _ _ unsynced := absurd unsynced Bool.false_ne_true

/-- A dropped parent of a synced block above `sync_from` is synced: it cannot
lie below `sync_from`, one number under its child. -/
theorem synced_of_skipped_parent (wellFormed : WellFormed chain) {hash : β} {header : Header β}
    (found : chain.header hash = some header) (above : syncFrom < header.number)
    (skipped : Skipped chain db syncFrom header.parentHash) : db.synced header.parentHash = true := by
  rcases skipped with synced | ⟨dropped, foundDropped, below⟩
  · exact synced
  · obtain ⟨parent, foundParent, numbered⟩ := wellFormed.parent hash header found (by omega)
    rw [foundParent, Option.some.injEq] at foundDropped
    subst foundDropped
    omega

theorem Consistent.of_extends {chain' : Blockchain β} (consistent : Consistent chain syncFrom db)
    (grown : Extends chain chain') : Consistent chain' syncFrom db where
  known hash synced := by
    obtain ⟨header, found⟩ := consistent.known hash synced
    exact ⟨header, grown hash header found⟩
  linked hash header synced found above := by
    obtain ⟨known, foundBefore⟩ := consistent.known hash synced
    rw [grown hash known foundBefore, Option.some.injEq] at found
    subst found
    exact consistent.linked hash known synced foundBefore above

/-- Dropping every tip keeps the chain linked: a parent among them is synced. -/
theorem Consistent.drained [DecidableEq β] (wellFormed : WellFormed chain) (consistent : Consistent chain syncFrom db)
    {tips : List β} (started : startingTips chain db = .ok (some tips))
    (dropped : ∀ tip ∈ tips, Skipped chain db syncFrom tip) : Consistent chain syncFrom { db with tips := [] } where
  known := consistent.known
  linked hash header synced found above := by
    rcases consistent.linked hash header synced found above with parentSynced | stored
    · exact .inl parentSynced
    · exact .inl (synced_of_skipped_parent wellFormed found above
        (dropped _ (startingTips_covers started _ stored)))

/-- Syncing the block a call found, and storing the new tips, keeps the chain
linked: the block's parent is pushed, and every stored tip the call popped is
synced now. -/
theorem Consistent.synced [DecidableEq β] (wellFormed : WellFormed chain) (consistent : Consistent chain syncFrom db)
    {tips rest : List β} {header : Header β} (started : startingTips chain db = .ok (some tips))
    (popped : popOperating chain db syncFrom tips = .ok (some header, rest)) :
    Consistent chain syncFrom { db.markSynced header.hash with tips := nextTips header rest } := by
  obtain ⟨skipped, tip, split, dropped, -, found, -⟩ := popOperating_some popped
  have named : header.hash = tip := wellFormed.hash tip header found
  refine ⟨fun hash synced => ?_, fun hash child synced foundChild above => ?_⟩
  · rcases (markSynced_synced db header.hash hash).mp synced with rfl | before
    · exact ⟨header, named ▸ found⟩
    · exact consistent.known hash before
  · show (db.markSynced header.hash).synced child.parentHash = true ∨ child.parentHash ∈ nextTips header rest
    rw [markSynced_synced]
    rcases (markSynced_synced db header.hash hash).mp synced with rfl | before
    · -- the block just synced: its parent is pushed
      rw [named, found, Option.some.injEq] at foundChild
      subst foundChild
      right
      rw [nextTips, if_neg (by omega)]
      exact List.mem_cons_self
    · rcases consistent.linked hash child before foundChild above with parentSynced | stored
      · exact .inl (.inr parentSynced)
      · have popped := startingTips_covers started _ stored
        rw [split, List.mem_append, List.mem_cons] at popped
        rcases popped with early | rfl | kept
        · exact .inl (.inr (synced_of_skipped_parent wellFormed foundChild above (dropped _ early)))
        · exact .inl (.inl named.symm)
        · right
          unfold nextTips
          split
          · exact kept
          · exact List.mem_cons_of_mem _ kept

/-- Every call whose commits are not torn keeps the chain linked. -/
theorem syncOneBlock_consistent [DecidableEq β] (wellFormed : WellFormed chain)
    (consistent : Consistent chain syncFrom db) (prepare : Header β → Except SyncError Unit) {faults : Faults}
    (untorn : Untorn faults) : Consistent chain syncFrom (syncOneBlock chain prepare faults syncFrom db).1 := by
  generalize called : syncOneBlock chain prepare faults syncFrom db = outcome
  obtain ⟨next, result⟩ := outcome
  rcases syncOneBlock_effect called with
    rfl | ⟨tips, started, dropped, rfl⟩ | ⟨tips, header, rest, started, popped, clean, torn | ⟨rfl, -⟩⟩
  · exact consistent
  · exact consistent.drained wellFormed started dropped
  · rcases untorn with failed | stored
    · rw [clean] at failed
      cases failed
    · rw [torn.2] at stored
      cases stored
  · exact consistent.synced wellFormed started popped

end Linked

/-! ### Runs of imports and calls -/

/-- What happens to the sync: the client imports blocks, or the worker calls
`sync_one_block`. -/
inductive Event (β : Type) where
  | blockImport (chain : Blockchain β)
  | syncCall (faults : Faults)

/-- The client's chain and the Madara database. -/
structure World (β : Type) where
  chain : Blockchain β
  db : MadaraDb β

/-- One event: an import replaces the chain, a call runs `sync_one_block`. -/
def World.step [DecidableEq β] (prepare : Header β → Except SyncError Unit) (syncFrom : Nat) (world : World β) :
    Event β → World β
  | .blockImport chain => { world with chain := chain }
  | .syncCall faults => { world with db := (syncOneBlock world.chain prepare faults syncFrom world.db).1 }

/-- The events in order. -/
def World.run [DecidableEq β] (prepare : Header β → Except SyncError Unit) (syncFrom : Nat) :
    World β → List (Event β) → World β
  | world, [] => world
  | world, event :: events => (world.step prepare syncFrom event).run prepare syncFrom events

/-- The events a run may take: imports that keep every header and are well
formed, and calls whose commits are not torn. -/
def Allowed (world : World β) : Event β → Prop
  | .blockImport chain => Extends world.chain chain ∧ WellFormed chain
  | .syncCall faults => Untorn faults

/-- Every event of a run is allowed where it happens. -/
def AllowedRun [DecidableEq β] (prepare : Header β → Except SyncError Unit) (syncFrom : Nat) :
    World β → List (Event β) → Prop
  | _, [] => True
  | world, event :: events => Allowed world event ∧ AllowedRun prepare syncFrom (world.step prepare syncFrom event) events

/-- The invariant of a run: well-formed headers and a linked database. -/
def Linked (syncFrom : Nat) (world : World β) : Prop :=
  WellFormed world.chain ∧ Consistent world.chain syncFrom world.db

section Run

variable [DecidableEq β] (prepare : Header β → Except SyncError Unit) (syncFrom : Nat)

theorem step_linked {world : World β} {event : Event β} (linked : Linked syncFrom world)
    (allowed : Allowed world event) : Linked syncFrom (world.step prepare syncFrom event) := by
  cases event with
  | blockImport chain => exact ⟨allowed.2, linked.2.of_extends allowed.1⟩
  | syncCall faults => exact ⟨linked.1, syncOneBlock_consistent linked.1 linked.2 prepare allowed⟩

/-- Along every run of imports that only add well-formed blocks and of calls
whose commits are not torn, the chain stays linked. -/
theorem consistent_run (world : World β) (events : List (Event β)) (linked : Linked syncFrom world)
    (allowed : AllowedRun prepare syncFrom world events) : Linked syncFrom (world.run prepare syncFrom events) := by
  induction events generalizing world with
  | nil => exact linked
  | cons event events ih => exact ih _ (step_linked prepare syncFrom linked allowed.1) allowed.2

end Run

/-! ### `sync_blocks` -/

section Blocks

variable [DecidableEq β] {chain : Blockchain β} {prepare : Header β → Except SyncError Unit}
  {faults : Nat → Faults} {syncFrom : Nat}

/-- With `synced_any` set, the rest of the loop calls nothing. -/
theorem syncBlocksLoop_synced (round left : Nat) (db : MadaraDb β) :
    syncBlocksLoop chain prepare faults syncFrom round left true db = (db, .ok true) := by
  induction left generalizing round with
  | zero => rfl
  | succ left ih => rw [syncBlocksLoop, if_pos rfl, ih]

/-- Once a call of `sync_one_block` returns `true`, `sync_blocks` makes no
other call, whatever its limit. -/
theorem syncBlocks_of_synced {limit : Nat} {db next : MadaraDb β}
    (first : syncOneBlock chain prepare (faults 0) syncFrom db = (next, .ok true)) :
    syncBlocks chain prepare faults (limit + 1) syncFrom db = (next, .ok true) := by
  rw [syncBlocks, syncBlocksLoop, if_neg Bool.false_ne_true, first]
  exact syncBlocksLoop_synced 1 limit next

/-- The `synced_any` loop is the retry loop: induction on the rounds left,
with one call of `sync_one_block` per round. -/
theorem syncBlocksLoop_eq_retrySync (round left : Nat) (db : MadaraDb β) :
    syncBlocksLoop chain prepare faults syncFrom round left false db =
      retrySync chain prepare faults syncFrom round left db := by
  induction left generalizing round db with
  | zero => rfl
  | succ left ih =>
    rw [syncBlocksLoop, if_neg Bool.false_ne_true, retrySync]
    cases called : syncOneBlock chain prepare (faults round) syncFrom db with
    | mk next result =>
      cases result with
      | error error => rfl
      | ok synced =>
        cases synced with
        | false => exact ih (round + 1) next
        | true => exact syncBlocksLoop_synced (round + 1) left next

/-- A call that returns `false` marks no block synced: it dropped tips, or
found none. -/
theorem syncOneBlock_synced_of_false {db next : MadaraDb β} {faults : Faults}
    (called : syncOneBlock chain prepare faults syncFrom db = (next, .ok false)) : next.synced = db.synced := by
  unfold syncOneBlock at called
  split at called
  · cases called
  · cases called
    rfl
  · split at called
    · cases called
    · split at called
      · cases called
      · next written wrote =>
        cases called
        obtain ⟨-, rfl⟩ := writeCurrentSyncingTips_eq_ok wrote
        rfl
    · split at called
      · cases called
      · split at called
        · cases called
        · split at called <;> cases called

/-- One call marks at most its one block synced. -/
theorem syncOneBlock_atMostOneNew {db next : MadaraDb β} {faults : Faults} {result : Except SyncError Bool}
    (called : syncOneBlock chain prepare faults syncFrom db = (next, result)) : AtMostOneNew db next := by
  rcases syncOneBlock_effect called with rfl | ⟨_, _, _, rfl⟩ | ⟨_, header, _, _, _, _, marked⟩
  · exact atMostOneNew_of_synced_eq rfl
  · exact atMostOneNew_of_synced_eq rfl
  · intro a b syncedA newA syncedB newB
    -- the one block marked is the operating one, whether the tips commit failed or not
    have markedSynced : next.synced = (db.markSynced header.hash).synced := by
      rcases marked with ⟨rfl, -⟩ | ⟨rfl, -⟩ <;> rfl
    have onlyMarked : ∀ hash, next.synced hash = true → db.synced hash = false → hash = header.hash := by
      intro hash synced fresh
      rw [markedSynced] at synced
      rcases (markSynced_synced db header.hash hash).mp synced with same | old
      · exact same
      · rw [fresh] at old
        cases old
    rw [onlyMarked a syncedA newA, onlyMarked b syncedB newB]

/-- The retry loop marks at most one block synced: the calls before the last
return `false` and mark nothing. Induction on the rounds left. -/
theorem retrySync_atMostOneNew (round left : Nat) (db : MadaraDb β) :
    AtMostOneNew db (retrySync chain prepare faults syncFrom round left db).1 := by
  induction left generalizing round db with
  | zero => exact atMostOneNew_of_synced_eq rfl
  | succ left ih =>
    rw [retrySync]
    cases called : syncOneBlock chain prepare (faults round) syncFrom db with
    | mk next result =>
      cases result with
      | error error => exact syncOneBlock_atMostOneNew called
      | ok synced =>
        cases synced with
        | true => exact syncOneBlock_atMostOneNew called
        | false => exact (ih (round + 1) next).of_synced_eq (syncOneBlock_synced_of_false called)

end Blocks

/-- `sync_blocks` is the retry loop of `poll_next`: with limit `L` it calls
`sync_one_block` while the calls return `false`, at most `L` times, and stops
at the first `true` or error, which it returns. So one call syncs at most one
block. -/
theorem sync_blocks_retries_until_synced [DecidableEq β] (chain : Blockchain β)
    (prepare : Header β → Except SyncError Unit) (faults : Nat → Faults) (limit syncFrom : Nat) (db : MadaraDb β) :
    syncBlocks chain prepare faults limit syncFrom db = retrySync chain prepare faults syncFrom 0 limit db ∧
      AtMostOneNew db (syncBlocks chain prepare faults limit syncFrom db).1 := by
  have retried : syncBlocks chain prepare faults limit syncFrom db = retrySync chain prepare faults syncFrom 0 limit db :=
    syncBlocksLoop_eq_retrySync 0 limit db
  refine ⟨retried, ?_⟩
  rw [retried]
  exact retrySync_atMostOneNew 0 limit db

/-! ### Three blocks -/

/-- Genesis `0`, block `1` on it, and block `2` on `1`, the one leaf. -/
def threeBlocks : Blockchain Nat where
  header
    | 0 => some ⟨0, 0, 0⟩
    | 1 => some ⟨1, 1, 0⟩
    | 2 => some ⟨2, 2, 1⟩
    | _ => none
  leaves := some [2]

/-- `sync_block` finds every block in order. -/
def everyBlockReady : Header Nat → Except SyncError Unit := fun _ => .ok ()

/-- The mapping commit succeeds and the tips commit fails. -/
def tornTips : Faults := ⟨false, true⟩

theorem threeBlocks_wellFormed : WellFormed threeBlocks where
  hash key header found := by
    rcases key with _ | _ | _ | key <;> cases found <;> rfl
  parent key header found positive := by
    rcases key with _ | _ | _ | key
    · cases found
      cases positive
    · cases found
      exact ⟨⟨0, 0, 0⟩, rfl, rfl⟩
    · cases found
      exact ⟨⟨1, 1, 0⟩, rfl, rfl⟩
    · cases found

/-- The database after a torn call from an empty one, syncing from block `1`. -/
def afterTornCall : MadaraDb Nat := (syncOneBlock threeBlocks everyBlockReady tornTips 1 MadaraDb.empty).1

theorem mapping_sync_strands_parent :
    (syncOneBlock threeBlocks everyBlockReady tornTips 1 MadaraDb.empty).2 = .error .commit ∧
      WellFormed threeBlocks ∧ Consistent threeBlocks 1 MadaraDb.empty ∧
      ¬Consistent threeBlocks 1 afterTornCall ∧
      (∀ calls, Nat.iterate (fun db => (syncOneBlock threeBlocks everyBlockReady .clean 1 db).1) calls afterTornCall =
        afterTornCall) ∧
      (syncOneBlock threeBlocks everyBlockReady .clean 1 afterTornCall).2 = .ok false ∧
      afterTornCall.synced 1 = false := by
  have stuck : syncOneBlock threeBlocks everyBlockReady .clean 1 afterTornCall = (afterTornCall, .ok false) := rfl
  refine ⟨rfl, threeBlocks_wellFormed, consistent_empty threeBlocks 1, fun consistent => ?_,
    fun calls => Function.iterate_fixed (congrArg Prod.fst stuck) calls, congrArg Prod.snd stuck, rfl⟩
  -- block `2` is synced, its parent `1` is neither synced nor a stored tip
  rcases consistent.linked 2 ⟨2, 2, 1⟩ rfl rfl (by decide) with parentSynced | stored
  · exact Bool.false_ne_true parentSynced
  · exact List.not_mem_nil stored

/-- The database after one call from an empty one, syncing from block `1`. -/
def afterOneCall : MadaraDb Nat := (syncOneBlock threeBlocks everyBlockReady .clean 1 MadaraDb.empty).1

theorem sync_blocks_syncs_one_block :
    syncBlocks threeBlocks everyBlockReady (fun _ => .clean) 2 1 MadaraDb.empty = (afterOneCall, .ok true) ∧
      afterOneCall.synced 1 = false ∧
      (syncOneBlock threeBlocks everyBlockReady .clean 1 afterOneCall).2 = .ok true ∧
      (syncOneBlock threeBlocks everyBlockReady .clean 1 afterOneCall).1.synced 1 = true ∧
      (syncOneBlock threeBlocks everyBlockReady .clean 1
        (syncOneBlock threeBlocks everyBlockReady .clean 1 afterOneCall).1).2 = .ok false :=
  ⟨syncBlocks_of_synced rfl, rfl, rfl, rfl, rfl⟩

/-- Three clean calls from the empty database keep the three blocks linked. -/
theorem consistent_run_three_clean_calls :
    Linked 1 (⟨threeBlocks, MadaraDb.empty⟩ : World Nat) ∧
    AllowedRun everyBlockReady 1 ⟨threeBlocks, MadaraDb.empty⟩ [.syncCall .clean, .syncCall .clean, .syncCall .clean] ∧
    Linked 1 ((⟨threeBlocks, MadaraDb.empty⟩ : World Nat).run everyBlockReady 1
      [.syncCall .clean, .syncCall .clean, .syncCall .clean]) :=
  have linked : Linked 1 (⟨threeBlocks, MadaraDb.empty⟩ : World Nat) :=
    ⟨threeBlocks_wellFormed, consistent_empty threeBlocks 1⟩
  have allowed : AllowedRun everyBlockReady 1 ⟨threeBlocks, MadaraDb.empty⟩
      [.syncCall .clean, .syncCall .clean, .syncCall .clean] := ⟨.inr rfl, .inr rfl, .inr rfl, trivial⟩
  ⟨linked, allowed, consistent_run everyBlockReady 1 _ _ linked allowed⟩

end Madara.MappingSync

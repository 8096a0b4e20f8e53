import Madara.Lib.Codec
import Madara.SnosOutput

/-! The data-availability database (`crates/client/db/src/da_db.rs`) and the
worker that writes it (`crates/client/data-availability/src/lib.rs`). `DaDb`
keeps three logical maps in the `DA` column: the state diff of each block, the
SHARP job of each block, and the last proved block. The last proved block has
a key of its own, `b"LAST_PROVED_BLOCK"`. The state diffs and the jobs are
both kept under the 32 bytes of the block hash. A write to one of those two
maps therefore replaces the other's entry for the same block.

`Maps` is what the three maps should hold after a sequence of writes, and
`Agrees` compares a database with it. The last proved block always agrees
(`lastProvedBlock_run`). A block's state diff agrees in every run that writes
no job for it, and its job in every run that writes no diff for it
(`stateDiff_run`, `cairoJob_run`). Writing both breaks either read
(`da_db_maps_share_block_key`). -/
namespace Madara.DaDb

open Scale Madara.SnosOutput

/-- `sp_database::Database<DbHash>`, by what `get` returns under each column
and key. -/
abbrev Database := UInt32 → List UInt8 → Option (List UInt8)

/-- A committed `sp_database::Transaction` holding one `set`. The backend's
commit is taken to succeed, so `CommitError` is not modelled. -/
def Database.commitSet (db : Database) (column : UInt32) (key value : List UInt8) : Database :=
  fun col k => if col = column ∧ k = key then some value else db col k

/-- An empty database. -/
def Database.empty : Database := fun _ _ => none

/-- `crate::columns::DA`. -/
def columnsDA : UInt32 := 4

/-- `crate::static_keys::LAST_PROVED_BLOCK`: the ASCII bytes of
`"LAST_PROVED_BLOCK"`. -/
def lastProvedBlockKey : List UInt8 := "LAST_PROVED_BLOCK".toList.map Char.toUInt8

/-- `block_hash.0.bytes()`: the 32 bytes of the block hash's felt. -/
def blockHashKey (blockHash : StarkFelt) : List UInt8 := ByteOrder.toBytesBE 32 blockHash.val

/-- `mc_db::DbError`, the kinds the reads raise. -/
inductive DbError where
  | deserializeError
  | uuid
  | valueNotInitialized (column : UInt32) (key : String)
  deriving DecidableEq, Repr

/-- `uuid::Uuid`: sixteen bytes. -/
structure Uuid where
  bytes : List UInt8
  length_eq : bytes.length = 16
  deriving DecidableEq

/-- `Uuid::from_slice`: exactly sixteen bytes. -/
def Uuid.fromSlice (bytes : List UInt8) : Except DbError Uuid :=
  if length : bytes.length = 16 then .ok ⟨bytes, length⟩ else .error .uuid

/-- `Uuid::into_bytes`. -/
def Uuid.intoBytes (uuid : Uuid) : List UInt8 := uuid.bytes

/-- The SCALE codec of `StarkFelt([u8; 32])`: the 32 bytes as they are. -/
def starkFeltScaleCodec : Codec StarkFelt where
  encode felt := ByteOrder.toBytesBE 32 felt.val
  decode input :=
    if 32 ≤ input.length then
      some (⟨ByteOrder.ofBytesBE (input.take 32) % 2 ^ 256, Nat.mod_lt _ (Nat.two_pow_pos 256)⟩, input.drop 32)
    else none

section Reads

variable {δ : Type} (diffCodec : Codec δ) (display : StarkFelt → String)

/-- `DaDb::state_diff`. The diff's codec is the SCALE codec of
`ThinStateDiff`, and `display` the `Display` of `BlockHash`. -/
def stateDiff (db : Database) (blockHash : StarkFelt) : Except DbError δ :=
  match db columnsDA (blockHashKey blockHash) with
  | some raw =>
    match diffCodec.decode raw with
    | some (diff, _) => .ok diff
    | none => .error .deserializeError
  | none => .error (.valueNotInitialized columnsDA (display blockHash))

/-- `DaDb::store_state_diff`. -/
def storeStateDiff (db : Database) (blockHash : StarkFelt) (diff : δ) : Database :=
  db.commitSet columnsDA (blockHashKey blockHash) (diffCodec.encode diff)

/-- `DaDb::cairo_job`. -/
def cairoJob (db : Database) (blockHash : StarkFelt) : Except DbError (Option Uuid) :=
  match db columnsDA (blockHashKey blockHash) with
  | some raw => (Uuid.fromSlice raw).map some
  | none => .ok none

/-- `DaDb::update_cairo_job`. -/
def updateCairoJob (db : Database) (blockHash : StarkFelt) (jobId : Uuid) : Database :=
  db.commitSet columnsDA (blockHashKey blockHash) jobId.intoBytes

/-- `DaDb::last_proved_block`. -/
def lastProvedBlock (db : Database) : Except DbError StarkFelt :=
  match db columnsDA lastProvedBlockKey with
  | some raw =>
    match starkFeltScaleCodec.decode raw with
    | some (felt, _) => .ok felt
    | none => .error .deserializeError
  | none => .error (.valueNotInitialized columnsDA "LAST_PROVED_BLOCK")

/-- `DaDb::update_last_proved_block`. -/
def updateLastProvedBlock (db : Database) (blockHash : StarkFelt) : Database :=
  db.commitSet columnsDA lastProvedBlockKey (starkFeltScaleCodec.encode blockHash)

end Reads

/-! ### The worker -/

/-- `DaMode`. -/
inductive DaMode where
  | validity
  | sovereign
  | volition
  deriving DecidableEq, Repr

/-- `prove`, by its writes: in validity mode a job that SHARP accepted is
stored for the block. `submitted` is what `sharp::submit_pie` returned. -/
def prove (daMode : DaMode) (blockHash : StarkFelt) (submitted : Option Uuid) (db : Database) : Database :=
  match daMode, submitted with
  | .validity, some jobId => updateCairoJob db blockHash jobId
  | _, _ => db

/-- `update_state`, by its writes: the block's state diff is stored before
anything is published. -/
def updateState {δ : Type} (diffCodec : Codec δ) (blockHash : StarkFelt) (stateDiff : δ) (db : Database) :
    Database :=
  storeStateDiff diffCodec db blockHash stateDiff

/-- One block through the worker: `prove`, then `update_state`. -/
def processBlock {δ : Type} (diffCodec : Codec δ) (daMode : DaMode) (blockHash : StarkFelt) (stateDiff : δ)
    (submitted : Option Uuid) (db : Database) : Database :=
  updateState diffCodec blockHash stateDiff (prove daMode blockHash submitted db)

/-! ### Writes and the maps they should update -/

/-- The three writes of `DaDb`. -/
inductive Operation (δ : Type) where
  | storeStateDiff (blockHash : StarkFelt) (diff : δ)
  | updateCairoJob (blockHash : StarkFelt) (jobId : Uuid)
  | updateLastProvedBlock (blockHash : StarkFelt)

/-- What the three maps should hold. -/
structure Maps (δ : Type) where
  stateDiffs : StarkFelt → Option δ
  cairoJobs : StarkFelt → Option Uuid
  lastProved : Option StarkFelt

section Writes

variable {δ : Type} (diffCodec : Codec δ) (display : StarkFelt → String)

def Operation.apply : Operation δ → Database → Database
  | .storeStateDiff blockHash diff, db => DaDb.storeStateDiff diffCodec db blockHash diff
  | .updateCairoJob blockHash jobId, db => DaDb.updateCairoJob db blockHash jobId
  | .updateLastProvedBlock blockHash, db => DaDb.updateLastProvedBlock db blockHash

/-- A sequence of writes, in order. -/
def run (ops : List (Operation δ)) (db : Database) : Database :=
  ops.foldl (fun db op => op.apply diffCodec db) db

/-- Each write updates its own map. -/
def Maps.apply : Operation δ → Maps δ → Maps δ
  | .storeStateDiff blockHash diff, maps =>
    { maps with stateDiffs := Function.update maps.stateDiffs blockHash (some diff) }
  | .updateCairoJob blockHash jobId, maps =>
    { maps with cairoJobs := Function.update maps.cairoJobs blockHash (some jobId) }
  | .updateLastProvedBlock blockHash, maps => { maps with lastProved := some blockHash }

def Maps.run (ops : List (Operation δ)) (maps : Maps δ) : Maps δ :=
  ops.foldl (fun maps op => Maps.apply op maps) maps

/-- The maps before any write. -/
def Maps.empty : Maps δ := ⟨fun _ => none, fun _ => none, none⟩

/-- The state diff read for a block agrees with the map. -/
def DiffAgrees (db : Database) (maps : Maps δ) (blockHash : StarkFelt) : Prop :=
  stateDiff diffCodec display db blockHash =
    match maps.stateDiffs blockHash with
    | some diff => .ok diff
    | none => .error (.valueNotInitialized columnsDA (display blockHash))

/-- The job read for a block agrees with the map. -/
def JobAgrees (db : Database) (maps : Maps δ) (blockHash : StarkFelt) : Prop :=
  cairoJob db blockHash = .ok (maps.cairoJobs blockHash)

/-- The last proved block read agrees with the map. -/
def LastProvedAgrees (db : Database) (maps : Maps δ) : Prop :=
  lastProvedBlock db =
    match maps.lastProved with
    | some blockHash => .ok blockHash
    | none => .error (.valueNotInitialized columnsDA "LAST_PROVED_BLOCK")

/-- Every read of the database agrees with the maps. -/
def Agrees (db : Database) (maps : Maps δ) : Prop :=
  (∀ blockHash, DiffAgrees diffCodec display db maps blockHash) ∧
    (∀ blockHash, JobAgrees db maps blockHash) ∧ LastProvedAgrees db maps

end Writes

/-! ### Keys -/

theorem commitSet_self (db : Database) (column : UInt32) (key value : List UInt8) :
    db.commitSet column key value column key = some value := by
  simp [Database.commitSet]

theorem commitSet_of_ne (db : Database) (column : UInt32) {key other : List UInt8} (value : List UInt8)
    (apart : other ≠ key) : db.commitSet column key value column other = db column other := by
  simp [Database.commitSet, apart]

@[simp] theorem blockHashKey_length (blockHash : StarkFelt) : (blockHashKey blockHash).length = 32 :=
  ByteOrder.toBytesBE_length 32 blockHash.val

theorem lastProvedBlockKey_length : lastProvedBlockKey.length = 17 := by
  decide

/-- A block's key is never the last proved block's key. -/
theorem blockHashKey_ne_lastProvedBlockKey (blockHash : StarkFelt) : blockHashKey blockHash ≠ lastProvedBlockKey := by
  intro same
  have lengths := congrArg List.length same
  rw [blockHashKey_length, lastProvedBlockKey_length] at lengths
  cases lengths

/-- Distinct blocks have distinct keys. -/
theorem blockHashKey_injective : Function.Injective blockHashKey := by
  intro blockHash other same
  have bound (felt : StarkFelt) : felt.val < 256 ^ 32 := felt.isLt.trans_eq (by norm_num)
  have values := congrArg ByteOrder.ofBytesBE same
  rw [blockHashKey, blockHashKey, ByteOrder.ofBytesBE_toBytesBE_of_lt (bound blockHash),
    ByteOrder.ofBytesBE_toBytesBE_of_lt (bound other)] at values
  exact Fin.ext values

theorem starkFeltScaleCodec_roundTrip : starkFeltScaleCodec.RoundTrip := by
  intro felt rest
  have width : (ByteOrder.toBytesBE 32 felt.val).length = 32 := ByteOrder.toBytesBE_length 32 felt.val
  have bound : felt.val < 256 ^ 32 := felt.isLt.trans_eq (by norm_num)
  simp only [starkFeltScaleCodec, List.length_append, width, Nat.le_add_right, ↓reduceIte,
    List.take_left' width, List.drop_left' width, ByteOrder.ofBytesBE_toBytesBE_of_lt bound,
    Nat.mod_eq_of_lt felt.isLt]

/-! ### One write -/

section Step

variable {δ : Type} {diffCodec : Codec δ} (display : StarkFelt → String)

/-- A write under a block's key, read under a block's key. -/
theorem commitSet_blockKey (db : Database) (written blockHash : StarkFelt) (value : List UInt8) :
    db.commitSet columnsDA (blockHashKey written) value columnsDA (blockHashKey blockHash) =
      if written = blockHash then some value else db columnsDA (blockHashKey blockHash) := by
  by_cases same : written = blockHash
  · subst same
    rw [if_pos rfl]
    exact commitSet_self db columnsDA (blockHashKey written) value
  · rw [if_neg same]
    exact commitSet_of_ne db columnsDA value fun keys => same (blockHashKey_injective keys).symm

/-- A write under a block's key leaves the last proved block's entry. -/
theorem commitSet_blockKey_lastProved (db : Database) (written : StarkFelt) (value : List UInt8) :
    db.commitSet columnsDA (blockHashKey written) value columnsDA lastProvedBlockKey =
      db columnsDA lastProvedBlockKey :=
  commitSet_of_ne db columnsDA value (blockHashKey_ne_lastProvedBlockKey written).symm

/-- A write of the last proved block leaves every block's entry. -/
theorem commitSet_lastProved_blockKey (db : Database) (value : List UInt8) (blockHash : StarkFelt) :
    db.commitSet columnsDA lastProvedBlockKey value columnsDA (blockHashKey blockHash) =
      db columnsDA (blockHashKey blockHash) :=
  commitSet_of_ne db columnsDA value (blockHashKey_ne_lastProvedBlockKey blockHash)

/-- Every write keeps the last proved block in agreement. -/
theorem LastProvedAgrees.apply {db : Database} {maps : Maps δ} (agrees : LastProvedAgrees db maps)
    (op : Operation δ) : LastProvedAgrees (op.apply diffCodec db) (Maps.apply op maps) := by
  unfold LastProvedAgrees lastProvedBlock at agrees ⊢
  cases op with
  | storeStateDiff written diff =>
    simp only [Operation.apply, storeStateDiff, commitSet_blockKey_lastProved, Maps.apply]
    exact agrees
  | updateCairoJob written jobId =>
    simp only [Operation.apply, updateCairoJob, commitSet_blockKey_lastProved, Maps.apply]
    exact agrees
  | updateLastProvedBlock written =>
    have decoded := starkFeltScaleCodec_roundTrip written []
    rw [List.append_nil] at decoded
    simp only [Operation.apply, updateLastProvedBlock, commitSet_self, decoded, Maps.apply]

/-- A write that is not a job for the block keeps its state diff in agreement,
when the diff codec reads back what it writes. -/
theorem DiffAgrees.apply (law : diffCodec.RoundTrip) {db : Database} {maps : Maps δ} {blockHash : StarkFelt}
    (agrees : DiffAgrees diffCodec display db maps blockHash) (op : Operation δ)
    (noJob : ∀ jobId, op ≠ .updateCairoJob blockHash jobId) :
    DiffAgrees diffCodec display (op.apply diffCodec db) (Maps.apply op maps) blockHash := by
  unfold DiffAgrees stateDiff at agrees ⊢
  cases op with
  | storeStateDiff written diff =>
    simp only [Operation.apply, storeStateDiff, commitSet_blockKey, Maps.apply]
    by_cases same : written = blockHash
    · subst same
      have decoded := law diff []
      rw [List.append_nil] at decoded
      simp only [if_pos, decoded, Function.update_self]
    · simp only [if_neg same, Function.update_of_ne (Ne.symm same)]
      exact agrees
  | updateCairoJob written jobId =>
    have other : written ≠ blockHash := fun same => noJob jobId (same ▸ rfl)
    simp only [Operation.apply, updateCairoJob, commitSet_blockKey, if_neg other, Maps.apply]
    exact agrees
  | updateLastProvedBlock written =>
    simp only [Operation.apply, updateLastProvedBlock, commitSet_lastProved_blockKey, Maps.apply]
    exact agrees

/-- A write that is not a state diff for the block keeps its job in agreement. -/
theorem JobAgrees.apply {db : Database} {maps : Maps δ} {blockHash : StarkFelt}
    (agrees : JobAgrees db maps blockHash) (op : Operation δ)
    (noDiff : ∀ diff, op ≠ .storeStateDiff blockHash diff) :
    JobAgrees (op.apply diffCodec db) (Maps.apply op maps) blockHash := by
  unfold JobAgrees cairoJob at agrees ⊢
  cases op with
  | storeStateDiff written diff =>
    have other : written ≠ blockHash := fun same => noDiff diff (same ▸ rfl)
    simp only [Operation.apply, storeStateDiff, commitSet_blockKey, if_neg other, Maps.apply]
    exact agrees
  | updateCairoJob written jobId =>
    simp only [Operation.apply, updateCairoJob, commitSet_blockKey, Maps.apply]
    by_cases same : written = blockHash
    · subst same
      simp only [if_pos, Function.update_self]
      unfold Uuid.fromSlice Uuid.intoBytes
      rw [dif_pos jobId.length_eq]
      rfl
    · simp only [if_neg same, Function.update_of_ne (Ne.symm same)]
      exact agrees
  | updateLastProvedBlock written =>
    simp only [Operation.apply, updateLastProvedBlock, commitSet_lastProved_blockKey, Maps.apply]
    exact agrees

end Step

/-! ### Whole runs -/

section Run

variable {δ : Type} {diffCodec : Codec δ} (display : StarkFelt → String)

theorem agrees_empty : Agrees diffCodec display Database.empty (Maps.empty : Maps δ) :=
  ⟨fun _ => rfl, fun _ => rfl, rfl⟩

/-- A relation between the database and the maps that every admitted write
keeps holds after every run of admitted writes. -/
theorem run_keeps {Holds : Database → Maps δ → Prop} {admitted : Operation δ → Prop}
    (step : ∀ op db maps, admitted op → Holds db maps → Holds (op.apply diffCodec db) (Maps.apply op maps))
    (ops : List (Operation δ)) (all : ∀ op ∈ ops, admitted op) {db : Database} {maps : Maps δ}
    (holds : Holds db maps) : Holds (run diffCodec ops db) (Maps.run ops maps) := by
  -- The two runs are folds over the same writes, taken in lockstep.
  induction ops generalizing db maps with
  | nil => exact holds
  | cons op ops ih =>
    have rest : ∀ other ∈ ops, admitted other := fun other member => all other (List.mem_cons_of_mem _ member)
    exact ih rest (step op db maps (all op List.mem_cons_self) holds)

/-- The last proved block agrees after every run: no write to the other two
maps reaches it. -/
theorem lastProvedBlock_run (ops : List (Operation δ)) {db : Database} {maps : Maps δ}
    (agrees : LastProvedAgrees db maps) : LastProvedAgrees (run diffCodec ops db) (Maps.run ops maps) := by
  have step : ∀ op db maps, True → LastProvedAgrees db maps →
      LastProvedAgrees (op.apply diffCodec db) (Maps.apply op maps) :=
    fun op _ _ _ agrees => agrees.apply op
  exact run_keeps step ops (fun _ _ => trivial) agrees

/-- A block's state diff agrees after every run that writes no job for it. -/
theorem stateDiff_run (law : diffCodec.RoundTrip) (blockHash : StarkFelt) (ops : List (Operation δ))
    (noJob : ∀ jobId, .updateCairoJob blockHash jobId ∉ ops) {db : Database} {maps : Maps δ}
    (agrees : DiffAgrees diffCodec display db maps blockHash) :
    DiffAgrees diffCodec display (run diffCodec ops db) (Maps.run ops maps) blockHash := by
  have step : ∀ op db maps, (∀ jobId, op ≠ .updateCairoJob blockHash jobId) →
      DiffAgrees diffCodec display db maps blockHash →
        DiffAgrees diffCodec display (op.apply diffCodec db) (Maps.apply op maps) blockHash :=
    fun op _ _ other agrees => agrees.apply display law op other
  refine run_keeps step ops ?_ agrees
  rintro op member jobId rfl
  exact noJob jobId member

theorem zeroUuid_length : (List.replicate 16 (0 : UInt8)).length = 16 := List.length_replicate

/-- The job of sixteen zero bytes. -/
def zeroUuid : Uuid := ⟨List.replicate 16 0, zeroUuid_length⟩

/-- Two diffs of block `1`, a job for block `2` and block `1` proved, with
felts as diffs. -/
def sampleOps : List (Operation StarkFelt) :=
  [.storeStateDiff 1 5, .updateCairoJob 2 zeroUuid, .updateLastProvedBlock 1, .storeStateDiff 1 6]

/-- Block `1`'s diff reads as the last one stored, from the empty database. -/
theorem stateDiff_run_sample :
    starkFeltScaleCodec.RoundTrip ∧ (∀ jobId, .updateCairoJob 1 jobId ∉ sampleOps) ∧
    DiffAgrees starkFeltScaleCodec (fun _ => "") Database.empty Maps.empty 1 ∧
    DiffAgrees starkFeltScaleCodec (fun _ => "") (run starkFeltScaleCodec sampleOps Database.empty)
      (Maps.run sampleOps Maps.empty) 1 := by
  have noJob : ∀ jobId, .updateCairoJob 1 jobId ∉ sampleOps := by
    intro jobId member
    simp [sampleOps] at member
  have agrees : DiffAgrees starkFeltScaleCodec (fun _ => "") Database.empty Maps.empty 1 := rfl
  exact ⟨starkFeltScaleCodec_roundTrip, noJob, agrees,
    stateDiff_run (fun _ => "") starkFeltScaleCodec_roundTrip 1 sampleOps noJob agrees⟩

/-- A block's job agrees after every run that writes no state diff for it. -/
theorem cairoJob_run (blockHash : StarkFelt) (ops : List (Operation δ))
    (noDiff : ∀ diff, .storeStateDiff blockHash diff ∉ ops) {db : Database} {maps : Maps δ}
    (agrees : JobAgrees db maps blockHash) :
    JobAgrees (run diffCodec ops db) (Maps.run ops maps) blockHash := by
  have step : ∀ op db maps, (∀ diff, op ≠ .storeStateDiff blockHash diff) →
      JobAgrees db maps blockHash → JobAgrees (op.apply diffCodec db) (Maps.apply op maps) blockHash :=
    fun op _ _ other agrees => agrees.apply op other
  refine run_keeps step ops ?_ agrees
  rintro op member diff rfl
  exact noDiff diff member

/-- Block `2`'s job reads as stored, from the empty database. -/
theorem cairoJob_run_sample :
    (∀ diff, .storeStateDiff 2 diff ∉ sampleOps) ∧ JobAgrees Database.empty (Maps.empty : Maps StarkFelt) 2 ∧
    JobAgrees (run starkFeltScaleCodec sampleOps Database.empty) (Maps.run sampleOps Maps.empty) 2 := by
  have noDiff : ∀ diff, .storeStateDiff 2 diff ∉ sampleOps := by
    intro diff member
    simp [sampleOps] at member
  have agrees : JobAgrees Database.empty (Maps.empty : Maps StarkFelt) 2 := rfl
  exact ⟨noDiff, agrees, cairoJob_run 2 sampleOps noDiff agrees⟩

end Run

/-! ### The shared key -/

section Shared

variable {δ : Type} (diffCodec : Codec δ) (display : StarkFelt → String)

/-- What a block's job reads after its state diff was stored: the diff's bytes
taken as a job. -/
theorem cairoJob_storeStateDiff (db : Database) (blockHash : StarkFelt) (diff : δ) :
    cairoJob (storeStateDiff diffCodec db blockHash diff) blockHash =
      (Uuid.fromSlice (diffCodec.encode diff)).map some := by
  simp only [cairoJob, storeStateDiff, commitSet_self]

/-- What a block's state diff reads after its job was stored: the job's bytes
decoded as a diff. -/
theorem stateDiff_updateCairoJob (db : Database) (blockHash : StarkFelt) (jobId : Uuid) :
    stateDiff diffCodec display (updateCairoJob db blockHash jobId) blockHash =
      match diffCodec.decode jobId.intoBytes with
      | some (diff, _) => .ok diff
      | none => .error .deserializeError := by
  simp only [stateDiff, updateCairoJob, commitSet_self]

/-- The state diffs and the jobs of `DaDb` are one map. Storing a state diff
for a block makes its job read something other than "none". A job stored after
the diff makes the diff read the same, whatever diff was stored. And the job
the worker stores in validity mode is overwritten by the diff `update_state`
stores right after it: the job reads as if it had never been stored. -/
theorem da_db_maps_share_block_key (db : Database) (blockHash : StarkFelt) (diff otherDiff : δ)
    (jobId : Uuid) :
    cairoJob (storeStateDiff diffCodec db blockHash diff) blockHash ≠ .ok none ∧
      stateDiff diffCodec display (updateCairoJob (storeStateDiff diffCodec db blockHash diff) blockHash jobId)
          blockHash =
        stateDiff diffCodec display (updateCairoJob (storeStateDiff diffCodec db blockHash otherDiff) blockHash jobId)
          blockHash ∧
      cairoJob (processBlock diffCodec .validity blockHash diff (some jobId) db) blockHash =
        cairoJob (storeStateDiff diffCodec db blockHash diff) blockHash := by
  refine ⟨?_, ?_, ?_⟩
  · rw [cairoJob_storeStateDiff]
    unfold Uuid.fromSlice
    split
    · intro read
      cases read
    · intro read
      cases read
  · rw [stateDiff_updateCairoJob, stateDiff_updateCairoJob]
  · simp only [processBlock, updateState, prove, cairoJob_storeStateDiff]

end Shared

end Madara.DaDb

import Madara.Lib.IndexMap
import Madara.SnosOutput
import Mathlib.Data.List.Count

/-! The calldata the data-availability client publishes for a block
(`client/data-availability/src/utils.rs`, `block_data_to_calldata`): six
header words, then a record for contracts of the block's state diff, then the
declared classes.

The encoder walks `storage_diffs`, taking each address's nonce out of `nonces`
as it goes; then the nonces left; then every deployed contract. Each walk
writes a `ContractRecord`. The addresses of the records are those of
`storage_diffs`, the nonce addresses not among them, and the deployed
addresses (`contractRecords_addresses`), so a deployed address that also
writes storage or a nonce gets two records, and an address whose class is
only replaced gets none (`count_records`). -/
namespace Madara.DataAvailability

open Madara.SnosOutput (StarkFelt)

/-- `starknet_api::state::ThinStateDiff`, by the maps the encoder reads.
Addresses, storage keys, class hashes and nonces are the `StarkFelt`s they
wrap. -/
structure ThinStateDiff where
  deployedContracts : IndexMap StarkFelt StarkFelt
  storageDiffs : IndexMap StarkFelt (IndexMap StarkFelt StarkFelt)
  declaredClasses : IndexMap StarkFelt StarkFelt
  nonces : IndexMap StarkFelt StarkFelt
  replacedClasses : IndexMap StarkFelt StarkFelt

/-- `mc_commitment_state_diff::BlockDAData`. -/
structure BlockDAData where
  blockHash : StarkFelt
  stateDiff : ThinStateDiff
  numAddrAccessed : Nat
  blockNumber : Nat
  configHash : StarkFelt
  newStateRoot : StarkFelt
  previousStateRoot : StarkFelt

/-- `CLASS_FLAG_TRUE`, `2 ^ 128 + 1`. -/
def classFlagTrue : Nat := 2 ^ 128 + 1

/-- `NONCE_BASE`, `2 ^ 64 - 1`. -/
def nonceBase : Nat := 2 ^ 64 - 1

/-- `da_word`, a `U256` as a number. -/
def daWord (classFlag : Bool) (nonceChange : Option StarkFelt) (numChanges : Nat) : Nat :=
  (if classFlag then classFlagTrue else 0) +
    (match nonceChange with
      | some newNonce => newNonce.val + nonceBase
      | none => 0) +
    numChanges

/-! ### The layout `da_word` documents -/

/-- The word of the comment on `da_word`, `|padding 127|class flag 1|new nonce
64|num changes 64|`: the flag at bit `128`, the nonce from bit `64` on, the
number of changes below it. -/
def layoutWord (classFlag : Bool) (nonceChange : Option StarkFelt) (numChanges : Nat) : Nat :=
  (if classFlag then 2 ^ 128 else 0) + (nonceChange.map (·.val)).getD 0 * 2 ^ 64 + numChanges

/-- A word read back by shifting and masking: the class flag, the nonce and
the number of changes. -/
def unpackWord (word : Nat) : Bool × Nat × Nat :=
  (word / 2 ^ 128 % 2 == 1, word / 2 ^ 64 % 2 ^ 64, word % 2 ^ 64)

/-- The documented layout reads back every flag, nonce and count that fits
its 64 bits. -/
theorem unpackWord_layoutWord (classFlag : Bool) (nonceChange : Option StarkFelt) (numChanges : Nat)
    (nonceFits : (nonceChange.map (·.val)).getD 0 < 2 ^ 64) (changesFit : numChanges < 2 ^ 64) :
    unpackWord (layoutWord classFlag nonceChange numChanges) =
      (classFlag, (nonceChange.map (·.val)).getD 0, numChanges) := by
  unfold unpackWord layoutWord
  generalize (nonceChange.map (·.val)).getD 0 = nonce at nonceFits ⊢
  cases classFlag with
  | false =>
    simp only [Bool.false_eq_true, if_false, Prod.mk.injEq]
    refine ⟨?_, ?_, ?_⟩ <;> simp <;> omega
  | true =>
    simp only [if_true, Prod.mk.injEq]
    refine ⟨?_, ?_, ?_⟩ <;> simp <;> omega

/-- `da_word` adds `CLASS_FLAG_TRUE = 2 ^ 128 + 1` and `nonce + NONCE_BASE`
where the layout shifts: it writes the documented word only without the class
flag, and with no nonce or the nonce `1`. -/
theorem daWord_eq_layoutWord_iff (classFlag : Bool) (nonceChange : Option StarkFelt) (numChanges : Nat) :
    daWord classFlag nonceChange numChanges = layoutWord classFlag nonceChange numChanges ↔
      classFlag = false ∧ ∀ newNonce ∈ nonceChange, newNonce.val = 1 := by
  cases nonceChange with
  | none =>
    cases classFlag <;> simp [daWord, layoutWord, classFlagTrue]
  | some newNonce =>
    -- `n + (2 ^ 64 - 1) = n * 2 ^ 64` holds only at `n = 1`, and the flag's extra `1` breaks even that
    have shifted : ∀ flag : Nat, flag ≤ 1 →
        (flag + (newNonce.val + nonceBase) = newNonce.val * 2 ^ 64 ↔ flag = 0 ∧ newNonce.val = 1) := by
      intro flag small
      simp only [nonceBase]
      omega
    cases classFlag with
    | false => simpa [daWord, layoutWord] using shifted 0 (Nat.zero_le 1)
    | true =>
      have := shifted 1 (Nat.le_refl 1)
      simp only [daWord, layoutWord, classFlagTrue, if_true, Option.map_some, Option.getD_some]
      simp only [one_ne_zero, false_and, iff_false] at this
      simp only [Bool.true_eq_false, false_and, iff_false]
      omega

/-- The word of a contract whose class is deployed, with no nonce and no
storage change (the record the encoder writes for every deployed contract),
reads back as one change; the word of nonce `2` with no change reads back as
nonce `1` with one change. -/
theorem da_word_breaks_layout :
    daWord true none 0 = 2 ^ 128 + 1 ∧ layoutWord true none 0 = 2 ^ 128 ∧
      unpackWord (daWord true none 0) = (true, 0, 1) ∧
      daWord false (some 2) 0 = 2 ^ 64 + 1 ∧ layoutWord false (some 2) 0 = 2 * 2 ^ 64 ∧
      unpackWord (daWord false (some 2) 0) = (false, 1, 1) := by
  refine ⟨?_, ?_, ?_, ?_, ?_, ?_⟩ <;> decide

/-- What one step of any of the encoder's three loops writes for a contract:
its address, its DA word, its class hash if any, and its storage writes. -/
structure ContractRecord where
  address : StarkFelt
  classHash : Option StarkFelt
  nonce : Option StarkFelt
  writes : List (StarkFelt × StarkFelt)
  deriving DecidableEq, Repr

/-- The calldata words of a record. -/
def ContractRecord.words (record : ContractRecord) : List Nat :=
  [record.address.val, daWord record.classHash.isSome record.nonce record.writes.length] ++
    (record.classHash.map (·.val)).toList ++
    record.writes.flatMap fun (key, value) => [key.val, value.val]

section Encode

variable (diff : ThinStateDiff)

/-- The class hash recorded with an address: the one it was deployed with,
else the one that replaced its class. -/
def classFlagOf (addr : StarkFelt) : Option StarkFelt :=
  (diff.deployedContracts.get addr).or (diff.replacedClasses.get addr)

/-- The loop over `storage_diffs`: each address takes its nonce out of
`nonces` (`IndexMap::remove`, a swap remove), and the map left goes on. -/
def storageDiffsLoop :
    List (StarkFelt × IndexMap StarkFelt StarkFelt) → IndexMap StarkFelt StarkFelt →
      List ContractRecord × IndexMap StarkFelt StarkFelt
  | [], nonces => ([], nonces)
  | (addr, writes) :: rest, nonces =>
    let classFlag := classFlagOf diff addr
    let (nonce, nonces) := nonces.swapRemove addr
    let (records, nonces) := storageDiffsLoop rest nonces
    (⟨addr, classFlag, nonce, writes.entries⟩ :: records, nonces)

/-- The loop over the nonces left: a record with the nonce and no writes. -/
def nonceRecord (entry : StarkFelt × StarkFelt) : ContractRecord :=
  ⟨entry.1, classFlagOf diff entry.1, some entry.2, []⟩

/-- The loop over `deployed_contracts`: a record with the class hash only. -/
def deployedRecord (entry : StarkFelt × StarkFelt) : ContractRecord :=
  ⟨entry.1, some entry.2, none, []⟩

/-- The records of the three loops, in the order they are written. -/
def contractRecords : List ContractRecord :=
  let (storageRecords, nonces) := storageDiffsLoop diff diff.storageDiffs.entries diff.nonces
  storageRecords ++ nonces.entries.map (nonceRecord diff) ++ diff.deployedContracts.entries.map deployedRecord

end Encode

/-- `block_data_to_calldata`. -/
def blockDataToCalldata (data : BlockDAData) : List Nat :=
  [data.previousStateRoot.val, data.newStateRoot.val, data.blockNumber, data.blockHash.val,
      data.configHash.val, data.numAddrAccessed] ++
    (contractRecords data.stateDiff).flatMap ContractRecord.words ++
    [data.stateDiff.declaredClasses.len] ++
    data.stateDiff.declaredClasses.entries.flatMap fun (classHash, compiledClassHash) =>
      [classHash.val, compiledClassHash.val]

section Records

variable (diff : ThinStateDiff)

theorem storageDiffsLoop_cons (addr : StarkFelt) (writes : IndexMap StarkFelt StarkFelt)
    (rest : List (StarkFelt × IndexMap StarkFelt StarkFelt)) (nonces : IndexMap StarkFelt StarkFelt) :
    storageDiffsLoop diff ((addr, writes) :: rest) nonces =
      (⟨addr, classFlagOf diff addr, (nonces.swapRemove addr).1, writes.entries⟩ ::
          (storageDiffsLoop diff rest (nonces.swapRemove addr).2).1,
        (storageDiffsLoop diff rest (nonces.swapRemove addr).2).2) := rfl

/-- The loop over `storage_diffs` writes one record per address, with the nonce
the address had, and leaves the other nonces, in some order. -/
theorem storageDiffsLoop_spec (entries : List (StarkFelt × IndexMap StarkFelt StarkFelt))
    (distinct : (entries.map Prod.fst).Nodup) (nonces : IndexMap StarkFelt StarkFelt) :
    (storageDiffsLoop diff entries nonces).1 =
        entries.map (fun entry => ⟨entry.1, classFlagOf diff entry.1, nonces.get entry.1, entry.2.entries⟩) ∧
      (storageDiffsLoop diff entries nonces).2.entries.Perm
        (nonces.entries.filter fun entry => entry.1 ∉ entries.map Prod.fst) := by
  induction entries generalizing nonces with
  | nil =>
    refine ⟨rfl, ?_⟩
    rw [List.filter_eq_self.mpr (fun entry _ => by simp)]
    rfl
  | cons entry rest ih =>
    obtain ⟨addr, writes⟩ := entry
    rw [List.map_cons, List.nodup_cons] at distinct
    have outside : addr ∉ rest.map Prod.fst := distinct.1
    obtain ⟨records, left⟩ := ih distinct.2 (nonces.swapRemove addr).2
    rw [storageDiffsLoop_cons]
    dsimp only
    refine ⟨?_, ?_⟩
    · -- every later address is another key, so removing this one keeps its nonce
      rw [records, IndexMap.swapRemove_fst, List.map_cons]
      congr 1
      apply List.map_congr_left
      intro later member
      have other : later.1 ≠ addr := by
        intro same
        rw [← same] at outside
        exact outside (List.mem_map_of_mem member)
      rw [IndexMap.get_swapRemove nonces other]
    · refine left.trans ?_
      refine ((IndexMap.swapRemove_perm nonces addr).filter _).trans ?_
      rw [List.filter_filter]
      apply List.Perm.of_eq
      apply List.filter_congr
      intro entry _
      by_cases hit : entry.1 = addr
      · simp [hit]
      · simp [hit]

/-- The addresses of the records: those of `storage_diffs`, the nonce
addresses not among them, and the deployed addresses. -/
theorem contractRecords_addresses :
    ((contractRecords diff).map ContractRecord.address).Perm
      (diff.storageDiffs.keys ++ diff.nonces.keys.filter (· ∉ diff.storageDiffs.keys) ++
        diff.deployedContracts.keys) := by
  obtain ⟨records, left⟩ := storageDiffsLoop_spec diff diff.storageDiffs.entries diff.storageDiffs.nodup diff.nonces
  have storageAddresses : (storageDiffsLoop diff diff.storageDiffs.entries diff.nonces).1.map ContractRecord.address =
      diff.storageDiffs.keys := by
    rw [records, List.map_map]
    rfl
  have nonceAddresses : (((storageDiffsLoop diff diff.storageDiffs.entries diff.nonces).2.entries.map
      (nonceRecord diff)).map ContractRecord.address).Perm
        (diff.nonces.keys.filter (· ∉ diff.storageDiffs.keys)) := by
    rw [List.map_map]
    refine (left.map _).trans ?_
    unfold IndexMap.keys
    rw [List.filter_map]
    rfl
  have deployedAddresses : (diff.deployedContracts.entries.map deployedRecord).map ContractRecord.address =
      diff.deployedContracts.keys := by
    rw [List.map_map]
    rfl
  unfold contractRecords
  rw [List.map_append, List.map_append, storageAddresses, deployedAddresses]
  exact (nonceAddresses.append_left _).append_right _

/-- How many records an address gets: one if it writes storage or a nonce,
and one more if it is deployed. -/
theorem count_records (addr : StarkFelt) :
    ((contractRecords diff).map ContractRecord.address).count addr =
      (if addr ∈ diff.storageDiffs.keys ∨ addr ∈ diff.nonces.keys then 1 else 0) +
        (if addr ∈ diff.deployedContracts.keys then 1 else 0) := by
  rw [(contractRecords_addresses diff).count_eq, List.count_append, List.count_append,
    diff.storageDiffs.keys_nodup.count, (diff.nonces.keys_nodup.filter _).count,
    diff.deployedContracts.keys_nodup.count]
  by_cases storage : addr ∈ diff.storageDiffs.keys
  · simp [storage]
  · simp [storage, List.mem_filter]

/-- Every address of the state diff gets exactly one record exactly when no
deployed address also writes storage or a nonce, and every address whose class
is replaced also writes storage or a nonce or is deployed. -/
theorem one_record_per_address_iff :
    (∀ addr, addr ∈ diff.storageDiffs.keys ∨ addr ∈ diff.nonces.keys ∨ addr ∈ diff.deployedContracts.keys ∨
        addr ∈ diff.replacedClasses.keys → ((contractRecords diff).map ContractRecord.address).count addr = 1) ↔
      (∀ addr ∈ diff.deployedContracts.keys, addr ∉ diff.storageDiffs.keys ∧ addr ∉ diff.nonces.keys) ∧
        ∀ addr ∈ diff.replacedClasses.keys,
          addr ∈ diff.storageDiffs.keys ∨ addr ∈ diff.nonces.keys ∨ addr ∈ diff.deployedContracts.keys := by
  simp only [count_records]
  constructor
  · intro exactlyOne
    refine ⟨?_, ?_⟩
    · -- a deployed address already has the deployment's record
      intro addr deployed
      have one := exactlyOne addr (Or.inr (Or.inr (Or.inl deployed)))
      rw [if_pos deployed] at one
      by_cases written : addr ∈ diff.storageDiffs.keys ∨ addr ∈ diff.nonces.keys
      · rw [if_pos written] at one
        omega
      · exact not_or.mp written
    · -- a replaced address needs a record from one of the three loops
      intro addr replaced
      have one := exactlyOne addr (Or.inr (Or.inr (Or.inr replaced)))
      by_cases written : addr ∈ diff.storageDiffs.keys ∨ addr ∈ diff.nonces.keys
      · rcases written with storage | nonce
        · exact Or.inl storage
        · exact Or.inr (Or.inl nonce)
      · by_cases deployed : addr ∈ diff.deployedContracts.keys
        · exact Or.inr (Or.inr deployed)
        · rw [if_neg written, if_neg deployed] at one
          omega
  · rintro ⟨deployedAlone, replacedCovered⟩ addr member
    by_cases deployed : addr ∈ diff.deployedContracts.keys
    · have alone := deployedAlone addr deployed
      rw [if_neg (fun written => written.elim alone.1 alone.2), if_pos deployed]
    · have written : addr ∈ diff.storageDiffs.keys ∨ addr ∈ diff.nonces.keys := by
        rcases member with storage | nonce | deployed' | replaced
        · exact Or.inl storage
        · exact Or.inr nonce
        · exact absurd deployed' deployed
        · rcases replacedCovered addr replaced with storage | nonce | deployed'
          · exact Or.inl storage
          · exact Or.inr nonce
          · exact absurd deployed' deployed
      rw [if_pos written, if_neg deployed]

end Records

/-- A diff where contract `1` is deployed with class `5`, writes `9` at key
`7` and moves to nonce `1`, as a `deploy_account` does, and contract `2` has
its class replaced by `6`. -/
def witnessDiff : ThinStateDiff where
  deployedContracts := IndexMap.empty.insert 1 5
  storageDiffs := IndexMap.empty.insert 1 (IndexMap.empty.insert 7 9)
  declaredClasses := IndexMap.empty
  nonces := IndexMap.empty.insert 1 1
  replacedClasses := IndexMap.empty.insert 2 6

/-- The block of `witnessDiff`, whose header counts its two addresses. -/
def witnessBlockDAData : BlockDAData := ⟨0, witnessDiff, 2, 1, 0, 0, 0⟩

/-- The calldata of a block where contract `1` is deployed, writes storage and
a nonce, and contract `2` only has its class replaced: contract `1` gets two
records, the second one with the class hash alone, and contract `2` gets none,
while the header counts two addresses. -/
theorem calldata_records_deployed_twice_and_replaced_never :
    blockDataToCalldata witnessBlockDAData =
        [0, 0, 1, 0, 0, 2] ++ ContractRecord.words ⟨1, some 5, some 1, [(7, 9)]⟩ ++
          ContractRecord.words ⟨1, some 5, none, []⟩ ++ [0] ∧
      (contractRecords witnessDiff).map ContractRecord.address = [1, 1] := by
  constructor
  · decide
  · decide

end Madara.DataAvailability

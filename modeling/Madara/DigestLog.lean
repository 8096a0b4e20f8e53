import Madara.StarknetBlock

/-! `mp_digest_log`: the pallet pushes its block into the Substrate digest as
`DigestItem::Consensus(MADARA_ENGINE_ID, Log::Block(block).encode())`, and
every client (mapping-sync, RPC, settlement, DA) reads it back with
`find_starknet_block`. `_find_log` scans the digest, decodes each item that
`try_to` accepts as a Madara consensus log, and insists on exactly one.

`DigestItem::try_as_raw` belongs to `sp_runtime` and is a parameter; the one
fact used is its documented behaviour on a consensus item of the requested
engine. `Decode::decode` on the raw bytes does not require the input to be
consumed, which is the prefix decoder of `Scale.Codec`. -/
namespace Madara.DigestLog

open Madara.Felt Madara.StarknetBlock Scale Scale.Codec

/-- `sp_runtime::ConsensusEngineId`, four bytes. -/
abbrev ConsensusEngineId := List UInt8

/-- `MADARA_ENGINE_ID = *b"mada"`. -/
def madaraEngineId : ConsensusEngineId := [109, 97, 100, 97]

/-- `sp_runtime::generic::DigestItem`. -/
inductive DigestItem where
  | preRuntime (engine : ConsensusEngineId) (data : List UInt8)
  | consensus (engine : ConsensusEngineId) (data : List UInt8)
  | seal (engine : ConsensusEngineId) (data : List UInt8)
  | other (data : List UInt8)
  | runtimeEnvironmentUpdated
  deriving DecidableEq, Repr

/-- `sp_runtime::generic::OpaqueDigestItemId`. -/
inductive OpaqueDigestItemId where
  | preRuntime (engine : ConsensusEngineId)
  | consensus (engine : ConsensusEngineId)
  | seal (engine : ConsensusEngineId)
  | other
  deriving DecidableEq, Repr

/-- `mp_digest_log::Log`, with `#[codec(index = 0)]` on its only variant. -/
inductive Log where
  | block (block : Block)
  deriving DecidableEq, Repr

/-- `FindLogError`. -/
inductive FindLogError where
  | notLog
  | multipleLogs
  deriving DecidableEq, Repr

section Codec

variable (leaves : ScaleLeaves)

/-- The derived codec of `Log`. -/
def logCodec : Codec Log :=
  enum (fun _ => 0) (fun | .block block => (blockCodec leaves).encode block)
    (fun tag rest =>
      if tag = 0 then ((blockCodec leaves).decode rest).map fun (block, tail) => (.block block, tail)
      else none)

theorem logCodec_roundTrip : (logCodec leaves).RoundTrip := by
  apply RoundTrip.enum
  rintro ⟨block⟩ rest
  simp [blockCodec_roundTrip leaves block rest]

/-- The item `store_block` deposits for a block. -/
def depositedLog (block : Block) : DigestItem :=
  .consensus madaraEngineId ((logCodec leaves).encode (.block block))

end Codec

/-! ### `_find_log` -/

section Find

variable {α : Type}

/-- The loop of `_find_log`, with `found` the log kept so far. -/
def findLogFrom (tryTo : DigestItem → Option α) : List DigestItem → Option α → Except FindLogError α
  | [], found =>
    match found with
    | some log => .ok log
    | none => .error .notLog
  | item :: items, found =>
    match tryTo item, found with
    | some _, some _ => .error .multipleLogs
    | some log, none => findLogFrom tryTo items (some log)
    | none, _ => findLogFrom tryTo items found

/-- What `_find_log` decides from the logs it could decode: one log is the
answer, none or several are errors. -/
def selectOnly : List α → Except FindLogError α
  | [] => .error .notLog
  | [log] => .ok log
  | _ :: _ :: _ => .error .multipleLogs

/-- The loop depends only on the decodable logs, in order, behind the one
already found. -/
theorem findLogFrom_eq (tryTo : DigestItem → Option α) (items : List DigestItem) (found : Option α) :
    findLogFrom tryTo items found = selectOnly (found.toList ++ items.filterMap tryTo) := by
  induction items generalizing found with
  | nil =>
    cases found with
    | none => rfl
    | some log => rfl
  | cons item items ih =>
    cases decoded : tryTo item with
    | none =>
      simp only [findLogFrom, decoded, ih, List.filterMap_cons_none decoded]
    | some log =>
      rw [List.filterMap_cons_some decoded]
      cases found with
      | none =>
        simp only [findLogFrom, decoded, ih]
        rfl
      | some kept =>
        simp only [findLogFrom, decoded]
        rfl

theorem filterMap_filter_isSome (tryTo : DigestItem → Option α) (items : List DigestItem) :
    (items.filter fun item => (tryTo item).isSome).filterMap tryTo = items.filterMap tryTo := by
  rw [List.filterMap_filter]
  congr 1
  funext item
  cases tryTo item <;> rfl

end Find

section Reader

variable (leaves : ScaleLeaves) (tryAsRaw : OpaqueDigestItemId → DigestItem → Option (List UInt8))

/-- `DigestItem::try_to::<Log>(Consensus(MADARA_ENGINE_ID))`: the raw payload of
a Madara consensus item, decoded as a `Log` (trailing bytes allowed). -/
def tryToLog (item : DigestItem) : Option Log :=
  (tryAsRaw (.consensus madaraEngineId) item).bind fun raw => ((logCodec leaves).decode raw).map (·.1)

/-- The items `_find_log` counts. -/
def IsMadaraLog (item : DigestItem) : Bool := (tryToLog leaves tryAsRaw item).isSome

/-- `find_log`. -/
def findLog (digest : List DigestItem) : Except FindLogError Log :=
  findLogFrom (tryToLog leaves tryAsRaw) digest none

/-- `find_starknet_block`. -/
def findStarknetBlock (digest : List DigestItem) : Except FindLogError Block :=
  (findLog leaves tryAsRaw digest).map fun | .block block => block

theorem findLog_eq (digest : List DigestItem) :
    findLog leaves tryAsRaw digest =
      selectOnly ((digest.filter (IsMadaraLog leaves tryAsRaw)).filterMap (tryToLog leaves tryAsRaw)) := by
  unfold IsMadaraLog
  rw [findLog, findLogFrom_eq, filterMap_filter_isSome]
  rfl

/-- The deposited item decodes to its block, whatever the leaf codecs. -/
theorem tryToLog_depositedLog
    (consensusRaw : ∀ engine data, tryAsRaw (.consensus engine) (.consensus engine data) = some data)
    (block : Block) : tryToLog leaves tryAsRaw (depositedLog leaves block) = some (.block block) := by
  have decoded := logCodec_roundTrip leaves (.block block) []
  rw [List.append_nil] at decoded
  simp [tryToLog, depositedLog, consensusRaw, decoded]

private theorem length_filterMap_filter (digest : List DigestItem) :
    ((digest.filter (IsMadaraLog leaves tryAsRaw)).filterMap (tryToLog leaves tryAsRaw)).length =
      (digest.filter (IsMadaraLog leaves tryAsRaw)).length := by
  unfold IsMadaraLog
  rw [List.length_filterMap_eq_countP, List.countP_eq_length_filter, List.filter_filter]
  simp

theorem findStarknetBlock_of_two_le {digest : List DigestItem}
    (atLeastTwo : 2 ≤ (digest.filter (IsMadaraLog leaves tryAsRaw)).length) :
    findStarknetBlock leaves tryAsRaw digest = .error .multipleLogs := by
  rw [← length_filterMap_filter] at atLeastTwo
  rw [findStarknetBlock, findLog_eq]
  match decoded : (digest.filter (IsMadaraLog leaves tryAsRaw)).filterMap (tryToLog leaves tryAsRaw),
    atLeastTwo with
  | _ :: _ :: _, _ => rfl

theorem findStarknetBlock_of_filter_nil {digest : List DigestItem}
    (empty : digest.filter (IsMadaraLog leaves tryAsRaw) = []) :
    findStarknetBlock leaves tryAsRaw digest = .error .notLog := by
  rw [findStarknetBlock, findLog_eq, empty]
  rfl

section Deposited

variable (consensusRaw : ∀ engine data, tryAsRaw (.consensus engine) (.consensus engine data) = some data)
include consensusRaw

theorem isMadaraLog_depositedLog (block : Block) : IsMadaraLog leaves tryAsRaw (depositedLog leaves block) = true := by
  simp [IsMadaraLog, tryToLog_depositedLog leaves tryAsRaw consensusRaw block]

theorem findStarknetBlock_of_filter_single {block : Block} {digest : List DigestItem}
    (only : digest.filter (IsMadaraLog leaves tryAsRaw) = [depositedLog leaves block]) :
    findStarknetBlock leaves tryAsRaw digest = .ok block := by
  rw [findStarknetBlock, findLog_eq, only, List.filterMap_cons_some
    (tryToLog_depositedLog leaves tryAsRaw consensusRaw block)]
  rfl

/-- Around the deposited item, items that are not Madara logs drop out of
what `_find_log` counts. -/
theorem filter_deposited_of_others (block : Block) {pre post : List DigestItem}
    (others : ∀ item ∈ pre ++ post, IsMadaraLog leaves tryAsRaw item = false) :
    (pre ++ depositedLog leaves block :: post).filter (IsMadaraLog leaves tryAsRaw) = [depositedLog leaves block] := by
  have dropped : ∀ items : List DigestItem, (∀ item ∈ items, IsMadaraLog leaves tryAsRaw item = false) →
      items.filter (IsMadaraLog leaves tryAsRaw) = [] := fun items skipped =>
    List.filter_eq_nil_iff.mpr fun item member => by simp [skipped item member]
  rw [List.filter_append, List.filter_cons_of_pos (isMadaraLog_depositedLog leaves tryAsRaw consensusRaw block),
    dropped pre fun item member => others item (List.mem_append_left _ member),
    dropped post fun item member => others item (List.mem_append_right _ member)]
  rfl

/-- Two deposited items are both counted, wherever they stand. -/
theorem two_le_filter_of_deposits (first second : Block) (pre mid post : List DigestItem) :
    2 ≤ ((pre ++ depositedLog leaves first :: mid ++ depositedLog leaves second :: post).filter
      (IsMadaraLog leaves tryAsRaw)).length := by
  simp only [List.filter_append, List.filter_cons_of_pos (isMadaraLog_depositedLog leaves tryAsRaw consensusRaw _),
    List.length_append, List.length_cons]
  omega

end Deposited

/-- What the runtime writes into the digest is what clients read back. The
item `store_block` deposits for `block`, among items that are not Madara logs,
yields `block`; two deposited items give `MultipleLogs`, wherever they stand.
More generally, two or more Madara logs give `MultipleLogs` and none gives
`NotLog`. On the way, the hand-written felt codec decodes what it encodes. -/
theorem find_starknet_block_reads_deposited_block
    (consensusRaw : ∀ engine data, tryAsRaw (.consensus engine) (.consensus engine data) = some data) :
    (∀ (block : Block) (pre post : List DigestItem),
      (∀ item ∈ pre ++ post, IsMadaraLog leaves tryAsRaw item = false) →
        findStarknetBlock leaves tryAsRaw (pre ++ depositedLog leaves block :: post) = .ok block) ∧
    (∀ (first second : Block) (pre mid post : List DigestItem),
      findStarknetBlock leaves tryAsRaw (pre ++ depositedLog leaves first :: mid ++ depositedLog leaves second :: post) =
        .error .multipleLogs) ∧
    (∀ digest : List DigestItem, 2 ≤ (digest.filter (IsMadaraLog leaves tryAsRaw)).length →
        findStarknetBlock leaves tryAsRaw digest = .error .multipleLogs) ∧
    (∀ digest : List DigestItem, digest.filter (IsMadaraLog leaves tryAsRaw) = [] →
        findStarknetBlock leaves tryAsRaw digest = .error .notLog) ∧
    (∀ felt : Felt252Wrapper,
        felt252WrapperCodec.decode (felt252WrapperCodec.encode felt) = some (felt, [])) := by
  refine ⟨?single, ?twice, ?several, ?none, ?felt⟩
  case single =>
    intro block pre post others
    exact findStarknetBlock_of_filter_single leaves tryAsRaw consensusRaw
      (filter_deposited_of_others leaves tryAsRaw consensusRaw block others)
  case twice =>
    intro first second pre mid post
    exact findStarknetBlock_of_two_le leaves tryAsRaw
      (two_le_filter_of_deposits leaves tryAsRaw consensusRaw first second pre mid post)
  case several => exact fun _ atLeastTwo => findStarknetBlock_of_two_le leaves tryAsRaw atLeastTwo
  case none => exact fun _ empty => findStarknetBlock_of_filter_nil leaves tryAsRaw empty
  case felt =>
    intro felt
    simpa using felt252WrapperCodec_roundTrip felt []

end Reader

/-! ### A witness: the `sp_runtime` reader and SCALE leaves -/

/-- `DigestItem::try_as_raw` as `sp_runtime` defines it. -/
def spTryAsRaw : OpaqueDigestItemId → DigestItem → Option (List UInt8)
  | .preRuntime wanted, .preRuntime engine data
  | .consensus wanted, .consensus engine data
  | .seal wanted, .seal engine data => if engine = wanted then some data else none
  | .other, .other data => some data
  | _, _ => none

/-- Reads the `0xff` prefix of `shortLengthCodec`, one multiple of 64 per byte. -/
def decodeShortLength (multiples : Nat) : List UInt8 → Option (Nat × List UInt8)
  | [] => none
  | byte :: rest =>
    if byte = 255 then decodeShortLength (multiples + 1) rest
    else some (64 * multiples + byte.toNat / 4, rest)

/-- A length codec equal to SCALE's `Compact` single-byte mode (`n << 2`) below
64, kept injective above by one `0xff` byte per multiple of 64. -/
def shortLengthCodec : Codec Nat where
  encode count := List.replicate (count / 64) 255 ++ [UInt8.ofNat (4 * (count % 64))]
  decode := decodeShortLength 0

private theorem decodeShortLength_replicate (multiples extra : Nat) (last : UInt8) (rest : List UInt8)
    (notPrefix : last ≠ 255) :
    decodeShortLength multiples (List.replicate extra 255 ++ last :: rest) =
      some (64 * (multiples + extra) + last.toNat / 4, rest) := by
  induction extra generalizing multiples with
  | zero => simp [decodeShortLength, notPrefix]
  | succ extra ih =>
    rw [List.replicate_succ, List.cons_append, decodeShortLength, if_pos rfl, ih]
    congr 3
    omega

theorem shortLengthCodec_roundTrip : shortLengthCodec.RoundTrip := by
  intro count rest
  have small : 4 * (count % 64) < 256 := by omega
  have last : (UInt8.ofNat (4 * (count % 64))).toNat = 4 * (count % 64) := by
    simp [UInt8.toNat_ofNat, Nat.mod_eq_of_lt small]
  have notPrefix : UInt8.ofNat (4 * (count % 64)) ≠ 255 := by
    intro same
    have := congrArg UInt8.toNat same
    rw [last] at this
    simp at this
    omega
  simp only [shortLengthCodec, List.append_assoc, List.singleton_append]
  rw [decodeShortLength_replicate 0 _ _ _ notPrefix, last]
  congr 2
  omega

/-- Fixed-width little-endian integers, `bool` and big-endian `[u8; 32]` felts:
the SCALE leaves, with `shortLengthCodec` for vector lengths. -/
def witnessLeaves : ScaleLeaves where
  u8 := ⟨(word 1).map (fun value => UInt8.ofNat value.val) (fun byte => ⟨byte.toNat, by
      simpa using byte.toNat_lt⟩), .map (.word 1) fun _ => UInt8.ofNat_toNat⟩
  u64 := ⟨(word 8).map (fun value => UInt64.ofNat value.val) (fun word => ⟨word.toNat, by
      simpa using word.toNat_lt⟩), .map (.word 8) fun _ => UInt64.ofNat_toNat⟩
  u128 := ⟨(word 16).map (fun value => ⟨value.val, value.isLt.trans_eq (by norm_num)⟩)
      (fun value => ⟨value.val, value.isLt.trans_eq (by norm_num)⟩), .map (.word 16) fun _ => rfl⟩
  bool := ⟨Codec.bool, .bool⟩
  u256 := ⟨(word 32).map (fun value => ⟨value.val, value.isLt.trans_eq (by norm_num)⟩)
      (fun value => ⟨value.val, value.isLt.trans_eq (by norm_num)⟩), .map (.word 32) fun _ => rfl⟩
  starkFelt := ⟨felt252WrapperCodec, felt252WrapperCodec_roundTrip⟩
  compactLength := ⟨shortLengthCodec, shortLengthCodec_roundTrip⟩

theorem find_starknet_block_reads_deposited_block_with_sp_runtime :
    (∀ engine data, spTryAsRaw (.consensus engine) (.consensus engine data) = some data) ∧
    ((∀ (block : Block) (pre post : List DigestItem),
      (∀ item ∈ pre ++ post, IsMadaraLog witnessLeaves spTryAsRaw item = false) →
        findStarknetBlock witnessLeaves spTryAsRaw (pre ++ depositedLog witnessLeaves block :: post) = .ok block) ∧
    (∀ (first second : Block) (pre mid post : List DigestItem),
      findStarknetBlock witnessLeaves spTryAsRaw
        (pre ++ depositedLog witnessLeaves first :: mid ++ depositedLog witnessLeaves second :: post) =
          .error .multipleLogs) ∧
    (∀ digest : List DigestItem, 2 ≤ (digest.filter (IsMadaraLog witnessLeaves spTryAsRaw)).length →
        findStarknetBlock witnessLeaves spTryAsRaw digest = .error .multipleLogs) ∧
    (∀ digest : List DigestItem, digest.filter (IsMadaraLog witnessLeaves spTryAsRaw) = [] →
        findStarknetBlock witnessLeaves spTryAsRaw digest = .error .notLog) ∧
    (∀ felt : Felt252Wrapper,
        felt252WrapperCodec.decode (felt252WrapperCodec.encode felt) = some (felt, []))) :=
  have consensusRaw : ∀ engine data, spTryAsRaw (.consensus engine) (.consensus engine data) = some data :=
    fun _ _ => by simp [spTryAsRaw]
  ⟨consensusRaw, find_starknet_block_reads_deposited_block witnessLeaves spTryAsRaw consensusRaw⟩

end Madara.DigestLog

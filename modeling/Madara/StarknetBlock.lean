import Madara.Transactions

/-! `mp_block`: the Starknet block the pallet builds at the end of every
Substrate block, its header hash, and its SCALE codec. The codec is the one
`#[derive(Encode, Decode)]` produces: every struct is its fields in declaration
order and every enum a variant index byte followed by the variant's fields.
Inside it sits the hand-written `Felt252Wrapper` codec; the codecs of the
other leaf types (integers, `bool`, `U256`, `StarkFelt`, `Compact` lengths) are
received in `ScaleLeaves` with their round-trip law. `blockCodec_roundTrip`
lifts the law through the whole derived tree. -/
namespace Madara.StarknetBlock

open Madara.Felt Madara.Transactions Scale Scale.Codec

abbrev U256 := Fin (2 ^ 256)

/-- `mp_fee::ResourcePrice`. -/
structure ResourcePrice where
  priceInStrk : Option UInt64
  priceInWei : U128
  deriving DecidableEq, Repr

/-- `mp_block::Header`. `StarkHash` and `ContractAddress` values are field
elements. -/
structure Header where
  parentBlockHash : FieldElement
  blockNumber : UInt64
  sequencerAddress : FieldElement
  blockTimestamp : UInt64
  transactionCount : U128
  eventCount : U128
  protocolVersion : UInt8
  l1GasPrice : ResourcePrice
  extraData : Option U256
  deriving DecidableEq, Repr

/-- `mp_block::Block`. -/
structure Block where
  header : Header
  transactions : List Transaction
  deriving DecidableEq, Repr

/-- `Header::hash`: the `SystemHash` of the header's fields, with a zero where
the source leaves one. -/
def Header.hash (crypto : Crypto) (header : Header) : Felt252Wrapper :=
  crypto.systemHashOnWrappers [ofU64 header.blockNumber, header.sequencerAddress,
    ofU64 header.blockTimestamp, ofU128 header.transactionCount, ofU128 header.eventCount,
    ofU8 header.protocolVersion, 0, header.parentBlockHash]

/-- The SCALE codecs of the leaf types of a block other than `Felt252Wrapper`,
each with its round-trip law. -/
structure ScaleLeaves where
  u8 : LawfulCodec UInt8
  u64 : LawfulCodec UInt64
  u128 : LawfulCodec U128
  bool : LawfulCodec Bool
  u256 : LawfulCodec U256
  starkFelt : LawfulCodec FieldElement
  compactLength : LawfulCodec Nat

section Derived

variable (leaves : ScaleLeaves)

/-- `Vec<Felt252Wrapper>`. -/
def feltsCodec : Codec (List Felt252Wrapper) :=
  vec leaves.compactLength.toCodec felt252WrapperCodec

def resourcePriceCodec : Codec ResourcePrice :=
  (leaves.u64.toCodec.option.pair leaves.u128.toCodec).map
    (fun (priceInStrk, priceInWei) => ⟨priceInStrk, priceInWei⟩)
    (fun price => (price.priceInStrk, price.priceInWei))

def headerCodec : Codec Header :=
  (leaves.starkFelt.toCodec.pair <| leaves.u64.toCodec.pair <| leaves.starkFelt.toCodec.pair <|
    leaves.u64.toCodec.pair <| leaves.u128.toCodec.pair <| leaves.u128.toCodec.pair <|
    leaves.u8.toCodec.pair <| (resourcePriceCodec leaves).pair leaves.u256.toCodec.option).map
    (fun (parent, number, sequencer, timestamp, transactions, events, version, price, extra) =>
      ⟨parent, number, sequencer, timestamp, transactions, events, version, price, extra⟩)
    (fun header => (header.parentBlockHash, header.blockNumber, header.sequencerAddress,
      header.blockTimestamp, header.transactionCount, header.eventCount, header.protocolVersion,
      header.l1GasPrice, header.extraData))

def invokeV0Codec : Codec InvokeTransactionV0 :=
  (leaves.u128.toCodec.pair <| (feltsCodec leaves).pair <| felt252WrapperCodec.pair <|
    felt252WrapperCodec.pair (feltsCodec leaves)).map
    (fun (maxFee, signature, contractAddress, selector, calldata) =>
      ⟨maxFee, signature, contractAddress, selector, calldata⟩)
    (fun tx => (tx.maxFee, tx.signature, tx.contractAddress, tx.entryPointSelector, tx.calldata))

def invokeV1Codec : Codec InvokeTransactionV1 :=
  (leaves.u128.toCodec.pair <| (feltsCodec leaves).pair <| felt252WrapperCodec.pair <|
    felt252WrapperCodec.pair <| (feltsCodec leaves).pair leaves.bool.toCodec).map
    (fun (maxFee, signature, nonce, sender, calldata, offset) =>
      ⟨maxFee, signature, nonce, sender, calldata, offset⟩)
    (fun tx => (tx.maxFee, tx.signature, tx.nonce, tx.senderAddress, tx.calldata, tx.offsetVersion))

def declareV0Codec : Codec DeclareTransactionV0 :=
  (leaves.u128.toCodec.pair <| (feltsCodec leaves).pair <| felt252WrapperCodec.pair <|
    felt252WrapperCodec.pair felt252WrapperCodec).map
    (fun (maxFee, signature, nonce, classHash, sender) => ⟨maxFee, signature, nonce, classHash, sender⟩)
    (fun tx => (tx.maxFee, tx.signature, tx.nonce, tx.classHash, tx.senderAddress))

def declareV1Codec : Codec DeclareTransactionV1 :=
  (leaves.u128.toCodec.pair <| (feltsCodec leaves).pair <| felt252WrapperCodec.pair <|
    felt252WrapperCodec.pair <| felt252WrapperCodec.pair leaves.bool.toCodec).map
    (fun (maxFee, signature, nonce, classHash, sender, offset) =>
      ⟨maxFee, signature, nonce, classHash, sender, offset⟩)
    (fun tx => (tx.maxFee, tx.signature, tx.nonce, tx.classHash, tx.senderAddress, tx.offsetVersion))

def declareV2Codec : Codec DeclareTransactionV2 :=
  (leaves.u128.toCodec.pair <| (feltsCodec leaves).pair <| felt252WrapperCodec.pair <|
    felt252WrapperCodec.pair <| felt252WrapperCodec.pair <| felt252WrapperCodec.pair
      leaves.bool.toCodec).map
    (fun (maxFee, signature, nonce, classHash, sender, compiled, offset) =>
      ⟨maxFee, signature, nonce, classHash, sender, compiled, offset⟩)
    (fun tx => (tx.maxFee, tx.signature, tx.nonce, tx.classHash, tx.senderAddress,
      tx.compiledClassHash, tx.offsetVersion))

def deployAccountCodec : Codec DeployAccountTransaction :=
  (leaves.u128.toCodec.pair <| (feltsCodec leaves).pair <| felt252WrapperCodec.pair <|
    felt252WrapperCodec.pair <| (feltsCodec leaves).pair <| felt252WrapperCodec.pair
      leaves.bool.toCodec).map
    (fun (maxFee, signature, nonce, salt, calldata, classHash, offset) =>
      ⟨maxFee, signature, nonce, salt, calldata, classHash, offset⟩)
    (fun tx => (tx.maxFee, tx.signature, tx.nonce, tx.contractAddressSalt, tx.constructorCalldata,
      tx.classHash, tx.offsetVersion))

def l1HandlerCodec : Codec HandleL1MessageTransaction :=
  (leaves.u64.toCodec.pair <| felt252WrapperCodec.pair <| felt252WrapperCodec.pair
    (feltsCodec leaves)).map
    (fun (nonce, contractAddress, selector, calldata) => ⟨nonce, contractAddress, selector, calldata⟩)
    (fun tx => (tx.nonce, tx.contractAddress, tx.entryPointSelector, tx.calldata))

def invokeCodec : Codec InvokeTransaction :=
  enum (fun | .v0 _ => 0 | .v1 _ => 1)
    (fun | .v0 tx => (invokeV0Codec leaves).encode tx | .v1 tx => (invokeV1Codec leaves).encode tx)
    (fun tag rest => match tag.toNat with
      | 0 => ((invokeV0Codec leaves).decode rest).map fun (tx, tail) => (.v0 tx, tail)
      | 1 => ((invokeV1Codec leaves).decode rest).map fun (tx, tail) => (.v1 tx, tail)
      | _ => none)

def declareCodec : Codec DeclareTransaction :=
  enum (fun | .v0 _ => 0 | .v1 _ => 1 | .v2 _ => 2)
    (fun | .v0 tx => (declareV0Codec leaves).encode tx | .v1 tx => (declareV1Codec leaves).encode tx
         | .v2 tx => (declareV2Codec leaves).encode tx)
    (fun tag rest => match tag.toNat with
      | 0 => ((declareV0Codec leaves).decode rest).map fun (tx, tail) => (.v0 tx, tail)
      | 1 => ((declareV1Codec leaves).decode rest).map fun (tx, tail) => (.v1 tx, tail)
      | 2 => ((declareV2Codec leaves).decode rest).map fun (tx, tail) => (.v2 tx, tail)
      | _ => none)

def transactionCodec : Codec Transaction :=
  enum (fun | .declare _ => 0 | .deployAccount _ => 1 | .invoke _ => 2 | .l1Handler _ => 3)
    (fun | .declare tx => (declareCodec leaves).encode tx
         | .deployAccount tx => (deployAccountCodec leaves).encode tx
         | .invoke tx => (invokeCodec leaves).encode tx
         | .l1Handler tx => (l1HandlerCodec leaves).encode tx)
    (fun tag rest => match tag.toNat with
      | 0 => ((declareCodec leaves).decode rest).map fun (tx, tail) => (.declare tx, tail)
      | 1 => ((deployAccountCodec leaves).decode rest).map fun (tx, tail) => (.deployAccount tx, tail)
      | 2 => ((invokeCodec leaves).decode rest).map fun (tx, tail) => (.invoke tx, tail)
      | 3 => ((l1HandlerCodec leaves).decode rest).map fun (tx, tail) => (.l1Handler tx, tail)
      | _ => none)

def blockCodec : Codec Block :=
  ((headerCodec leaves).pair (vec leaves.compactLength.toCodec (transactionCodec leaves))).map
    (fun (header, transactions) => ⟨header, transactions⟩)
    (fun block => (block.header, block.transactions))

/-! ### The round-trip law through the derived tree -/

theorem feltsCodec_roundTrip : (feltsCodec leaves).RoundTrip :=
  .vec leaves.compactLength.roundTrip felt252WrapperCodec_roundTrip

theorem headerCodec_roundTrip : (headerCodec leaves).RoundTrip := by
  have price : (resourcePriceCodec leaves).RoundTrip :=
    .map (.pair (.option leaves.u64.roundTrip) leaves.u128.roundTrip) fun _ => rfl
  exact .map (.pair leaves.starkFelt.roundTrip <| .pair leaves.u64.roundTrip <|
    .pair leaves.starkFelt.roundTrip <| .pair leaves.u64.roundTrip <| .pair leaves.u128.roundTrip <|
    .pair leaves.u128.roundTrip <| .pair leaves.u8.roundTrip <|
    .pair price (.option leaves.u256.roundTrip)) fun _ => rfl

theorem invokeCodec_roundTrip : (invokeCodec leaves).RoundTrip := by
  have felts := feltsCodec_roundTrip leaves
  have felt := felt252WrapperCodec_roundTrip
  have v0 : (invokeV0Codec leaves).RoundTrip :=
    .map (.pair leaves.u128.roundTrip <| .pair felts <| .pair felt <| .pair felt felts) fun _ => rfl
  have v1 : (invokeV1Codec leaves).RoundTrip :=
    .map (.pair leaves.u128.roundTrip <| .pair felts <| .pair felt <| .pair felt <|
      .pair felts leaves.bool.roundTrip) fun _ => rfl
  apply RoundTrip.enum
  rintro (tx | tx) rest
  · simp [v0 tx rest]
  · simp [v1 tx rest]

theorem declareCodec_roundTrip : (declareCodec leaves).RoundTrip := by
  have felts := feltsCodec_roundTrip leaves
  have felt := felt252WrapperCodec_roundTrip
  have v0 : (declareV0Codec leaves).RoundTrip :=
    .map (.pair leaves.u128.roundTrip <| .pair felts <| .pair felt <| .pair felt felt) fun _ => rfl
  have v1 : (declareV1Codec leaves).RoundTrip :=
    .map (.pair leaves.u128.roundTrip <| .pair felts <| .pair felt <| .pair felt <|
      .pair felt leaves.bool.roundTrip) fun _ => rfl
  have v2 : (declareV2Codec leaves).RoundTrip :=
    .map (.pair leaves.u128.roundTrip <| .pair felts <| .pair felt <| .pair felt <| .pair felt <|
      .pair felt leaves.bool.roundTrip) fun _ => rfl
  apply RoundTrip.enum
  rintro (tx | tx | tx) rest
  · simp [v0 tx rest]
  · simp [v1 tx rest]
  · simp [v2 tx rest]

theorem transactionCodec_roundTrip : (transactionCodec leaves).RoundTrip := by
  have felts := feltsCodec_roundTrip leaves
  have felt := felt252WrapperCodec_roundTrip
  have deploy : (deployAccountCodec leaves).RoundTrip :=
    .map (.pair leaves.u128.roundTrip <| .pair felts <| .pair felt <| .pair felt <| .pair felts <|
      .pair felt leaves.bool.roundTrip) fun _ => rfl
  have handler : (l1HandlerCodec leaves).RoundTrip :=
    .map (.pair leaves.u64.roundTrip <| .pair felt <| .pair felt felts) fun _ => rfl
  apply RoundTrip.enum
  rintro (tx | tx | tx | tx) rest
  · simp [declareCodec_roundTrip leaves tx rest]
  · simp [deploy tx rest]
  · simp [invokeCodec_roundTrip leaves tx rest]
  · simp [handler tx rest]

/-- The derived block codec decodes what it encodes, for every header and
every list of transactions. -/
theorem blockCodec_roundTrip : (blockCodec leaves).RoundTrip :=
  .map (.pair (headerCodec_roundTrip leaves)
    (.vec leaves.compactLength.roundTrip (transactionCodec_roundTrip leaves))) fun _ => rfl

end Derived

end Madara.StarknetBlock

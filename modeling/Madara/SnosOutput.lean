import Madara.Lib.Segment
import Madara.Felt
import Mathlib.Algebra.GroupWithZero.NeZero
import Mathlib.Algebra.GroupWithZero.Nat
import Mathlib.Order.Fin.Basic

/-! The StarkNet OS program output (`primitives/snos-output`) and its felt
codec `SnosCodec`, through which the output is sent to the L1 contract.

A `FeltReader` is a cursor over a felt array; here it is the part of the
array it has not read yet, so `remaining_len` is that part's length. Felts,
contract addresses and nonces take one felt each; an Ethereum address takes
one felt whose first 12 bytes are zero. A `Vec` is a segment: its length in
felts, then its elements, where nested vectors count all their felts. Every
codec of the output is built from these by the combinators of
`SegmentCodec`, so its laws come from theirs: the encoding of every output
small enough for its lengths to fit a `u64` decodes back to it with nothing
left, and whatever decodes with nothing left is the encoding of what it gave. -/
namespace Madara.SnosOutput

open SegmentCodec

/-- `StarkFelt`: 32 bytes, read as a big-endian number. The codec copies felts
as they are, so any 32 bytes count, not only field elements. -/
abbrev StarkFelt := Fin (2 ^ 256)

/-- The numerals of `StarkFelt` rest on this one instance. -/
instance neZeroTwoPow256 : NeZero (2 ^ 256 : Nat) := NeZero.of_pos (Nat.two_pow_pos 256)

/-- `EthAddress`: the 20 bytes of an `H160`, read as a big-endian number. -/
abbrev EthAddress := Fin (2 ^ 160)

/-- `ContractAddress(PatriciaKey(StarkFelt))`. -/
structure ContractAddress where
  key : StarkFelt
  deriving DecidableEq, Repr

/-- `Nonce(StarkFelt)`. -/
structure Nonce where
  felt : StarkFelt
  deriving DecidableEq, Repr

/-- `MessageL2ToL1`. -/
structure MessageL2ToL1 where
  fromAddress : ContractAddress
  toAddress : EthAddress
  payload : List StarkFelt
  deriving DecidableEq, Repr

/-- `MessageL1ToL2`. -/
structure MessageL1ToL2 where
  fromAddress : ContractAddress
  toAddress : ContractAddress
  nonce : Nonce
  selector : StarkFelt
  payload : List StarkFelt
  deriving DecidableEq, Repr

/-- `StarknetOsOutput`. -/
structure StarknetOsOutput where
  prevStateRoot : StarkFelt
  newStateRoot : StarkFelt
  blockNumber : StarkFelt
  blockHash : StarkFelt
  configHash : StarkFelt
  messagesToL1 : List MessageL2ToL1
  messagesToL2 : List MessageL1ToL2
  deriving DecidableEq, Repr

/-- `FeltReaderError`. -/
inductive FeltReaderError where
  | outOfBounds
  | invalidCast
  deriving DecidableEq, Repr

/-! ### Conversions -/

/-- `eth_address_to_felt`: the 20 bytes after 12 zero bytes. -/
def ethAddressToFelt (ethAddress : EthAddress) : StarkFelt :=
  ⟨ethAddress.val, Madara.Felt.h160_val_lt_two_pow_256 ethAddress⟩

/-- `EthAddress::try_from(StarkFelt)` of `starknet_api`: the first 12 bytes
must be zero. -/
def ethAddressOfFelt (felt : StarkFelt) : Option EthAddress :=
  if fits : felt.val < 2 ^ 160 then some ⟨felt.val, fits⟩ else none

/-- `u64::try_from(StarkFelt)` of `starknet_api`: the first 24 bytes must be zero. -/
def u64OfFelt (felt : StarkFelt) : Option UInt64 :=
  if felt.val < 2 ^ 64 then some (UInt64.ofNat felt.val) else none

/-- `StarkFelt::from(u64)`: the 8 bytes after 24 zero bytes. -/
def feltOfU64 (value : UInt64) : StarkFelt :=
  ⟨value.toNat, Nat.lt_trans value.toNat_lt (by decide)⟩

theorem u64OfFelt_toNat {felt : StarkFelt} {size : UInt64} (cast : u64OfFelt felt = some size) :
    felt.val < 2 ^ 64 ∧ size.toNat = felt.val := by
  unfold u64OfFelt at cast
  split at cast
  · next fits =>
    cases cast
    exact ⟨fits, UInt64.toNat_ofNat_of_lt' fits⟩
  · cases cast

theorem ethAddressOfFelt_ethAddressToFelt (ethAddress : EthAddress) :
    ethAddressOfFelt (ethAddressToFelt ethAddress) = some ethAddress := by
  simp [ethAddressOfFelt, ethAddressToFelt]

theorem ethAddressToFelt_of_ethAddressOfFelt {felt : StarkFelt} {ethAddress : EthAddress}
    (cast : ethAddressOfFelt felt = some ethAddress) : ethAddressToFelt ethAddress = felt := by
  unfold ethAddressOfFelt at cast
  split at cast
  · cases cast
    rfl
  · cases cast

/-! ### The codecs -/

/-- `FeltReader::read_segment`'s length: the felt as a `u64`, then as a `usize`. -/
def readSegmentSize (felt : StarkFelt) : Except FeltReaderError Nat :=
  match u64OfFelt felt with
  | some size => .ok size.toNat
  | none => .error .invalidCast

/-- `SnosCodec for StarkFelt`: pushed as it is, read by `FeltReader::read`. -/
def starkFeltCodec : Codec StarkFelt FeltReaderError StarkFelt :=
  .single .ok id .outOfBounds

/-- `SnosCodec for ContractAddress`. -/
def contractAddressCodec : Codec StarkFelt FeltReaderError ContractAddress :=
  starkFeltCodec.map ContractAddress.mk ContractAddress.key

/-- `SnosCodec for EthAddress`: a felt that must convert. -/
def ethAddressCodec : Codec StarkFelt FeltReaderError EthAddress :=
  .single (fun felt => match ethAddressOfFelt felt with
      | some ethAddress => .ok ethAddress
      | none => .error .invalidCast)
    ethAddressToFelt .outOfBounds

/-- `SnosCodec for Nonce`. -/
def nonceCodec : Codec StarkFelt FeltReaderError Nonce :=
  starkFeltCodec.map Nonce.mk Nonce.felt

/-- `SnosCodec for Vec<T>`: the placeholder `0`, patched with the number of
felts the elements added (`added_data as u64`); read through
`FeltReader::read_segment` and a reader over the segment. -/
def vecCodec {α : Type} (codec : Codec StarkFelt FeltReaderError α) :
    Codec StarkFelt FeltReaderError (List α) :=
  codec.segment (feltOfU64 0) (fun addedData => feltOfU64 (UInt64.ofNat addedData)) readSegmentSize
    .outOfBounds

/-- `SnosCodec for MessageL2ToL1`: its fields in order. -/
def messageL2ToL1Codec : Codec StarkFelt FeltReaderError MessageL2ToL1 :=
  (contractAddressCodec.pair (ethAddressCodec.pair (vecCodec starkFeltCodec))).map
    (fun (fromAddress, toAddress, payload) => ⟨fromAddress, toAddress, payload⟩)
    (fun message => (message.fromAddress, message.toAddress, message.payload))

/-- `SnosCodec for MessageL1ToL2`: its fields in order. -/
def messageL1ToL2Codec : Codec StarkFelt FeltReaderError MessageL1ToL2 :=
  (contractAddressCodec.pair (contractAddressCodec.pair (nonceCodec.pair
      (starkFeltCodec.pair (vecCodec starkFeltCodec))))).map
    (fun (fromAddress, toAddress, nonce, selector, payload) => ⟨fromAddress, toAddress, nonce, selector, payload⟩)
    (fun message => (message.fromAddress, message.toAddress, message.nonce, message.selector, message.payload))

/-- `SnosCodec for StarknetOsOutput`: its fields in order. -/
def starknetOsOutputCodec : Codec StarkFelt FeltReaderError StarknetOsOutput :=
  (starkFeltCodec.pair (starkFeltCodec.pair (starkFeltCodec.pair (starkFeltCodec.pair (starkFeltCodec.pair
      ((vecCodec messageL2ToL1Codec).pair (vecCodec messageL1ToL2Codec))))))).map
    (fun (prevStateRoot, newStateRoot, blockNumber, blockHash, configHash, messagesToL1, messagesToL2) =>
      ⟨prevStateRoot, newStateRoot, blockNumber, blockHash, configHash, messagesToL1, messagesToL2⟩)
    (fun output => (output.prevStateRoot, output.newStateRoot, output.blockNumber, output.blockHash,
      output.configHash, output.messagesToL1, output.messagesToL2))

/-- `SnosCodec::into_encoded_vec` of an output. -/
def intoEncodedVec (output : StarknetOsOutput) : List StarkFelt :=
  starknetOsOutputCodec.encode output

/-! ### The codecs' laws -/

/-- The bound below which every segment length fits a `u64`. -/
abbrev lengthBound : Nat := 2 ^ 64

theorem starkFeltCodec_lawful : starkFeltCodec.Lawful lengthBound :=
  Codec.Lawful.single _ (fun _ => rfl) (fun _ _ read => by cases read; rfl) lengthBound

theorem contractAddressCodec_lawful : contractAddressCodec.Lawful lengthBound :=
  starkFeltCodec_lawful.map (fun _ => rfl) (fun _ => rfl)

theorem nonceCodec_lawful : nonceCodec.Lawful lengthBound :=
  starkFeltCodec_lawful.map (fun _ => rfl) (fun _ => rfl)

theorem ethAddressCodec_lawful : ethAddressCodec.Lawful lengthBound := by
  refine Codec.Lawful.single _ (fun ethAddress => ?_) (fun felt ethAddress read => ?_) lengthBound
  · simp only [ethAddressOfFelt_ethAddressToFelt]
  · split at read
    · rename_i cast
      cases read
      exact ethAddressToFelt_of_ethAddressOfFelt cast
    · cases read

/-- A segment length below the bound is read back from the felt it is patched into. -/
theorem readSegmentSize_feltOfU64 {size : Nat} (fits : size < lengthBound) :
    readSegmentSize (feltOfU64 (UInt64.ofNat size)) = .ok size := by
  have small : (UInt64.ofNat size).toNat = size := Nat.mod_eq_of_lt fits
  have cast : u64OfFelt (feltOfU64 (UInt64.ofNat size)) = some (UInt64.ofNat size) := by
    have value : (feltOfU64 (UInt64.ofNat size)).val = size := small
    unfold u64OfFelt
    rw [value, if_pos fits]
  simp only [readSegmentSize, cast, small]

/-- A segment length that was read is the one patched into the felt it came from. -/
theorem feltOfU64_of_readSegmentSize {felt : StarkFelt} {size : Nat} (read : readSegmentSize felt = .ok size) :
    feltOfU64 (UInt64.ofNat size) = felt := by
  unfold readSegmentSize u64OfFelt at read
  split at read
  · rename_i value cast
    split at cast
    · rename_i fits
      cases cast
      cases read
      apply Fin.ext
      show (UInt64.ofNat (UInt64.ofNat felt.val).toNat).toNat = felt.val
      have small : (UInt64.ofNat felt.val).toNat = felt.val := Nat.mod_eq_of_lt fits
      rw [small, small]
    · cases cast
  · cases read

theorem vecCodec_lawful {α : Type} {codec : Codec StarkFelt FeltReaderError α}
    (law : codec.Lawful lengthBound) : (vecCodec codec).Lawful lengthBound :=
  law.segment (fun _ fits => readSegmentSize_feltOfU64 fits) (fun _ _ read => feltOfU64_of_readSegmentSize read)

theorem messageL2ToL1Codec_lawful : messageL2ToL1Codec.Lawful lengthBound :=
  (contractAddressCodec_lawful.pair (ethAddressCodec_lawful.pair (vecCodec_lawful starkFeltCodec_lawful))).map
    (fun _ => rfl) (fun _ => rfl)

theorem messageL1ToL2Codec_lawful : messageL1ToL2Codec.Lawful lengthBound :=
  (contractAddressCodec_lawful.pair (contractAddressCodec_lawful.pair (nonceCodec_lawful.pair
      (starkFeltCodec_lawful.pair (vecCodec_lawful starkFeltCodec_lawful))))).map
    (fun _ => rfl) (fun _ => rfl)

theorem starknetOsOutputCodec_lawful : starknetOsOutputCodec.Lawful lengthBound :=
  (starkFeltCodec_lawful.pair (starkFeltCodec_lawful.pair (starkFeltCodec_lawful.pair (starkFeltCodec_lawful.pair
      (starkFeltCodec_lawful.pair ((vecCodec_lawful messageL2ToL1Codec_lawful).pair
        (vecCodec_lawful messageL1ToL2Codec_lawful))))))).map
    (fun _ => rfl) (fun _ => rfl)

/-- The output codec round-trips over the whole format. The encoding of every
output, with any felts, any messages and payloads of any length as long as its
encoding has fewer than `2^64` felts (every vector in memory does), decodes
back to it and leaves nothing unread. Whatever decodes and leaves nothing
unread is the encoding of the output it gave. -/
theorem snos_output_codec_round_trip :
    (∀ output : StarknetOsOutput, (intoEncodedVec output).length < 2 ^ 64 →
      starknetOsOutputCodec.decode (intoEncodedVec output) = .ok (output, [])) ∧
    ∀ felts output, starknetOsOutputCodec.decode felts = .ok (output, []) → intoEncodedVec output = felts := by
  refine ⟨fun output fits => ?_, fun felts output decoded => ?_⟩
  · have decoded := starknetOsOutputCodec_lawful.roundTrip output [] fits
    rwa [List.append_nil] at decoded
  · have read := starknetOsOutputCodec_lawful.canonical felts output [] decoded
    rw [List.append_nil] at read
    exact read.symm

/-- The sample output of `test_snos_output_codec`, one felt a line: the five
roots and hashes, a segment of one message to L1 with a payload of four
felts, and a segment of one message to L2 with a payload of three. -/
def sampleFelts : List StarkFelt :=
  [0x00bf8721ac2af6f7f40155c973c2bf5c15b7e0ed790b0865af20bf25ab57e9ff,
    0x03d46b43f31ccfed7ce09a0e318f1f98f59b28f4527ea01de34382ab8c7f2a26,
    0x441ee,
    0x0770ab05ba02edc49516cebde84bbffb76da74cdc98fd142c9c703ab871c4c7a,
    0x017c0bc29d31e9a7d14671610a7626264ce9ce8e3ed066a4775adf9b123de9dd,
    7,
    0x073314940630fd6dcda0d772d4c972c4e0a9946bef9dabf4ef84eda8ef542b82,
    0xae0ee0a63a2ce6baeeffe56e7714fb4efe48d419,
    4, 0, 0xdef47ac573dd080526c2e6dd3bc8b4d66e9c6a77, 0x9184e72a0000, 0,
    8,
    0xae0ee0a63a2ce6baeeffe56e7714fb4efe48d419,
    0x073314940630fd6dcda0d772d4c972c4e0a9946bef9dabf4ef84eda8ef542b82,
    0x14de2c,
    0x02d757788a8d8d6f21d1cd40bce38a8222d70654214e96ff95d8086e684fbee5,
    3, 0x015342c9b50c5eed063ef19efb9a57ad10c30d1d39f1f1977f48bcc7199e91e0, 0x429d069189e0000, 0]

/-- The output the sample encodes. -/
def sampleOutput : StarknetOsOutput where
  prevStateRoot := 0x00bf8721ac2af6f7f40155c973c2bf5c15b7e0ed790b0865af20bf25ab57e9ff
  newStateRoot := 0x03d46b43f31ccfed7ce09a0e318f1f98f59b28f4527ea01de34382ab8c7f2a26
  blockNumber := 0x441ee
  blockHash := 0x0770ab05ba02edc49516cebde84bbffb76da74cdc98fd142c9c703ab871c4c7a
  configHash := 0x017c0bc29d31e9a7d14671610a7626264ce9ce8e3ed066a4775adf9b123de9dd
  messagesToL1 := [⟨⟨0x073314940630fd6dcda0d772d4c972c4e0a9946bef9dabf4ef84eda8ef542b82⟩,
    0xae0ee0a63a2ce6baeeffe56e7714fb4efe48d419, [0, 0xdef47ac573dd080526c2e6dd3bc8b4d66e9c6a77, 0x9184e72a0000, 0]⟩]
  messagesToL2 := [⟨⟨0xae0ee0a63a2ce6baeeffe56e7714fb4efe48d419⟩,
    ⟨0x073314940630fd6dcda0d772d4c972c4e0a9946bef9dabf4ef84eda8ef542b82⟩, ⟨0x14de2c⟩,
    0x02d757788a8d8d6f21d1cd40bce38a8222d70654214e96ff95d8086e684fbee5,
    [0x015342c9b50c5eed063ef19efb9a57ad10c30d1d39f1f1977f48bcc7199e91e0, 0x429d069189e0000, 0]⟩]

/-- The sample decodes to its output with nothing left, and that output
encodes back to the sample, felt for felt, as `test_snos_output_codec` checks. -/
theorem snos_output_codec_round_trip_sample :
    starknetOsOutputCodec.decode sampleFelts = .ok (sampleOutput, []) ∧ intoEncodedVec sampleOutput = sampleFelts ∧
      starknetOsOutputCodec.decode (intoEncodedVec sampleOutput) = .ok (sampleOutput, []) :=
  have decoded : starknetOsOutputCodec.decode sampleFelts = .ok (sampleOutput, []) := by decide
  have fits : (intoEncodedVec sampleOutput).length < 2 ^ 64 := by decide
  ⟨decoded, snos_output_codec_round_trip.2 _ _ decoded, snos_output_codec_round_trip.1 _ fits⟩

end Madara.SnosOutput

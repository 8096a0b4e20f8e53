import Madara.Lib.Bytes
import Madara.Lib.Codec
import Mathlib.Data.Fin.Basic
import Mathlib.Order.Fin.Basic

/-! The Stark field element and `Felt252Wrapper`, its newtype in `mp_felt`.
A `starknet_ff::FieldElement` is modelled by its canonical representative
below the Stark prime, so field addition and subtraction are `Fin`
arithmetic and the derived `Ord` compares representatives. The wrapper's
hand-written SCALE codec writes the 32 big-endian bytes of the representative
and refuses, when reading, any 32 bytes that denote a number at or above the
prime. -/
namespace Madara.Felt

open ByteOrder Scale

/-- The Stark prime `2^251 + 17 * 2^192 + 1`. -/
def starkPrime : Nat := 2 ^ 251 + 17 * 2 ^ 192 + 1

instance : NeZero starkPrime := ⟨by simp [starkPrime]⟩

/-- The numerals of twenty-byte addresses rest on this one instance. -/
instance neZeroTwoPow160 : NeZero (2 ^ 160 : Nat) := NeZero.of_pos (Nat.two_pow_pos 160)

/-- A twenty-byte value fits in 32 bytes. -/
theorem h160_val_lt_two_pow_256 (value : Fin (2 ^ 160)) : value.val < 2 ^ 256 :=
  Nat.lt_trans value.isLt (by decide)

/-- `starknet_ff::FieldElement`, by its canonical representative. -/
abbrev FieldElement := Fin starkPrime

/-- `mp_felt::Felt252Wrapper(pub FieldElement)`. The newtype only carries
trait implementations, so it is the field element itself here. -/
abbrev Felt252Wrapper := FieldElement

theorem two_pow_128_lt_starkPrime : 2 ^ 128 < starkPrime := by
  simp only [starkPrime]
  omega

theorem starkPrime_lt_two_pow_256 : starkPrime < 256 ^ 32 := by
  simp only [starkPrime]
  omega

/-- `FieldElement::from(u64)` and `FieldElement::from(u128)`: a value below
`2^128` is its own representative. -/
def ofU128 (value : Fin (2 ^ 128)) : FieldElement :=
  ⟨value.val, value.isLt.trans two_pow_128_lt_starkPrime⟩

/-- `FieldElement::from(u64)`. -/
def ofU64 (value : UInt64) : FieldElement :=
  ⟨value.toNat, value.toNat_lt.trans (by simp only [starkPrime]; omega)⟩

/-- `FieldElement::from(u8)`. -/
def ofU8 (value : UInt8) : FieldElement :=
  ⟨value.toNat, value.toNat_lt.trans (by simp only [starkPrime]; omega)⟩

/-- `FieldElement::to_bytes_be`: the 32 big-endian bytes of the representative. -/
def toBytesBE (felt : FieldElement) : List UInt8 :=
  ByteOrder.toBytesBE 32 felt.val

/-- `FieldElement::from_bytes_be`: the number the bytes denote, refused when it
is not below the prime. -/
def fromBytesBE (bytes : List UInt8) : Option FieldElement :=
  let value := ofBytesBE bytes
  if bound : value < starkPrime then some ⟨value, bound⟩ else none

@[simp] theorem toBytesBE_length (felt : FieldElement) : (toBytesBE felt).length = 32 :=
  ByteOrder.toBytesBE_length 32 felt.val

/-- Reading the bytes of a field element gives it back. -/
theorem fromBytesBE_toBytesBE (felt : FieldElement) : fromBytesBE (toBytesBE felt) = some felt := by
  have bound : felt.val < 256 ^ 32 := felt.isLt.trans starkPrime_lt_two_pow_256
  simp [fromBytesBE, toBytesBE, ofBytesBE_toBytesBE_of_lt bound]

/-- `impl Encode for Felt252Wrapper` writes `to_bytes_be`; `impl Decode` reads
a 32-byte buffer (failing on a shorter input) and converts it with
`Felt252Wrapper::try_from(&[u8; 32])`, that is `from_bytes_be`. -/
def felt252WrapperCodec : Codec Felt252Wrapper where
  encode felt := toBytesBE felt
  decode input :=
    if 32 ≤ input.length then (fromBytesBE (input.take 32)).map (·, input.drop 32) else none

/-- `Felt252Wrapper::decode(encode(x)) = x`, whatever follows the encoding. -/
theorem felt252WrapperCodec_roundTrip : felt252WrapperCodec.RoundTrip := by
  intro felt rest
  have width := toBytesBE_length felt
  simp only [felt252WrapperCodec, List.length_append, width, Nat.le_add_right, ↓reduceIte]
  rw [List.take_left' width, List.drop_left' width, fromBytesBE_toBytesBE]
  rfl

/-- `mp_felt::Felt252WrapperError`, the two kinds the modelled conversions
raise. -/
inductive Felt252WrapperError where
  | fromArrayError
  | valueTooLarge
  deriving DecidableEq, Repr

/-- `sp_core::U256`, by its value. -/
abbrev U256 := Fin (2 ^ 256)

/-- `impl TryFrom<U256> for Felt252Wrapper`: the 32 big-endian bytes of the
value, read by `Felt252Wrapper::try_from(&[u8; 32])`. -/
def tryFromU256 (value : U256) : Except Felt252WrapperError Felt252Wrapper :=
  match fromBytesBE (ByteOrder.toBytesBE 32 value.val) with
  | some felt => .ok felt
  | none => .error .fromArrayError

/-- `impl TryFrom<Felt252Wrapper> for u64`. -/
def toU64 (felt : Felt252Wrapper) : Except Felt252WrapperError UInt64 :=
  if felt.val < 2 ^ 64 then .ok (UInt64.ofNat felt.val) else .error .valueTooLarge

theorem tryFromU256_of_lt {value : U256} (fits : value.val < starkPrime) :
    tryFromU256 value = .ok ⟨value.val, fits⟩ := by
  have bound : value.val < 256 ^ 32 := value.isLt.trans_eq (by norm_num)
  simp [tryFromU256, fromBytesBE, ofBytesBE_toBytesBE_of_lt bound, fits]

theorem tryFromU256_of_le {value : U256} (large : starkPrime ≤ value.val) :
    tryFromU256 value = .error .fromArrayError := by
  have bound : value.val < 256 ^ 32 := value.isLt.trans_eq (by norm_num)
  simp [tryFromU256, fromBytesBE, ofBytesBE_toBytesBE_of_lt bound, Nat.not_lt.mpr large]

end Madara.Felt

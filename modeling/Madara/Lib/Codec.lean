import Madara.Lib.Bytes
import Mathlib.Data.List.Basic

/-! Byte codecs in the SCALE style: a decoder reads a prefix of its input and
hands back the rest, so codecs compose by concatenation. Derived codecs are
built from field codecs by `pair` (a struct is its fields in order), `map`
(a struct or newtype seen through its fields), `enum` (a one-byte variant index
followed by the variant's fields), `option` and `vec` (a length prefix followed
by the elements). Each combinator keeps the round-trip law, so the law for a
whole derived tree follows from the law of its leaves. -/
namespace Scale

/-- An encoder together with a prefix decoder. -/
structure Codec (α : Type) where
  encode : α → List UInt8
  decode : List UInt8 → Option (α × List UInt8)

namespace Codec

variable {α β : Type}

/-- Decoding the encoding of a value, followed by anything, gives back the value
and leaves what follows untouched. -/
def RoundTrip (codec : Codec α) : Prop :=
  ∀ value rest, codec.decode (codec.encode value ++ rest) = some (value, rest)

/-- Two codecs one after the other: the derived codec of a two-field struct. -/
def pair (first : Codec α) (second : Codec β) : Codec (α × β) where
  encode value := first.encode value.1 ++ second.encode value.2
  decode input := do
    let (a, tail) ← first.decode input
    let (b, rest) ← second.decode tail
    return ((a, b), rest)

theorem RoundTrip.pair {first : Codec α} {second : Codec β}
    (firstLaw : first.RoundTrip) (secondLaw : second.RoundTrip) : (first.pair second).RoundTrip := by
  rintro ⟨a, b⟩ rest
  simp only [Codec.pair, List.append_assoc, firstLaw a, Option.bind_eq_bind, Option.bind_some,
    secondLaw b]
  rfl

/-- A codec seen through a change of representation. -/
def map (codec : Codec α) (into : α → β) (back : β → α) : Codec β where
  encode value := codec.encode (back value)
  decode input := (codec.decode input).map fun (a, rest) => (into a, rest)

theorem RoundTrip.map {codec : Codec α} {into : α → β} {back : β → α}
    (law : codec.RoundTrip) (inverse : ∀ value, into (back value) = value) :
    (codec.map into back).RoundTrip := by
  intro value rest
  simp [Codec.map, law (back value) rest, inverse]

/-- An enum: the variant's index byte, then its fields. `decodeBody` is told
the index it has just read. -/
def enum (index : α → UInt8) (body : α → List UInt8)
    (decodeBody : UInt8 → List UInt8 → Option (α × List UInt8)) : Codec α where
  encode value := index value :: body value
  decode
    | [] => none
    | tag :: rest => decodeBody tag rest

theorem RoundTrip.enum {index : α → UInt8} {body : α → List UInt8}
    {decodeBody : UInt8 → List UInt8 → Option (α × List UInt8)}
    (variants : ∀ value rest, decodeBody (index value) (body value ++ rest) = some (value, rest)) :
    (Codec.enum index body decodeBody).RoundTrip := by
  intro value rest
  exact variants value rest

/-- `Option`: index `0` for `None`, index `1` then the value for `Some`. -/
def option (codec : Codec α) : Codec (Option α) :=
  Codec.enum (fun value => if value.isSome then 1 else 0)
    (fun value => match value with | none => [] | some a => codec.encode a)
    (fun tag rest =>
      if tag = 0 then some (none, rest)
      else if tag = 1 then (codec.decode rest).map fun (a, tail) => (some a, tail)
      else none)

theorem RoundTrip.option {codec : Codec α} (law : codec.RoundTrip) : codec.option.RoundTrip := by
  apply RoundTrip.enum
  rintro (_ | a) rest
  · rfl
  · simp [law a rest]

/-- The elements of a vector, one after the other, with no length. -/
def encodeAll (codec : Codec α) : List α → List UInt8
  | [] => []
  | a :: rest => codec.encode a ++ encodeAll codec rest

/-- Decode exactly `count` elements one after the other. -/
def decodeMany (codec : Codec α) : Nat → List UInt8 → Option (List α × List UInt8)
  | 0, input => some ([], input)
  | count + 1, input => do
    let (a, tail) ← codec.decode input
    let (more, rest) ← decodeMany codec count tail
    return (a :: more, rest)

theorem decodeMany_encodeAll {codec : Codec α} (law : codec.RoundTrip) (values : List α)
    (rest : List UInt8) :
    decodeMany codec values.length (encodeAll codec values ++ rest) = some (values, rest) := by
  induction values with
  | nil => rfl
  | cons a values ih =>
    simp only [List.length_cons, decodeMany, encodeAll, List.append_assoc, law a,
      Option.bind_eq_bind, Option.bind_some, ih]
    rfl

/-- A vector: its length through the length codec, then its elements. -/
def vec (length : Codec Nat) (codec : Codec α) : Codec (List α) where
  encode values := length.encode values.length ++ encodeAll codec values
  decode input := do
    let (count, tail) ← length.decode input
    decodeMany codec count tail

theorem RoundTrip.vec {length : Codec Nat} {codec : Codec α}
    (lengthLaw : length.RoundTrip) (law : codec.RoundTrip) : (vec length codec).RoundTrip := by
  intro values rest
  simp only [Codec.vec, List.append_assoc, lengthLaw values.length, Option.bind_eq_bind,
    Option.bind_some]
  exact decodeMany_encodeAll law values rest

/-- A fixed-width unsigned integer, least significant byte first: SCALE's
layout of `u8` to `u256`. -/
def word (width : Nat) : Codec (Fin (256 ^ width)) where
  encode value := (ByteOrder.toBytesBE width value.val).reverse
  decode input :=
    if width ≤ input.length then
      let value := ByteOrder.ofBytesBE (input.take width).reverse
      if bound : value < 256 ^ width then some (⟨value, bound⟩, input.drop width) else none
    else none

theorem RoundTrip.word (width : Nat) : (word width).RoundTrip := by
  intro value rest
  have size : ((ByteOrder.toBytesBE width value.val).reverse).length = width := by simp
  simp only [Codec.word, List.length_append, size, Nat.le_add_right, ↓reduceIte,
    List.take_left' size, List.drop_left' size, List.reverse_reverse,
    ByteOrder.ofBytesBE_toBytesBE_of_lt value.isLt, value.isLt, ↓reduceDIte]

/-- `bool`: one byte, `0` or `1`. -/
def bool : Codec Bool :=
  enum (fun value => if value then 1 else 0) (fun _ => [])
    (fun tag rest => if tag = 0 then some (false, rest) else if tag = 1 then some (true, rest) else none)

theorem RoundTrip.bool : Codec.bool.RoundTrip := by
  apply RoundTrip.enum
  rintro (_ | _) rest <;> rfl

end Codec

/-- A codec whose round-trip law is part of the value: the shape in which the
development receives codecs it does not derive itself. -/
structure LawfulCodec (α : Type) extends Codec α where
  roundTrip : toCodec.RoundTrip

end Scale

import Madara.Lib.Transactional
import Mathlib.Data.List.Basic

/-! Codecs over a sequence of symbols read through a cursor. An encoder
appends to an output buffer; a decoder reads a prefix of what is left and
hands back the rest, or fails. A segment is a run of symbols preceded by its
length in symbols: it is written by pushing a placeholder, encoding the
elements and patching the placeholder with the number of symbols they took,
and read by cutting the segment out and decoding elements until it is used up.

`Lawful` gathers what composition needs: encoders only append, encodings are
never empty, decoding an encoding gives the value back, and whatever is
decoded is the encoding of what it gave. The round trip holds for encodings
shorter than a bound, since a segment's length has to fit its length symbol.
Each combinator keeps the laws, so a codec built from lawful parts
round-trips in both directions. -/
namespace SegmentCodec

/-- An encoder that appends to an output buffer, with a prefix decoder. -/
structure Codec (σ ε α : Type) where
  encodeTo : α → List σ → List σ
  decode : List σ → Except ε (α × List σ)

namespace Codec

variable {σ ε α β : Type}

/-- The encoding of a value alone. -/
def encode (codec : Codec σ ε α) (value : α) : List σ := codec.encodeTo value []

/-- The laws of a codec whose encodings stay below `bound` symbols. -/
structure Lawful (codec : Codec σ ε α) (bound : Nat) : Prop where
  appends : ∀ value output, codec.encodeTo value output = output ++ codec.encode value
  nonempty : ∀ value, codec.encode value ≠ []
  roundTrip : ∀ value rest, (codec.encode value).length < bound →
    codec.decode (codec.encode value ++ rest) = .ok (value, rest)
  canonical : ∀ input value rest, codec.decode input = .ok (value, rest) → input = codec.encode value ++ rest

/-- One symbol, read through a check. -/
def single (read : σ → Except ε α) (write : α → σ) (exhausted : ε) : Codec σ ε α where
  encodeTo value output := output ++ [write value]
  decode
    | [] => .error exhausted
    | symbol :: rest => (read symbol).map (·, rest)

theorem Lawful.single {read : σ → Except ε α} {write : α → σ} (exhausted : ε)
    (back : ∀ value, read (write value) = .ok value)
    (written : ∀ symbol value, read symbol = .ok value → write value = symbol) (bound : Nat) :
    (Codec.single read write exhausted).Lawful bound where
  appends _ _ := rfl
  nonempty _ := List.cons_ne_nil _ _
  roundTrip value rest _ := by
    simp [Codec.single, encode, back value, Except.map]
  canonical input value rest decoded := by
    cases input with
    | nil => cases decoded
    | cons symbol symbols =>
      cases read_eq : read symbol with
      | error e =>
        simp only [Codec.single, read_eq, Except.map] at decoded
        cases decoded
      | ok read_value =>
        simp only [Codec.single, read_eq, Except.map, Except.ok.injEq, Prod.mk.injEq] at decoded
        obtain ⟨rfl, rfl⟩ := decoded
        simp [encode, Codec.single, written symbol read_value read_eq]

/-- Two codecs one after the other. -/
def pair (first : Codec σ ε α) (second : Codec σ ε β) : Codec σ ε (α × β) where
  encodeTo value output := second.encodeTo value.2 (first.encodeTo value.1 output)
  decode input := do
    let (a, tail) ← first.decode input
    let (b, rest) ← second.decode tail
    pure ((a, b), rest)

theorem pair_encode {first : Codec σ ε α} {second : Codec σ ε β} {bound : Nat}
    (firstLaw : first.Lawful bound) (secondLaw : second.Lawful bound) (value : α × β) :
    (first.pair second).encode value = first.encode value.1 ++ second.encode value.2 := by
  show second.encodeTo value.2 (first.encodeTo value.1 []) = _
  rw [secondLaw.appends, firstLaw.appends, List.nil_append]

theorem Lawful.pair {first : Codec σ ε α} {second : Codec σ ε β} {bound : Nat}
    (firstLaw : first.Lawful bound) (secondLaw : second.Lawful bound) : (first.pair second).Lawful bound where
  appends value output := by
    show second.encodeTo value.2 (first.encodeTo value.1 output) = _
    rw [secondLaw.appends, firstLaw.appends, pair_encode firstLaw secondLaw, List.append_assoc]
  nonempty value := by
    rw [pair_encode firstLaw secondLaw]
    exact List.append_ne_nil_of_left_ne_nil (firstLaw.nonempty value.1) _
  roundTrip value rest fits := by
    rw [pair_encode firstLaw secondLaw, List.length_append] at fits
    have firstFits : (first.encode value.1).length < bound := by omega
    have secondFits : (second.encode value.2).length < bound := by omega
    rw [pair_encode firstLaw secondLaw, List.append_assoc]
    show (first.decode (first.encode value.1 ++ (second.encode value.2 ++ rest)) >>= _) = _
    rw [firstLaw.roundTrip value.1 _ firstFits]
    show (second.decode (second.encode value.2 ++ rest) >>= _) = _
    rw [secondLaw.roundTrip value.2 rest secondFits]
    rfl
  canonical input value rest decoded := by
    obtain ⟨⟨a, tail⟩, firstDecoded, secondStep⟩ := Transactional.bind_eq_ok decoded
    obtain ⟨⟨b, rest'⟩, secondDecoded, built⟩ := Transactional.bind_eq_ok secondStep
    cases built
    rw [firstLaw.canonical input a tail firstDecoded, secondLaw.canonical tail b rest secondDecoded,
      pair_encode firstLaw secondLaw, List.append_assoc]

/-- A codec seen through a bijection. -/
def map (codec : Codec σ ε α) (into : α → β) (back : β → α) : Codec σ ε β where
  encodeTo value output := codec.encodeTo (back value) output
  decode input := (codec.decode input).map fun (a, rest) => (into a, rest)

theorem Lawful.map {codec : Codec σ ε α} {into : α → β} {back : β → α} {bound : Nat}
    (law : codec.Lawful bound) (into_back : ∀ value, into (back value) = value)
    (back_into : ∀ value, back (into value) = value) : (codec.map into back).Lawful bound where
  appends value output := law.appends (back value) output
  nonempty value := law.nonempty (back value)
  roundTrip value rest fits := by
    show (codec.decode (codec.encode (back value) ++ rest)).map _ = _
    rw [law.roundTrip (back value) rest fits]
    simp [Except.map, into_back]
  canonical input value rest decoded := by
    cases inner : codec.decode input with
    | error e =>
      simp only [Codec.map, inner, Except.map] at decoded
      cases decoded
    | ok result =>
      obtain ⟨a, tail⟩ := result
      simp only [Codec.map, inner, Except.map, Except.ok.injEq, Prod.mk.injEq] at decoded
      obtain ⟨rfl, rfl⟩ := decoded
      show input = codec.encode (back (into a)) ++ tail
      rw [back_into, law.canonical input a tail inner]

/-- The encodings of the elements, one after the other. -/
def encodeAll (codec : Codec σ ε α) : List α → List σ
  | [] => []
  | value :: values => codec.encode value ++ encodeAll codec values

/-- Encoding the elements in turn onto a buffer appends their encodings. -/
theorem foldl_encodeTo {codec : Codec σ ε α} {bound : Nat} (law : codec.Lawful bound) (values : List α)
    (output : List σ) :
    values.foldl (fun output value => codec.encodeTo value output) output = output ++ codec.encodeAll values := by
  induction values generalizing output with
  | nil => simp [encodeAll]
  | cons value values ih => rw [List.foldl_cons, ih, law.appends, encodeAll, List.append_assoc]

theorem length_encode_le_encodeAll (codec : Codec σ ε α) {values : List α} {value : α} (mem : value ∈ values) :
    (codec.encode value).length ≤ (codec.encodeAll values).length := by
  induction values with
  | nil => cases mem
  | cons head values ih =>
    rw [encodeAll, List.length_append]
    rcases List.mem_cons.mp mem with rfl | later
    · omega
    · have := ih later
      omega

/-- Elements decoded one after another until the input is used up. `fuel`
bounds the rounds; the input's length is enough, since a lawful codec's
encodings take at least one symbol. -/
def decodeElements (codec : Codec σ ε α) : Nat → List σ → Except ε (List α)
  | _, [] => .ok []
  | 0, _ :: _ => .ok []
  | fuel + 1, symbol :: symbols => do
    let (value, rest) ← codec.decode (symbol :: symbols)
    let values ← decodeElements codec fuel rest
    pure (value :: values)

section Elements

variable {codec : Codec σ ε α} {bound : Nat}

theorem decodeElements_encodeAll (law : codec.Lawful bound) (values : List α)
    (fits : ∀ value ∈ values, (codec.encode value).length < bound) (fuel : Nat)
    (enough : (codec.encodeAll values).length ≤ fuel) :
    codec.decodeElements fuel (codec.encodeAll values) = .ok values := by
  induction values generalizing fuel with
  | nil => cases fuel <;> rfl
  | cons value values ih =>
    -- the first encoding is not empty: it starts the input and takes one round
    obtain ⟨symbol, symbols, first⟩ := List.exists_cons_of_ne_nil (law.nonempty value)
    have taken : symbols.length + (codec.encodeAll values).length + 1 ≤ fuel := by
      simpa [encodeAll, first] using enough
    obtain ⟨rounds, rfl⟩ : ∃ rounds, fuel = rounds + 1 := ⟨fuel - 1, by omega⟩
    have later := ih (fun other mem => fits other (List.mem_cons_of_mem _ mem)) rounds (by omega)
    have decoded := law.roundTrip value (codec.encodeAll values) (fits value List.mem_cons_self)
    rw [first, List.cons_append] at decoded
    rw [encodeAll, first, List.cons_append]
    show (codec.decode (symbol :: (symbols ++ codec.encodeAll values)) >>= _) = _
    rw [decoded]
    show (codec.decodeElements rounds (codec.encodeAll values) >>= _) = _
    rw [later]
    rfl

theorem decodeElements_canonical (law : codec.Lawful bound) (fuel : Nat) {input : List σ} {values : List α}
    (enough : input.length ≤ fuel) (decoded : codec.decodeElements fuel input = .ok values) :
    input = codec.encodeAll values := by
  induction fuel generalizing input values with
  | zero =>
    rw [List.length_eq_zero_iff.mp (Nat.le_zero.mp enough)] at decoded ⊢
    cases decoded
    rfl
  | succ rounds ih =>
    cases input with
    | nil =>
      cases decoded
      rfl
    | cons symbol symbols =>
      obtain ⟨⟨value, rest⟩, first, later⟩ := Transactional.bind_eq_ok decoded
      obtain ⟨more, restDecoded, built⟩ := Transactional.bind_eq_ok later
      cases built
      have split := law.canonical _ value rest first
      -- the first element took at least one symbol, so the rest fits the remaining rounds
      have shorter : rest.length ≤ rounds := by
        have nonempty := List.length_pos_of_ne_nil (law.nonempty value)
        have lengths := congrArg List.length split
        simp only [List.length_cons, List.length_append] at lengths enough
        omega
      rw [split, ih shorter restDecoded, encodeAll]

end Elements

/-- A segment: its length in symbols, then its elements. The encoder pushes
`placeholder`, appends the elements and patches the placeholder with the
number of symbols they took. The decoder reads the length, cuts the segment
out of what follows, and decodes elements until the segment is used up. -/
def segment (codec : Codec σ ε α) (placeholder : σ) (lengthSymbol : Nat → σ)
    (readLength : σ → Except ε Nat) (exhausted : ε) : Codec σ ε (List α) where
  encodeTo values output :=
    let output := output ++ [placeholder]
    let before := output.length
    let output := values.foldl (fun output value => codec.encodeTo value output) output
    output.set (before - 1) (lengthSymbol (output.length - before))
  decode
    | [] => .error exhausted
    | symbol :: rest => do
      let size ← readLength symbol
      if rest.length < size then .error exhausted
      else
        let segment := rest.take size
        let values ← codec.decodeElements segment.length segment
        pure (values, rest.drop size)

/-- The cut a segment's decoder makes: the length symbol, then that many
symbols as the segment and what follows them as the rest. -/
def cut (readLength : σ → Except ε Nat) (exhausted : ε) : List σ → Except ε (List σ × List σ)
  | [] => .error exhausted
  | symbol :: rest => do
    let size ← readLength symbol
    if rest.length < size then .error exhausted else pure (rest.take size, rest.drop size)

section Segment

variable {codec : Codec σ ε α} {bound : Nat} {placeholder : σ} {lengthSymbol : Nat → σ}
  {readLength : σ → Except ε Nat} {exhausted : ε}

/-- A segment's decoder is its cut, then the elements of the segment. -/
theorem segment_decode (input : List σ) :
    (codec.segment placeholder lengthSymbol readLength exhausted).decode input = (do
      let (segment, rest) ← cut readLength exhausted input
      let values ← codec.decodeElements segment.length segment
      pure (values, rest)) := by
  cases input with
  | nil => rfl
  | cons symbol rest =>
    show (readLength symbol >>= _) = (readLength symbol >>= _) >>= _
    cases readLength symbol with
    | error error => rfl
    | ok size =>
      show (if rest.length < size then _ else _) = (if rest.length < size then _ else _) >>= _
      split <;> rfl

/-- The patched placeholder holds the length of the elements' encodings. -/
theorem segment_encodeTo (law : codec.Lawful bound) (values : List α) (output : List σ) :
    (codec.segment placeholder lengthSymbol readLength exhausted).encodeTo values output =
      output ++ lengthSymbol (codec.encodeAll values).length :: codec.encodeAll values := by
  show (values.foldl _ (output ++ [placeholder])).set ((output ++ [placeholder]).length - 1)
    (lengthSymbol ((values.foldl _ (output ++ [placeholder])).length - (output ++ [placeholder]).length)) = _
  rw [foldl_encodeTo law, List.append_assoc, List.set_append_right _ _ (by simp)]
  have index : (output ++ [placeholder]).length - 1 - output.length = 0 := by simp
  have patched : (output ++ ([placeholder] ++ codec.encodeAll values)).length - (output ++ [placeholder]).length =
      (codec.encodeAll values).length := by
    simp only [List.length_append, List.length_singleton]
    omega
  rw [index, patched, List.singleton_append, List.set_cons_zero]

theorem Lawful.segment (law : codec.Lawful bound)
    (lengthBack : ∀ size < bound, readLength (lengthSymbol size) = .ok size)
    (lengthWritten : ∀ symbol size, readLength symbol = .ok size → lengthSymbol size = symbol) :
    (codec.segment placeholder lengthSymbol readLength exhausted).Lawful bound where
  appends values output := by
    rw [segment_encodeTo law, encode, segment_encodeTo law, List.nil_append]
  nonempty values := by
    rw [encode, segment_encodeTo law]
    exact List.cons_ne_nil _ _
  roundTrip values rest fits := by
    rw [encode, segment_encodeTo law, List.nil_append] at fits ⊢
    have lengthFits : (codec.encodeAll values).length < bound := by
      simp only [List.length_cons] at fits
      omega
    have each : ∀ value ∈ values, (codec.encode value).length < bound := fun value mem =>
      Nat.lt_of_le_of_lt (length_encode_le_encodeAll codec mem) lengthFits
    show (readLength (lengthSymbol (codec.encodeAll values).length) >>= _) = _
    rw [lengthBack _ lengthFits]
    show (if (codec.encodeAll values ++ rest).length < (codec.encodeAll values).length then _ else _) = _
    simp only [List.append_eq]
    rw [if_neg (by simp), List.take_left' rfl, List.drop_left' rfl,
      decodeElements_encodeAll law values each _ (Nat.le_refl _)]
    rfl
  canonical input values rest decoded := by
    cases input with
    | nil => cases decoded
    | cons symbol symbols =>
      obtain ⟨size, sizeRead, cut⟩ := Transactional.bind_eq_ok decoded
      split at cut
      · cases cut
      · rename_i inside
        obtain ⟨elements, elementsDecoded, built⟩ := Transactional.bind_eq_ok cut
        cases built
        have taken := decodeElements_canonical law _ (Nat.le_refl _) elementsDecoded
        have sized : (symbols.take size).length = size := List.length_take_of_le (by omega)
        rw [encode, segment_encodeTo law, List.nil_append, ← taken, sized, lengthWritten symbol size sizeRead,
          List.cons_append, List.take_append_drop]

end Segment

end Codec

end SegmentCodec

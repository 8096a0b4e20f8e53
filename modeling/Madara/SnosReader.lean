import Madara.SnosOutput

/-! The felt reader of the SNOS output (`crates/primitives/snos-output/src/felt_reader.rs`)
and the decoders that run over it (`codec.rs`). `SnosOutput` describes the
format by codecs over the list of felts left to read. Here the code's own
cursor is modelled: a slice and a `usize` offset into it. `read_segment` adds
the segment's length to the offset as `usize` values, which wrap in a release
build. It compares the wrapped end with the slice's length and then slices up
to it, and the slice panics when the end has wrapped below the start.

A `Decoder` is a `SnosCodec::decode` over the reader. A decoder that
succeeds reads at least one felt, so the loop of `Vec<T>::decode` always ends
(`Decoder.decodeWhile`). Every decoder agrees with its codec of `SnosOutput`
where the codec succeeds, since a segment the codec cuts lies inside the
slice and its end cannot wrap. Where the codec fails, they agree when no
length felt can wrap the end (`SmallLengths`) (`starknetOsOutputDecoder_refines`).
The decode then returns `Ok` or `Err` and never panics. A length felt close to
`2^64` makes `read_segment` panic (`snos_decode_panics_on_wrapping_segment`). -/
namespace Madara.SnosReader

open Madara.SnosOutput SegmentCodec

/-- A `&[StarkFelt]`: a slice holds fewer than `2^64` felts. -/
abbrev FeltSlice := {felts : List StarkFelt // felts.length < 2 ^ 64}

/-- `<[StarkFelt]>::len`, a `usize`. -/
def FeltSlice.len (slice : FeltSlice) : UInt64 := UInt64.ofNat slice.val.length

/-- The felts from `start` on, `size` of them: what `&data[start..end]` gives
when it does not panic. -/
def FeltSlice.sub (slice : FeltSlice) (start size : Nat) : FeltSlice :=
  ⟨(slice.val.drop start).take size,
    Nat.lt_of_le_of_lt ((List.take_sublist _ _).trans (List.drop_sublist _ _)).length_le slice.property⟩

theorem FeltSlice.len_toNat (slice : FeltSlice) : slice.len.toNat = slice.val.length :=
  UInt64.toNat_ofNat_of_lt' slice.property

/-- `FeltReader`: the data and the offset of the next felt. Each operation
keeps the offset within the data. -/
structure FeltReader where
  data : FeltSlice
  offset : UInt64
  offset_le : offset.toNat ≤ data.val.length

namespace FeltReader

/-- `FeltReader::new`. -/
def new (data : FeltSlice) : FeltReader := ⟨data, 0, Nat.zero_le _⟩

/-- The felts after the offset: what the codecs of `SnosOutput` read. -/
def remaining (reader : FeltReader) : List StarkFelt := reader.data.val.drop reader.offset.toNat

/-- `FeltReader::remaining_len`. -/
def remainingLen (reader : FeltReader) : UInt64 := reader.data.len - reader.offset

theorem offset_lt_of_not_le {reader : FeltReader} (within : ¬reader.data.len ≤ reader.offset) :
    reader.offset.toNat < reader.data.val.length := by
  rw [UInt64.le_iff_toNat_le, FeltSlice.len_toNat] at within
  omega

theorem offset_succ_le {reader : FeltReader} (within : ¬reader.data.len ≤ reader.offset) :
    (reader.offset + 1).toNat ≤ reader.data.val.length := by
  have below := offset_lt_of_not_le within
  have fits := reader.data.property
  rw [UInt64.toNat_add, UInt64.toNat_one, Nat.mod_eq_of_lt (by omega)]
  omega

theorem end_le_of_not_lt {reader : FeltReader} {size : UInt64}
    (inside : ¬reader.data.len < reader.offset + size) : (reader.offset + size).toNat ≤ reader.data.val.length := by
  rw [UInt64.lt_iff_toNat_lt, FeltSlice.len_toNat] at inside
  omega

/-- `FeltReader::read`. -/
def read (reader : FeltReader) : Except FeltReaderError (StarkFelt × FeltReader) :=
  if within : reader.data.len ≤ reader.offset then .error .outOfBounds
  else .ok (reader.data.val.get ⟨reader.offset.toNat, offset_lt_of_not_le within⟩,
    ⟨reader.data, reader.offset + 1, offset_succ_le within⟩)

/-- `FeltReader::read_segment`: `none` is a panic. The segment's end,
`start + segment_size`, is a wrapping `usize` sum. It is checked against the
length, and the slice `&data[start..end]` then panics when the end lies
before the start. -/
def readSegment (reader : FeltReader) : ExceptT FeltReaderError Option (FeltSlice × FeltReader) :=
  match reader.read with
  | .error error => throw error
  | .ok (felt, afterSize) =>
    match u64OfFelt felt with
    | none => throw .invalidCast
    | some segmentSize =>
      if outside : afterSize.data.len < afterSize.offset + segmentSize then throw .outOfBounds
      else if afterSize.offset ≤ afterSize.offset + segmentSize then
        pure (afterSize.data.sub afterSize.offset.toNat segmentSize.toNat,
          ⟨afterSize.data, afterSize.offset + segmentSize, end_le_of_not_lt outside⟩)
      else ExceptT.lift none

end FeltReader

/-- A `SnosCodec::decode` over a reader: `none` is a panic. A decoder that
succeeds has read at least one felt of the same data. -/
structure Decoder (α : Type) where
  decode : FeltReader → ExceptT FeltReaderError Option (α × FeltReader)
  progress : ∀ reader value next, (decode reader).run = some (.ok (value, next)) →
    next.data = reader.data ∧ reader.offset.toNat < next.offset.toNat

/-! ### What one read does -/

namespace FeltReader

theorem read_progress {reader next : FeltReader} {felt : StarkFelt} (read : reader.read = .ok (felt, next)) :
    next.data = reader.data ∧ next.offset.toNat = reader.offset.toNat + 1 := by
  unfold FeltReader.read at read
  split at read
  · cases read
  · next within =>
    cases read
    have below := offset_lt_of_not_le within
    have fits := reader.data.property
    refine ⟨rfl, ?_⟩
    show (reader.offset + 1).toNat = _
    rw [UInt64.toNat_add, UInt64.toNat_one, Nat.mod_eq_of_lt (by omega)]

theorem readSegment_progress {reader next : FeltReader} {segment : FeltSlice}
    (read : reader.readSegment.run = some (.ok (segment, next))) :
    next.data = reader.data ∧ reader.offset.toNat < next.offset.toNat := by
  unfold FeltReader.readSegment at read
  split at read
  · cases read
  · next felt afterSize sizeRead =>
    obtain ⟨same, stepped⟩ := read_progress sizeRead
    split at read
    · cases read
    · next segmentSize _ =>
      split at read
      · cases read
      · split at read
        · next ordered =>
          cases read
          rw [UInt64.le_iff_toNat_le] at ordered
          exact ⟨same, by show reader.offset.toNat < (afterSize.offset + segmentSize).toNat; omega⟩
        · cases read

end FeltReader

/-! ### The decoders -/

namespace Decoder

variable {α β : Type}

/-- A value of one felt: `FeltReader::read`, then a check of the felt. -/
def single (check : StarkFelt → Except FeltReaderError α) : Decoder α where
  decode reader := ExceptT.mk (some (reader.read.bind fun (felt, next) => (check felt).map (·, next)))
  progress := by
    intro reader value next decoded
    cases read : reader.read with
    | error error =>
      rw [ExceptT.run_mk, read] at decoded
      cases decoded
    | ok result =>
      obtain ⟨felt, afterRead⟩ := result
      cases checked : check felt with
      | error error =>
        simp only [ExceptT.run_mk, read, Except.bind, checked, Except.map] at decoded
        cases decoded
      | ok checkedValue =>
        simp only [ExceptT.run_mk, read, Except.bind, checked, Except.map, Option.some.injEq, Except.ok.injEq,
          Prod.mk.injEq] at decoded
        obtain ⟨-, rfl⟩ := decoded
        obtain ⟨same, stepped⟩ := FeltReader.read_progress read
        exact ⟨same, by omega⟩

/-- Two fields one after the other, each read with `?`. -/
def pair (first : Decoder α) (second : Decoder β) : Decoder (α × β) where
  decode reader := do
    let (a, next) ← first.decode reader
    let (b, last) ← second.decode next
    pure ((a, b), last)
  progress := by
    intro reader value last decoded
    obtain ⟨⟨a, next⟩, firstRun, rest⟩ := Transactional.run_bind_eq_ok decoded
    obtain ⟨⟨b, last'⟩, secondRun, built⟩ := Transactional.run_bind_eq_ok rest
    cases built
    obtain ⟨firstSame, firstStepped⟩ := first.progress reader a next firstRun
    obtain ⟨secondSame, secondStepped⟩ := second.progress next b last secondRun
    exact ⟨secondSame.trans firstSame, firstStepped.trans secondStepped⟩

/-- A value built from what another decoder read. -/
def map (decoder : Decoder α) (into : α → β) : Decoder β where
  decode reader := do
    let (a, next) ← decoder.decode reader
    pure (into a, next)
  progress := by
    intro reader value next decoded
    obtain ⟨⟨a, next'⟩, run, built⟩ := Transactional.run_bind_eq_ok decoded
    cases built
    exact decoder.progress reader a next run

-- `found` is read by `decreasing_by` only, which the linter does not see
set_option linter.unusedVariables false in
/-- The `while segment_reader.remaining_len() > 0` loop of `Vec<T>::decode`:
each element read with `?`. Every round reads at least one felt, so the loop
ends. -/
def decodeWhile (element : Decoder α) (reader : FeltReader) : ExceptT FeltReaderError Option (List α) :=
  if 0 < reader.remainingLen then
    match found : (element.decode reader).run with
    | none => ExceptT.lift none
    | some (.error error) => throw error
    | some (.ok (value, next)) => do
      let values ← element.decodeWhile next
      pure (value :: values)
  else pure []
termination_by reader.data.val.length - reader.offset.toNat
decreasing_by
  obtain ⟨same, stepped⟩ := element.progress reader value next found
  have bounded := next.offset_le
  rw [same] at bounded ⊢
  omega

/-- `Vec<T>::decode`: the segment, then the loop over a reader of it. -/
def vec (element : Decoder α) : Decoder (List α) where
  decode reader := do
    let (segment, next) ← reader.readSegment
    let elements ← element.decodeWhile (FeltReader.new segment)
    pure (elements, next)
  progress := by
    intro reader value next decoded
    obtain ⟨⟨segment, next'⟩, segmentRun, rest⟩ := Transactional.run_bind_eq_ok decoded
    obtain ⟨elements, _, built⟩ := Transactional.run_bind_eq_ok rest
    cases built
    exact FeltReader.readSegment_progress segmentRun

end Decoder

/-- `SnosCodec::decode` for `StarkFelt`: `input.read()`. -/
def starkFeltDecoder : Decoder StarkFelt := .single .ok

/-- `SnosCodec::decode` for `ContractAddress`. -/
def contractAddressDecoder : Decoder ContractAddress := starkFeltDecoder.map ContractAddress.mk

/-- `SnosCodec::decode` for `EthAddress`: a felt that must convert. -/
def ethAddressDecoder : Decoder EthAddress :=
  .single fun felt => match ethAddressOfFelt felt with
    | some ethAddress => .ok ethAddress
    | none => .error .invalidCast

/-- `SnosCodec::decode` for `Nonce`. -/
def nonceDecoder : Decoder Nonce := starkFeltDecoder.map Nonce.mk

/-- `SnosCodec::decode` for `MessageL2ToL1`: its fields in order. -/
def messageL2ToL1Decoder : Decoder MessageL2ToL1 :=
  (contractAddressDecoder.pair (ethAddressDecoder.pair starkFeltDecoder.vec)).map
    fun (fromAddress, toAddress, payload) => ⟨fromAddress, toAddress, payload⟩

/-- `SnosCodec::decode` for `MessageL1ToL2`: its fields in order. -/
def messageL1ToL2Decoder : Decoder MessageL1ToL2 :=
  (contractAddressDecoder.pair (contractAddressDecoder.pair (nonceDecoder.pair
      (starkFeltDecoder.pair starkFeltDecoder.vec)))).map
    fun (fromAddress, toAddress, nonce, selector, payload) => ⟨fromAddress, toAddress, nonce, selector, payload⟩

/-- `SnosCodec::decode` for `StarknetOsOutput`: its fields in order. -/
def starknetOsOutputDecoder : Decoder StarknetOsOutput :=
  (starkFeltDecoder.pair (starkFeltDecoder.pair (starkFeltDecoder.pair (starkFeltDecoder.pair
      (starkFeltDecoder.pair (messageL2ToL1Decoder.vec.pair messageL1ToL2Decoder.vec)))))).map
    fun (prevStateRoot, newStateRoot, blockNumber, blockHash, configHash, messagesToL1, messagesToL2) =>
      ⟨prevStateRoot, newStateRoot, blockNumber, blockHash, configHash, messagesToL1, messagesToL2⟩

/-! ### The decoders refine the codecs -/

/-- Every felt that reads as a length leaves room for the slice: an offset
within it plus the length stays below `2^64`. -/
def SmallLengths (felts : List StarkFelt) : Prop :=
  ∀ felt ∈ felts, felt.val < 2 ^ 64 → felts.length + felt.val < 2 ^ 64

theorem SmallLengths.sublist {felts part : List StarkFelt} (small : SmallLengths felts) (sub : List.Sublist part felts) :
    SmallLengths part := by
  intro felt member fits
  have room := small felt (sub.subset member) fits
  have shorter := sub.length_le
  omega

/-- A decoder refines a codec: where the codec reads a value from the felts
left, it reads the same value and stops where the codec leaves off; where the
codec fails on a reader whose lengths cannot wrap, it fails with the same
error. -/
structure Decoder.Refines {α : Type} (decoder : Decoder α) (codec : Codec StarkFelt FeltReaderError α) : Prop where
  error : ∀ reader error, SmallLengths reader.data.val → codec.decode reader.remaining = .error error →
    (decoder.decode reader).run = some (.error error)
  ok : ∀ reader value rest, codec.decode reader.remaining = .ok (value, rest) →
    ∃ next, (decoder.decode reader).run = some (.ok (value, next)) ∧ next.data = reader.data ∧ next.remaining = rest

namespace FeltReader

theorem read_of_remaining_nil {reader : FeltReader} (empty : reader.remaining = []) :
    reader.read = .error .outOfBounds := by
  have outside : reader.data.val.length ≤ reader.offset.toNat := List.drop_eq_nil_iff.mp empty
  unfold FeltReader.read
  rw [dif_pos (by rw [UInt64.le_iff_toNat_le, FeltSlice.len_toNat]; exact outside)]

theorem read_of_remaining_cons {reader : FeltReader} {felt : StarkFelt} {rest : List StarkFelt}
    (first : reader.remaining = felt :: rest) :
    ∃ next, reader.read = .ok (felt, next) ∧ next.data = reader.data ∧ next.remaining = rest := by
  have inside : reader.offset.toNat < reader.data.val.length := by
    have nonempty : 0 < reader.remaining.length := by rw [first]; exact Nat.succ_pos _
    rw [remaining, List.length_drop] at nonempty
    omega
  have within : ¬reader.data.len ≤ reader.offset := by
    rw [UInt64.le_iff_toNat_le, FeltSlice.len_toNat]
    omega
  have split := List.drop_eq_getElem_cons inside
  rw [← remaining, first, List.cons.injEq] at split
  have read : reader.read = .ok (felt, ⟨reader.data, reader.offset + 1, offset_succ_le within⟩) := by
    unfold FeltReader.read
    rw [dif_neg within, split.1]
    rfl
  refine ⟨_, read, rfl, ?_⟩
  rw [remaining, (read_progress read).2, split.2]

theorem remaining_new (data : FeltSlice) : (FeltReader.new data).remaining = data.val := List.drop_zero

theorem remainingLen_toNat (reader : FeltReader) : reader.remainingLen.toNat = reader.remaining.length := by
  have within : reader.offset ≤ reader.data.len := by
    rw [UInt64.le_iff_toNat_le, FeltSlice.len_toNat]
    exact reader.offset_le
  rw [remainingLen, UInt64.toNat_sub_of_le _ _ within, FeltSlice.len_toNat, remaining, List.length_drop]

theorem remainingLen_pos_iff (reader : FeltReader) : 0 < reader.remainingLen ↔ reader.remaining ≠ [] := by
  rw [UInt64.lt_iff_toNat_lt, UInt64.toNat_zero, remainingLen_toNat, List.length_pos_iff]

theorem mem_of_remaining_cons {reader : FeltReader} {felt : StarkFelt} {rest : List StarkFelt}
    (first : reader.remaining = felt :: rest) : felt ∈ reader.data.val := by
  have member : felt ∈ reader.remaining := by
    rw [first]
    exact List.mem_cons_self
  exact List.mem_of_mem_drop member

/-- The end `offset + size` of a segment does not wrap while the sum is below `2^64`. -/
theorem end_toNat_of_lt {reader : FeltReader} {size : UInt64} (room : reader.offset.toNat + size.toNat < 2 ^ 64) :
    (reader.offset + size).toNat = reader.offset.toNat + size.toNat := by
  rw [UInt64.toNat_add, Nat.mod_eq_of_lt room]

/-- The end `offset + size` of a segment whose length felt lies in data with
small lengths does not wrap. -/
theorem end_toNat {reader : FeltReader} {felt : StarkFelt} {size : UInt64} (small : SmallLengths reader.data.val)
    (member : felt ∈ reader.data.val) (cast : u64OfFelt felt = some size) :
    (reader.offset + size).toNat = reader.offset.toNat + size.toNat := by
  obtain ⟨fits, sized⟩ := u64OfFelt_toNat cast
  have room := small felt member fits
  have within := reader.offset_le
  exact end_toNat_of_lt (by omega)

/-- The end of a segment no longer than the felts left does not wrap. -/
theorem end_toNat_of_le {reader : FeltReader} {size : UInt64} (fits : size.toNat ≤ reader.remaining.length) :
    (reader.offset + size).toNat = reader.offset.toNat + size.toNat := by
  have total : reader.remaining.length = reader.data.val.length - reader.offset.toNat := List.length_drop
  have within := reader.offset_le
  have bounded := reader.data.property
  exact end_toNat_of_lt (by omega)

/-- With no wrap, the bounds check of `read_segment` is the codec's: fewer
felts left than the segment's length. -/
theorem outside_iff {reader : FeltReader} {size : UInt64}
    (noWrap : (reader.offset + size).toNat = reader.offset.toNat + size.toNat) :
    reader.data.len < reader.offset + size ↔ reader.remaining.length < size.toNat := by
  rw [UInt64.lt_iff_toNat_lt, FeltSlice.len_toNat, noWrap, remaining, List.length_drop]
  have within := reader.offset_le
  omega

theorem readSegment_of_cut_error {reader : FeltReader} {error : FeltReaderError} (small : SmallLengths reader.data.val)
    (cutError : Codec.cut readSegmentSize .outOfBounds reader.remaining = .error error) :
    reader.readSegment.run = some (.error error) := by
  cases first : reader.remaining with
  | nil =>
    rw [first] at cutError
    cases cutError
    unfold readSegment
    rw [read_of_remaining_nil first]
    rfl
  | cons felt tail =>
    rw [first] at cutError
    obtain ⟨afterSize, read, same, left⟩ := read_of_remaining_cons first
    cases cast : u64OfFelt felt with
    | none =>
      simp only [Codec.cut, readSegmentSize, cast] at cutError
      cases cutError
      unfold readSegment
      simp only [read, cast]
      rfl
    | some size =>
      simp only [Codec.cut, readSegmentSize, cast, Transactional.ok_bind] at cutError
      split at cutError
      · next short =>
        cases cutError
        have member := mem_of_remaining_cons first
        rw [← same] at small member
        have outside := (outside_iff (end_toNat small member cast)).mpr (by rw [left]; exact short)
        unfold readSegment
        simp only [read, cast, dif_pos outside]
        rfl
      · cases cutError

theorem readSegment_of_cut_ok {reader : FeltReader} {segment rest : List StarkFelt}
    (cutOk : Codec.cut readSegmentSize .outOfBounds reader.remaining = .ok (segment, rest)) :
    ∃ slice next, reader.readSegment.run = some (.ok (slice, next)) ∧ slice.val = segment ∧
      List.Sublist slice.val reader.data.val ∧ next.data = reader.data ∧ next.remaining = rest := by
  cases first : reader.remaining with
  | nil =>
    rw [first] at cutOk
    cases cutOk
  | cons felt tail =>
    rw [first] at cutOk
    obtain ⟨afterSize, read, same, left⟩ := read_of_remaining_cons first
    cases cast : u64OfFelt felt with
    | none =>
      simp only [Codec.cut, readSegmentSize, cast] at cutOk
      cases cutOk
    | some size =>
      simp only [Codec.cut, readSegmentSize, cast, Transactional.ok_bind] at cutOk
      split at cutOk
      · cases cutOk
      · next long =>
        cases cutOk
        -- the segment lies inside the felts left, so its end does not wrap
        have noWrap : (afterSize.offset + size).toNat = afterSize.offset.toNat + size.toNat :=
          end_toNat_of_le (by rw [left]; omega)
        have outside : ¬afterSize.data.len < afterSize.offset + size := by
          rw [outside_iff noWrap, left]
          exact long
        have ordered : afterSize.offset ≤ afterSize.offset + size := by
          rw [UInt64.le_iff_toNat_le, noWrap]
          exact Nat.le_add_right _ _
        refine ⟨afterSize.data.sub afterSize.offset.toNat size.toNat,
          ⟨afterSize.data, afterSize.offset + size, end_le_of_not_lt outside⟩, ?_, ?_, ?_, same, ?_⟩
        · unfold readSegment
          simp only [read, cast, dif_neg outside, if_pos ordered]
          rfl
        · show afterSize.remaining.take size.toNat = _
          rw [left]
        · rw [← same]
          exact (List.take_sublist _ _).trans (List.drop_sublist _ _)
        · show afterSize.data.val.drop (afterSize.offset + size).toNat = _
          rw [noWrap, ← List.drop_drop]
          show afterSize.remaining.drop size.toNat = _
          rw [left]

end FeltReader

/-! ### Refinement, combinator by combinator -/

namespace Decoder

variable {α β : Type} {check : StarkFelt → Except FeltReaderError α}

theorem single_run_of_cons (check : StarkFelt → Except FeltReaderError α) {reader : FeltReader} {felt : StarkFelt} {rest : List StarkFelt}
    (first : reader.remaining = felt :: rest) :
    ∃ next, ((Decoder.single check).decode reader).run = some ((check felt).map (·, next)) ∧
      next.data = reader.data ∧ next.remaining = rest := by
  obtain ⟨next, read, same, remaining⟩ := FeltReader.read_of_remaining_cons first
  refine ⟨next, ?_, same, remaining⟩
  show some (reader.read.bind _) = _
  rw [read]
  rfl

theorem refines_single (write : α → StarkFelt) : (Decoder.single check).Refines (.single check write .outOfBounds) where
  error reader error _ coded := by
    cases first : reader.remaining with
    | nil =>
      rw [first] at coded
      cases coded
      show some (reader.read.bind _) = _
      rw [FeltReader.read_of_remaining_nil first]
      rfl
    | cons felt rest =>
      obtain ⟨next, run, -, -⟩ := single_run_of_cons check first
      rw [first] at coded
      rw [run]
      cases checked : check felt with
      | error checkError =>
        rw [show (Codec.single check write FeltReaderError.outOfBounds).decode (felt :: rest) =
          (check felt).map (·, rest) from rfl, checked] at coded
        cases coded
        rfl
      | ok checkedValue =>
        rw [show (Codec.single check write FeltReaderError.outOfBounds).decode (felt :: rest) =
          (check felt).map (·, rest) from rfl, checked] at coded
        cases coded
  ok reader value rest coded := by
    cases first : reader.remaining with
    | nil =>
      rw [first] at coded
      cases coded
    | cons felt tail =>
      obtain ⟨next, run, same, remaining⟩ := single_run_of_cons check first
      rw [first, show (Codec.single check write FeltReaderError.outOfBounds).decode (felt :: tail) =
        (check felt).map (·, tail) from rfl] at coded
      cases checked : check felt with
      | error checkError =>
        rw [checked] at coded
        cases coded
      | ok checkedValue =>
        rw [checked] at coded
        cases coded
        exact ⟨next, by rw [run, checked]; rfl, same, remaining⟩

theorem Refines.map {decoder : Decoder α} {codec : Codec StarkFelt FeltReaderError α}
    (refines : decoder.Refines codec) (into : α → β) (back : β → α) :
    (decoder.map into).Refines (codec.map into back) where
  error reader error small coded := by
    have mapped : (codec.decode reader.remaining).map (fun (a, rest) => (into a, rest)) = .error error := coded
    cases inner : codec.decode reader.remaining with
    | error innerError =>
      rw [inner] at mapped
      cases mapped
      exact Transactional.run_bind_of_error (refines.error reader error small inner)
    | ok result =>
      rw [inner] at mapped
      cases mapped
  ok reader value rest coded := by
    have mapped : (codec.decode reader.remaining).map (fun (a, rest) => (into a, rest)) = .ok (value, rest) := coded
    cases inner : codec.decode reader.remaining with
    | error innerError =>
      rw [inner] at mapped
      cases mapped
    | ok result =>
      obtain ⟨a, tail⟩ := result
      rw [inner] at mapped
      cases mapped
      obtain ⟨next, run, same, remaining⟩ := refines.ok reader a rest inner
      exact ⟨next, by rw [Decoder.map, Transactional.run_bind_of_ok run]; rfl, same, remaining⟩

theorem Refines.pair {first : Decoder α} {second : Decoder β} {firstCodec : Codec StarkFelt FeltReaderError α}
    {secondCodec : Codec StarkFelt FeltReaderError β} (firstRefines : first.Refines firstCodec)
    (secondRefines : second.Refines secondCodec) : (first.pair second).Refines (firstCodec.pair secondCodec) where
  error reader error small coded := by
    cases firstCoded : firstCodec.decode reader.remaining with
    | error firstError =>
      simp only [Codec.pair, firstCoded] at coded
      cases coded
      exact Transactional.run_bind_of_error (firstRefines.error reader error small firstCoded)
    | ok firstResult =>
      obtain ⟨a, tail⟩ := firstResult
      obtain ⟨next, firstRun, same, remaining⟩ := firstRefines.ok reader a tail firstCoded
      simp only [Codec.pair, firstCoded, Transactional.ok_bind] at coded
      rw [Decoder.pair, Transactional.run_bind_of_ok firstRun]
      cases secondCoded : secondCodec.decode tail with
      | error secondError =>
        rw [secondCoded] at coded
        cases coded
        rw [← remaining] at secondCoded
        exact Transactional.run_bind_of_error (secondRefines.error next error (same ▸ small) secondCoded)
      | ok secondResult =>
        rw [secondCoded] at coded
        cases coded
  ok reader value rest coded := by
    cases firstCoded : firstCodec.decode reader.remaining with
    | error firstError =>
      simp only [Codec.pair, firstCoded] at coded
      cases coded
    | ok firstResult =>
      obtain ⟨a, tail⟩ := firstResult
      obtain ⟨next, firstRun, same, remaining⟩ := firstRefines.ok reader a tail firstCoded
      simp only [Codec.pair, firstCoded, Transactional.ok_bind] at coded
      cases secondCoded : secondCodec.decode tail with
      | error secondError =>
        rw [secondCoded] at coded
        cases coded
      | ok secondResult =>
        obtain ⟨b, last⟩ := secondResult
        rw [secondCoded] at coded
        cases coded
        rw [← remaining] at secondCoded
        obtain ⟨final, secondRun, secondSame, secondRemaining⟩ :=
          secondRefines.ok next b last secondCoded
        refine ⟨final, ?_, secondSame.trans same, secondRemaining⟩
        rw [Decoder.pair, Transactional.run_bind_of_ok firstRun]
        exact (Transactional.run_bind_of_ok secondRun).trans rfl

/-- The loop of `Vec<T>::decode` is the codec's `decodeElements`, where the
codec succeeds or no length can wrap: induction on the fuel, with one round of
the loop against one element of the codec. -/
theorem decodeWhile_run {element : Decoder α} {codec : Codec StarkFelt FeltReaderError α}
    (refines : element.Refines codec) (fuel : Nat) (reader : FeltReader)
    (fits : SmallLengths reader.data.val ∨ ∃ values, codec.decodeElements fuel reader.remaining = .ok values)
    (enough : reader.remaining.length ≤ fuel) :
    (element.decodeWhile reader).run = some (codec.decodeElements fuel reader.remaining) := by
  induction fuel generalizing reader with
  | zero =>
    have empty : reader.remaining = [] := List.length_eq_zero_iff.mp (Nat.le_zero.mp enough)
    rw [decodeWhile, if_neg (by rw [FeltReader.remainingLen_pos_iff, empty]; exact fun nonempty => nonempty rfl),
      empty]
    rfl
  | succ rounds ih =>
    cases first : reader.remaining with
    | nil =>
      rw [decodeWhile, if_neg (by rw [FeltReader.remainingLen_pos_iff, first]; exact fun nonempty => nonempty rfl)]
      rfl
    | cons felt tail =>
      have positive : 0 < reader.remainingLen := by
        rw [FeltReader.remainingLen_pos_iff, first]
        exact List.cons_ne_nil _ _
      show _ = some (codec.decode (felt :: tail) >>= _)
      rw [decodeWhile, if_pos positive, ← first]
      cases coded : codec.decode reader.remaining with
      | error error =>
        -- the codec fails on the whole loop too, so the lengths are small
        have failedAll : codec.decodeElements (rounds + 1) reader.remaining = .error error := by
          rw [first, Codec.decodeElements, ← first, coded]
          rfl
        have small := fits.resolve_right fun ⟨values, decoded⟩ => by
          rw [failedAll] at decoded
          cases decoded
        have failed := refines.error reader error small coded
        split
        · next found => rw [failed] at found; cases found
        · next found => rw [failed] at found; cases found; rfl
        · next found => rw [failed] at found; cases found
      | ok result =>
        obtain ⟨value, rest⟩ := result
        obtain ⟨next, decoded, same, left⟩ := refines.ok reader value rest coded
        -- the element read at least one felt, so what is left fits the remaining rounds
        have shorter : next.remaining.length ≤ rounds := by
          have stepped := (element.progress reader value next decoded).2
          have total : reader.remaining.length = reader.data.val.length - reader.offset.toNat := List.length_drop
          have nextTotal : next.remaining.length = reader.data.val.length - next.offset.toNat := by
            rw [← same]
            exact List.length_drop
          have within := next.offset_le
          rw [same] at within
          omega
        have laterFits : SmallLengths next.data.val ∨
            ∃ values, codec.decodeElements rounds next.remaining = .ok values := by
          rcases fits with small | ⟨values, decodedAll⟩
          · exact .inl (same ▸ small)
          · rw [first, Codec.decodeElements, ← first, coded, Transactional.ok_bind] at decodedAll
            obtain ⟨more, restDecoded, -⟩ := Transactional.bind_eq_ok decodedAll
            exact .inr ⟨more, left ▸ restDecoded⟩
        have later := ih next laterFits shorter
        rw [left] at later
        split
        · next found => rw [decoded] at found; cases found
        · next found => rw [decoded] at found; cases found
        · next found =>
          rw [decoded] at found
          cases found
          show (element.decodeWhile next >>= _).run = some (codec.decodeElements rounds rest >>= _)
          cases elements : codec.decodeElements rounds rest with
          | error error => exact Transactional.run_bind_of_error (later.trans (by rw [elements]))
          | ok values => exact (Transactional.run_bind_of_ok (later.trans (by rw [elements]))).trans rfl

/-- The loop of `Vec<T>::decode` over a segment read into a fresh reader. -/
theorem decodeWhile_new {element : Decoder α} {codec : Codec StarkFelt FeltReaderError α}
    (refines : element.Refines codec) {slice : FeltSlice} {segment : List StarkFelt} (sliced : slice.val = segment)
    (fits : SmallLengths segment ∨ ∃ values, codec.decodeElements segment.length segment = .ok values) :
    (element.decodeWhile (FeltReader.new slice)).run = some (codec.decodeElements segment.length segment) := by
  subst sliced
  have whole := FeltReader.remaining_new slice
  have loopFits : SmallLengths (FeltReader.new slice).data.val ∨
      ∃ values, codec.decodeElements slice.val.length (FeltReader.new slice).remaining = .ok values := by
    rw [whole]
    exact fits
  have loop := decodeWhile_run refines slice.val.length (FeltReader.new slice) loopFits (by rw [whole])
  rw [whole] at loop
  exact loop

theorem Refines.vec {element : Decoder α} {codec : Codec StarkFelt FeltReaderError α}
    (refines : element.Refines codec) : element.vec.Refines (vecCodec codec) where
  error reader error small coded := by
    rw [vecCodec, Codec.segment_decode] at coded
    cases cutResult : Codec.cut readSegmentSize .outOfBounds reader.remaining with
    | error cutError =>
      rw [cutResult] at coded
      cases coded
      exact Transactional.run_bind_of_error (FeltReader.readSegment_of_cut_error small cutResult)
    | ok cutPair =>
      obtain ⟨segment, rest⟩ := cutPair
      obtain ⟨slice, next, segmentRun, sliced, sub, -, -⟩ := FeltReader.readSegment_of_cut_ok cutResult
      simp only [cutResult, Transactional.ok_bind] at coded
      cases elements : codec.decodeElements segment.length segment with
      | error elementError =>
        rw [elements] at coded
        cases coded
        have loop := decodeWhile_new refines sliced (.inl (sliced ▸ small.sublist sub))
        rw [Decoder.vec, Transactional.run_bind_of_ok segmentRun]
        exact Transactional.run_bind_of_error (loop.trans (by rw [elements]))
      | ok values =>
        rw [elements] at coded
        cases coded
  ok reader value rest coded := by
    rw [vecCodec, Codec.segment_decode] at coded
    cases cutResult : Codec.cut readSegmentSize .outOfBounds reader.remaining with
    | error cutError =>
      rw [cutResult] at coded
      cases coded
    | ok cutPair =>
      obtain ⟨segment, tail⟩ := cutPair
      obtain ⟨slice, next, segmentRun, sliced, -, same, left⟩ := FeltReader.readSegment_of_cut_ok cutResult
      simp only [cutResult, Transactional.ok_bind] at coded
      cases elements : codec.decodeElements segment.length segment with
      | error elementError =>
        rw [elements] at coded
        cases coded
      | ok values =>
        rw [elements] at coded
        cases coded
        have loop := decodeWhile_new refines sliced (.inr ⟨_, elements⟩)
        refine ⟨next, ?_, same, left⟩
        rw [Decoder.vec, Transactional.run_bind_of_ok segmentRun]
        exact (Transactional.run_bind_of_ok (loop.trans (by rw [elements]))).trans rfl

end Decoder

theorem starkFeltDecoder_refines : starkFeltDecoder.Refines starkFeltCodec :=
  Decoder.refines_single id

theorem contractAddressDecoder_refines : contractAddressDecoder.Refines contractAddressCodec :=
  starkFeltDecoder_refines.map ContractAddress.mk ContractAddress.key

theorem ethAddressDecoder_refines : ethAddressDecoder.Refines ethAddressCodec :=
  Decoder.refines_single ethAddressToFelt

theorem nonceDecoder_refines : nonceDecoder.Refines nonceCodec :=
  starkFeltDecoder_refines.map Nonce.mk Nonce.felt

theorem messageL2ToL1Decoder_refines : messageL2ToL1Decoder.Refines messageL2ToL1Codec :=
  (contractAddressDecoder_refines.pair (ethAddressDecoder_refines.pair starkFeltDecoder_refines.vec)).map _ _

theorem messageL1ToL2Decoder_refines : messageL1ToL2Decoder.Refines messageL1ToL2Codec :=
  (contractAddressDecoder_refines.pair (contractAddressDecoder_refines.pair (nonceDecoder_refines.pair
    (starkFeltDecoder_refines.pair starkFeltDecoder_refines.vec)))).map _ _

/-- `StarknetOsOutput::decode` over the reader is the codec of `SnosOutput`,
at every nesting level of segments and every offset. -/
theorem starknetOsOutputDecoder_refines : starknetOsOutputDecoder.Refines starknetOsOutputCodec :=
  (starkFeltDecoder_refines.pair (starkFeltDecoder_refines.pair (starkFeltDecoder_refines.pair
    (starkFeltDecoder_refines.pair (starkFeltDecoder_refines.pair
      (messageL2ToL1Decoder_refines.vec.pair messageL1ToL2Decoder_refines.vec)))))).map _ _

/-- On a slice the codec accepts, or one whose lengths cannot wrap,
`StarknetOsOutput::decode` returns and does not panic: `Ok` with what the codec
decodes, or the codec's error. -/
theorem decode_of_smallLengths (slice : FeltSlice)
    (fits : SmallLengths slice.val ∨ ∃ output rest, starknetOsOutputCodec.decode slice.val = .ok (output, rest)) :
    (starknetOsOutputDecoder.decode (FeltReader.new slice)).run.map (Except.map Prod.fst) =
      some ((starknetOsOutputCodec.decode slice.val).map Prod.fst) := by
  have whole := FeltReader.remaining_new slice
  cases coded : starknetOsOutputCodec.decode slice.val with
  | error error =>
    -- the codec fails, so the lengths are small
    have small := fits.resolve_right fun ⟨_, _, decoded⟩ => by
      rw [coded] at decoded
      cases decoded
    rw [starknetOsOutputDecoder_refines.error _ error small (whole ▸ coded)]
    rfl
  | ok result =>
    obtain ⟨next, decoded, -, -⟩ := starknetOsOutputDecoder_refines.ok _ result.1 result.2 (whole ▸ coded)
    rw [decoded]
    rfl

theorem messagesOutput_length_lt :
    [(18446744073709551615 : StarkFelt), 0, 0, 0, 0, 4, 7, 8, 1, 9, 5, 1, 2, 3, 4, 0].length < 2 ^ 64 := by decide

/-- An output with a header felt of `2^64 - 1`, one message to L1 from `7` to
`8` with payload `[9]`, and one message to L2 from `1` to `2` with nonce `3`,
selector `4` and no payload. -/
def messagesOutput : FeltSlice :=
  ⟨[18446744073709551615, 0, 0, 0, 0, 4, 7, 8, 1, 9, 5, 1, 2, 3, 4, 0], messagesOutput_length_lt⟩

/-- The output with messages decodes as the codec decodes it, nested payload
segments included, although its first felt is too close to `2^64` for
`SmallLengths`. -/
theorem decode_of_smallLengths_messages :
    ¬SmallLengths messagesOutput.val ∧
    (∃ output rest, starknetOsOutputCodec.decode messagesOutput.val = .ok (output, rest)) ∧
    (starknetOsOutputDecoder.decode (FeltReader.new messagesOutput)).run.map (Except.map Prod.fst) =
      some ((starknetOsOutputCodec.decode messagesOutput.val).map Prod.fst) := by
  have accepted : ∃ output rest, starknetOsOutputCodec.decode messagesOutput.val = .ok (output, rest) :=
    ⟨_, _, rfl⟩
  have large : ¬SmallLengths messagesOutput.val := by
    intro small
    have room := small 18446744073709551615 List.mem_cons_self (by decide)
    exact absurd room (by decide)
  exact ⟨large, accepted, decode_of_smallLengths messagesOutput (.inr accepted)⟩

/-- Five felts, then a segment length of `2^64 - 1` where `messages_to_l1` starts. -/
def wrappingSegment : FeltSlice := ⟨[0, 0, 0, 0, 0, 18446744073709551615], by decide⟩

theorem snos_decode_panics_on_wrapping_segment :
    (starknetOsOutputDecoder.decode (FeltReader.new wrappingSegment)).run = none := by
  rfl

end Madara.SnosReader

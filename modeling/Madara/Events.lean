import Madara.Overrides
import Madara.Lib.Radix

/-! Event pagination of the RPC (`client/rpc/src/events`, `get_events`): a
call of `filter_events` walks the blocks of a range from where its
continuation token points, keeps the events that `filter_events_by_params`
accepts, and stops once it holds `chunk_size` of them, handing out a token for
the next call.

One call returns exactly the first `chunk_size` accepted events from the
position its token names (`filterEvents_events`). The token it hands out
counts its block from the block the call started at, not from the filter's
`from_block`, and it carries the skipped events of the first block over only
when the token's relative block number equals the absolute number of the
current block. The next call reads the token against `from_block`, so it can
start elsewhere than where the page stopped; from block `1` the page tokens
repeat and the pagination never ends (`pagination_repeats_page`). -/
namespace Madara.Events

open Madara.Felt Madara.Overrides

/-- `starknet_core::types::EmittedEvent`. -/
structure EmittedEvent where
  fromAddress : FieldElement
  keys : List FieldElement
  data : List FieldElement
  blockHash : FieldElement
  blockNumber : Nat
  transactionHash : FieldElement
  deriving DecidableEq, Repr

/-- `ContinuationToken`: the block to start from, counted from the filter's
`from_block`, and the events of that block to skip. -/
structure ContinuationToken where
  blockN : Nat
  eventN : Nat
  deriving DecidableEq, Repr

/-- `ContinuationToken::default()`. -/
def ContinuationToken.default : ContinuationToken := ⟨0, 0⟩

/-- `ParseTokenError`. -/
inductive ParseTokenError where
  | wrongToken
  | parseFailed (kind : Radix.IntErrorKind)
  deriving DecidableEq, Repr

/-- `impl Display for ContinuationToken`: `{:x},{:x}`. -/
def ContinuationToken.toString (token : ContinuationToken) : List Char :=
  Nat.toDigits 16 token.blockN ++ ',' :: Nat.toDigits 16 token.eventN

/-- `ContinuationToken::parse`: exactly two comma-separated fields, each a
hexadecimal `u64`. -/
def ContinuationToken.parse (token : List Char) : Except ParseTokenError ContinuationToken :=
  match token.splitOn ',' with
  | [blockText, eventText] => do
    let blockN ← (Radix.fromStrRadix 16 (2 ^ 64) blockText).mapError .parseFailed
    let eventN ← (Radix.fromStrRadix 16 (2 ^ 64) eventText).mapError .parseFailed
    pure ⟨blockN, eventN⟩
  | _ => .error .wrongToken

theorem comma_not_mem_toDigits (n : Nat) : ',' ∉ Nat.toDigits 16 n := by
  intro written
  obtain ⟨digit, isDigit, comma⟩ := Radix.mem_toDigits (by decide) written
  have notComma : ∀ d : Fin 16, Nat.digitChar d ≠ ',' := by decide
  exact notComma ⟨digit, isDigit⟩ comma.symm

/-- A token a page hands out parses back to itself. -/
theorem parse_toString (token : ContinuationToken) (blockFits : token.blockN < 2 ^ 64)
    (eventFits : token.eventN < 2 ^ 64) : ContinuationToken.parse token.toString = .ok token := by
  have joined : token.toString = [','].intercalate [Nat.toDigits 16 token.blockN, Nat.toDigits 16 token.eventN] := by
    simp [ContinuationToken.toString, List.intercalate]
  have split : token.toString.splitOn ',' = [Nat.toDigits 16 token.blockN, Nat.toDigits 16 token.eventN] := by
    rw [joined]
    apply List.splitOn_intercalate
    · intro field member
      rw [List.mem_cons, List.mem_singleton] at member
      rcases member with block | event
      · exact block ▸ comma_not_mem_toDigits token.blockN
      · exact event ▸ comma_not_mem_toDigits token.eventN
    · exact List.cons_ne_nil _ _
  unfold ContinuationToken.parse
  rw [split]
  dsimp only
  rw [Radix.fromStrRadix_toDigits (by decide) (by decide) blockFits,
    Radix.fromStrRadix_toDigits (by decide) (by decide) eventFits]
  rfl

/-- A text without exactly one comma does not split into two fields. -/
theorem parse_of_count_ne_one {token : List Char} (commas : token.count ',' ≠ 1) :
    ContinuationToken.parse token = .error .wrongToken := by
  unfold ContinuationToken.parse
  split
  · next blockText eventText fields =>
    have fieldCount := congrArg List.length fields
    rw [Radix.length_splitOn, List.length_cons, List.length_singleton] at fieldCount
    exact absurd (Nat.succ_injective fieldCount) commas
  · rfl

theorem continuation_token_round_trip :
    (∀ token : ContinuationToken, token.blockN < 2 ^ 64 → token.eventN < 2 ^ 64 →
      ContinuationToken.parse token.toString = .ok token) ∧
    ∀ token : List Char, token.count ',' ≠ 1 → ContinuationToken.parse token = .error .wrongToken :=
  ⟨parse_toString, fun _ commas => parse_of_count_ne_one commas⟩

/-- The largest token, `ffffffffffffffff,0`, reads back. -/
theorem continuation_token_round_trip_largest :
    ContinuationToken.parse (⟨2 ^ 64 - 1, 0⟩ : ContinuationToken).toString = .ok ⟨2 ^ 64 - 1, 0⟩ :=
  continuation_token_round_trip.1 ⟨2 ^ 64 - 1, 0⟩ (by decide) (by decide)

/-- `RpcEventFilter`: the block range, the address and key pattern, the page
size and the token of the call. -/
structure RpcEventFilter where
  fromBlock : Nat
  toBlock : Nat
  fromAddress : Option FieldElement
  keys : List (List FieldElement)
  chunkSize : Nat
  continuationToken : ContinuationToken

/-- `starknet_core::types::EventsPage`. -/
structure EventsPage where
  events : List EmittedEvent
  continuationToken : Option (List Char)
  deriving DecidableEq, Repr

/-- Whether an event passes the filter of `filter_events_by_params`: the
address, when one is asked for, and for each position `i` of the key pattern
a key at `i` that the pattern's `i`-th list contains (an empty list takes any
key). -/
def matchesFilter (address : Option FieldElement) (keys : List (List FieldElement)) (event : EmittedEvent) :
    Bool :=
  let matchFromAddress := match address with
    | some addr => addr == event.fromAddress
    | none => true
  let matchKeys := keys.zipIdx.all fun (keys, i) =>
    match event.keys[i]? with
    | some key => keys.isEmpty || keys.contains key
    | none => false
  matchFromAddress && matchKeys

/-- The loop of `filter_events_by_params`, with the events kept so far and
the count `n_visited`: it stops after the event that fills `max_results`. -/
def filterEventsByParamsLoop (address : Option FieldElement) (keys : List (List FieldElement))
    (maxResults : Nat) : List EmittedEvent → List EmittedEvent → Nat → List EmittedEvent × Nat
  | [], filteredEvents, nVisited => (filteredEvents, nVisited)
  | event :: rest, filteredEvents, nVisited =>
    if matchesFilter address keys event then
      if maxResults ≤ (filteredEvents ++ [event]).length then (filteredEvents ++ [event], nVisited + 1)
      else filterEventsByParamsLoop address keys maxResults rest (filteredEvents ++ [event]) (nVisited + 1)
    else filterEventsByParamsLoop address keys maxResults rest filteredEvents (nVisited + 1)

/-- `filter_events_by_params`: the accepted events, and how many events it
looked at (`n_visited`, which the caller sets to `0`). -/
def filterEventsByParams (events : List EmittedEvent) (address : Option FieldElement)
    (keys : List (List FieldElement)) (maxResults : Nat) : List EmittedEvent × Nat :=
  filterEventsByParamsLoop address keys maxResults events [] 0

theorem exists_succ_of_filter_take_length {p : EmittedEvent → Bool} {events : List EmittedEvent} {visited count : Nat}
    (counted : ((events.take visited).filter p).length = count) (positive : 0 < count) :
    ∃ earlier, visited = earlier + 1 := by
  cases visited with
  | zero =>
    rw [List.take_zero, List.filter_nil, List.length_nil] at counted
    omega
  | succ earlier => exact ⟨earlier, rfl⟩

section Params

variable (address : Option FieldElement) (keys : List (List FieldElement)) (maxResults : Nat)

/-- The loop looks at a prefix of the events and keeps the accepted ones among
them; it stops before the end only once the page is full. -/
theorem filterEventsByParamsLoop_spec (events filteredEvents : List EmittedEvent) (nVisited : Nat)
    (room : filteredEvents.length < maxResults) :
    ∃ visited ≤ events.length,
      filterEventsByParamsLoop address keys maxResults events filteredEvents nVisited =
        (filteredEvents ++ (events.take visited).filter (matchesFilter address keys), nVisited + visited) ∧
      filteredEvents.length + ((events.take visited).filter (matchesFilter address keys)).length ≤ maxResults ∧
      (visited = events.length ∨
        filteredEvents.length + ((events.take visited).filter (matchesFilter address keys)).length = maxResults) := by
  induction events generalizing filteredEvents nVisited with
  | nil =>
    refine ⟨0, Nat.le_refl 0, ?_, ?_, Or.inl rfl⟩
    · simp [filterEventsByParamsLoop]
    · simpa using room.le
  | cons event rest ih =>
    by_cases accepted : matchesFilter address keys event = true
    · by_cases full : maxResults ≤ (filteredEvents ++ [event]).length
      · -- the event fills the page, and the loop stops after it
        have filled : filteredEvents.length + 1 = maxResults := by
          rw [List.length_append, List.length_singleton] at full
          omega
        refine ⟨1, by simp, ?_, ?_, Or.inr ?_⟩
        · rw [filterEventsByParamsLoop, if_pos accepted, if_pos full]
          simp [accepted]
        · simp [accepted, filled]
        · simp [accepted, filled]
      · have more : (filteredEvents ++ [event]).length < maxResults := Nat.lt_of_not_le full
        obtain ⟨visited, bounded, ran, fits, stopped⟩ := ih (filteredEvents ++ [event]) (nVisited + 1) more
        have kept : ((event :: rest).take (visited + 1)).filter (matchesFilter address keys) =
            event :: (rest.take visited).filter (matchesFilter address keys) := by
          simp [accepted]
        refine ⟨visited + 1, by simpa using bounded, ?_, ?_, ?_⟩
        · rw [filterEventsByParamsLoop, if_pos accepted, if_neg full, ran, kept]
          simp [Nat.add_assoc, Nat.add_comm 1 visited]
        · rw [kept]
          simp only [List.length_append, List.length_singleton] at fits
          simp only [List.length_cons]
          omega
        · rw [kept]
          simp only [List.length_append, List.length_singleton] at stopped
          simp only [List.length_cons]
          omega
    · obtain ⟨visited, bounded, ran, fits, stopped⟩ := ih filteredEvents (nVisited + 1) room
      have dropped : ((event :: rest).take (visited + 1)).filter (matchesFilter address keys) =
          (rest.take visited).filter (matchesFilter address keys) := by
        simp [accepted]
      refine ⟨visited + 1, by simpa using bounded, ?_, ?_, ?_⟩
      · rw [filterEventsByParamsLoop, if_neg accepted, ran, dropped]
        simp [Nat.add_assoc, Nat.add_comm 1 visited]
      · rw [dropped]
        exact fits
      · rw [dropped]
        simp only [List.length_cons]
        omega

/-- `filter_events_by_params` with room for at least one event. -/
theorem filterEventsByParams_spec (events : List EmittedEvent) (room : 0 < maxResults) :
    ∃ visited ≤ events.length,
      filterEventsByParams events address keys maxResults =
        ((events.take visited).filter (matchesFilter address keys), visited) ∧
      ((events.take visited).filter (matchesFilter address keys)).length ≤ maxResults ∧
      (visited = events.length ∨ ((events.take visited).filter (matchesFilter address keys)).length = maxResults) := by
  obtain ⟨visited, bounded, ran, fits, stopped⟩ :=
    filterEventsByParamsLoop_spec address keys maxResults events [] 0 room
  simp only [List.nil_append, List.length_nil, Nat.zero_add] at ran fits stopped
  exact ⟨visited, bounded, ran, fits, stopped⟩

/-- The loop only adds to `n_visited`: what it adds does not depend on the
count it starts from. -/
theorem filterEventsByParamsLoop_shift (events filteredEvents : List EmittedEvent) (nVisited : Nat) :
    filterEventsByParamsLoop address keys maxResults events filteredEvents nVisited =
      ((filterEventsByParamsLoop address keys maxResults events filteredEvents 0).1,
        nVisited + (filterEventsByParamsLoop address keys maxResults events filteredEvents 0).2) := by
  induction events generalizing filteredEvents nVisited with
  | nil => rfl
  | cons event rest ih =>
    simp only [filterEventsByParamsLoop]
    split
    · split
      · rw [Nat.zero_add]
      · rw [ih _ (nVisited + 1), ih _ (0 + 1), Nat.add_assoc, Nat.zero_add]
    · rw [ih _ (nVisited + 1), ih _ (0 + 1), Nat.add_assoc, Nat.zero_add]

/-- The loop keeps the first accepted events until the page is full. It
looks at every event when fewer are accepted, and otherwise stops at the
event that fills the page. -/
theorem filterEventsByParamsLoop_eq (events filteredEvents : List EmittedEvent) (nVisited : Nat)
    (room : filteredEvents.length < maxResults) :
    ∃ visited,
      filterEventsByParamsLoop address keys maxResults events filteredEvents nVisited =
        (filteredEvents ++ (events.filter (matchesFilter address keys)).take (maxResults - filteredEvents.length),
          nVisited + visited) ∧
      ((events.filter (matchesFilter address keys)).length < maxResults - filteredEvents.length →
        visited = events.length) ∧
      (maxResults - filteredEvents.length ≤ (events.filter (matchesFilter address keys)).length →
        ((events.take visited).filter (matchesFilter address keys)).length = maxResults - filteredEvents.length ∧
        ∃ event, events[visited - 1]? = some event ∧ matchesFilter address keys event = true) := by
  induction events generalizing filteredEvents nVisited with
  | nil =>
    refine ⟨0, by simp [filterEventsByParamsLoop], fun _ => rfl, fun full => ?_⟩
    simp only [List.filter_nil, List.length_nil] at full
    omega
  | cons event rest ih =>
    by_cases accepted : matchesFilter address keys event = true
    · have matched : (event :: rest).filter (matchesFilter address keys) =
          event :: rest.filter (matchesFilter address keys) := List.filter_cons_of_pos accepted
      by_cases full : maxResults ≤ (filteredEvents ++ [event]).length
      · -- the event fills the page, and the loop stops after it
        have last : maxResults - filteredEvents.length = 1 := by
          rw [List.length_append, List.length_singleton] at full
          omega
        refine ⟨1, ?_, fun short => ?_, fun _ => ?_⟩
        · rw [filterEventsByParamsLoop, if_pos accepted, if_pos full, matched, last]
          rfl
        · rw [matched, last, List.length_cons] at short
          omega
        · rw [last]
          exact ⟨by simp [accepted], event, rfl, accepted⟩
      · have more : (filteredEvents ++ [event]).length < maxResults := Nat.lt_of_not_le full
        have need : maxResults - filteredEvents.length = maxResults - (filteredEvents ++ [event]).length + 1 := by
          rw [List.length_append, List.length_singleton]
          omega
        obtain ⟨visited, ran, short, stopped⟩ := ih (filteredEvents ++ [event]) (nVisited + 1) more
        refine ⟨visited + 1, ?_, fun fewer => ?_, fun enough => ?_⟩
        · rw [filterEventsByParamsLoop, if_pos accepted, if_neg full, ran, matched, need, List.take_succ_cons,
            List.append_assoc, List.singleton_append, Nat.add_assoc, Nat.add_comm 1 visited]
        · rw [matched, need, List.length_cons] at fewer
          rw [short (by omega), List.length_cons]
        · rw [matched, need, List.length_cons] at enough
          obtain ⟨counted, found⟩ := stopped (by omega)
          obtain ⟨earlier, rfl⟩ := exists_succ_of_filter_take_length counted (by omega)
          refine ⟨?_, found⟩
          rw [List.take_succ_cons, List.filter_cons_of_pos accepted, List.length_cons, counted, need]
    · have matched : (event :: rest).filter (matchesFilter address keys) = rest.filter (matchesFilter address keys) :=
        List.filter_cons_of_neg accepted
      obtain ⟨visited, ran, short, stopped⟩ := ih filteredEvents (nVisited + 1) room
      refine ⟨visited + 1, ?_, fun fewer => ?_, fun enough => ?_⟩
      · rw [filterEventsByParamsLoop, if_neg accepted, ran, matched, Nat.add_assoc, Nat.add_comm 1 visited]
      · rw [matched] at fewer
        rw [short fewer, List.length_cons]
      · rw [matched] at enough
        obtain ⟨counted, found⟩ := stopped enough
        obtain ⟨earlier, rfl⟩ := exists_succ_of_filter_take_length counted (by omega)
        refine ⟨?_, found⟩
        rw [List.take_succ_cons, List.filter_cons_of_neg accepted, counted]

end Params

/-- An event matches a filter: its address is the filter's when one is given,
and for every position `i` of the key pattern it has a key at `i` that the
pattern's `i`-th list holds, or that list is empty. -/
def Matches (address : Option FieldElement) (keys : List (List FieldElement)) (event : EmittedEvent) : Prop :=
  (∀ addr, address = some addr → addr = event.fromAddress) ∧
    ∀ i (inside : i < keys.length), ∃ key, event.keys[i]? = some key ∧ (keys[i] = [] ∨ key ∈ keys[i])

theorem keyMatches_iff (pattern : List FieldElement) (found : Option FieldElement) :
    (match found with
      | some key => pattern.isEmpty || pattern.contains key
      | none => false) = true ↔ ∃ key, found = some key ∧ (pattern = [] ∨ key ∈ pattern) := by
  cases found with
  | none => simp
  | some key => simp [List.isEmpty_iff]

theorem matchesFilter_iff (address : Option FieldElement) (keys : List (List FieldElement)) (event : EmittedEvent) :
    matchesFilter address keys event = true ↔ Matches address keys event := by
  unfold matchesFilter Matches
  simp only [Bool.and_eq_true, List.all_eq_true, Prod.forall, List.mem_zipIdx_iff_getElem?]
  apply and_congr
  · cases address <;> simp
  · constructor
    · intro all i inside
      exact (keyMatches_iff _ _).mp (all _ i (List.getElem?_eq_getElem inside))
    · intro each pattern i found
      obtain ⟨inside, rfl⟩ := List.getElem?_eq_some_iff.mp found
      exact (keyMatches_iff _ _).mpr (each i inside)

instance (address : Option FieldElement) (keys : List (List FieldElement)) : DecidablePred (Matches address keys) :=
  fun event => decidable_of_iff _ (matchesFilter_iff address keys event)

theorem filter_matchesFilter (address : Option FieldElement) (keys : List (List FieldElement))
    (events : List EmittedEvent) :
    events.filter (matchesFilter address keys) = events.filter fun event => decide (Matches address keys event) :=
  List.filter_congr fun event _ => by rw [Bool.eq_iff_iff, decide_eq_true_iff, matchesFilter_iff]

/-- What a bounded ordered filter hands back after looking at `visited`
events: the first `maxResults` matching events, in order, and for `visited`
the position of the event that filled the page, or every event when the page
does not fill. -/
structure FirstMatches (address : Option FieldElement) (keys : List (List FieldElement)) (maxResults : Nat)
    (events page : List EmittedEvent) (visited : Nat) : Prop where
  kept : page = (events.filter fun event => decide (Matches address keys event)).take maxResults
  looked_at_all : (events.filter fun event => decide (Matches address keys event)).length < maxResults →
    visited = events.length
  stopped_at_last : maxResults ≤ (events.filter fun event => decide (Matches address keys event)).length →
    ((events.take visited).filter fun event => decide (Matches address keys event)).length = maxResults ∧
      ∃ event, events[visited - 1]? = some event ∧ Matches address keys event

/-- `filter_events_by_params` is a bounded ordered filter, and it moves
`n_visited` on by the number of events it looked at. -/
theorem filter_events_by_params_takes_first_matches (events : List EmittedEvent) (address : Option FieldElement)
    (keys : List (List FieldElement)) (maxResults nVisited : Nat) (room : 1 ≤ maxResults) :
    ∃ visited,
      filterEventsByParamsLoop address keys maxResults events [] nVisited =
        ((filterEventsByParams events address keys maxResults).1, nVisited + visited) ∧
      (filterEventsByParams events address keys maxResults).2 = visited ∧
      FirstMatches address keys maxResults events (filterEventsByParams events address keys maxResults).1 visited := by
  obtain ⟨visited, ran, short, stopped⟩ := filterEventsByParamsLoop_eq address keys maxResults events [] 0 room
  rw [List.nil_append, List.length_nil, Nat.sub_zero, filter_matchesFilter, Nat.zero_add] at ran
  simp only [List.length_nil, Nat.sub_zero] at short stopped
  have returned : filterEventsByParams events address keys maxResults = _ := ran
  refine ⟨visited, ?_, by rw [returned], ⟨by rw [returned], ?_, fun enough => ?_⟩⟩
  · rw [filterEventsByParamsLoop_shift, ran, returned]
  · rw [← filter_matchesFilter]
    exact short
  · rw [← filter_matchesFilter] at enough
    obtain ⟨counted, event, found, accepted⟩ := stopped enough
    rw [← filter_matchesFilter]
    exact ⟨counted, event, found, (matchesFilter_iff address keys event).mp accepted⟩

/-- Events with the keys `0`, `1` and `1`. -/
def keyedEvents : List EmittedEvent := [⟨0, [0], [], 0, 1, 0⟩, ⟨0, [1], [], 0, 1, 0⟩, ⟨0, [1], [], 0, 1, 0⟩]

/-- One event with the key `1`, from a count of `5`. -/
theorem filter_events_by_params_takes_first_key_one :
    1 ≤ 1 ∧ ∃ visited,
      filterEventsByParamsLoop none [[1]] 1 keyedEvents [] 5 =
        ((filterEventsByParams keyedEvents none [[1]] 1).1, 5 + visited) ∧
      (filterEventsByParams keyedEvents none [[1]] 1).2 = visited ∧
      FirstMatches none [[1]] 1 keyedEvents (filterEventsByParams keyedEvents none [[1]] 1).1 visited :=
  ⟨Nat.le_refl 1, filter_events_by_params_takes_first_matches keyedEvents none [[1]] 1 5 (Nat.le_refl 1)⟩

section Filter

variable (getBlockEvents : Nat → Except StarknetRpcApiError (List EmittedEvent)) (filter : RpcEventFilter)

/-- The block a call of `filter_events` starts from: `from_block` moved on by
the token's `block_n`. Both are `u64`s, and their sum wraps past `u64::MAX` as
in a release build (a debug build panics there). -/
def RpcEventFilter.startBlock : Nat := (filter.fromBlock + filter.continuationToken.blockN) % 2 ^ 64

/-- The events of a block that a call looks at, with how many there are
(`unchecked_events`): in the block it starts from, those after the token's
`event_n`. -/
def windowOf (currentBlock : Nat) (emittedEvents : List EmittedEvent) : List EmittedEvent × Nat :=
  if currentBlock = filter.startBlock then
    (emittedEvents.drop filter.continuationToken.eventN, emittedEvents.length - filter.continuationToken.eventN)
  else (emittedEvents, emittedEvents.length)

/-- The token of a full page that stopped in `currentBlock` after `nVisited`
events of its window. -/
def nextToken (currentBlock nVisited : Nat) : ContinuationToken :=
  ⟨currentBlock - filter.startBlock,
    if filter.continuationToken.blockN = currentBlock then nVisited + filter.continuationToken.eventN
    else nVisited⟩

/-- The loop of `filter_events` over the blocks from `currentBlock` on: `fuel`
bounds the blocks left, the loop's own test ends it. -/
def filterEventsLoop : Nat → Nat → List EmittedEvent → Except StarknetRpcApiError EventsPage
  | 0, _, filteredEvents => .ok ⟨filteredEvents, none⟩
  | fuel + 1, currentBlock, filteredEvents =>
    if currentBlock ≤ filter.toBlock then
      match getBlockEvents currentBlock with
      | .error error => .error error
      | .ok emittedEvents =>
        if currentBlock = filter.startBlock ∧ emittedEvents.length < filter.continuationToken.eventN then
          .error .invalidContinuationToken
        else
          let (events, uncheckedEvents) := windowOf filter currentBlock emittedEvents
          let (blockFilteredEvents, nVisited) := filterEventsByParams events filter.fromAddress filter.keys
            (filter.chunkSize - filteredEvents.length)
          let filteredEvents := filteredEvents ++ blockFilteredEvents
          if filteredEvents.length = filter.chunkSize then
            .ok ⟨filteredEvents,
              if currentBlock < filter.toBlock ∨ nVisited < uncheckedEvents then
                some (nextToken filter currentBlock nVisited).toString
              else none⟩
          else filterEventsLoop fuel (currentBlock + 1) filteredEvents
    else .ok ⟨filteredEvents, none⟩

/-- `Starknet::filter_events`. -/
def filterEvents : Except StarknetRpcApiError EventsPage :=
  filterEventsLoop getBlockEvents filter (filter.toBlock + 1 - filter.startBlock) filter.startBlock []

/-- Started with room for one more event, the loop of `filter_events` holds
fewer than `chunk_size` events before every block it reads, so `chunk_size -
filtered_events.len()` stays above zero, and it returns at most `chunk_size`
events, whatever the blocks hold or fail with. -/
theorem filterEventsLoop_length_le (fuel currentBlock : Nat)
    (filteredEvents : List EmittedEvent) (room : filteredEvents.length < filter.chunkSize) {page : EventsPage}
    (ran : filterEventsLoop getBlockEvents filter fuel currentBlock filteredEvents = .ok page) :
    page.events.length ≤ filter.chunkSize := by
  induction fuel generalizing currentBlock filteredEvents with
  | zero =>
    cases ran
    exact room.le
  | succ fuel ih =>
    unfold filterEventsLoop at ran
    by_cases within : currentBlock ≤ filter.toBlock
    · rw [if_pos within] at ran
      cases fetched : getBlockEvents currentBlock with
      | error error =>
        rw [fetched] at ran
        cases ran
      | ok emittedEvents =>
        rw [fetched] at ran
        dsimp only at ran
        by_cases invalid : currentBlock = filter.startBlock ∧ emittedEvents.length < filter.continuationToken.eventN
        · rw [if_pos invalid] at ran
          cases ran
        · rw [if_neg invalid] at ran
          rcases windowing : windowOf filter currentBlock emittedEvents with ⟨events, uncheckedEvents⟩
          -- the block adds at most the room left
          obtain ⟨visited, -, kept, fits, -⟩ := filterEventsByParams_spec filter.fromAddress filter.keys
            (filter.chunkSize - filteredEvents.length) events (by omega)
          rw [windowing] at ran
          dsimp only at ran
          rw [kept] at ran
          dsimp only at ran
          have bounded : (filteredEvents ++ (events.take visited).filter
              (matchesFilter filter.fromAddress filter.keys)).length ≤ filter.chunkSize := by
            rw [List.length_append]
            omega
          by_cases full : (filteredEvents ++ (events.take visited).filter
              (matchesFilter filter.fromAddress filter.keys)).length = filter.chunkSize
          · rw [if_pos full] at ran
            cases ran
            exact bounded
          · rw [if_neg full] at ran
            exact ih _ _ (Nat.lt_of_le_of_ne bounded full) ran
    · rw [if_neg within] at ran
      cases ran
      exact room.le

/-- A page of `filter_events` with a positive `chunk_size` holds at most
`chunk_size` events. -/
theorem filterEvents_length_le (chunk : 0 < filter.chunkSize) {page : EventsPage}
    (ran : filterEvents getBlockEvents filter = .ok page) : page.events.length ≤ filter.chunkSize :=
  filterEventsLoop_length_le getBlockEvents filter _ _ [] chunk ran

end Filter

section Run

variable (chain : Nat → List EmittedEvent) (filter : RpcEventFilter)

/-- The events the filter accepts from `block` through `to_block`, as a call
sees them: in the block it starts from, only those after the token's
`event_n`. -/
def acceptedFrom (block : Nat) : List EmittedEvent :=
  ((List.range' block (filter.toBlock + 1 - block)).flatMap fun current =>
      (windowOf filter current (chain current)).1).filter (matchesFilter filter.fromAddress filter.keys)

theorem acceptedFrom_of_lt {block : Nat} (past : filter.toBlock < block) : acceptedFrom chain filter block = [] := by
  have none : filter.toBlock + 1 - block = 0 := by omega
  simp [acceptedFrom, none]

theorem acceptedFrom_of_le {block : Nat} (within : block ≤ filter.toBlock) :
    acceptedFrom chain filter block =
      (windowOf filter block (chain block)).1.filter (matchesFilter filter.fromAddress filter.keys) ++
        acceptedFrom chain filter (block + 1) := by
  have count : filter.toBlock + 1 - block = (filter.toBlock + 1 - (block + 1)) + 1 := by omega
  rw [acceptedFrom, count, List.range'_succ, List.flatMap_cons, List.filter_append]
  rfl

/-- Past `to_block` nothing is left to accept, so a page with room keeps
exactly what it holds. -/
theorem take_acceptedFrom_of_lt {block : Nat} (past : filter.toBlock < block) {filteredEvents : List EmittedEvent}
    (room : filteredEvents.length < filter.chunkSize) :
    (filteredEvents ++ acceptedFrom chain filter block).take filter.chunkSize = filteredEvents := by
  rw [acceptedFrom_of_lt chain filter past, List.append_nil, List.take_of_length_le room.le]

/-- The loop of `filter_events`, from any block with the page not yet full,
returns the page filled up with the accepted events from that block on: each
block adds what `filter_events_by_params` keeps of it, and the loop stops at
the block that fills the page or after `to_block`. -/
theorem filterEventsLoop_events
    (tokenFits : filter.continuationToken.eventN ≤ (chain filter.startBlock).length) :
    ∀ fuel currentBlock filteredEvents, filter.toBlock + 1 - currentBlock ≤ fuel →
      filteredEvents.length < filter.chunkSize →
      ∃ page, filterEventsLoop (fun block => .ok (chain block)) filter fuel currentBlock filteredEvents = .ok page ∧
        page.events = (filteredEvents ++ acceptedFrom chain filter currentBlock).take filter.chunkSize := by
  intro fuel
  induction fuel with
  | zero =>
    intro currentBlock filteredEvents enough room
    have past : filter.toBlock < currentBlock := by omega
    exact ⟨_, rfl, (take_acceptedFrom_of_lt chain filter past room).symm⟩
  | succ fuel ih =>
    intro currentBlock filteredEvents enough room
    by_cases within : currentBlock ≤ filter.toBlock
    · have checked : ¬ (currentBlock = filter.startBlock ∧
          (chain currentBlock).length < filter.continuationToken.eventN) := by
        rintro ⟨first, short⟩
        rw [first] at short
        omega
      rcases windowing : windowOf filter currentBlock (chain currentBlock) with ⟨events, uncheckedEvents⟩
      have accepted : acceptedFrom chain filter currentBlock =
          events.filter (matchesFilter filter.fromAddress filter.keys) ++ acceptedFrom chain filter (currentBlock + 1) := by
        rw [acceptedFrom_of_le chain filter within, windowing]
      obtain ⟨visited, bounded, kept, fits, stopped⟩ := filterEventsByParams_spec filter.fromAddress filter.keys
        (filter.chunkSize - filteredEvents.length) events (by omega)
      -- what the block keeps is the accepted part of a prefix of its window
      have split : events.filter (matchesFilter filter.fromAddress filter.keys) =
          (events.take visited).filter (matchesFilter filter.fromAddress filter.keys) ++
            (events.drop visited).filter (matchesFilter filter.fromAddress filter.keys) := by
        rw [← List.filter_append, List.take_append_drop]
      unfold filterEventsLoop
      rw [if_pos within]
      dsimp only
      rw [if_neg checked, windowing]
      dsimp only
      rw [kept]
      dsimp only
      by_cases full : (filteredEvents ++ (events.take visited).filter
          (matchesFilter filter.fromAddress filter.keys)).length = filter.chunkSize
      · -- the block fills the page
        rw [if_pos full]
        refine ⟨_, rfl, ?_⟩
        rw [accepted, split, List.append_assoc, ← List.append_assoc filteredEvents, List.take_left' full]
      · -- the block is read to its end, and the loop goes on with the next one
        have whole : visited = events.length := by
          rw [List.length_append] at full
          omega
        rw [if_neg full]
        have next := ih (currentBlock + 1) (filteredEvents ++ (events.take visited).filter
          (matchesFilter filter.fromAddress filter.keys)) (by omega) (by
            rw [List.length_append] at full ⊢
            omega)
        obtain ⟨page, ran, paged⟩ := next
        refine ⟨page, ran, ?_⟩
        rw [paged, accepted, whole, List.take_length, List.append_assoc]
    · have past : filter.toBlock < currentBlock := Nat.lt_of_not_le within
      unfold filterEventsLoop
      rw [if_neg within]
      exact ⟨_, rfl, (take_acceptedFrom_of_lt chain filter past room).symm⟩

/-- When `from_block + block_n` fits a `u64`, it is the block a call starts from. -/
theorem startBlock_of_lt (noWrap : filter.fromBlock + filter.continuationToken.blockN < 2 ^ 64) :
    filter.startBlock = filter.fromBlock + filter.continuationToken.blockN :=
  Nat.mod_eq_of_lt noWrap

/-- One call of `filter_events` returns the first `chunk_size` events the
filter accepts from the position its token names: event `event_n` of block
`from_block + block_n`, when that sum fits a `u64`. -/
theorem filterEvents_events (chunk : 0 < filter.chunkSize)
    (noWrap : filter.fromBlock + filter.continuationToken.blockN < 2 ^ 64)
    (tokenFits : filter.continuationToken.eventN ≤
      (chain (filter.fromBlock + filter.continuationToken.blockN)).length) :
    ∃ page, filterEvents (fun block => .ok (chain block)) filter = .ok page ∧
      page.events =
        (acceptedFrom chain filter (filter.fromBlock + filter.continuationToken.blockN)).take filter.chunkSize := by
  rw [← startBlock_of_lt filter noWrap] at tokenFits ⊢
  have run := filterEventsLoop_events chain filter tokenFits (filter.toBlock + 1 - filter.startBlock)
    filter.startBlock [] (Nat.le_refl _) chunk
  rw [List.nil_append] at run
  exact run

end Run

section Rpc

/-- `MAX_EVENTS_KEYS`. -/
def maxEventsKeys : Nat := 100

/-- `MAX_EVENTS_CHUNK_SIZE`. -/
def maxEventsChunkSize : Nat := 1000

/-- `starknet_core::types::BlockId`, with the tags `latest` and `pending`. -/
inductive BlockId where
  | hash (blockHash : FieldElement)
  | number (blockNumber : Nat)
  | latest
  | pending
  deriving DecidableEq, Repr

/-- `EventFilterWithPage`: the event filter of a request and its page request. -/
structure EventFilterWithPage where
  fromBlock : Option BlockId
  toBlock : Option BlockId
  address : Option FieldElement
  keys : Option (List (List FieldElement))
  continuationToken : Option (List Char)
  chunkSize : Nat

/-- `substrate_block_number_from_starknet_block`: a number stands for itself,
any other id is looked up in the chain. -/
def substrateBlockNumberFromStarknetBlock (lookup : BlockId → Except StarknetRpcApiError Nat) :
    BlockId → Except StarknetRpcApiError Nat
  | .number blockNumber => .ok blockNumber
  | blockId => lookup blockId

/-- `Starknet::get_events`: the token is parsed, the key pattern and the page
size are bounded, the block ids are resolved, and `to_block` is brought down
to the latest block before `filter_events` runs. -/
def getEvents (lookup : BlockId → Except StarknetRpcApiError Nat)
    (getBlockEvents : Nat → Except StarknetRpcApiError (List EmittedEvent)) (request : EventFilterWithPage) :
    Except StarknetRpcApiError EventsPage := do
  let continuationToken ← match request.continuationToken with
    | some token => (ContinuationToken.parse token).mapError fun _ => .invalidContinuationToken
    | none => pure ContinuationToken.default
  let keys := request.keys.getD []
  if maxEventsKeys < keys.length then throw .tooManyKeysInFilter
  if maxEventsChunkSize < request.chunkSize then throw .pageSizeTooBig
  let latestBlock ← substrateBlockNumberFromStarknetBlock lookup .latest
  let fromBlock ← substrateBlockNumberFromStarknetBlock lookup (request.fromBlock.getD (.number 0))
  let toBlock ← substrateBlockNumberFromStarknetBlock lookup (request.toBlock.getD .latest)
  if toBlock < fromBlock then
    pure ⟨[], none⟩
  else
    let toBlock := if toBlock < latestBlock then toBlock else latestBlock
    filterEvents getBlockEvents ⟨fromBlock, toBlock, request.address, keys, request.chunkSize, continuationToken⟩

/-- A client paging through `filter_events` with one filter: the first call
with the given token, each next one with the parsed token of the page before,
for at most `calls` calls or until a page comes without a token. -/
def paginate (getBlockEvents : Nat → Except StarknetRpcApiError (List EmittedEvent)) (filter : RpcEventFilter) :
    Nat → ContinuationToken → Except StarknetRpcApiError (List EventsPage)
  | 0, _ => .ok []
  | calls + 1, token =>
    match filterEvents getBlockEvents { filter with continuationToken := token } with
    | .error error => .error error
    | .ok page =>
      match page.continuationToken with
      | none => .ok [page]
      | some text =>
        match ContinuationToken.parse text with
        | .error _ => .error .invalidContinuationToken
        | .ok next =>
          match paginate getBlockEvents filter calls next with
          | .error error => .error error
          | .ok pages => .ok (page :: pages)

/-- An event of block `1` with one key. -/
def witnessEvent (key : FieldElement) : EmittedEvent := ⟨0, [key], [], 0, 1, 0⟩

/-- A chain whose block `1` holds three events, and no other block any. -/
def witnessChain (block : Nat) : List EmittedEvent :=
  if block = 1 then [witnessEvent 0, witnessEvent 1, witnessEvent 2] else []

/-- Every event of blocks `1` to `1`, one per page. -/
def witnessFilter : RpcEventFilter := ⟨1, 1, none, [], 1, .default⟩

/-- Paging one event at a time through a block `1` of three events: the first
page holds the first event with the token `0,1`, and every later call, made
with that token, returns the second event and the token `0,1` again. The
pagination never ends, repeats the second event, and never returns the third;
`get_events`, given the token `0,1`, hands back the same page. -/
theorem pagination_repeats_page (calls : Nat) :
    paginate (fun block => .ok (witnessChain block)) witnessFilter (calls + 1) .default =
        .ok (⟨[witnessEvent 0], some ['0', ',', '1']⟩ ::
          List.replicate calls ⟨[witnessEvent 1], some ['0', ',', '1']⟩) ∧
      getEvents (fun _ => .ok 1) (fun block => .ok (witnessChain block))
          ⟨some (.number 1), some (.number 1), none, none, some ['0', ',', '1'], 1⟩ =
        .ok ⟨[witnessEvent 1], some ['0', ',', '1']⟩ := by
  have parsed : ContinuationToken.parse ['0', ',', '1'] = .ok ⟨0, 1⟩ := by decide
  have first : filterEvents (fun block => .ok (witnessChain block)) { witnessFilter with continuationToken := .default } =
      .ok ⟨[witnessEvent 0], some ['0', ',', '1']⟩ := by decide
  have again : filterEvents (fun block => .ok (witnessChain block)) { witnessFilter with continuationToken := ⟨0, 1⟩ } =
      .ok ⟨[witnessEvent 1], some ['0', ',', '1']⟩ := by decide
  -- from the token `0,1` on, every call returns the same page and the same token
  have repeated : ∀ calls, paginate (fun block => .ok (witnessChain block)) witnessFilter (calls + 1) ⟨0, 1⟩ =
      .ok (List.replicate (calls + 1) ⟨[witnessEvent 1], some ['0', ',', '1']⟩) := by
    intro calls
    induction calls with
    | zero =>
      rw [paginate, again]
      dsimp only
      rw [parsed]
      rfl
    | succ calls ih =>
      rw [paginate, again]
      dsimp only
      rw [parsed]
      dsimp only
      rw [ih]
      rfl
  refine ⟨?_, by decide⟩
  rw [paginate, first]
  dsimp only
  rw [parsed]
  cases calls with
  | zero => rfl
  | succ calls =>
    dsimp only
    rw [repeated calls]

/-- Every `chunk_size` up to `MAX_EVENTS_CHUNK_SIZE` passes `get_events`, `0`
included. A page of size `0` over block `1` comes back holding the block's
first event: `filter_events_by_params` adds an event before it compares the
count with `max_results`. Over blocks `1` and `2` the loop reaches block `2`
holding that event, and there computes `chunk_size - filtered_events.len()`,
`0 - 1`. And the token `ffffffffffffffff,0`, a valid pair of `u64`s, moves a
`from_block` of `1` past `u64::MAX`: the sum wraps to block `0`, below
`from_block`, and the call returns block `1`'s first event again. -/
theorem filter_events_overflows_at_boundaries :
    getEvents (fun _ => .ok 1) (fun block => .ok (witnessChain block))
        ⟨some (.number 1), some (.number 1), none, none, none, 0⟩ = .ok ⟨[witnessEvent 0], none⟩ ∧
      filterEventsLoop (fun block => .ok (witnessChain block)) ⟨1, 2, none, [], 0, .default⟩ 2 1 [] =
        filterEventsLoop (fun block => .ok (witnessChain block)) ⟨1, 2, none, [], 0, .default⟩ 1 2
          [witnessEvent 0] ∧
      ContinuationToken.parse (List.replicate 16 'f' ++ [',', '0']) = .ok ⟨2 ^ 64 - 1, 0⟩ ∧
      (⟨1, 1, none, [], 1, ⟨2 ^ 64 - 1, 0⟩⟩ : RpcEventFilter).startBlock = 0 ∧
      filterEvents (fun block => .ok (witnessChain block)) ⟨1, 1, none, [], 1, ⟨2 ^ 64 - 1, 0⟩⟩ =
        .ok ⟨[witnessEvent 0], some ['1', ',', '1']⟩ := by
  refine ⟨by decide, rfl, by decide, rfl, by decide⟩

/-- Every event of block `1`, two per page. -/
def twoPerPage : RpcEventFilter := ⟨1, 1, none, [], 2, .default⟩

/-- The first page of two over the witness chain holds the first two events
the filter accepts. -/
theorem filterEvents_events_two_per_page :
    0 < twoPerPage.chunkSize ∧ twoPerPage.fromBlock + twoPerPage.continuationToken.blockN < 2 ^ 64 ∧
    twoPerPage.continuationToken.eventN ≤
      (witnessChain (twoPerPage.fromBlock + twoPerPage.continuationToken.blockN)).length ∧
    ∃ page, filterEvents (fun block => .ok (witnessChain block)) twoPerPage = .ok page ∧
      page.events = (acceptedFrom witnessChain twoPerPage
        (twoPerPage.fromBlock + twoPerPage.continuationToken.blockN)).take twoPerPage.chunkSize := by
  have chunk : 0 < twoPerPage.chunkSize := by decide
  have noWrap : twoPerPage.fromBlock + twoPerPage.continuationToken.blockN < 2 ^ 64 := by decide
  have tokenFits : twoPerPage.continuationToken.eventN ≤
      (witnessChain (twoPerPage.fromBlock + twoPerPage.continuationToken.blockN)).length := by decide
  exact ⟨chunk, noWrap, tokenFits, filterEvents_events witnessChain twoPerPage chunk noWrap tokenFits⟩

end Rpc

end Madara.Events

import Mathlib.Data.List.Nodup
import Mathlib.Data.List.Perm.Subperm
import Madara.Felt

/-! The blockifier's `CallInfo` tree and the pallet's two walks over it,
`emit_events_in_call_info` and `aggregate_messages_in_call_info`
(`pallets/starknet/src/lib.rs`). Both walk one call with an index into its own
items and an index into its inner calls: an item is taken while its recorded
order is the next expected one, otherwise the walk descends into the next
inner call, and it stops when neither applies. The two functions differ only
in the items they read and the record they build, so they are one walk,
`collectInCallInfo`, applied to each. -/
namespace Madara.CallTree

open Madara.Felt

/-- `EthAddress`, twenty bytes. -/
abbrev EthAddress := Fin (2 ^ 160)

/-- `starknet_api::transaction::EventContent`. -/
structure EventContent where
  keys : List FieldElement
  data : List FieldElement
  deriving DecidableEq, Repr

/-- The message a call sends to L1, as the blockifier records it. -/
structure MessageToL1Content where
  toAddress : EthAddress
  payload : List FieldElement
  deriving DecidableEq, Repr

/-- An item together with the execution order the blockifier gave it:
`OrderedEvent` and `OrderedL2ToL1Message`. -/
structure Ordered (α : Type) where
  order : Nat
  content : α
  deriving DecidableEq, Repr

inductive EntryPointType where
  | constructor
  | external
  | l1Handler
  deriving DecidableEq, Repr

inductive CallType where
  | call
  | delegate
  deriving DecidableEq, Repr

/-- `CallInfo.call`: the entry point that was called. -/
structure CallEntryPoint where
  classHash : Option FieldElement
  entryPointType : EntryPointType
  entryPointSelector : FieldElement
  calldata : List FieldElement
  storageAddress : FieldElement
  callerAddress : FieldElement
  callType : CallType
  deriving DecidableEq, Repr

/-- `CallInfo.execution`: what the call returned and emitted itself. -/
structure CallExecution where
  retdata : List FieldElement
  events : List (Ordered EventContent)
  l2ToL1Messages : List (Ordered MessageToL1Content)
  deriving DecidableEq, Repr

/-- `blockifier::execution::entry_point::CallInfo`. -/
inductive CallInfo where
  | mk (call : CallEntryPoint) (execution : CallExecution) (innerCalls : List CallInfo)
  deriving Repr

def CallInfo.call : CallInfo → CallEntryPoint
  | .mk call _ _ => call

def CallInfo.execution : CallInfo → CallExecution
  | .mk _ execution _ => execution

def CallInfo.innerCalls : CallInfo → List CallInfo
  | .mk _ _ innerCalls => innerCalls

/-- `starknet_api::transaction::Event`: an event with the address of the
contract that emitted it. -/
structure Event where
  fromAddress : FieldElement
  content : EventContent
  deriving DecidableEq, Repr

/-- `starknet_api::transaction::MessageToL1`. -/
structure MessageToL1 where
  fromAddress : FieldElement
  toAddress : EthAddress
  payload : List FieldElement
  deriving DecidableEq, Repr

/-! ### The ordered walk -/

section Walk

variable {α : Type}

/-- The first `continue` branch of the loop, repeated: the longest run of items
whose orders are `next`, `next + 1`, …, the items left after it, and the order
expected next. -/
def takeInOrder : List (Ordered α) → Nat → List (Ordered α) × List (Ordered α) × Nat
  | [], next => ([], [], next)
  | item :: items, next =>
    if item.order = next then
      let (taken, rest, after) := takeInOrder items (next + 1)
      (item :: taken, rest, after)
    else ([], item :: items, next)

mutual

/-- The walk over one call: the items taken, each with the call's storage
address, in the order they were taken, and the order expected after them. -/
def collectInCallInfo (select : CallExecution → List (Ordered α)) :
    CallInfo → Nat → List (FieldElement × α) × Nat
  | .mk call execution innerCalls, next =>
    collectLoop select call.storageAddress (select execution) innerCalls next

/-- The loop of one call: take items in order, then descend into the next inner
call and loop again; with no inner call left, stop. -/
def collectLoop (select : CallExecution → List (Ordered α)) (address : FieldElement) :
    List (Ordered α) → List CallInfo → Nat → List (FieldElement × α) × Nat
  | items, [], next =>
    let (taken, _, after) := takeInOrder items next
    (taken.map fun item => (address, item.content), after)
  | items, inner :: innerCalls, next =>
    let (taken, rest, after) := takeInOrder items next
    let (deeper, afterInner) := collectInCallInfo select inner after
    let (later, final) := collectLoop select address rest innerCalls afterInner
    ((taken.map fun item => (address, item.content)) ++ deeper ++ later, final)

end

end Walk

/-- `emit_events_in_call_info`: the events deposited and appended to `TxEvents`,
in that order, and the next expected event order. -/
def emitEventsInCallInfo (callInfo : CallInfo) (nextOrder : Nat) : List Event × Nat :=
  let (collected, after) := collectInCallInfo CallExecution.events callInfo nextOrder
  (collected.map fun (address, content) => ⟨address, content⟩, after)

/-- `aggregate_messages_in_call_info`: the messages appended to `TxMessages`,
in that order, and the next expected message order. -/
def aggregateMessagesInCallInfo (callInfo : CallInfo) (nextOrder : Nat) : List MessageToL1 × Nat :=
  let (collected, after) := collectInCallInfo CallExecution.l2ToL1Messages callInfo nextOrder
  (collected.map fun (address, content) => ⟨address, content.toAddress, content.payload⟩, after)

/-! ### How the blockifier numbers what calls emit

A call, as the blockifier runs it, is a sequence of steps: it emits an event,
sends a message, or makes an inner call. Every call run with one
`EntryPointExecutionContext` takes the order of an event from the context's
event counter and that of a message from its message counter, each advanced by
one, so the orders count the events (and, separately, the messages) of all
those calls in the order they ran. `CallTrace.number` is this numbering from
given counters; `CallTrace.emitted` lists what was emitted in that order. -/

mutual

/-- A call as it ran: its entry point, what it returned, and its steps in order. -/
inductive CallTrace where
  | mk (call : CallEntryPoint) (retdata : List FieldElement) (steps : List TraceStep)

inductive TraceStep where
  | event (content : EventContent)
  | message (content : MessageToL1Content)
  | call (inner : CallTrace)

end

/-- The counters of an `EntryPointExecutionContext`: `n_emitted_events` and
`n_sent_messages_to_l1`. -/
structure Counters where
  events : Nat
  messages : Nat
  deriving DecidableEq, Repr

/-- The counters of a fresh context. -/
def Counters.fresh : Counters := ⟨0, 0⟩

mutual

/-- The call tree the blockifier returns for a call run from the given
counters, and the counters after it. -/
def CallTrace.number : CallTrace → Counters → CallInfo × Counters
  | .mk call retdata steps, counters =>
    let (execution, innerCalls, after) := numberSteps steps counters
    (.mk call { execution with retdata } innerCalls, after)

/-- The steps of one call, numbered: the call's own events and messages, its
inner calls, and the counters after them. -/
def numberSteps : List TraceStep → Counters → CallExecution × List CallInfo × Counters
  | [], counters => (⟨[], [], []⟩, [], counters)
  | .event content :: steps, counters =>
    let (execution, innerCalls, after) := numberSteps steps { counters with events := counters.events + 1 }
    ({ execution with events := ⟨counters.events, content⟩ :: execution.events }, innerCalls, after)
  | .message content :: steps, counters =>
    let (execution, innerCalls, after) :=
      numberSteps steps { counters with messages := counters.messages + 1 }
    ({ execution with l2ToL1Messages := ⟨counters.messages, content⟩ :: execution.l2ToL1Messages },
      innerCalls, after)
  | .call inner :: steps, counters =>
    let (callInfo, afterInner) := inner.number counters
    let (execution, innerCalls, after) := numberSteps steps afterInner
    (execution, callInfo :: innerCalls, after)

end

def TraceStep.event? : TraceStep → Option EventContent
  | .event content => some content
  | _ => none

def TraceStep.message? : TraceStep → Option MessageToL1Content
  | .message content => some content
  | _ => none

section Emitted

variable {α : Type}

mutual

/-- What a call and the calls it made emitted of one kind, in the order they
ran, each with the storage address of the call that emitted it. -/
def CallTrace.emitted (pick : TraceStep → Option α) : CallTrace → List (FieldElement × α)
  | .mk call _ steps => stepsEmitted pick call.storageAddress steps

def stepsEmitted (pick : TraceStep → Option α) (address : FieldElement) :
    List TraceStep → List (FieldElement × α)
  | [] => []
  | .call inner :: steps => inner.emitted pick ++ stepsEmitted pick address steps
  | step :: steps => (pick step).toList.map (address, ·) ++ stepsEmitted pick address steps

end

end Emitted

/-- The events of a call in execution order, as `starknet_api` events. -/
def CallTrace.events (trace : CallTrace) : List Event :=
  (trace.emitted TraceStep.event?).map fun (address, content) => ⟨address, content⟩

/-- The messages of a call in execution order. -/
def CallTrace.messages (trace : CallTrace) : List MessageToL1 :=
  (trace.emitted TraceStep.message?).map fun (address, content) =>
    ⟨address, content.toAddress, content.payload⟩

/-! ### A walk started below the numbering -/

section Shifted

variable {α : Type}

theorem number_mk (call : CallEntryPoint) (retdata : List FieldElement) (steps : List TraceStep)
    (counters : Counters) :
    (CallTrace.mk call retdata steps).number counters =
      (.mk call { (numberSteps steps counters).1 with retdata } (numberSteps steps counters).2.1,
        (numberSteps steps counters).2.2) := rfl

theorem numberSteps_event (content : EventContent) (steps : List TraceStep) (counters : Counters) :
    numberSteps (.event content :: steps) counters =
      ({ (numberSteps steps ⟨counters.events + 1, counters.messages⟩).1 with
          events := ⟨counters.events, content⟩ :: (numberSteps steps ⟨counters.events + 1, counters.messages⟩).1.events },
        (numberSteps steps ⟨counters.events + 1, counters.messages⟩).2.1,
        (numberSteps steps ⟨counters.events + 1, counters.messages⟩).2.2) := rfl

theorem numberSteps_message (content : MessageToL1Content) (steps : List TraceStep) (counters : Counters) :
    numberSteps (.message content :: steps) counters =
      ({ (numberSteps steps ⟨counters.events, counters.messages + 1⟩).1 with
          l2ToL1Messages := ⟨counters.messages, content⟩ ::
            (numberSteps steps ⟨counters.events, counters.messages + 1⟩).1.l2ToL1Messages },
        (numberSteps steps ⟨counters.events, counters.messages + 1⟩).2.1,
        (numberSteps steps ⟨counters.events, counters.messages + 1⟩).2.2) := rfl

theorem numberSteps_call (inner : CallTrace) (steps : List TraceStep) (counters : Counters) :
    numberSteps (.call inner :: steps) counters =
      ((numberSteps steps (inner.number counters).2).1,
        (inner.number counters).1 :: (numberSteps steps (inner.number counters).2).2.1,
        (numberSteps steps (inner.number counters).2).2.2) := rfl

/-- `takeInOrder` takes nothing when every item comes after the expected order. -/
theorem takeInOrder_of_lt {items : List (Ordered α)} {next : Nat} (later : ∀ item ∈ items, next < item.order) :
    takeInOrder items next = ([], items, next) := by
  cases items with
  | nil => rfl
  | cons item items =>
    have differs : item.order ≠ next := Nat.ne_of_gt (later item List.mem_cons_self)
    simp [takeInOrder, differs]

/-- A loop started below the orders of the call's own items, over inner calls
that each yield nothing from there, takes nothing. -/
theorem collectLoop_of_lt {select : CallExecution → List (Ordered α)} {address : FieldElement}
    {items : List (Ordered α)} {next : Nat} (later : ∀ item ∈ items, next < item.order)
    (calls : List CallInfo) (inner : ∀ call ∈ calls, collectInCallInfo select call next = ([], next)) :
    collectLoop select address items calls next = ([], next) := by
  induction calls with
  | nil => simp [collectLoop, takeInOrder_of_lt later]
  | cons call calls ih =>
    have rest := ih fun other mem => inner other (List.mem_cons_of_mem _ mem)
    simp [collectLoop, takeInOrder_of_lt later, inner call List.mem_cons_self, rest]

mutual

/-- A call numbered from `counters` leaves the event counter no lower, and the
walk over its events from any lower order takes nothing. -/
theorem number_events_above : (trace : CallTrace) → (counters : Counters) →
    counters.events ≤ (trace.number counters).2.events ∧
      ∀ next < counters.events, collectInCallInfo CallExecution.events (trace.number counters).1 next = ([], next)
  | .mk call retdata steps, counters => by
    obtain ⟨own, inner, after⟩ := numberSteps_events_above steps counters
    rw [number_mk]
    refine ⟨after, fun next below => ?_⟩
    exact collectLoop_of_lt (fun item mem => Nat.lt_of_lt_of_le below (own item mem)) _
      fun callInfo mem => inner callInfo mem next below

/-- The steps of a call numbered from `counters`: its own events come at or
after the counter, its inner calls yield nothing to a walk from below it, and
the counter only grows. -/
theorem numberSteps_events_above : (steps : List TraceStep) → (counters : Counters) →
    (∀ item ∈ (numberSteps steps counters).1.events, counters.events ≤ item.order) ∧
      (∀ callInfo ∈ (numberSteps steps counters).2.1, ∀ next < counters.events,
        collectInCallInfo CallExecution.events callInfo next = ([], next)) ∧
      counters.events ≤ (numberSteps steps counters).2.2.events
  | [], _ => ⟨by simp [numberSteps], by simp [numberSteps], Nat.le_refl _⟩
  | .event content :: steps, counters => by
    obtain ⟨own, inner, after⟩ := numberSteps_events_above steps ⟨counters.events + 1, counters.messages⟩
    rw [numberSteps_event]
    dsimp only at own inner after ⊢
    refine ⟨fun item mem => ?_, fun callInfo mem next below => inner callInfo mem next (by omega), by omega⟩
    rcases List.mem_cons.1 mem with rfl | mem
    · exact Nat.le_refl _
    · have := own item mem
      omega
  | .message content :: steps, counters => by
    obtain ⟨own, inner, after⟩ := numberSteps_events_above steps ⟨counters.events, counters.messages + 1⟩
    rw [numberSteps_message]
    exact ⟨own, inner, after⟩
  | .call trace :: steps, counters => by
    obtain ⟨afterInner, walk⟩ := number_events_above trace counters
    obtain ⟨own, inner, after⟩ := numberSteps_events_above steps (trace.number counters).2
    rw [numberSteps_call]
    refine ⟨fun item mem => Nat.le_trans afterInner (own item mem), ?_, Nat.le_trans afterInner after⟩
    intro callInfo mem next below
    rcases List.mem_cons.1 mem with rfl | mem
    · exact walk next below
    · exact inner callInfo mem next (Nat.lt_of_lt_of_le below afterInner)

end

/-- `emit_events_in_call_info` from order `0` over a call numbered in a
context that had already counted an event records nothing. -/
theorem emitEventsInCallInfo_of_shifted (trace : CallTrace) {counters : Counters}
    (shifted : 0 < counters.events) : emitEventsInCallInfo (trace.number counters).1 0 = ([], 0) := by
  simp [emitEventsInCallInfo, (number_events_above trace counters).2 0 shifted]

end Shifted

/-! ### The walk against the order the calls ran in

A tree records each call's own items and its inner calls apart; the order in
which they ran interleaves them. `RunOrder` and `LoopOrder` read an execution
order off a tree: a call's own items in the order it holds them, interleaved
with its inner calls in their order, each inner call's items together. When
the orders of the items count up from `k` along such an execution order, the
walk from `k` takes exactly those items, in that order, and returns `k` plus
their number (`collectInCallInfo_of_runOrder`). Whatever the tree, the walk
takes items of the tree, none twice, numbered up from `k`
(`collectInCallInfo_counted`). -/

section Order

variable {α : Type}

mutual

/-- `RunOrder select call seq`: `seq` is an order in which `call` and the
calls under it can have emitted the items `select` reads, each with the
storage address of the call that emitted it. -/
inductive RunOrder (select : CallExecution → List (Ordered α)) :
    CallInfo → List (FieldElement × Ordered α) → Prop
  | mk {call : CallEntryPoint} {execution : CallExecution} {innerCalls : List CallInfo}
      {seq : List (FieldElement × Ordered α)} :
      LoopOrder select call.storageAddress (select execution) innerCalls seq →
      RunOrder select (.mk call execution innerCalls) seq

/-- `LoopOrder select address items calls seq`: `seq` interleaves a call's own
`items`, in their order, with the runs of its inner `calls`, in theirs. -/
inductive LoopOrder (select : CallExecution → List (Ordered α)) :
    FieldElement → List (Ordered α) → List CallInfo → List (FieldElement × Ordered α) → Prop
  | nil {address : FieldElement} : LoopOrder select address [] [] []
  | own {address : FieldElement} {item : Ordered α} {items : List (Ordered α)} {calls : List CallInfo}
      {seq : List (FieldElement × Ordered α)} :
      LoopOrder select address items calls seq →
      LoopOrder select address (item :: items) calls ((address, item) :: seq)
  | call {address : FieldElement} {items : List (Ordered α)} {inner : CallInfo} {calls : List CallInfo}
      {innerSeq seq : List (FieldElement × Ordered α)} :
      RunOrder select inner innerSeq → LoopOrder select address items calls seq →
      LoopOrder select address items (inner :: calls) (innerSeq ++ seq)

end

/-- The orders of the items of `seq` are `k`, `k + 1`, …, in that order. -/
def CountsFrom (k : Nat) (seq : List (FieldElement × Ordered α)) : Prop :=
  seq.map (·.2.order) = List.range' k seq.length

/-- What the walk records of an item: the address and the content. -/
def recorded (entry : FieldElement × Ordered α) : FieldElement × α := (entry.1, entry.2.content)

theorem countsFrom_nil (k : Nat) : CountsFrom k ([] : List (FieldElement × Ordered α)) := rfl

theorem countsFrom_cons {k : Nat} {entry : FieldElement × Ordered α} {seq : List (FieldElement × Ordered α)} :
    CountsFrom k (entry :: seq) ↔ entry.2.order = k ∧ CountsFrom (k + 1) seq := by
  simp [CountsFrom, List.range'_succ]

theorem countsFrom_append {k : Nat} {first second : List (FieldElement × Ordered α)} :
    CountsFrom k (first ++ second) ↔ CountsFrom k first ∧ CountsFrom (k + first.length) second := by
  unfold CountsFrom
  rw [List.map_append, List.length_append, ← List.range'_append_1]
  constructor
  · intro joined
    exact List.append_inj joined (by simp)
  · rintro ⟨firstCounts, secondCounts⟩
    rw [firstCounts, secondCounts]

/-- Counted items are distinct. -/
theorem CountsFrom.nodup {k : Nat} {seq : List (FieldElement × Ordered α)} (counts : CountsFrom k seq) :
    seq.Nodup :=
  List.Nodup.of_map (·.2.order) (counts ▸ List.nodup_range')

/-- Among counted items, the one numbered `k` comes first. -/
theorem CountsFrom.eq_cons_of_mem {k : Nat} {seq : List (FieldElement × Ordered α)} (counts : CountsFrom k seq)
    {entry : FieldElement × Ordered α} (member : entry ∈ seq) (first : entry.2.order = k) :
    seq = entry :: seq.drop 1 := by
  obtain ⟨i, within, rfl⟩ := List.getElem_of_mem member
  have atI : seq[i].2.order = k + i := by
    have read := congrArg (fun orders => orders[i]?) counts
    simp only [List.getElem?_map, List.getElem?_eq_getElem within, Option.map_some,
      List.getElem?_range' within] at read
    simpa using read
  obtain rfl : i = 0 := by omega
  exact (List.getElem_cons_drop within).symm

/-- `takeInOrder` takes the item numbered `next` and goes on from `next + 1`. -/
theorem takeInOrder_cons_of_eq {item : Ordered α} {items : List (Ordered α)} {next : Nat}
    (ordered : item.order = next) :
    takeInOrder (item :: items) next =
      (item :: (takeInOrder items (next + 1)).1, (takeInOrder items (next + 1)).2) := by
  simp [takeInOrder, ordered]

/-- `takeInOrder` takes nothing when the first item is not numbered `next`. -/
theorem takeInOrder_of_head_ne {items : List (Ordered α)} {next : Nat}
    (stuck : ∀ item ∈ items.head?, item.order ≠ next) : takeInOrder items next = ([], items, next) := by
  cases items with
  | nil => rfl
  | cons item items => simp [takeInOrder, stuck item rfl]

/-- `takeInOrder` takes every item of a list counted from `next`. -/
theorem takeInOrder_of_countsFrom {address : FieldElement} {items : List (Ordered α)} {next : Nat}
    (counts : CountsFrom next (items.map (address, ·))) : takeInOrder items next = (items, [], next + items.length) := by
  induction items generalizing next with
  | nil => rfl
  | cons item items ih =>
    obtain ⟨first, rest⟩ := countsFrom_cons.mp counts
    rw [takeInOrder_cons_of_eq first, ih rest]
    simp only [List.length_cons]
    rw [Nat.add_assoc, Nat.add_comm 1]

/-- `takeInOrder` takes a prefix of the items, counted from `next`, and goes on
after it. -/
theorem takeInOrder_spec (address : FieldElement) (items : List (Ordered α)) (next : Nat) :
    ∃ n ≤ items.length, takeInOrder items next = (items.take n, items.drop n, next + n) ∧
      CountsFrom next ((items.take n).map (address, ·)) := by
  induction items generalizing next with
  | nil => exact ⟨0, le_refl 0, rfl, rfl⟩
  | cons item items ih =>
    by_cases ordered : item.order = next
    · obtain ⟨n, within, taken, counts⟩ := ih (next + 1)
      refine ⟨n + 1, Nat.succ_le_succ within, ?_, ?_⟩
      · rw [takeInOrder_cons_of_eq ordered, taken]
        simp only [List.take_succ_cons, List.drop_succ_cons]
        rw [Nat.add_comm n 1, Nat.add_assoc]
      · rw [List.take_succ_cons, List.map_cons, countsFrom_cons]
        exact ⟨ordered, counts⟩
    · refine ⟨0, Nat.zero_le _, takeInOrder_of_head_ne (fun other same => ?_), rfl⟩
      cases same
      exact ordered

section Walk

variable (select : CallExecution → List (Ordered α)) (address : FieldElement)

/-- The loop takes the item numbered `next` and goes on from `next + 1`. -/
theorem collectLoop_cons_of_eq {item : Ordered α} {items : List (Ordered α)} {calls : List CallInfo}
    {next : Nat} (ordered : item.order = next) :
    collectLoop select address (item :: items) calls next =
      ((address, item.content) :: (collectLoop select address items calls (next + 1)).1,
        (collectLoop select address items calls (next + 1)).2) := by
  cases calls with
  | nil => simp only [collectLoop, takeInOrder_cons_of_eq ordered, List.map_cons]
  | cons inner calls => simp only [collectLoop, takeInOrder_cons_of_eq ordered, List.map_cons, List.cons_append]

/-- With no own item numbered `next`, the loop descends into its next inner call. -/
theorem collectLoop_call_of_head_ne {items : List (Ordered α)} {inner : CallInfo} {calls : List CallInfo}
    {next : Nat} (stuck : ∀ item ∈ items.head?, item.order ≠ next) :
    collectLoop select address items (inner :: calls) next =
      ((collectInCallInfo select inner next).1 ++
          (collectLoop select address items calls (collectInCallInfo select inner next).2).1,
        (collectLoop select address items calls (collectInCallInfo select inner next).2).2) := by
  simp only [collectLoop, takeInOrder_of_head_ne stuck, List.map_nil, List.nil_append]

end Walk

variable {select : CallExecution → List (Ordered α)} {address : FieldElement}

/-- With no inner call, an order lists the own items. -/
theorem LoopOrder.eq_map_of_nil {items : List (Ordered α)} {seq : List (FieldElement × Ordered α)}
    (order : LoopOrder select address items [] seq) : seq = items.map (address, ·) := by
  induction items generalizing seq with
  | nil =>
    cases order
    rfl
  | cons item items ih =>
    cases order with
    | own rest => rw [ih rest, List.map_cons]

/-- Every own item is in an order, with the call's address. -/
theorem LoopOrder.mem {items : List (Ordered α)} {calls : List CallInfo} {seq : List (FieldElement × Ordered α)}
    (order : LoopOrder select address items calls seq) : ∀ item ∈ items, (address, item) ∈ seq := by
  induction calls generalizing items seq with
  | nil =>
    intro item member
    rw [order.eq_map_of_nil]
    exact List.mem_map_of_mem member
  | cons inner calls ih =>
    induction items generalizing seq with
    | nil => exact fun _ member => absurd member List.not_mem_nil
    | cons first items ihItems =>
      intro item member
      cases order with
      | own rest =>
        rcases List.mem_cons.mp member with rfl | later
        · exact List.mem_cons_self
        · exact List.mem_cons_of_mem _ (ihItems rest item later)
      | call _ rest => exact List.mem_append_right _ (ih rest item member)

/-- In an order counted from `k`, an own item numbered `k` is the first item;
inner calls that come before it in the order emitted nothing. -/
theorem LoopOrder.own_first {item : Ordered α} {items : List (Ordered α)} {calls : List CallInfo}
    {seq : List (FieldElement × Ordered α)} {k : Nat} (order : LoopOrder select address (item :: items) calls seq)
    (counts : CountsFrom k seq) (first : item.order = k) :
    ∃ rest, seq = (address, item) :: rest ∧ LoopOrder select address items calls rest := by
  induction calls generalizing seq with
  | nil =>
    cases order with
    | own rest => exact ⟨_, rfl, rest⟩
  | cons inner calls ih =>
    cases order with
    | own rest => exact ⟨_, rfl, rest⟩
    | call innerRun rest =>
      rename_i innerSeq seq
      -- the item numbered `k` heads the order, so the inner call before it emitted nothing
      have atHead := counts.eq_cons_of_mem (List.mem_append_right _ (rest.mem item List.mem_cons_self)) first
      have empty : innerSeq = [] := by
        cases innerSeq with
        | nil => rfl
        | cons head tail =>
          rw [List.cons_append] at atHead
          obtain ⟨same, -⟩ := List.cons.inj atHead
          have twice := counts.nodup
          rw [List.cons_append, same, List.nodup_cons] at twice
          exact absurd (List.mem_append_right _ (rest.mem item List.mem_cons_self)) twice.1
      subst empty
      obtain ⟨tail, rfl, tailOrder⟩ := ih rest counts
      exact ⟨tail, rfl, .call innerRun tailOrder⟩

/-- A walk from `k` over a tree whose run is counted from `k` takes exactly
the items of the run, in order. -/
def WalksInOrder (select : CallExecution → List (Ordered α)) (tree : CallInfo) : Prop :=
  ∀ seq k, RunOrder select tree seq → CountsFrom k seq →
    collectInCallInfo select tree k = (seq.map recorded, k + seq.length)

/-- The loop of a call, over inner calls that each walk in order, takes the
items of an order counted from `k`, in that order. -/
theorem collectLoop_of_loopOrder (calls : List CallInfo) (inners : ∀ inner ∈ calls, WalksInOrder select inner) :
    ∀ (items : List (Ordered α)) seq k, LoopOrder select address items calls seq → CountsFrom k seq →
      collectLoop select address items calls k = (seq.map recorded, k + seq.length) := by
  induction calls with
  | nil =>
    intro items seq k order counts
    rw [order.eq_map_of_nil] at counts ⊢
    cases items with
    | nil => rfl
    | cons item items =>
      simp only [collectLoop, takeInOrder_of_countsFrom counts, List.map_map, List.length_map]
      rfl
  | cons inner calls ih =>
    have innerWalks := inners inner List.mem_cons_self
    have laterWalk := ih fun other member => inners other (List.mem_cons_of_mem _ member)
    intro items
    induction items with
    | nil =>
      intro seq k order counts
      cases order with
      | call innerRun rest =>
        rename_i innerSeq seq
        obtain ⟨innerCounts, restCounts⟩ := countsFrom_append.mp counts
        rw [collectLoop_call_of_head_ne select address (fun _ none => by cases none),
          innerWalks innerSeq k innerRun innerCounts, laterWalk [] seq _ rest restCounts]
        simp [Nat.add_assoc]
    | cons item items ihItems =>
      intro seq k order counts
      by_cases ordered : item.order = k
      · -- the own item comes first
        obtain ⟨rest, rfl, restOrder⟩ := order.own_first counts ordered
        rw [collectLoop_cons_of_eq select address ordered,
          ihItems rest (k + 1) restOrder (countsFrom_cons.mp counts).2]
        simp only [List.map_cons, List.length_cons]
        rw [Nat.add_assoc, Nat.add_comm 1]
        rfl
      · -- the inner call comes first
        cases order with
        | own rest => exact absurd (countsFrom_cons.mp counts).1 ordered
        | call innerRun rest =>
          rename_i innerSeq seq
          obtain ⟨innerCounts, restCounts⟩ := countsFrom_append.mp counts
          rw [collectLoop_call_of_head_ne select address (fun other same => by cases same; exact ordered),
            innerWalks innerSeq k innerRun innerCounts, laterWalk _ seq _ rest restCounts]
          simp [Nat.add_assoc]

mutual

/-- Every call tree walks in order. -/
theorem collectInCallInfo_of_runOrder : (tree : CallInfo) → WalksInOrder select tree
  | .mk call execution innerCalls => by
    intro seq k order counts
    cases order with
    | mk loop => exact collectLoop_of_loopOrder innerCalls (callsWalkInOrder innerCalls) _ seq k loop counts

theorem callsWalkInOrder : (calls : List CallInfo) → ∀ inner ∈ calls, WalksInOrder select inner
  | [] => fun _ member => absurd member List.not_mem_nil
  | first :: calls => fun inner member =>
    (List.mem_cons.mp member).elim (fun same => same ▸ collectInCallInfo_of_runOrder first)
      (callsWalkInOrder calls inner)

end

mutual

/-- The items `select` reads from a tree, call by call: a call's own items,
with its address, then those of its inner calls. -/
def CallInfo.items (select : CallExecution → List (Ordered α)) : CallInfo → List (FieldElement × Ordered α)
  | .mk call execution innerCalls =>
    (select execution).map (call.storageAddress, ·) ++ itemsOfCalls select innerCalls

/-- The items of a list of calls, call after call. -/
def itemsOfCalls (select : CallExecution → List (Ordered α)) : List CallInfo → List (FieldElement × Ordered α)
  | [] => []
  | inner :: calls => inner.items select ++ itemsOfCalls select calls

end

/-- From any `k`, the walk takes items of the tree, none twice and numbered up
from `k`, and returns `k` plus their number. -/
def WalksCounted (select : CallExecution → List (Ordered α)) (tree : CallInfo) : Prop :=
  ∀ k, ∃ taken, taken.Subperm (tree.items select) ∧ CountsFrom k taken ∧
    collectInCallInfo select tree k = (taken.map recorded, k + taken.length)

/-- What the walk takes of the own items it can take next. -/
theorem collectLoop_nil_counted (items : List (Ordered α)) (k : Nat) :
    ∃ taken, taken.Subperm (items.map (address, ·)) ∧ CountsFrom k taken ∧
      collectLoop select address items [] k = (taken.map recorded, k + taken.length) := by
  obtain ⟨n, within, taking, counts⟩ := takeInOrder_spec address items k
  refine ⟨(items.take n).map (address, ·), ((List.take_sublist n items).map _).subperm, counts, ?_⟩
  simp only [collectLoop, taking, List.map_map, List.length_map, List.length_take, Nat.min_eq_left within]
  rfl

/-- The loop of a call, over inner calls that each walk counted, takes items
of the call and its inner calls, none twice and numbered up from `k`. -/
theorem collectLoop_counted (calls : List CallInfo) (inners : ∀ inner ∈ calls, WalksCounted select inner) :
    ∀ (items : List (Ordered α)) k, ∃ taken,
      taken.Subperm (items.map (address, ·) ++ itemsOfCalls select calls) ∧ CountsFrom k taken ∧
        collectLoop select address items calls k = (taken.map recorded, k + taken.length) := by
  induction calls with
  | nil =>
    intro items k
    simpa [itemsOfCalls] using collectLoop_nil_counted items k
  | cons inner calls ih =>
    intro items k
    -- own items first, then the inner call, then the loop over the rest
    obtain ⟨n, within, taking, ownCounts⟩ := takeInOrder_spec address items k
    obtain ⟨deeper, deeperItems, deeperCounts, descended⟩ := inners inner List.mem_cons_self (k + n)
    obtain ⟨later, laterItems, laterCounts, continued⟩ :=
      ih (fun other member => inners other (List.mem_cons_of_mem _ member)) (items.drop n)
        (k + n + deeper.length)
    let own := (items.take n).map (address, ·)
    refine ⟨own ++ deeper ++ later, ?_, ?_, ?_⟩
    · -- the inner call's items and the rest of the own items may change places
      have swapped : (deeper ++ later).Subperm
          ((items.drop n).map (address, ·) ++ (inner.items select ++ itemsOfCalls select calls)) := by
        have inOrder := deeperItems.append laterItems
        refine inOrder.trans (List.Perm.subperm ?_)
        rw [← List.append_assoc, ← List.append_assoc]
        exact List.perm_append_comm.append_right _
      rw [List.append_assoc, itemsOfCalls, ← List.take_append_drop n items, List.map_append, List.append_assoc]
      exact (List.subperm_append_left own).mpr swapped
    · have ownLength : own.length = n := by simp [own, Nat.min_eq_left within]
      refine countsFrom_append.mpr ⟨countsFrom_append.mpr ⟨ownCounts, ?_⟩, ?_⟩
      · rwa [ownLength]
      · rwa [List.length_append, ownLength, ← Nat.add_assoc]
    · simp only [collectLoop, taking, descended, continued, List.map_append, List.length_append, own,
        List.map_map, List.length_map, List.length_take, Nat.min_eq_left within]
      refine Prod.ext rfl ?_
      simp only [Nat.add_assoc]

mutual

/-- Every call tree walks counted. -/
theorem collectInCallInfo_counted : (tree : CallInfo) → WalksCounted select tree
  | .mk _ execution innerCalls => fun k =>
    collectLoop_counted innerCalls (callsWalkCounted innerCalls) (select execution) k

theorem callsWalkCounted : (calls : List CallInfo) → ∀ inner ∈ calls, WalksCounted select inner
  | [] => fun _ member => absurd member List.not_mem_nil
  | first :: calls => fun inner member =>
    (List.mem_cons.mp member).elim (fun same => same ▸ collectInCallInfo_counted first)
      (callsWalkCounted calls inner)

end

/-! ### The pallet's two walks -/

/-- The event the pallet appends for an item: the content, from the address
of the call that emitted it. -/
def eventOf (entry : FieldElement × Ordered EventContent) : Event := ⟨entry.1, entry.2.content⟩

/-- The message the pallet appends for an item, from the address of the call
that sent it. -/
def messageOf (entry : FieldElement × Ordered MessageToL1Content) : MessageToL1 :=
  ⟨entry.1, entry.2.content.toAddress, entry.2.content.payload⟩

theorem emitEventsInCallInfo_of_collect {tree : CallInfo} {k after : Nat}
    {seq : List (FieldElement × Ordered EventContent)}
    (walked : collectInCallInfo CallExecution.events tree k = (seq.map recorded, after)) :
    emitEventsInCallInfo tree k = (seq.map eventOf, after) := by
  simp only [emitEventsInCallInfo, walked, List.map_map]
  rfl

theorem aggregateMessagesInCallInfo_of_collect {tree : CallInfo} {k after : Nat}
    {seq : List (FieldElement × Ordered MessageToL1Content)}
    (walked : collectInCallInfo CallExecution.l2ToL1Messages tree k = (seq.map recorded, after)) :
    aggregateMessagesInCallInfo tree k = (seq.map messageOf, after) := by
  simp only [aggregateMessagesInCallInfo, walked, List.map_map]
  rfl

/-- Both walks append the items of a tree in the order they were emitted, each
once and from the address of its call, when their orders count up from `k`
along an execution order; over any tree they append items of the tree, none
twice, numbered `k`, `k + 1`, …; and they return `k` plus what they
appended. -/
theorem call_tree_walks_in_execution_order (tree : CallInfo) (k : Nat) :
    (∀ seq, RunOrder CallExecution.events tree seq → CountsFrom k seq →
        emitEventsInCallInfo tree k = (seq.map eventOf, k + seq.length)) ∧
      (∀ seq, RunOrder CallExecution.l2ToL1Messages tree seq → CountsFrom k seq →
        aggregateMessagesInCallInfo tree k = (seq.map messageOf, k + seq.length)) ∧
      (∃ taken, taken.Subperm (tree.items CallExecution.events) ∧ CountsFrom k taken ∧
        emitEventsInCallInfo tree k = (taken.map eventOf, k + taken.length)) ∧
      (∃ taken, taken.Subperm (tree.items CallExecution.l2ToL1Messages) ∧ CountsFrom k taken ∧
        aggregateMessagesInCallInfo tree k = (taken.map messageOf, k + taken.length)) := by
  refine ⟨fun seq order counts => ?_, fun seq order counts => ?_, ?_, ?_⟩
  · exact emitEventsInCallInfo_of_collect (collectInCallInfo_of_runOrder tree seq k order counts)
  · exact aggregateMessagesInCallInfo_of_collect (collectInCallInfo_of_runOrder tree seq k order counts)
  · obtain ⟨taken, items, counts, walked⟩ := collectInCallInfo_counted tree k
    exact ⟨taken, items, counts, emitEventsInCallInfo_of_collect walked⟩
  · obtain ⟨taken, items, counts, walked⟩ := collectInCallInfo_counted tree k
    exact ⟨taken, items, counts, aggregateMessagesInCallInfo_of_collect walked⟩

/-- A call at `address` that emits the given events and makes the given calls. -/
def sandwichCall (address : FieldElement) (events : List (Ordered EventContent)) (innerCalls : List CallInfo) :
    CallInfo :=
  .mk ⟨none, .external, 0, [], address, 0, .call⟩ ⟨[], events, []⟩ innerCalls

/-- The pallet's sandwich test: a call at address 1 emits events 0, 2 and 4 and
calls a contract at address 2 twice, which emits events 1 and 3. -/
def sandwich : CallInfo :=
  sandwichCall 1 [⟨0, ⟨[], []⟩⟩, ⟨2, ⟨[], []⟩⟩, ⟨4, ⟨[], []⟩⟩]
    [sandwichCall 2 [⟨1, ⟨[], []⟩⟩] [], sandwichCall 2 [⟨3, ⟨[], []⟩⟩] []]

theorem call_tree_walks_sandwich :
    emitEventsInCallInfo sandwich 0 =
      ([⟨1, ⟨[], []⟩⟩, ⟨2, ⟨[], []⟩⟩, ⟨1, ⟨[], []⟩⟩, ⟨2, ⟨[], []⟩⟩, ⟨1, ⟨[], []⟩⟩], 5) := by
  let blank : EventContent := ⟨[], []⟩
  have order : RunOrder CallExecution.events sandwich
      [(1, ⟨0, blank⟩), (2, ⟨1, blank⟩), (1, ⟨2, blank⟩), (2, ⟨3, blank⟩), (1, ⟨4, blank⟩)] := by
    refine .mk (.own ?_)
    -- each inner call emits one event between two of the outer call's
    show LoopOrder _ _ _ _ ([(2, ⟨1, blank⟩)] ++ _)
    refine .call (.mk (.own .nil)) (.own ?_)
    show LoopOrder _ _ _ _ ([(2, ⟨3, blank⟩)] ++ _)
    exact .call (.mk (.own .nil)) (.own .nil)
  exact (call_tree_walks_in_execution_order sandwich 0).1 _ order rfl

end Order

end Madara.CallTree

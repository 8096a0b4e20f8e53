import Madara.CallTree
import Madara.State
import Madara.Lib.Transactional
import Madara.Lib.Relational

/-! The traces of the RPC (`client/rpc/src/trace_api.rs`).
`try_get_funtion_invocation_from_call_info` turns the blockifier's `CallInfo`
into a `FunctionInvocation`. It copies the entry point, converts the call's
events and messages, converts the inner calls one after another, and finds
the class hash when the call carries none, through a cache of class hashes by
address shared with every call converted before it.

1. **The tree is kept.** A conversion that succeeds gives the same calls in the
   same order, every event with the order the blockifier recorded, and every
   message sent from its call's storage address (`Converts`,
   `tryGetFuntionInvocationFromCallInfo_converts`). It succeeds whenever the
   blockifier's check of the message orders passes on every call and every
   call's class hash can be found (`tryGetFuntionInvocationFromCallInfo_ok`).
2. **The cache changes nothing.** It only holds what the storage override
   returns (`CacheSound`), so the class hash of every invocation is the call's
   own or the override's at its address, whatever was converted before. From
   any two sound caches a conversion gives the same invocation or fails with
   the same error (`tryGetFuntionInvocationFromCallInfo_agree`).
3. **Messages are numbered again.** `collect_call_info_ordered_messages` gives
   a message its index within its call, not the order the blockifier recorded.
   The two agree exactly when every call's messages were recorded as
   `0, 1, …` (`keepsOrders_iff`). The blockifier numbers the messages of the
   whole transaction, so a call that sends a message after an inner call has
   sent one is traced with the wrong order
   (`trace_conversion_renumbers_messages`). -/
namespace Madara.TraceApi

open Madara.Felt Madara.CallTree Madara.State Transactional Relational

/-- `starknet_core::types::OrderedEvent`. -/
structure OrderedEvent where
  order : Nat
  keys : List FieldElement
  data : List FieldElement
  deriving DecidableEq, Repr

/-- `starknet_core::types::OrderedMessage`. -/
structure OrderedMessage where
  order : Nat
  payload : List FieldElement
  toAddress : FieldElement
  fromAddress : FieldElement
  deriving DecidableEq, Repr

/-- `starknet_core::types::FunctionInvocation`. Its entry point and call types
have the blockifier's variants, which the conversion maps one to one. -/
structure FunctionInvocation where
  contractAddress : FieldElement
  entryPointSelector : FieldElement
  calldata : List FieldElement
  callerAddress : FieldElement
  classHash : FieldElement
  entryPointType : EntryPointType
  callType : CallType
  result : List FieldElement
  calls : List FunctionInvocation
  events : List OrderedEvent
  messages : List OrderedMessage
  deriving Repr

/-- `TryFuntionInvocationFromCallInfoError`. -/
inductive TryFuntionInvocationFromCallInfoError where
  | transactionExecution (error : TransactionExecutionError)
  | contractNotFound
  deriving DecidableEq, Repr

/-- `FieldElement::from_byte_slice_be` of the twenty bytes of an `EthAddress`:
the value is below `2^160`, so the `unwrap` never panics. -/
def feltOfEthAddress (address : EthAddress) : FieldElement :=
  ⟨address.val, lt_of_lt_of_le address.isLt (by decide)⟩

/-- `collect_call_info_ordered_messages`: each message of the call numbered by
its index in the call, and sent from the call's storage address. -/
def collectCallInfoOrderedMessages (callInfo : CallInfo) : List OrderedMessage :=
  callInfo.execution.l2ToL1Messages.zipIdx.map fun (message, index) =>
    { order := index
      payload := message.content.payload
      toAddress := feltOfEthAddress message.content.toAddress
      fromAddress := callInfo.call.storageAddress }

/-- `blockifier_to_starknet_rs_ordered_events`: each event with the order it
was recorded with. -/
def blockifierToStarknetRsOrderedEvents (orderedEvents : List (Ordered EventContent)) : List OrderedEvent :=
  orderedEvents.map fun event => ⟨event.order, event.content.keys, event.content.data⟩

/-- `class_hash_cache`, a `HashMap<ContractAddress, FieldElement>`. -/
abbrev ClassHashCache := FieldElement → Option FieldElement

section Conversion

variable (contractClassHashByAddress : FieldElement → Option FieldElement)
  (getSortedL2ToL1PayloadsLength : CallInfo → Except TransactionExecutionError (List Nat))

/-- The class hash of a call: the one it carries, else the one cached for its
storage address, else the one the storage override finds there, which is then
cached. -/
def classHashOf (call : CallEntryPoint) (classHashCache : ClassHashCache) :
    Except TryFuntionInvocationFromCallInfoError (FieldElement × ClassHashCache) :=
  match call.classHash with
  | some classHash => .ok (classHash, classHashCache)
  | none =>
    match classHashCache call.storageAddress with
    | some cachedHash => .ok (cachedHash, classHashCache)
    | none =>
      match contractClassHashByAddress call.storageAddress with
      | none => .error .contractNotFound
      | some computedHash =>
        .ok (computedHash, Function.update classHashCache call.storageAddress (some computedHash))

mutual

/-- `try_get_funtion_invocation_from_call_info`, given the storage override's
`contract_class_hash_by_address` at the block and the blockifier's
`CallInfo::get_sorted_l2_to_l1_payloads_length`, whose lengths it drops. -/
def tryGetFuntionInvocationFromCallInfo :
    CallInfo → ClassHashCache →
      Except TryFuntionInvocationFromCallInfoError (FunctionInvocation × ClassHashCache)
  | .mk call execution innerCalls, classHashCache => do
    let messages := collectCallInfoOrderedMessages (.mk call execution innerCalls)
    let events := blockifierToStarknetRsOrderedEvents execution.events
    let (innerInvocations, classHashCache) ← tryGetInnerCalls innerCalls classHashCache
    let _ ← (getSortedL2ToL1PayloadsLength (.mk call execution innerCalls)).mapError .transactionExecution
    let (classHash, classHashCache) ← classHashOf contractClassHashByAddress call classHashCache
    pure ({ contractAddress := call.storageAddress
            entryPointSelector := call.entryPointSelector
            calldata := call.calldata
            callerAddress := call.callerAddress
            classHash
            entryPointType := call.entryPointType
            callType := call.callType
            result := execution.retdata
            calls := innerInvocations
            events
            messages }, classHashCache)

/-- The inner calls, converted in order and collected into one `Result`: the
first failure stops it. -/
def tryGetInnerCalls :
    List CallInfo → ClassHashCache →
      Except TryFuntionInvocationFromCallInfoError (List FunctionInvocation × ClassHashCache)
  | [], classHashCache => .ok ([], classHashCache)
  | inner :: innerCalls, classHashCache => do
    let (invocation, classHashCache) ← tryGetFuntionInvocationFromCallInfo inner classHashCache
    let (invocations, classHashCache) ← tryGetInnerCalls innerCalls classHashCache
    pure (invocation :: invocations, classHashCache)

end

end Conversion

/-! ### What the conversion makes of a tree -/

mutual

/-- `P` holds of a call and of every call below it. -/
def Everywhere (P : CallInfo → Prop) : CallInfo → Prop
  | .mk call execution innerCalls => P (.mk call execution innerCalls) ∧ EverywhereIn P innerCalls

/-- `P` holds of every call of a list and every call below them. -/
def EverywhereIn (P : CallInfo → Prop) : List CallInfo → Prop
  | [] => True
  | inner :: innerCalls => Everywhere P inner ∧ EverywhereIn P innerCalls

end

/-- The fields an invocation takes from its call: the entry point as it is,
the events with their recorded orders, and the messages as
`collect_call_info_ordered_messages` numbers them. -/
structure Copies (callInfo : CallInfo) (invocation : FunctionInvocation) : Prop where
  contractAddress : invocation.contractAddress = callInfo.call.storageAddress
  entryPointSelector : invocation.entryPointSelector = callInfo.call.entryPointSelector
  calldata : invocation.calldata = callInfo.call.calldata
  callerAddress : invocation.callerAddress = callInfo.call.callerAddress
  entryPointType : invocation.entryPointType = callInfo.call.entryPointType
  callType : invocation.callType = callInfo.call.callType
  result : invocation.result = callInfo.execution.retdata
  events : invocation.events = blockifierToStarknetRsOrderedEvents callInfo.execution.events
  messages : invocation.messages = collectCallInfoOrderedMessages callInfo

section Spec

variable (contractClassHashByAddress : FieldElement → Option FieldElement)

/-- The class hash reported for a call: the one it carries, or, when it
carries none, the one the storage override finds at its address. -/
def Resolves (call : CallEntryPoint) (classHash : FieldElement) : Prop :=
  call.classHash = some classHash ∨ (call.classHash = none ∧ contractClassHashByAddress call.storageAddress = some classHash)

/-- Every class hash in the cache is the one the override finds at its address. -/
def CacheSound (classHashCache : ClassHashCache) : Prop :=
  ∀ address classHash, classHashCache address = some classHash → contractClassHashByAddress address = some classHash

mutual

/-- The invocation is the call converted: its fields copied, its class hash
resolved, and its inner calls converted one by one in the same order. -/
def Converts : CallInfo → FunctionInvocation → Prop
  | .mk call execution innerCalls, invocation =>
    Copies (.mk call execution innerCalls) invocation ∧ Resolves contractClassHashByAddress call invocation.classHash ∧
      ConvertsAll innerCalls invocation.calls

def ConvertsAll : List CallInfo → List FunctionInvocation → Prop
  | [], [] => True
  | inner :: innerCalls, invocation :: invocations =>
    Converts inner invocation ∧ ConvertsAll innerCalls invocations
  | _, _ => False

end

/-- Caching what the override finds keeps the cache sound. -/
theorem CacheSound.insert {classHashCache : ClassHashCache} {address classHash : FieldElement}
    (sound : CacheSound contractClassHashByAddress classHashCache)
    (found : contractClassHashByAddress address = some classHash) :
    CacheSound contractClassHashByAddress (Function.update classHashCache address (some classHash)) := by
  intro other hash cached
  by_cases same : other = address
  · subst same
    rw [Function.update_self] at cached
    cases cached
    exact found
  · rw [Function.update_of_ne same] at cached
    exact sound other hash cached

theorem cacheSound_empty : CacheSound contractClassHashByAddress fun _ => none :=
  fun _ _ cached => nomatch cached

/-- The class hash found from a sound cache is the resolved one, and the cache
stays sound. -/
theorem classHashOf_resolves {call : CallEntryPoint} {classHashCache next : ClassHashCache}
    {classHash : FieldElement} (sound : CacheSound contractClassHashByAddress classHashCache)
    (found : classHashOf contractClassHashByAddress call classHashCache = .ok (classHash, next)) :
    Resolves contractClassHashByAddress call classHash ∧ CacheSound contractClassHashByAddress next := by
  unfold classHashOf at found
  split at found
  · next carried =>
    cases found
    exact ⟨.inl carried, sound⟩
  · next missing =>
    split at found
    · next cached =>
      cases found
      exact ⟨.inr ⟨missing, sound _ _ cached⟩, sound⟩
    · split at found
      · cases found
      · next computed =>
        cases found
        exact ⟨.inr ⟨missing, computed⟩, sound.insert contractClassHashByAddress computed⟩

/-- A call whose class hash can be resolved gets one, from any sound cache. -/
theorem classHashOf_ok {call : CallEntryPoint} (classHashCache : ClassHashCache)
    (resolvable : ∃ classHash, Resolves contractClassHashByAddress call classHash) :
    ∃ classHash next, classHashOf contractClassHashByAddress call classHashCache = .ok (classHash, next) := by
  obtain ⟨classHash, carried | ⟨missing, computed⟩⟩ := resolvable
  · exact ⟨classHash, classHashCache, by rw [classHashOf, carried]⟩
  · cases cached : classHashCache call.storageAddress with
    | some cachedHash => exact ⟨cachedHash, classHashCache, by rw [classHashOf, missing]; simp only [cached]⟩
    | none =>
      exact ⟨classHash, Function.update classHashCache call.storageAddress (some classHash),
        by rw [classHashOf, missing]; simp only [cached, computed]⟩

end Spec

/-! ### The conversion against its specification -/

section Correctness

variable (contractClassHashByAddress : FieldElement → Option FieldElement)
  (getSortedL2ToL1PayloadsLength : CallInfo → Except TransactionExecutionError (List Nat))

mutual

/-- A conversion that succeeds from a sound cache converts the tree and leaves
the cache sound. -/
theorem tryGetFuntionInvocationFromCallInfo_converts :
    (callInfo : CallInfo) → ∀ ⦃classHashCache next : ClassHashCache⦄ ⦃invocation : FunctionInvocation⦄,
      CacheSound contractClassHashByAddress classHashCache →
      tryGetFuntionInvocationFromCallInfo contractClassHashByAddress getSortedL2ToL1PayloadsLength callInfo
        classHashCache = .ok (invocation, next) →
      Converts contractClassHashByAddress callInfo invocation ∧ CacheSound contractClassHashByAddress next
  | .mk call execution innerCalls => by
    intro classHashCache next invocation sound converted
    rw [tryGetFuntionInvocationFromCallInfo] at converted
    -- the inner calls first, then the check of the message orders, then the class hash
    obtain ⟨⟨innerInvocations, afterInner⟩, inner, rest⟩ := bind_eq_ok converted
    obtain ⟨innerConvert, innerSound⟩ := tryGetInnerCalls_converts innerCalls sound inner
    obtain ⟨_, -, rest⟩ := bind_eq_ok rest
    obtain ⟨⟨classHash, final⟩, found, rest⟩ := bind_eq_ok rest
    obtain ⟨resolved, finalSound⟩ := classHashOf_resolves contractClassHashByAddress innerSound found
    cases rest
    exact ⟨⟨⟨rfl, rfl, rfl, rfl, rfl, rfl, rfl, rfl, rfl⟩, resolved, innerConvert⟩, finalSound⟩

theorem tryGetInnerCalls_converts :
    (calls : List CallInfo) → ∀ ⦃classHashCache next : ClassHashCache⦄ ⦃invocations : List FunctionInvocation⦄,
      CacheSound contractClassHashByAddress classHashCache →
      tryGetInnerCalls contractClassHashByAddress getSortedL2ToL1PayloadsLength calls classHashCache =
        .ok (invocations, next) →
      ConvertsAll contractClassHashByAddress calls invocations ∧ CacheSound contractClassHashByAddress next
  | [] => by
    intro classHashCache next invocations sound converted
    cases converted
    exact ⟨trivial, sound⟩
  | inner :: innerCalls => by
    intro classHashCache next invocations sound converted
    rw [tryGetInnerCalls] at converted
    obtain ⟨⟨invocation, afterFirst⟩, first, rest⟩ := bind_eq_ok converted
    obtain ⟨firstConverts, firstSound⟩ := tryGetFuntionInvocationFromCallInfo_converts inner sound first
    obtain ⟨⟨others, final⟩, later, rest⟩ := bind_eq_ok rest
    obtain ⟨othersConvert, finalSound⟩ := tryGetInnerCalls_converts innerCalls firstSound later
    cases rest
    exact ⟨⟨firstConverts, othersConvert⟩, finalSound⟩

end

mutual

/-- The conversion succeeds from a sound cache when the blockifier's check
passes on every call of the tree and every call's class hash can be resolved. -/
theorem tryGetFuntionInvocationFromCallInfo_ok :
    (callInfo : CallInfo) → ∀ ⦃classHashCache : ClassHashCache⦄,
      CacheSound contractClassHashByAddress classHashCache →
      Everywhere (fun callInfo => ∃ lengths, getSortedL2ToL1PayloadsLength callInfo = .ok lengths) callInfo →
      Everywhere (fun callInfo => ∃ classHash, Resolves contractClassHashByAddress callInfo.call classHash)
        callInfo →
      ∃ invocation next, tryGetFuntionInvocationFromCallInfo contractClassHashByAddress
        getSortedL2ToL1PayloadsLength callInfo classHashCache = .ok (invocation, next)
  | .mk call execution innerCalls => by
    intro classHashCache sound ⟨⟨lengths, checked⟩, innerChecked⟩ ⟨resolvable, innerResolvable⟩
    obtain ⟨innerInvocations, afterInner, inner⟩ :=
      tryGetInnerCalls_ok innerCalls sound innerChecked innerResolvable
    obtain ⟨classHash, final, found⟩ : ∃ classHash final,
        classHashOf contractClassHashByAddress call afterInner = .ok (classHash, final) :=
      classHashOf_ok contractClassHashByAddress afterInner resolvable
    rw [tryGetFuntionInvocationFromCallInfo, inner, ok_bind]
    simp only [checked, Except.mapError, ok_bind, found]
    exact ⟨_, final, rfl⟩

theorem tryGetInnerCalls_ok :
    (calls : List CallInfo) → ∀ ⦃classHashCache : ClassHashCache⦄,
      CacheSound contractClassHashByAddress classHashCache →
      EverywhereIn (fun callInfo => ∃ lengths, getSortedL2ToL1PayloadsLength callInfo = .ok lengths) calls →
      EverywhereIn (fun callInfo => ∃ classHash, Resolves contractClassHashByAddress callInfo.call classHash)
        calls →
      ∃ invocations next, tryGetInnerCalls contractClassHashByAddress getSortedL2ToL1PayloadsLength calls
        classHashCache = .ok (invocations, next)
  | [] => by
    intro classHashCache _ _ _
    exact ⟨[], classHashCache, rfl⟩
  | inner :: innerCalls => by
    intro classHashCache sound ⟨firstChecked, othersChecked⟩ ⟨firstResolvable, othersResolvable⟩
    obtain ⟨invocation, afterFirst, first⟩ :=
      tryGetFuntionInvocationFromCallInfo_ok inner sound firstChecked firstResolvable
    have firstSound := (tryGetFuntionInvocationFromCallInfo_converts contractClassHashByAddress
      getSortedL2ToL1PayloadsLength inner sound first).2
    obtain ⟨invocations, final, later⟩ :=
      tryGetInnerCalls_ok innerCalls firstSound othersChecked othersResolvable
    refine ⟨invocation :: invocations, final, ?_⟩
    rw [tryGetInnerCalls, first, ok_bind]
    simp only [later, ok_bind]
    rfl

end

end Correctness

/-! ### The cache changes nothing -/

section Cache

variable (contractClassHashByAddress : FieldElement → Option FieldElement)
  (getSortedL2ToL1PayloadsLength : CallInfo → Except TransactionExecutionError (List Nat))

/-- Two results of a conversion that agree up to their caches: the same value,
with both caches sound. -/
def SameUpToCache {α : Type} : α × ClassHashCache → α × ClassHashCache → Prop
  | (value, classHashCache), (value', classHashCache') =>
    value = value' ∧ CacheSound contractClassHashByAddress classHashCache ∧
      CacheSound contractClassHashByAddress classHashCache'

/-- A call has one resolved class hash. -/
theorem Resolves.unique {call : CallEntryPoint} {classHash classHash' : FieldElement}
    (resolved : Resolves contractClassHashByAddress call classHash)
    (resolved' : Resolves contractClassHashByAddress call classHash') : classHash = classHash' := by
  rcases resolved with carried | ⟨missing, computed⟩ <;> rcases resolved' with carried' | ⟨missing', computed'⟩
  · exact Option.some.inj (carried.symm.trans carried')
  · rw [carried] at missing'
    cases missing'
  · rw [missing] at carried'
    cases carried'
  · exact Option.some.inj (computed.symm.trans computed')

/-- A sound cache holds nothing for a call whose class hash cannot be
resolved, so `contract_class_hash_by_address` answers, and finds nothing. -/
theorem classHashOf_of_unresolvable {call : CallEntryPoint} {classHashCache : ClassHashCache}
    (sound : CacheSound contractClassHashByAddress classHashCache)
    (unresolvable : ¬ ∃ classHash, Resolves contractClassHashByAddress call classHash) :
    classHashOf contractClassHashByAddress call classHashCache = .error .contractNotFound := by
  unfold classHashOf
  split
  · next carried => exact absurd ⟨_, .inl carried⟩ unresolvable
  · next missing =>
    split
    · next cached => exact absurd ⟨_, .inr ⟨missing, sound _ _ cached⟩⟩ unresolvable
    · split
      · rfl
      · next computed => exact absurd ⟨_, .inr ⟨missing, computed⟩⟩ unresolvable

/-- From two sound caches `classHashOf` finds the same class hash, or fails
alike. -/
theorem classHashOf_agree (call : CallEntryPoint) {classHashCache classHashCache' : ClassHashCache}
    (sound : CacheSound contractClassHashByAddress classHashCache)
    (sound' : CacheSound contractClassHashByAddress classHashCache') :
    Agree (SameUpToCache contractClassHashByAddress) (classHashOf contractClassHashByAddress call classHashCache)
      (classHashOf contractClassHashByAddress call classHashCache') := by
  by_cases resolvable : ∃ classHash, Resolves contractClassHashByAddress call classHash
  · obtain ⟨classHash, next, found⟩ := classHashOf_ok contractClassHashByAddress classHashCache resolvable
    obtain ⟨classHash', next', found'⟩ := classHashOf_ok contractClassHashByAddress classHashCache' resolvable
    obtain ⟨resolved, nextSound⟩ := classHashOf_resolves contractClassHashByAddress sound found
    obtain ⟨resolved', nextSound'⟩ := classHashOf_resolves contractClassHashByAddress sound' found'
    rw [found, found']
    exact Agree.ok ⟨resolved.unique contractClassHashByAddress resolved', nextSound, nextSound'⟩
  · rw [classHashOf_of_unresolvable contractClassHashByAddress sound resolvable,
      classHashOf_of_unresolvable contractClassHashByAddress sound' resolvable]
    exact Agree.error _

mutual

/-- From two sound caches a conversion gives the same invocation, or fails
with the same error, and leaves both caches sound. -/
theorem tryGetFuntionInvocationFromCallInfo_agree :
    (callInfo : CallInfo) → ∀ ⦃classHashCache classHashCache' : ClassHashCache⦄,
      CacheSound contractClassHashByAddress classHashCache → CacheSound contractClassHashByAddress classHashCache' →
      Agree (SameUpToCache contractClassHashByAddress)
        (tryGetFuntionInvocationFromCallInfo contractClassHashByAddress getSortedL2ToL1PayloadsLength callInfo
          classHashCache)
        (tryGetFuntionInvocationFromCallInfo contractClassHashByAddress getSortedL2ToL1PayloadsLength callInfo
          classHashCache')
  | .mk call execution innerCalls => by
    intro classHashCache classHashCache' sound sound'
    rw [tryGetFuntionInvocationFromCallInfo, tryGetFuntionInvocationFromCallInfo]
    -- the inner calls convert alike, the check does not read the cache, and the class hash is found alike
    refine Agree.bind (tryGetInnerCalls_agree innerCalls sound sound') ?_
    rintro ⟨innerInvocations, afterInner⟩ ⟨_, afterInner'⟩ ⟨rfl, innerSound, innerSound'⟩
    refine Agree.bind (Agree.self _) ?_
    rintro _ _ rfl
    refine Agree.bind (classHashOf_agree contractClassHashByAddress call innerSound innerSound') ?_
    rintro ⟨classHash, final⟩ ⟨_, final'⟩ ⟨rfl, finalSound, finalSound'⟩
    exact Agree.ok ⟨rfl, finalSound, finalSound'⟩

theorem tryGetInnerCalls_agree :
    (calls : List CallInfo) → ∀ ⦃classHashCache classHashCache' : ClassHashCache⦄,
      CacheSound contractClassHashByAddress classHashCache → CacheSound contractClassHashByAddress classHashCache' →
      Agree (SameUpToCache contractClassHashByAddress)
        (tryGetInnerCalls contractClassHashByAddress getSortedL2ToL1PayloadsLength calls classHashCache)
        (tryGetInnerCalls contractClassHashByAddress getSortedL2ToL1PayloadsLength calls classHashCache')
  | [] => by
    intro classHashCache classHashCache' sound sound'
    exact Agree.ok ⟨rfl, sound, sound'⟩
  | inner :: innerCalls => by
    intro classHashCache classHashCache' sound sound'
    rw [tryGetInnerCalls, tryGetInnerCalls]
    refine Agree.bind (tryGetFuntionInvocationFromCallInfo_agree inner sound sound') ?_
    rintro ⟨invocation, afterFirst⟩ ⟨_, afterFirst'⟩ ⟨rfl, firstSound, firstSound'⟩
    refine Agree.bind (tryGetInnerCalls_agree innerCalls firstSound firstSound') ?_
    rintro ⟨invocations, final⟩ ⟨_, final'⟩ ⟨rfl, finalSound, finalSound'⟩
    exact Agree.ok ⟨rfl, finalSound, finalSound'⟩

end

end Cache

/-! ### The orders the trace reports -/

theorem blockifierToStarknetRsOrderedEvents_orders (orderedEvents : List (Ordered EventContent)) :
    (blockifierToStarknetRsOrderedEvents orderedEvents).map OrderedEvent.order = orderedEvents.map Ordered.order := by
  simp [blockifierToStarknetRsOrderedEvents]

/-- The messages of a call are numbered `0, 1, …` whatever was recorded. -/
theorem collectCallInfoOrderedMessages_orders (callInfo : CallInfo) :
    (collectCallInfoOrderedMessages callInfo).map OrderedMessage.order =
      List.range callInfo.execution.l2ToL1Messages.length := by
  rw [collectCallInfoOrderedMessages, List.map_map]
  show callInfo.execution.l2ToL1Messages.zipIdx.map Prod.snd = _
  simp [List.range_eq_range']

theorem collectCallInfoOrderedMessages_fromAddress (callInfo : CallInfo) :
    ∀ message ∈ collectCallInfoOrderedMessages callInfo, message.fromAddress = callInfo.call.storageAddress := by
  intro message
  simp only [collectCallInfoOrderedMessages, List.mem_map]
  rintro ⟨_, _, rfl⟩
  rfl

mutual

/-- The trace the blockifier's call tree should give: the same calls in the
same order, every event and every message with the order the blockifier
recorded, and every message sent from its call's storage address. -/
def KeepsOrders : CallInfo → FunctionInvocation → Prop
  | .mk call execution innerCalls, invocation =>
    invocation.events.map OrderedEvent.order = execution.events.map Ordered.order ∧
      invocation.messages.map OrderedMessage.order = execution.l2ToL1Messages.map Ordered.order ∧
      (∀ message ∈ invocation.messages, message.fromAddress = call.storageAddress) ∧
      KeepAllOrders innerCalls invocation.calls

def KeepAllOrders : List CallInfo → List FunctionInvocation → Prop
  | [], [] => True
  | inner :: innerCalls, invocation :: invocations =>
    KeepsOrders inner invocation ∧ KeepAllOrders innerCalls invocations
  | _, _ => False

end

/-- A call's messages were recorded as `0, 1, …` in the order the call holds them. -/
def NumberedInCall (callInfo : CallInfo) : Prop :=
  callInfo.execution.l2ToL1Messages.map Ordered.order = List.range callInfo.execution.l2ToL1Messages.length

instance : DecidablePred NumberedInCall := fun callInfo =>
  inferInstanceAs (Decidable (callInfo.execution.l2ToL1Messages.map Ordered.order = List.range _))

section Orders

variable {contractClassHashByAddress : FieldElement → Option FieldElement}

mutual

/-- A converted tree carries the recorded orders exactly when every call's
messages were recorded as `0, 1, …`. -/
theorem keepsOrders_iff :
    (callInfo : CallInfo) → ∀ ⦃invocation : FunctionInvocation⦄,
      Converts contractClassHashByAddress callInfo invocation →
      (KeepsOrders callInfo invocation ↔ Everywhere NumberedInCall callInfo)
  | .mk call execution innerCalls => by
    intro invocation ⟨copies, _, innerConvert⟩
    have below := keepAllOrders_iff innerCalls innerConvert
    have eventsKept : invocation.events.map OrderedEvent.order = execution.events.map Ordered.order := by
      rw [copies.events]
      exact blockifierToStarknetRsOrderedEvents_orders execution.events
    have sentFrom : ∀ message ∈ invocation.messages, message.fromAddress = call.storageAddress := by
      rw [copies.messages]
      exact collectCallInfoOrderedMessages_fromAddress _
    have renumbered := collectCallInfoOrderedMessages_orders (.mk call execution innerCalls)
    rw [← copies.messages] at renumbered
    simp only [KeepsOrders, Everywhere, NumberedInCall, CallInfo.execution, eventsKept, renumbered, below, true_and]
    constructor
    · rintro ⟨numbered, -, rest⟩
      exact ⟨numbered.symm, rest⟩
    · rintro ⟨numbered, rest⟩
      exact ⟨numbered.symm, sentFrom, rest⟩

theorem keepAllOrders_iff :
    (calls : List CallInfo) → ∀ ⦃invocations : List FunctionInvocation⦄,
      ConvertsAll contractClassHashByAddress calls invocations →
      (KeepAllOrders calls invocations ↔ EverywhereIn NumberedInCall calls)
  | [] => by
    intro invocations converts
    cases invocations with
    | nil => exact ⟨fun _ => trivial, fun _ => trivial⟩
    | cons => exact converts.elim
  | inner :: innerCalls => by
    intro invocations converts
    cases invocations with
    | nil => exact converts.elim
    | cons invocation invocations =>
      obtain ⟨first, others⟩ := converts
      exact and_congr (keepsOrders_iff inner first) (keepAllOrders_iff innerCalls others)

end

end Orders

/-! ### A message sent after an inner call's -/

/-- A contract at address `1` calls one at `2`, which sends a message to L1,
and then sends a message itself. Both calls carry their class hash. -/
def messageAfterInnerCall : CallTrace :=
  .mk ⟨some 3, .external, 0, [], 1, 0, .call⟩ []
    [.call (.mk ⟨some 4, .external, 0, [], 2, 1, .call⟩ [] [.message ⟨5, []⟩]), .message ⟨6, []⟩]

/-- The blockifier records the inner call's message first and the outer call's second. -/
theorem messageAfterInnerCall_number :
    (messageAfterInnerCall.number .fresh).1 =
      .mk ⟨some 3, .external, 0, [], 1, 0, .call⟩ ⟨[], [], [⟨1, ⟨6, []⟩⟩]⟩
        [.mk ⟨some 4, .external, 0, [], 2, 1, .call⟩ ⟨[], [], [⟨0, ⟨5, []⟩⟩]⟩ []] := rfl

theorem trace_conversion_renumbers_messages
    (contractClassHashByAddress : FieldElement → Option FieldElement)
    (getSortedL2ToL1PayloadsLength : CallInfo → Except TransactionExecutionError (List Nat))
    (accepted : Everywhere (fun callInfo => ∃ lengths, getSortedL2ToL1PayloadsLength callInfo = .ok lengths)
      (messageAfterInnerCall.number .fresh).1) :
    ∃ invocation next,
      tryGetFuntionInvocationFromCallInfo contractClassHashByAddress getSortedL2ToL1PayloadsLength
          (messageAfterInnerCall.number .fresh).1 (fun _ => none) = .ok (invocation, next) ∧
        (messageAfterInnerCall.number .fresh).1.execution.l2ToL1Messages.map Ordered.order = [1] ∧
        invocation.messages.map OrderedMessage.order = [0] ∧
        ¬ KeepsOrders (messageAfterInnerCall.number .fresh).1 invocation := by
  rw [messageAfterInnerCall_number] at accepted ⊢
  have resolvable : Everywhere (fun callInfo => ∃ classHash, Resolves contractClassHashByAddress callInfo.call classHash)
      (.mk ⟨some 3, .external, 0, [], 1, 0, .call⟩ ⟨[], [], [⟨1, ⟨6, []⟩⟩]⟩
        [.mk ⟨some 4, .external, 0, [], 2, 1, .call⟩ ⟨[], [], [⟨0, ⟨5, []⟩⟩]⟩ []]) :=
    ⟨⟨3, .inl rfl⟩, ⟨⟨4, .inl rfl⟩, trivial⟩, trivial⟩
  obtain ⟨invocation, next, converted⟩ :=
    tryGetFuntionInvocationFromCallInfo_ok contractClassHashByAddress getSortedL2ToL1PayloadsLength _
      (cacheSound_empty contractClassHashByAddress) accepted resolvable
  have converts := (tryGetFuntionInvocationFromCallInfo_converts contractClassHashByAddress
    getSortedL2ToL1PayloadsLength _ (cacheSound_empty contractClassHashByAddress) converted).1
  -- the one message of the outer call is numbered by its index, `0`
  have renumbered : invocation.messages.map OrderedMessage.order = [0] := by
    rw [converts.1.messages, collectCallInfoOrderedMessages_orders]
    rfl
  refine ⟨invocation, next, converted, rfl, renumbered, ?_⟩
  rw [keepsOrders_iff _ converts]
  rintro ⟨numbered, -⟩
  exact absurd numbered (by decide)

/-- The blockifier's check passes when its lengths are dropped unread. -/
theorem trace_conversion_renumbers_messages_unread :
    Everywhere (fun callInfo => ∃ lengths,
        (fun _ => .ok [] : CallInfo → Except TransactionExecutionError (List Nat)) callInfo = .ok lengths)
      (messageAfterInnerCall.number .fresh).1 ∧
    ∃ invocation next,
      tryGetFuntionInvocationFromCallInfo (fun _ => none) (fun _ => .ok []) (messageAfterInnerCall.number .fresh).1
          (fun _ => none) = .ok (invocation, next) ∧
        (messageAfterInnerCall.number .fresh).1.execution.l2ToL1Messages.map Ordered.order = [1] ∧
        invocation.messages.map OrderedMessage.order = [0] ∧
        ¬ KeepsOrders (messageAfterInnerCall.number .fresh).1 invocation :=
  have accepted : Everywhere (fun callInfo => ∃ lengths,
      (fun _ => .ok [] : CallInfo → Except TransactionExecutionError (List Nat)) callInfo = .ok lengths)
      (messageAfterInnerCall.number .fresh).1 := ⟨⟨[], rfl⟩, ⟨⟨[], rfl⟩, trivial⟩, trivial⟩
  ⟨accepted, trace_conversion_renumbers_messages (fun _ => none) (fun _ => .ok []) accepted⟩

end Madara.TraceApi

import Madara.SnosOutput
import Madara.Transactions

/-! Messages from L1, on their way in and on their way out. The L1 messages
worker turns each `LogMessageToL2` event of the Starknet core contract into an
L1 handler transaction (`parse_handle_l1_message_transaction`,
`crates/client/l1-messages/src/contract.rs`). The settlement worker turns the
transaction back into the `MessageL1ToL2` it reports in the OS output
(`From<HandleL1MessageTransaction> for MessageL1ToL2`,
`crates/primitives/messages/src/conversions.rs`). Each word of the event goes
through a range-checked conversion: felt words must be below the prime, and the
nonce below `2^64`. An event that fits comes back out unchanged; any other is
refused with an error naming a word that does not fit. -/
namespace Madara.L1Messages

open Madara.Felt Madara.Transactions Madara.SnosOutput Transactional

/-- `LogMessageToL2Filter`: the sender's `H160` and the `U256` words of the
event. The fee is read by the worker, not by the parse, and is left out. -/
structure LogMessageToL2 where
  fromAddress : EthAddress
  toAddress : U256
  selector : U256
  payload : List U256
  nonce : U256
  deriving DecidableEq, Repr

/-- `L1EventToTransactionError`: the word that failed to convert, with the
conversion's error. -/
inductive L1EventToTransactionError where
  | invalidCalldata (error : Felt252WrapperError)
  | invalidContractAddress (error : Felt252WrapperError)
  | invalidEntryPointSelector (error : Felt252WrapperError)
  | invalidFromAddress (error : Felt252WrapperError)
  | invalidNonce (error : Felt252WrapperError)
  deriving DecidableEq, Repr

/-- `U256::from_big_endian` of the 20 bytes of an `H160`. -/
def u256OfH160 (address : EthAddress) : U256 :=
  ⟨address.val, h160_val_lt_two_pow_256 address⟩

/-- `parse_handle_l1_message_transaction`. -/
def parseHandleL1MessageTransaction (event : LogMessageToL2) :
    Except L1EventToTransactionError HandleL1MessageTransaction := do
  let fromAddress ← (tryFromU256 (u256OfH160 event.fromAddress)).mapError .invalidFromAddress
  let contractAddress ← (tryFromU256 event.toAddress).mapError .invalidContractAddress
  let entryPointSelector ← (tryFromU256 event.selector).mapError .invalidEntryPointSelector
  let nonceFelt ← (tryFromU256 event.nonce).mapError .invalidNonce
  let nonce ← (toU64 nonceFelt).mapError .invalidNonce
  let eventPayload ← (event.payload.mapM tryFromU256).mapError .invalidCalldata
  pure ⟨nonce, contractAddress, entryPointSelector, fromAddress :: eventPayload⟩

/-- `impl From<Felt252Wrapper> for StarkFelt`: the 32 bytes of the
representative. `StarkFelt::new` accepts them, as a felt is below `2^252`. -/
def starkFeltOf (felt : Felt252Wrapper) : StarkFelt :=
  ⟨felt.val, Nat.lt_trans felt.isLt (by simp only [starkPrime]; omega)⟩

/-- `impl From<HandleL1MessageTransaction> for MessageL1ToL2`. The sender is
the first calldata word, taken off with `calldata.remove(0)`, which panics on
empty calldata. -/
def messageL1ToL2From (tx : HandleL1MessageTransaction) : Option MessageL1ToL2 :=
  match tx.calldata with
  | [] => none
  | fromAddress :: payload =>
    some ⟨⟨starkFeltOf fromAddress⟩, ⟨starkFeltOf tx.contractAddress⟩, ⟨feltOfU64 tx.nonce⟩,
      starkFeltOf tx.entryPointSelector, payload.map starkFeltOf⟩

/-! ### Which events convert -/

/-- The words of an event fit what a transaction holds: the felt words below
the prime, the nonce below `2^64`. -/
def LogMessageToL2.Fits (event : LogMessageToL2) : Prop :=
  (u256OfH160 event.fromAddress).val < starkPrime ∧ event.toAddress.val < starkPrime ∧
    event.selector.val < starkPrime ∧ event.nonce.val < 2 ^ 64 ∧
    ∀ word ∈ event.payload, word.val < starkPrime

instance : DecidablePred LogMessageToL2.Fits := fun _ => inferInstanceAs (Decidable (_ ∧ _ ∧ _ ∧ _ ∧ _))

/-- The word an error is about does not fit. -/
def L1EventToTransactionError.Blames (event : LogMessageToL2) : L1EventToTransactionError → Prop
  | .invalidFromAddress _ => starkPrime ≤ (u256OfH160 event.fromAddress).val
  | .invalidContractAddress _ => starkPrime ≤ event.toAddress.val
  | .invalidEntryPointSelector _ => starkPrime ≤ event.selector.val
  | .invalidNonce _ => 2 ^ 64 ≤ event.nonce.val
  | .invalidCalldata _ => ∃ word ∈ event.payload, starkPrime ≤ word.val

theorem u256OfH160_lt_starkPrime (address : EthAddress) : (u256OfH160 address).val < starkPrime := by
  have bound := address.isLt
  simp only [u256OfH160, starkPrime]
  omega

theorem two_pow_64_lt_starkPrime : 2 ^ 64 < starkPrime := by
  simp only [starkPrime]
  omega

theorem toU64_of_lt {felt : Felt252Wrapper} (fits : felt.val < 2 ^ 64) :
    toU64 felt = .ok (UInt64.ofNat felt.val) := by
  unfold toU64
  rw [if_pos fits]

theorem toU64_of_le {felt : Felt252Wrapper} (large : 2 ^ 64 ≤ felt.val) :
    toU64 felt = .error .valueTooLarge := by
  unfold toU64
  rw [if_neg (Nat.not_lt.mpr large)]

/-- Words below the prime convert, each to itself. -/
theorem mapM_tryFromU256_of_fits (words : List U256) (fits : ∀ word ∈ words, word.val < starkPrime) :
    ∃ felts, words.mapM tryFromU256 = .ok felts ∧ felts.map (·.val) = words.map (·.val) := by
  induction words with
  | nil => exact ⟨[], rfl, rfl⟩
  | cons word words ih =>
    obtain ⟨felts, converted, same⟩ := ih fun other member => fits other (List.mem_cons_of_mem _ member)
    refine ⟨⟨word.val, fits word List.mem_cons_self⟩ :: felts, ?_, ?_⟩
    · rw [List.mapM_cons, tryFromU256_of_lt (fits word List.mem_cons_self), converted]
      rfl
    · simp [same]

/-- A word at or above the prime makes the whole conversion fail. -/
theorem mapM_tryFromU256_of_large (words : List U256) (large : ∃ word ∈ words, starkPrime ≤ word.val) :
    words.mapM tryFromU256 = .error .fromArrayError := by
  induction words with
  | nil =>
    obtain ⟨_, member, _⟩ := large
    exact absurd member List.not_mem_nil
  | cons word words ih =>
    rw [List.mapM_cons]
    by_cases fits : word.val < starkPrime
    · obtain ⟨other, member, tooLarge⟩ := large
      rcases List.mem_cons.mp member with rfl | later
      · exact absurd fits (Nat.not_lt.mpr tooLarge)
      · rw [tryFromU256_of_lt fits, ih ⟨other, later, tooLarge⟩]
        rfl
    · rw [tryFromU256_of_le (Nat.le_of_not_lt fits)]
      rfl

/-- An event that fits converts, word by word: the calldata is the sender
followed by the payload. -/
theorem parseHandleL1MessageTransaction_of_fits {event : LogMessageToL2} (fits : event.Fits) :
    ∃ tx, parseHandleL1MessageTransaction event = .ok tx ∧ tx.nonce.toNat = event.nonce.val ∧
      tx.contractAddress.val = event.toAddress.val ∧ tx.entryPointSelector.val = event.selector.val ∧
      tx.calldata.map (·.val) = event.fromAddress.val :: event.payload.map (·.val) := by
  obtain ⟨fromFits, toFits, selectorFits, nonceFits, payloadFits⟩ := fits
  obtain ⟨felts, converted, same⟩ := mapM_tryFromU256_of_fits event.payload payloadFits
  have nonceFelt : (⟨event.nonce.val, two_pow_64_lt_starkPrime.trans' nonceFits⟩ : Felt252Wrapper).val < 2 ^ 64 :=
    nonceFits
  refine ⟨⟨UInt64.ofNat event.nonce.val, ⟨event.toAddress.val, toFits⟩, ⟨event.selector.val, selectorFits⟩,
    ⟨(u256OfH160 event.fromAddress).val, fromFits⟩ :: felts⟩, ?_, ?_, rfl, rfl, ?_⟩
  · simp only [parseHandleL1MessageTransaction, mapError_bind_of_ok (tryFromU256_of_lt fromFits),
      mapError_bind_of_ok (tryFromU256_of_lt toFits), mapError_bind_of_ok (tryFromU256_of_lt selectorFits),
      mapError_bind_of_ok (tryFromU256_of_lt (two_pow_64_lt_starkPrime.trans' nonceFits)),
      mapError_bind_of_ok (toU64_of_lt nonceFelt), mapError_bind_of_ok converted]
    rfl
  · exact UInt64.toNat_ofNat_of_lt' nonceFits
  · rw [List.map_cons, same]
    rfl

/-- An event that does not fit is refused, with an error about a word that
does not fit: the first of them in the order the parse reads them. -/
theorem parseHandleL1MessageTransaction_of_not_fits {event : LogMessageToL2} (unfit : ¬ event.Fits) :
    ∃ error, parseHandleL1MessageTransaction event = .error error ∧ error.Blames event := by
  have fromFits := u256OfH160_lt_starkPrime event.fromAddress
  simp only [parseHandleL1MessageTransaction, mapError_bind_of_ok (tryFromU256_of_lt fromFits)]
  by_cases toFits : event.toAddress.val < starkPrime
  · simp only [mapError_bind_of_ok (tryFromU256_of_lt toFits)]
    by_cases selectorFits : event.selector.val < starkPrime
    · simp only [mapError_bind_of_ok (tryFromU256_of_lt selectorFits)]
      by_cases nonceFelt : event.nonce.val < starkPrime
      · simp only [mapError_bind_of_ok (tryFromU256_of_lt nonceFelt)]
        by_cases nonceFits : event.nonce.val < 2 ^ 64
        · have large : ∃ word ∈ event.payload, starkPrime ≤ word.val := by
            by_contra payloadFits
            refine unfit ⟨fromFits, toFits, selectorFits, nonceFits, fun word member => ?_⟩
            exact Nat.lt_of_not_le fun tooLarge => payloadFits ⟨word, member, tooLarge⟩
          simp only [mapError_bind_of_ok (@toU64_of_lt ⟨event.nonce.val, nonceFelt⟩ nonceFits),
            mapError_bind_of_error (mapM_tryFromU256_of_large event.payload large)]
          exact ⟨_, rfl, large⟩
        · simp only [mapError_bind_of_error (@toU64_of_le ⟨event.nonce.val, nonceFelt⟩ (Nat.le_of_not_lt nonceFits))]
          exact ⟨_, rfl, Nat.le_of_not_lt nonceFits⟩
      · simp only [mapError_bind_of_error (tryFromU256_of_le (Nat.le_of_not_lt nonceFelt))]
        exact ⟨_, rfl, two_pow_64_lt_starkPrime.le.trans (Nat.le_of_not_lt nonceFelt)⟩
    · simp only [mapError_bind_of_error (tryFromU256_of_le (Nat.le_of_not_lt selectorFits))]
      exact ⟨_, rfl, Nat.le_of_not_lt selectorFits⟩
  · simp only [mapError_bind_of_error (tryFromU256_of_le (Nat.le_of_not_lt toFits))]
    exact ⟨_, rfl, Nat.le_of_not_lt toFits⟩

/-- Every error of the parse is about a word that does not fit. -/
theorem parseHandleL1MessageTransaction_error_blames {event : LogMessageToL2} {error : L1EventToTransactionError}
    (failed : parseHandleL1MessageTransaction event = .error error) : error.Blames event := by
  by_cases fits : event.Fits
  · obtain ⟨tx, parsed, -⟩ := parseHandleL1MessageTransaction_of_fits fits
    rw [parsed] at failed
    cases failed
  · obtain ⟨refused, parsed, blamed⟩ := parseHandleL1MessageTransaction_of_not_fits fits
    rw [parsed] at failed
    cases failed
    exact blamed

/-! ### The round trip through settlement -/

/-- The message settlement reports for a transaction whose calldata starts
with the sender. -/
theorem messageL1ToL2From_cons (tx : HandleL1MessageTransaction) (fromAddress : Felt252Wrapper)
    (payload : List Felt252Wrapper) (calldata : tx.calldata = fromAddress :: payload) :
    messageL1ToL2From tx = some ⟨⟨starkFeltOf fromAddress⟩, ⟨starkFeltOf tx.contractAddress⟩,
      ⟨feltOfU64 tx.nonce⟩, starkFeltOf tx.entryPointSelector, payload.map starkFeltOf⟩ := by
  simp [messageL1ToL2From, calldata]

theorem starkFeltOf_eq_iff {felt : Felt252Wrapper} {word : StarkFelt} :
    starkFeltOf felt = word ↔ felt.val = word.val := by
  simp [starkFeltOf, Fin.ext_iff]

/-- The L1 messages worker and the settlement worker agree: an event whose
words fit is parsed into a transaction whose calldata is the sender followed by
the payload, and settlement reports exactly the event's sender, recipient,
nonce, selector and payload for it. Any other event is refused with an error
about a word that does not fit. -/
theorem l1_message_parse_agrees_with_settlement (event : LogMessageToL2) :
    (event.Fits → ∃ tx, parseHandleL1MessageTransaction event = .ok tx ∧
        tx.calldata.map (·.val) = event.fromAddress.val :: event.payload.map (·.val) ∧
        messageL1ToL2From tx = some ⟨⟨ethAddressToFelt event.fromAddress⟩, ⟨event.toAddress⟩, ⟨event.nonce⟩,
          event.selector, event.payload⟩) ∧
      (¬ event.Fits → ∃ error, parseHandleL1MessageTransaction event = .error error ∧ error.Blames event) := by
  refine ⟨fun fits => ?_, parseHandleL1MessageTransaction_of_not_fits⟩
  obtain ⟨tx, parsed, nonce, contract, selector, calldata⟩ := parseHandleL1MessageTransaction_of_fits fits
  obtain ⟨fromAddress, payload, split⟩ : ∃ fromAddress payload, tx.calldata = fromAddress :: payload := by
    cases shape : tx.calldata with
    | nil => simp [shape] at calldata
    | cons fromAddress payload => exact ⟨fromAddress, payload, rfl⟩
  rw [split, List.map_cons, List.cons.injEq] at calldata
  refine ⟨tx, parsed, by rw [split, List.map_cons, calldata.1, calldata.2], ?_⟩
  rw [messageL1ToL2From_cons tx fromAddress payload split]
  have sender : starkFeltOf fromAddress = ethAddressToFelt event.fromAddress :=
    starkFeltOf_eq_iff.mpr calldata.1
  have words : payload.map starkFeltOf = event.payload := by
    apply List.ext_get (by simpa using congrArg List.length calldata.2)
    intro i within within'
    have atI := congrArg (fun words => words[i]?) calldata.2
    simp only [List.getElem?_map] at atI
    simpa [starkFeltOf, Fin.ext_iff, List.getElem?_eq_getElem (by simpa using within),
      List.getElem?_eq_getElem within'] using atI
  have nonceWord : feltOfU64 tx.nonce = event.nonce := Fin.ext nonce
  rw [sender, words, nonceWord, starkFeltOf_eq_iff.mpr contract, starkFeltOf_eq_iff.mpr selector]

/-- A message to `2` with selector `3`, payload `[4, 5]` and nonce `6` from L1
address `1`. -/
def sampleEvent : LogMessageToL2 := ⟨1, 2, 3, [4, 5], 6⟩

theorem l1_message_parse_agrees_with_settlement_sample :
    sampleEvent.Fits ∧ ∃ tx, parseHandleL1MessageTransaction sampleEvent = .ok tx ∧
      tx.calldata.map (·.val) = [1, 4, 5] ∧ messageL1ToL2From tx = some ⟨⟨1⟩, ⟨2⟩, ⟨6⟩, 3, [4, 5]⟩ := by
  have fits : sampleEvent.Fits := by
    refine ⟨by decide, by decide, by decide, by decide, fun word member => ?_⟩
    simp only [sampleEvent, List.mem_cons, List.not_mem_nil, or_false] at member
    rcases member with rfl | rfl <;> decide
  exact ⟨fits, (l1_message_parse_agrees_with_settlement sampleEvent).1 fits⟩

end Madara.L1Messages

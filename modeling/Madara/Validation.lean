import Madara.Runtime
import Mathlib.Algebra.Group.Fin.Basic
import Mathlib.Data.List.Iterate
import Mathlib.Order.Fin.Basic

/-! The transaction pool's side of the pallet (`ValidateUnsigned` in
`lib.rs`, `transaction_validation.rs`): which calls the pool accepts, and the
tags by which it orders them. A user transaction with a nonce provides
`(sender, nonce)` and, when its nonce is ahead of the sender's, requires
`(sender, nonce - 1)`; an L1 handler provides `(0, nonce)`. The pool includes
a call once every tag it requires was provided by a call included before it
(`AllowedOrder`).

Dispatch checks the nonce again, in `handle_nonce`, for every transaction of
version `1` or more (`Call.handledNonce`). With nonce validation on and a
blockifier that writes no nonce, each successful dispatch of such a
transaction moves its sender's nonce up by one. A call that fails runs in
its own layer and leaves every nonce as it was. So the nonces a sender's
transactions were dispatched with run from its nonce upwards, whatever other
senders' calls did (`run_senderNonces`). The tags then make each of the
sender's transactions meet its nonce at dispatch (`pool_order_meets_nonce`),
as long as the sender's own earlier dispatches went through and it sent no
declare V0: that one carries a nonce the pool orders by, but has version `0`,
so `handle_nonce` neither checks nor increments it. -/
namespace Madara.Validation

open Madara.Felt Madara.Transactions Madara.CallTree Madara.State Madara.Execution Madara.Pallet
open Madara.Runtime

/-- `TxPriorityInfo`. -/
inductive TxPriorityInfo where
  | invokeV0
  | l1Handler (nonce : Felt252Wrapper)
  | regularTxs (senderAddress transactionNonce senderNonce : Felt252Wrapper)
  deriving DecidableEq, Repr

/-- `InvalidTransaction`, by the variants the pallet returns. -/
inductive InvalidTransaction where
  | call
  | stale
  | badProof
  | payment
  deriving DecidableEq, Repr

/-- A pool tag `(address, nonce)`, under the prefix `"starknet"`. -/
abbrev Tag := Felt252Wrapper × Felt252Wrapper

/-- `ValidTransaction`, by the tags that order the pool. -/
structure ValidTransaction where
  requires : List Tag
  provides : List Tag
  deriving DecidableEq, Repr

section Validate

variable {ContractClass : Type} (config : Config ContractClass) (blockifier : Blockifier ContractClass)

/-- `Pallet::get_call_transaction`: the transaction a call carries; the
inherent carries none. -/
def getCallTransaction : Call ContractClass → Except Unit (UserOrL1HandlerTransaction ContractClass)
  | .invoke transaction => .ok (.user (.invoke transaction))
  | .declare transaction contractClass => .ok (.user (.declare transaction contractClass))
  | .deployAccount transaction => .ok (.user (.deployAccount transaction))
  | .consumeL1Message transaction paidFeeOnL1 => .ok (.l1Handler transaction paidFeeOnL1)
  | .setSequencerAddress _ => .error ()

/-- `Pallet::validate_unsigned_tx_nonce`. -/
def validateUnsignedTxNonce (s : Storage ContractClass) :
    UserOrL1HandlerTransaction ContractClass → Except InvalidTransaction TxPriorityInfo
  | .user tx =>
    let senderAddress := tx.senderAddress config.crypto
    let senderNonce := s.contracts.nonce senderAddress
    match tx.nonce with
    | none => .ok .invokeV0
    | some transactionNonce =>
      -- a nonce above the sender's waits in the pool's future queue
      if senderNonce > transactionNonce then .error .stale
      else .ok (.regularTxs senderAddress transactionNonce senderNonce)
  | .l1Handler tx _ =>
    if ensureL1MessageNotExecuted (ofU64 tx.nonce) s then .ok (.l1Handler (ofU64 tx.nonce))
    else .error .stale

/-- `Validate::validate_tx` without the version offset: the validation call in
a context of its own, on a fresh adapter over the storage. -/
def validateTx (executable : Executable ContractClass) (s : Storage ContractClass) :
    Except TransactionExecutionError (Option CallInfo) :=
  (validateTxInner blockifier executable (accountTransactionContext false executable) (s.contracts, .default)
    .fresh).map (·.1)

/-- The validation of a user transaction in `validate_unsigned_tx`, before
its error is looked at. A deploy_account is not validated, since its account
does not exist yet; a declare whose class does not fit its version is a bad
proof. -/
def userValidation (s : Storage ContractClass) :
    UserTransaction ContractClass →
      Except InvalidTransaction (Except TransactionExecutionError (Option CallInfo))
  | .deployAccount _ => .ok (.ok none)
  | .declare tx contractClass =>
    match tx.tryIntoExecutable config.crypto config.chainId false config.accepts contractClass with
    | none => .error .badProof
    | some executable => .ok (validateTx blockifier executable s)
  | .invoke tx => .ok (validateTx blockifier (tx.intoExecutable config.crypto config.chainId false) s)

/-- `Pallet::validate_unsigned_tx`. A transaction of nonce `1` whose sender
has no class yet passes: it is meant to follow its sender's deploy_account.
An L1 handler must have paid a fee on L1. -/
def validateUnsignedTx (s : Storage ContractClass) :
    UserOrL1HandlerTransaction ContractClass → Except InvalidTransaction Unit
  | .user transaction => do
    let validationResult ← userValidation config blockifier s transaction
    let validationResult : Except TransactionExecutionError (Option CallInfo) :=
      match validationResult with
      | .error (.validateTransactionError (.uninitializedStorageAddress contractAddress)) =>
        if contractAddress = transaction.senderAddress config.crypto ∧ transaction.nonce = some 1 then .ok none
        else validationResult
      | _ => validationResult
    match validationResult with
    | .ok _ => .ok ()
    | .error _ => .error .badProof
  | .l1Handler _ fee => if fee = 0 then .error .payment else .ok ()

/-- The tags `validate_unsigned` builds from what the nonce check found: a
transaction provides its sender and nonce, and requires the nonce before it
when it is ahead of the sender's; an L1 handler provides `(0, nonce)`. -/
def validTransaction : TxPriorityInfo → ValidTransaction
  | .regularTxs senderAddress transactionNonce senderNonce =>
    ⟨if transactionNonce > senderNonce then [(senderAddress, transactionNonce - 1)] else [],
      [(senderAddress, transactionNonce)]⟩
  | .l1Handler nonce => ⟨[], [(0, nonce)]⟩
  | .invokeV0 => ⟨[], []⟩

/-- `ValidateUnsigned::validate_unsigned`, by the tags of an accepted call. -/
def validateUnsigned (s : Storage ContractClass) (call : Call ContractClass) :
    Except InvalidTransaction ValidTransaction := do
  let transaction ← (getCallTransaction call).mapError fun _ => InvalidTransaction.call
  let txPriorityInfo ← validateUnsignedTxNonce config s transaction
  validateUnsignedTx config blockifier s transaction
  pure (validTransaction txPriorityInfo)

/-- An order the pool may include calls in, all validated on one state: each
tag a call requires was provided by a call included before it. -/
def AllowedOrder (s : Storage ContractClass) (calls : List (Call ContractClass)) : Prop :=
  ∀ (i : Nat) call, calls[i]? = some call → ∃ valid, validateUnsigned config blockifier s call = .ok valid ∧
    ∀ tag ∈ valid.requires, ∃ j < i, ∃ provider providerValid, calls[j]? = some provider ∧
      validateUnsigned config blockifier s provider = .ok providerValid ∧ tag ∈ providerValid.provides

/-! ### The tags of an accepted call -/

/-- `validate_unsigned_tx_nonce` of a user transaction with a nonce. -/
theorem validateUnsignedTxNonce_user (s : Storage ContractClass) {tx : UserTransaction ContractClass}
    {nonce : Felt252Wrapper} (nonced : tx.nonce = some nonce) :
    validateUnsignedTxNonce config s (.user tx) =
      if nonce < s.contracts.nonce (tx.senderAddress config.crypto) then .error .stale
      else .ok (.regularTxs (tx.senderAddress config.crypto) nonce (s.contracts.nonce (tx.senderAddress config.crypto))) := by
  simp only [validateUnsignedTxNonce, nonced, gt_iff_lt]

/-- `userValidation` rejects only as a bad proof. -/
theorem userValidation_ne_stale (s : Storage ContractClass) (tx : UserTransaction ContractClass) :
    userValidation config blockifier s tx ≠ .error .stale := by
  intro stale
  cases tx with
  | deployAccount tx => cases stale
  | declare tx contractClass =>
    dsimp only [userValidation] at stale
    split at stale
    · cases stale
    · cases stale
  | invoke tx => cases stale

/-- `validate_unsigned_tx` rejects only as a bad proof or for want of a fee. -/
theorem validateUnsignedTx_ne_stale (s : Storage ContractClass)
    (transaction : UserOrL1HandlerTransaction ContractClass) :
    validateUnsignedTx config blockifier s transaction ≠ .error .stale := by
  intro stale
  cases transaction with
  | user tx =>
    simp only [validateUnsignedTx] at stale
    cases validation : userValidation config blockifier s tx with
    | error e =>
      rw [validation] at stale
      cases stale
      exact userValidation_ne_stale config blockifier s tx validation
    | ok result =>
      rw [validation] at stale
      -- what is left is the last match, whose only error is a bad proof
      dsimp only [bind, Except.bind] at stale
      split at stale
      · cases stale
      · cases stale
  | l1Handler tx fee =>
    by_cases paid : fee = 0
    · simp [validateUnsignedTx, paid] at stale
    · simp [validateUnsignedTx, paid] at stale

/-- `validate_unsigned` of a call carrying a transaction: the nonce check,
validation, then the tags. -/
theorem validateUnsigned_of_carried {s : Storage ContractClass} {call : Call ContractClass}
    {transaction : UserOrL1HandlerTransaction ContractClass} (carried : getCallTransaction call = .ok transaction) :
    validateUnsigned config blockifier s call =
      (validateUnsignedTxNonce config s transaction >>= fun txPriorityInfo =>
        validateUnsignedTx config blockifier s transaction >>= fun _ => pure (validTransaction txPriorityInfo)) := by
  simp only [validateUnsigned, carried]
  rfl

/-- An accepted call carries a transaction that passed the nonce check and
validation, and its tags are built from what the nonce check found. -/
theorem validateUnsigned_ok {s : Storage ContractClass} {call : Call ContractClass} {valid : ValidTransaction}
    (accepted : validateUnsigned config blockifier s call = .ok valid) :
    ∃ transaction txPriorityInfo, getCallTransaction call = .ok transaction ∧
      validateUnsignedTxNonce config s transaction = .ok txPriorityInfo ∧
      validateUnsignedTx config blockifier s transaction = .ok () ∧ valid = validTransaction txPriorityInfo := by
  cases carried : getCallTransaction call with
  | error e =>
    simp only [validateUnsigned, carried] at accepted
    cases accepted
  | ok transaction =>
    rw [validateUnsigned_of_carried config blockifier carried] at accepted
    obtain ⟨txPriorityInfo, nonceChecked, rest⟩ := Transactional.bind_eq_ok accepted
    obtain ⟨⟨⟩, validated, built⟩ := Transactional.bind_eq_ok rest
    cases built
    exact ⟨transaction, txPriorityInfo, rfl, nonceChecked, validated, rfl⟩

/-- `validate_unsigned` rejects a call as stale exactly when the nonce check
does: validation never gives that reason. -/
theorem validateUnsigned_stale_iff {s : Storage ContractClass} {call : Call ContractClass}
    {transaction : UserOrL1HandlerTransaction ContractClass} (carried : getCallTransaction call = .ok transaction) :
    validateUnsigned config blockifier s call = .error .stale ↔
      validateUnsignedTxNonce config s transaction = .error .stale := by
  rw [validateUnsigned_of_carried config blockifier carried]
  constructor
  · intro stale
    cases nonceChecked : validateUnsignedTxNonce config s transaction with
    | error e =>
      rw [nonceChecked] at stale
      cases stale
      rfl
    | ok txPriorityInfo =>
      rw [nonceChecked] at stale
      cases validated : validateUnsignedTx config blockifier s transaction with
      | error e =>
        rw [validated] at stale
        cases stale
        exact absurd validated (validateUnsignedTx_ne_stale config blockifier s transaction)
      | ok _ =>
        rw [validated] at stale
        cases stale
  · intro stale
    rw [stale]
    rfl

/-- A user transaction with a nonce is stale exactly when its nonce is below
its sender's. -/
theorem validateUnsigned_user_stale_iff (s : Storage ContractClass) {call : Call ContractClass}
    {tx : UserTransaction ContractClass} {nonce : Felt252Wrapper}
    (carried : getCallTransaction call = .ok (.user tx)) (nonced : tx.nonce = some nonce) :
    validateUnsigned config blockifier s call = .error .stale ↔
      nonce < s.contracts.nonce (tx.senderAddress config.crypto) := by
  rw [validateUnsigned_stale_iff config blockifier carried, validateUnsignedTxNonce_user config s nonced]
  split
  · rename_i behind
    exact iff_of_true rfl behind
  · rename_i notBehind
    exact iff_of_false (fun stale => by cases stale) notBehind

/-- The tags of an accepted user transaction with a nonce: it provides
`(sender, nonce)`, and requires `(sender, nonce - 1)` when its nonce is ahead
of the sender's. -/
theorem validateUnsigned_user_tags (s : Storage ContractClass) {call : Call ContractClass}
    {tx : UserTransaction ContractClass} {nonce : Felt252Wrapper} {valid : ValidTransaction}
    (carried : getCallTransaction call = .ok (.user tx)) (nonced : tx.nonce = some nonce)
    (accepted : validateUnsigned config blockifier s call = .ok valid) :
    valid.provides = [(tx.senderAddress config.crypto, nonce)] ∧
      valid.requires = if s.contracts.nonce (tx.senderAddress config.crypto) < nonce
        then [(tx.senderAddress config.crypto, nonce - 1)] else [] := by
  obtain ⟨transaction, txPriorityInfo, carried', nonceChecked, -, rfl⟩ := validateUnsigned_ok config blockifier accepted
  rw [carried] at carried'
  cases carried'
  rw [validateUnsignedTxNonce_user config s nonced] at nonceChecked
  split at nonceChecked
  · cases nonceChecked
  · cases nonceChecked
    exact ⟨rfl, rfl⟩

/-- An L1 handler is stale exactly when its nonce is in `L1Messages`. -/
theorem validateUnsigned_l1Handler_stale_iff (s : Storage ContractClass) (tx : HandleL1MessageTransaction)
    (paidFeeOnL1 : U128) :
    validateUnsigned config blockifier s (.consumeL1Message tx paidFeeOnL1) = .error .stale ↔
      ofU64 tx.nonce ∈ s.l1Messages := by
  rw [validateUnsigned_stale_iff config blockifier rfl]
  by_cases executed : ofU64 tx.nonce ∈ s.l1Messages
  · simp [validateUnsignedTxNonce, ensureL1MessageNotExecuted, executed]
  · simp [validateUnsignedTxNonce, ensureL1MessageNotExecuted, executed]

/-- An accepted L1 handler provides `(0, nonce)` and requires nothing. -/
theorem validateUnsigned_l1Handler_tags (s : Storage ContractClass) {tx : HandleL1MessageTransaction}
    {paidFeeOnL1 : U128} {valid : ValidTransaction}
    (accepted : validateUnsigned config blockifier s (.consumeL1Message tx paidFeeOnL1) = .ok valid) :
    valid = ⟨[], [(0, ofU64 tx.nonce)]⟩ := by
  obtain ⟨transaction, txPriorityInfo, carried, nonceChecked, -, rfl⟩ := validateUnsigned_ok config blockifier accepted
  cases carried
  simp only [validateUnsignedTxNonce] at nonceChecked
  split at nonceChecked
  · cases nonceChecked
    rfl
  · cases nonceChecked

/-- A tag an accepted call provides, outside the L1 handlers' address `0`, is
the sender and nonce of the user transaction it carries. -/
theorem validateUnsigned_provides {s : Storage ContractClass} {call : Call ContractClass}
    {valid : ValidTransaction} (accepted : validateUnsigned config blockifier s call = .ok valid)
    {tag : Tag} (provided : tag ∈ valid.provides) (nonzero : tag.1 ≠ 0) :
    ∃ tx nonce, getCallTransaction call = .ok (.user tx) ∧ tx.nonce = some nonce ∧
      tag = (tx.senderAddress config.crypto, nonce) := by
  obtain ⟨transaction, txPriorityInfo, carried, nonceChecked, -, rfl⟩ := validateUnsigned_ok config blockifier accepted
  cases transaction with
  | user tx =>
    cases nonced : tx.nonce with
    | none =>
      simp only [validateUnsignedTxNonce, nonced] at nonceChecked
      cases nonceChecked
      cases provided
    | some nonce =>
      rw [validateUnsignedTxNonce_user config s nonced] at nonceChecked
      split at nonceChecked
      · cases nonceChecked
      · cases nonceChecked
        exact ⟨tx, nonce, carried, nonced, List.mem_singleton.mp provided⟩
  | l1Handler tx paidFeeOnL1 =>
    simp only [validateUnsignedTxNonce] at nonceChecked
    split at nonceChecked
    · cases nonceChecked
      rw [List.mem_singleton.mp provided] at nonzero
      exact absurd rfl nonzero
    · cases nonceChecked

end Validate

/-! ### The nonce `handle_nonce` checks at dispatch -/

section Handled

variable {ContractClass : Type}

/-- The account and nonce `handle_nonce` checks when a call is dispatched:
those of a transaction of version `1` or more. An invoke V0 and an L1 handler
have version `0`, and so has a declare V0, although it carries a nonce. -/
def handledNonce (crypto : Crypto) : Call ContractClass → Option (Felt252Wrapper × Felt252Wrapper)
  | .invoke (.v1 tx) => some (tx.senderAddress, tx.nonce)
  | .declare (.v1 tx) _ => some (tx.senderAddress, tx.nonce)
  | .declare (.v2 tx) _ => some (tx.senderAddress, tx.nonce)
  | .deployAccount tx => some (tx.getAccountAddress crypto, tx.nonce)
  | _ => none

/-- The nonce of sender `a`'s transaction a call carries, as the pool reads it. -/
def senderNonce? (crypto : Crypto) (a : Felt252Wrapper) (call : Call ContractClass) : Option Felt252Wrapper :=
  match getCallTransaction call with
  | .ok (.user tx) => if tx.senderAddress crypto = a then tx.nonce else none
  | _ => none

/-- The nonces of sender `a`'s transactions among the calls, in order. -/
def senderNonces (crypto : Crypto) (a : Felt252Wrapper) (calls : List (Call ContractClass)) :
    List Felt252Wrapper :=
  calls.filterMap (senderNonce? crypto a)

variable {config : Config ContractClass}

/-- The context `execute` builds for the executable of a call whose nonce
`handle_nonce` checks is versioned, with that sender and nonce. -/
theorem context_of_handledNonce {call : Call ContractClass} {executable : Executable ContractClass}
    {sender nonce : Felt252Wrapper} (built : call.intoExecutable config = some executable)
    (handled : handledNonce config.crypto call = some (sender, nonce)) :
    (accountTransactionContext false executable).version ≠ 0 ∧
      (accountTransactionContext false executable).senderAddress = sender ∧
      (accountTransactionContext false executable).nonce = nonce := by
  cases call with
  | setSequencerAddress addr => cases built
  | invoke tx =>
    cases built
    cases tx with
    | v0 tx => cases handled
    | v1 tx =>
      cases handled
      exact ⟨(by decide : offsetVersionFelt 1 false ≠ 0), rfl, rfl⟩
  | declare tx contractClass =>
    rw [declare_tryIntoExecutable_eq_some config.crypto config.chainId false built]
    cases tx with
    | v0 tx => cases handled
    | v1 tx =>
      cases handled
      exact ⟨(by decide : offsetVersionFelt (Fin.ofNat _ 1) false ≠ 0), rfl, rfl⟩
    | v2 tx =>
      cases handled
      exact ⟨(by decide : offsetVersionFelt (Fin.ofNat _ 2) false ≠ 0), rfl, rfl⟩
  | deployAccount tx =>
    cases built
    cases handled
    exact ⟨(by decide : offsetVersionFelt 1 false ≠ 0), rfl, rfl⟩
  | consumeL1Message tx paidFeeOnL1 => cases handled

/-- Every other call's executable runs with version `0`. -/
theorem context_of_unhandled {call : Call ContractClass} {executable : Executable ContractClass}
    (built : call.intoExecutable config = some executable) (unhandled : handledNonce config.crypto call = none) :
    (accountTransactionContext false executable).version = 0 := by
  cases call with
  | setSequencerAddress addr => cases built
  | invoke tx =>
    cases built
    cases tx with
    | v0 tx => rfl
    | v1 tx => cases unhandled
  | declare tx contractClass =>
    rw [declare_tryIntoExecutable_eq_some config.crypto config.chainId false built]
    cases tx with
    | v0 tx => rfl
    | v1 tx | v2 tx => cases unhandled
  | deployAccount tx => cases unhandled
  | consumeL1Message tx paidFeeOnL1 =>
    cases built
    rfl

/-- What the pool reads of a call whose nonce `handle_nonce` checks: the
same sender and nonce. -/
theorem senderNonce?_of_handledNonce (a : Felt252Wrapper) {call : Call ContractClass}
    {sender nonce : Felt252Wrapper} (handled : handledNonce config.crypto call = some (sender, nonce)) :
    senderNonce? config.crypto a call = if sender = a then some nonce else none := by
  cases call with
  | invoke tx =>
    cases tx with
    | v0 tx => cases handled
    | v1 tx =>
      cases handled
      rfl
  | declare tx contractClass =>
    cases tx with
    | v0 tx => cases handled
    | v1 tx | v2 tx =>
      cases handled
      rfl
  | deployAccount tx =>
    cases handled
    rfl
  | setSequencerAddress | consumeL1Message => cases handled

/-- Of any other call, the pool reads no nonce of `a`, unless it is a
declare V0 of `a`. -/
theorem senderNonce?_of_unhandled {a : Felt252Wrapper} {call : Call ContractClass}
    (notDeclareV0 : ∀ tx contractClass, call = .declare (.v0 tx) contractClass → tx.senderAddress ≠ a)
    (unhandled : handledNonce config.crypto call = none) : senderNonce? config.crypto a call = none := by
  cases call with
  | invoke tx =>
    cases tx with
    | v0 tx => simp [senderNonce?, getCallTransaction, UserTransaction.nonce, InvokeTransaction.nonce]
    | v1 tx => cases unhandled
  | declare tx contractClass =>
    cases tx with
    | v0 tx =>
      have other := notDeclareV0 tx contractClass rfl
      simp [senderNonce?, getCallTransaction, UserTransaction.senderAddress, DeclareTransaction.senderAddress, other]
    | v1 tx | v2 tx => cases unhandled
  | deployAccount tx => cases unhandled
  | setSequencerAddress | consumeL1Message => rfl

/-- A transaction of `a` with a nonce, other than a declare V0, has that
nonce checked for `a` at dispatch. -/
theorem handledNonce_of_senderNonce? {a nonce : Felt252Wrapper} {call : Call ContractClass}
    (notDeclareV0 : ∀ tx contractClass, call = .declare (.v0 tx) contractClass → tx.senderAddress ≠ a)
    (carried : senderNonce? config.crypto a call = some nonce) :
    handledNonce config.crypto call = some (a, nonce) := by
  cases handled : handledNonce config.crypto call with
  | none =>
    rw [senderNonce?_of_unhandled notDeclareV0 handled] at carried
    cases carried
  | some checked =>
    obtain ⟨sender, checkedNonce⟩ := checked
    rw [senderNonce?_of_handledNonce a handled] at carried
    split at carried
    · rename_i own
      cases carried
      rw [own]
    · cases carried

/-- The pool's reading of a call, by the transaction it carries. -/
theorem senderNonce?_eq_some {crypto : Crypto} {a nonce : Felt252Wrapper} {call : Call ContractClass} :
    senderNonce? crypto a call = some nonce ↔
      ∃ tx, getCallTransaction call = .ok (.user tx) ∧ tx.senderAddress crypto = a ∧ tx.nonce = some nonce := by
  unfold senderNonce?
  split
  · rename_i tx carried
    constructor
    · intro found
      split at found
      · rename_i own
        exact ⟨tx, carried, own, found⟩
      · cases found
    · rintro ⟨other, carriedOther, own, nonced⟩
      rw [carried] at carriedOther
      cases carriedOther
      rw [if_pos own, nonced]
  · rename_i notUser
    constructor
    · intro found
      cases found
    · rintro ⟨tx, carried, -, -⟩
      exact absurd carried (notUser tx)

/-- The nonce that continues a run: if the nonces taken so far are
`s, s + 1, …` (`m` of them), a nonce none of them took, not below `s`, whose
predecessor was taken when it is above `s`, is the next one. -/
theorem eq_iterate_of_consecutive {s nonce : Felt252Wrapper} {m : Nat}
    (fresh : nonce ∉ List.iterate (· + 1) s m) (notBehind : ¬ nonce < s)
    (previous : s < nonce → nonce - 1 ∈ List.iterate (· + 1) s m) : nonce = (· + 1)^[m] s := by
  by_cases ahead : s < nonce
  · obtain ⟨t, below, taken⟩ := List.mem_iterate.mp (previous ahead)
    have next : nonce = (· + 1)^[t + 1] s := by
      simp only [Function.iterate_succ_apply', ← taken, sub_add_cancel]
    have last : t + 1 = m := by
      by_contra notLast
      exact fresh (List.mem_iterate.mpr ⟨t + 1, by omega, next⟩)
    rw [next, last]
  · have same : nonce = s := le_antisymm (not_lt.mp ahead) (not_lt.mp notBehind)
    have empty : m = 0 := by
      by_contra nonempty
      exact fresh (List.mem_iterate.mpr ⟨0, by omega, same⟩)
    rw [same, empty]
    rfl

/-- The nonces of the first `i + 1` calls: those of the first `i`, then that
of call `i`. -/
theorem senderNonces_take_add_one {crypto : Crypto} {a : Felt252Wrapper} {calls : List (Call ContractClass)}
    {i : Nat} {call : Call ContractClass} (included : calls[i]? = some call) :
    senderNonces crypto a (calls.take (i + 1)) =
      senderNonces crypto a (calls.take i) ++ (senderNonce? crypto a call).toList := by
  rw [List.take_add_one, included]
  simp only [senderNonces, List.filterMap_append, Option.toList_some, List.filterMap_cons, List.filterMap_nil]
  cases senderNonce? crypto a call <;> rfl

/-- A nonce of `a` carried by one of the first `i` calls is among their nonces. -/
theorem mem_senderNonces_take {crypto : Crypto} {a nonce : Felt252Wrapper} {calls : List (Call ContractClass)}
    {i j : Nat} {call : Call ContractClass} (earlier : j < i) (included : calls[j]? = some call)
    (carried : senderNonce? crypto a call = some nonce) : nonce ∈ senderNonces crypto a (calls.take i) :=
  List.mem_filterMap.mpr ⟨call, List.mem_of_getElem? ((List.getElem?_take_of_lt earlier).trans included), carried⟩

end Handled

/-! ### Nonces along a block -/

section Block

variable {ContractClass : Type} {config : Config ContractClass} {blockifier : Blockifier ContractClass}
  (keeps : KeepsNonces blockifier) (disableTransactionFee : Bool)
include keeps

/-- A successful dispatch of a call whose nonce `handle_nonce` checks: the
sender's nonce was the call's, and only it changed, to one more. -/
theorem dispatch_handledNonce {call : Call ContractClass} {s next : Storage ContractClass}
    {sender nonce : Felt252Wrapper}
    (dispatched : dispatch config (execute blockifier (.runtime false disableTransactionFee)) call s = .ok next)
    (handled : handledNonce config.crypto call = some (sender, nonce)) :
    s.contracts.nonce sender = nonce ∧
      next.contracts.nonces = Function.update s.contracts.nonces sender (some (nonce + 1)) := by
  rcases dispatch_executes dispatched with ⟨inherent, -⟩ | ⟨executable, info, built, executed⟩
  · cases call with
    | setSequencerAddress => cases handled
    | _ => cases inherent
  · obtain ⟨versioned, rfl, rfl⟩ := context_of_handledNonce built handled
    exact execute_nonces_of_versioned keeps rfl versioned executed

/-- A successful dispatch of any other call leaves every nonce. -/
theorem dispatch_nonces_of_unhandled {call : Call ContractClass} {s next : Storage ContractClass}
    (dispatched : dispatch config (execute blockifier (.runtime false disableTransactionFee)) call s = .ok next)
    (unhandled : handledNonce config.crypto call = none) : next.contracts.nonces = s.contracts.nonces := by
  rcases dispatch_executes dispatched with ⟨-, same⟩ | ⟨executable, info, built, executed⟩
  · rw [same]
  · exact execute_nonces_of_version_zero keeps rfl (context_of_unhandled built unhandled) executed

/-- One dispatch moves sender `a`'s nonce by the transaction it carries: a
transaction of `a` with a nonce meets `a`'s nonce and moves it up by one, and
any other call leaves it. -/
theorem dispatch_senderNonce {a : Felt252Wrapper} {call : Call ContractClass} {s next : Storage ContractClass}
    (notDeclareV0 : ∀ tx contractClass, call = .declare (.v0 tx) contractClass → tx.senderAddress ≠ a)
    (dispatched : dispatch config (execute blockifier (.runtime false disableTransactionFee)) call s = .ok next) :
    match senderNonce? config.crypto a call with
    | some nonce => s.contracts.nonce a = nonce ∧ next.contracts.nonce a = nonce + 1
    | none => next.contracts.nonce a = s.contracts.nonce a := by
  cases handled : handledNonce config.crypto call with
  | none =>
    rw [senderNonce?_of_unhandled notDeclareV0 handled]
    simp only [ContractState.nonce, dispatch_nonces_of_unhandled keeps disableTransactionFee dispatched handled]
  | some checked =>
    obtain ⟨sender, nonce⟩ := checked
    obtain ⟨same, moved⟩ := dispatch_handledNonce keeps disableTransactionFee dispatched handled
    rw [senderNonce?_of_handledNonce a handled]
    by_cases own : sender = a
    · subst own
      rw [if_pos rfl]
      exact ⟨same, by simp [ContractState.nonce, moved]⟩
    · rw [if_neg own]
      simp [ContractState.nonce, moved, Function.update_of_ne (Ne.symm own)]

/-- Along a block run in layers, the transactions of sender `a`, each of
which succeeded, were dispatched with the nonces `s, s + 1, …` from `a`'s
nonce `s` at the start, and `a`'s nonce moved up by one for each. Induction on
the calls: a call that succeeded moves `a`'s nonce as `dispatch_senderNonce`
says, and one that failed is not `a`'s and left the state as it was. -/
theorem run_senderNonces {a : Felt252Wrapper} {calls : List (Call ContractClass)} {start : Storage ContractClass}
    (noDeclareV0 : ∀ tx contractClass, Call.declare (.v0 tx) contractClass ∈ calls → tx.senderAddress ≠ a)
    (ownSucceeded : ∀ j call, calls[j]? = some call → (senderNonce? config.crypto a call).isSome →
      ∃ next, dispatch config (execute blockifier (.runtime false disableTransactionFee)) call
        (Transactional.run (dispatch config (execute blockifier (.runtime false disableTransactionFee)))
          (calls.take j) start) = .ok next) :
    (Transactional.run (dispatch config (execute blockifier (.runtime false disableTransactionFee))) calls
        start).contracts.nonce a =
      (· + 1)^[(senderNonces config.crypto a calls).length] (start.contracts.nonce a) ∧
      senderNonces config.crypto a calls =
        List.iterate (· + 1) (start.contracts.nonce a) (senderNonces config.crypto a calls).length := by
  induction calls generalizing start with
  | nil => exact ⟨rfl, rfl⟩
  | cons call calls ih =>
    have laterNoDeclareV0 : ∀ tx contractClass, Call.declare (.v0 tx) contractClass ∈ calls → tx.senderAddress ≠ a :=
      fun tx contractClass mem => noDeclareV0 tx contractClass (List.mem_cons_of_mem _ mem)
    -- the calls after the first run from the state its layer left
    have later := ih laterNoDeclareV0 fun j later included carried => ownSucceeded (j + 1) later included carried
    cases dispatched : dispatch config (execute blockifier (.runtime false disableTransactionFee)) call start with
    | error error =>
      -- the failed call is not one of `a`'s, and its layer is dropped
      have notOwn : senderNonce? config.crypto a call = none := by
        cases carried : senderNonce? config.crypto a call with
        | none => rfl
        | some nonce =>
          obtain ⟨next, succeeded⟩ := ownSucceeded 0 call rfl (by rw [carried]; rfl)
          rw [List.take_zero, show Transactional.run _ [] start = start from rfl, dispatched] at succeeded
          cases succeeded
      rw [dispatched] at later
      rw [Transactional.run_cons_of_error _ dispatched]
      simp only [senderNonces, List.filterMap_cons, notOwn]
      exact later
    | ok next =>
      rw [dispatched] at later
      dsimp only [Transactional.commit] at later
      have step := dispatch_senderNonce keeps disableTransactionFee
        (fun tx contractClass called => noDeclareV0 tx contractClass (called ▸ List.mem_cons_self)) dispatched
      rw [Transactional.run_cons_of_ok _ dispatched]
      cases carried : senderNonce? config.crypto a call with
      | none =>
        rw [carried] at step
        simp only [senderNonces, List.filterMap_cons, carried]
        rw [← step]
        exact later
      | some nonce =>
        rw [carried] at step
        obtain ⟨same, moved⟩ := step
        obtain ⟨reached, consecutive⟩ := later
        simp only [senderNonces, List.filterMap_cons, carried, List.length_cons] at reached consecutive ⊢
        rw [moved] at reached consecutive
        rw [same, Function.iterate_succ_apply, reached]
        exact ⟨rfl, by rw [List.iterate, ← consecutive]⟩

/-- A transaction of sender `a` that the pool included after calls among
which `a`'s own were all dispatched with success meets `a`'s nonce at
dispatch: the tags put `a`'s transactions in nonce order from `a`'s nonce, the
dispatches moved the nonce along, and distinct nonces leave no gap. -/
theorem pool_order_meets_nonce {start : Storage ContractClass} {calls : List (Call ContractClass)}
    {a : Felt252Wrapper} (allowed : AllowedOrder config blockifier start calls)
    (distinct : (senderNonces config.crypto a calls).Nodup) (nonzero : a ≠ 0)
    (noDeclareV0 : ∀ tx contractClass, Call.declare (.v0 tx) contractClass ∈ calls → tx.senderAddress ≠ a)
    {i : Nat} {call : Call ContractClass} (included : calls[i]? = some call) {nonce : Felt252Wrapper}
    (carried : senderNonce? config.crypto a call = some nonce)
    (ownEarlier : ∀ j earlierCall, j < i → calls[j]? = some earlierCall →
      (senderNonce? config.crypto a earlierCall).isSome →
      ∃ next, dispatch config (execute blockifier (.runtime false disableTransactionFee)) earlierCall
        (Transactional.run (dispatch config (execute blockifier (.runtime false disableTransactionFee)))
          (calls.take j) start) = .ok next) :
    (Transactional.run (dispatch config (execute blockifier (.runtime false disableTransactionFee)))
      (calls.take i) start).contracts.nonce a = nonce := by
  -- the prefix's own calls are the block's calls before `i`
  have ownSucceeded : ∀ j earlierCall, (calls.take i)[j]? = some earlierCall →
      (senderNonce? config.crypto a earlierCall).isSome →
      ∃ next, dispatch config (execute blockifier (.runtime false disableTransactionFee)) earlierCall
        (Transactional.run (dispatch config (execute blockifier (.runtime false disableTransactionFee)))
          ((calls.take i).take j) start) = .ok next := by
    intro j earlierCall prefixIncluded carriedEarlier
    rw [List.getElem?_take] at prefixIncluded
    split at prefixIncluded
    · next before =>
      rw [List.take_take, min_eq_left before.le]
      exact ownEarlier j earlierCall before prefixIncluded carriedEarlier
    · cases prefixIncluded
  obtain ⟨reached, consecutive⟩ := run_senderNonces keeps disableTransactionFee
    (fun tx contractClass mem => noDeclareV0 tx contractClass (List.mem_of_mem_take mem)) ownSucceeded
  obtain ⟨valid, accepted, provided⟩ := allowed i call included
  obtain ⟨tx, carriedTx, sender, nonced⟩ := senderNonce?_eq_some.mp carried
  obtain ⟨-, required⟩ := validateUnsigned_user_tags config blockifier start carriedTx nonced accepted
  rw [sender] at required
  have notBehind : ¬ nonce < start.contracts.nonce a := by
    intro behind
    have stale := (validateUnsigned_user_stale_iff config blockifier start carriedTx nonced).mpr (sender ▸ behind)
    rw [accepted] at stale
    cases stale
  -- no transaction before call `i` took its nonce
  have fresh : nonce ∉ senderNonces config.crypto a (calls.take i) := by
    have prefixNodup := distinct.sublist ((List.take_sublist (i + 1) calls).filterMap (senderNonce? config.crypto a))
    rw [← senderNonces, senderNonces_take_add_one included, carried, Option.toList_some, List.nodup_append]
      at prefixNodup
    exact fun taken => prefixNodup.2.2 nonce taken nonce (List.mem_singleton_self nonce) rfl
  -- a nonce ahead of `a`'s requires the one before it, which only `a`'s own
  -- transaction provides: an L1 handler's tag has address `0`
  have previous : start.contracts.nonce a < nonce → nonce - 1 ∈ senderNonces config.crypto a (calls.take i) := by
    intro ahead
    rw [if_pos ahead] at required
    obtain ⟨j, beforeCall, provider, providerValid, providerIncluded, providerAccepted, providing⟩ :=
      provided (a, nonce - 1) (by rw [required]; exact List.mem_singleton_self _)
    obtain ⟨providerTx, providerNonce, providerCarried, providerNonced, tagEq⟩ :=
      validateUnsigned_provides config blockifier providerAccepted providing nonzero
    obtain ⟨providerSender, rfl⟩ := Prod.mk.inj tagEq
    exact mem_senderNonces_take beforeCall providerIncluded
      (senderNonce?_eq_some.mpr ⟨providerTx, providerCarried, providerSender.symm, providerNonced⟩)
  rw [consecutive] at fresh previous
  rw [reached]
  exact (eq_iterate_of_consecutive fresh notBehind previous).symm

end Block

/-! ### The pool's order and `handle_nonce` -/

section Agreement

variable {ContractClass : Type}

/-- The pool's tags and the nonce check at dispatch agree. On the storage a
block starts from, a user transaction with a nonce is stale exactly when its
nonce is below its sender's, and once accepted provides `(sender, nonce)` and
requires `(sender, nonce - 1)` exactly when its nonce is ahead; an L1 handler is
stale exactly when its nonce is in `L1Messages`, and provides `(0, nonce)`.
For a block of calls in an order these tags allow, each run in its own
layer, and a sender `a ≠ 0` with distinct nonces and no declare V0 among them,
each transaction of `a` whose earlier transactions of `a` were all dispatched
with success meets `a`'s nonce at dispatch, and passes `handle_nonce`. The
other senders' calls may fail. -/
theorem pool_order_passes_handle_nonce (config : Config ContractClass) (blockifier : Blockifier ContractClass)
    (keeps : KeepsNonces blockifier) (disableTransactionFee : Bool) (start : Storage ContractClass)
    (calls : List (Call ContractClass)) (a : Felt252Wrapper)
    (allowed : AllowedOrder config blockifier start calls)
    (distinct : (senderNonces config.crypto a calls).Nodup) (nonzero : a ≠ 0)
    (noDeclareV0 : ∀ tx contractClass, Call.declare (.v0 tx) contractClass ∈ calls → tx.senderAddress ≠ a) :
    (∀ call tx nonce, getCallTransaction call = .ok (.user tx) → tx.nonce = some nonce →
      (validateUnsigned config blockifier start call = .error .stale ↔
        nonce < start.contracts.nonce (tx.senderAddress config.crypto)) ∧
      ∀ valid, validateUnsigned config blockifier start call = .ok valid →
        valid.provides = [(tx.senderAddress config.crypto, nonce)] ∧
        valid.requires = if start.contracts.nonce (tx.senderAddress config.crypto) < nonce
          then [(tx.senderAddress config.crypto, nonce - 1)] else []) ∧
    (∀ tx paidFeeOnL1,
      (validateUnsigned config blockifier start (.consumeL1Message tx paidFeeOnL1) = .error .stale ↔
        ofU64 tx.nonce ∈ start.l1Messages) ∧
      ∀ valid, validateUnsigned config blockifier start (.consumeL1Message tx paidFeeOnL1) = .ok valid →
        valid.provides = [(0, ofU64 tx.nonce)]) ∧
    ∀ i call tx nonce, calls[i]? = some call → getCallTransaction call = .ok (.user tx) →
      tx.senderAddress config.crypto = a → tx.nonce = some nonce →
      (∀ j earlierCall, j < i → calls[j]? = some earlierCall → (senderNonce? config.crypto a earlierCall).isSome →
        ∃ next, dispatch config (execute blockifier (.runtime false disableTransactionFee)) earlierCall
          (Transactional.run (dispatch config (execute blockifier (.runtime false disableTransactionFee)))
            (calls.take j) start) = .ok next) →
      (Transactional.run (dispatch config (execute blockifier (.runtime false disableTransactionFee)))
        (calls.take i) start).contracts.nonce a = nonce ∧
      ∀ executable, call.intoExecutable config = some executable →
        ∃ checked, handleNonce (accountTransactionContext false executable)
          ((Transactional.run (dispatch config (execute blockifier (.runtime false disableTransactionFee)))
            (calls.take i) start).contracts, .default) = .ok checked := by
  refine ⟨fun call tx nonce carried nonced => ?_, fun tx paidFeeOnL1 => ?_, ?_⟩
  · exact ⟨validateUnsigned_user_stale_iff config blockifier start carried nonced,
      fun valid accepted => validateUnsigned_user_tags config blockifier start carried nonced accepted⟩
  · refine ⟨validateUnsigned_l1Handler_stale_iff config blockifier start tx paidFeeOnL1, fun valid accepted => ?_⟩
    rw [validateUnsigned_l1Handler_tags config blockifier start accepted]
  · intro i call tx nonce included carried sender nonced ownEarlier
    have carriedNonce : senderNonce? config.crypto a call = some nonce :=
      senderNonce?_eq_some.mpr ⟨tx, carried, sender, nonced⟩
    have met := pool_order_meets_nonce keeps disableTransactionFee allowed distinct nonzero noDeclareV0 included
      carriedNonce ownEarlier
    refine ⟨met, fun executable built => ?_⟩
    -- the call is not a declare V0 of `a`, so `handle_nonce` checks `a` and the nonce
    have notDeclareV0 : ∀ tx contractClass, call = .declare (.v0 tx) contractClass → tx.senderAddress ≠ a :=
      fun tx contractClass called => noDeclareV0 tx contractClass (called ▸ List.mem_of_getElem? included)
    obtain ⟨-, sameSender, sameNonce⟩ :=
      context_of_handledNonce built (handledNonce_of_senderNonce? notDeclareV0 carriedNonce)
    exact handleNonce_of_nonce (by rw [sameSender, sameNonce]; exact met)

/-- An invoke V1 of account `5` with nonce `1`. -/
def witnessNextInvoke : InvokeTransaction := .v1 ⟨0, [], 1, 5, [], false⟩

/-- An invoke V1 of account `6` with nonce `0` and a maximum fee of `1`,
which account `6` cannot pay. -/
def witnessOtherUnfundedInvoke : InvokeTransaction := .v1 ⟨1, [], 0, 6, [], false⟩

/-- Account `5`'s invokes of nonces `0` and `1`, with account `6`'s unfunded
invoke between them. -/
def witnessInterleaved : List (Call Unit) :=
  [.invoke witnessInvoke, .invoke witnessOtherUnfundedInvoke, .invoke witnessNextInvoke]

/-- The pool allows the interleaved order. The dispatch of account `6`'s
invoke fails and its layer is dropped, and account `5`'s second invoke meets
nonce `1`. -/
theorem pool_order_passes_handle_nonce_interleaved :
    AllowedOrder witnessConfig quietBlockifier witnessStart witnessInterleaved ∧
    dispatch witnessConfig (execute quietBlockifier (.runtime false false)) (.invoke witnessOtherUnfundedInvoke)
        (Transactional.run (dispatch witnessConfig (execute quietBlockifier (.runtime false false)))
          [.invoke witnessInvoke] witnessStart) =
      .error (.module .transactionExecutionFailed) ∧
    (Transactional.run (dispatch witnessConfig (execute quietBlockifier (.runtime false false)))
      (witnessInterleaved.take 2) witnessStart).contracts.nonce 5 = 1 := by
  have allowed : AllowedOrder witnessConfig quietBlockifier witnessStart witnessInterleaved := by
    intro i call included
    rcases i with _ | _ | _ | i
    · cases included
      exact ⟨⟨[], [(5, 0)]⟩, rfl, fun tag required => nomatch required⟩
    · cases included
      exact ⟨⟨[], [(6, 0)]⟩, rfl, fun tag required => nomatch required⟩
    · cases included
      refine ⟨⟨[(5, 0)], [(5, 1)]⟩, rfl, fun tag required => ?_⟩
      rw [List.mem_singleton.mp required]
      exact ⟨0, by omega, .invoke witnessInvoke, ⟨[], [(5, 0)]⟩, rfl, rfl, List.mem_singleton_self _⟩
    · cases included
  -- account `5`'s only earlier transaction is its first invoke, which succeeds
  have ownEarlier : ∀ j earlierCall, j < 2 → witnessInterleaved[j]? = some earlierCall →
      (senderNonce? witnessConfig.crypto 5 earlierCall).isSome →
      ∃ next, dispatch witnessConfig (execute quietBlockifier (.runtime false false)) earlierCall
        (Transactional.run (dispatch witnessConfig (execute quietBlockifier (.runtime false false)))
          (witnessInterleaved.take j) witnessStart) = .ok next := by
    intro j earlierCall before included carried
    rcases j with _ | _ | j
    · cases included
      exact ⟨_, rfl⟩
    · cases included
      cases carried
    · omega
  refine ⟨allowed, rfl, ?_⟩
  exact ((pool_order_passes_handle_nonce witnessConfig quietBlockifier quietBlockifier_keepsNonces false
    witnessStart _ 5 allowed (by decide) (by decide) (by simp [witnessInterleaved])).2.2 2 _ _ 1 rfl rfl rfl rfl
    ownEarlier).1

/-- A declare V0 of account `5` with nonce `0`. -/
def witnessDeclareV0 : DeclareTransaction := .v0 ⟨0, [], 0, 3, 5⟩

/-- An invoke V1 of account `5` with nonce `0` and a maximum fee of `1`,
which account `5` cannot pay. -/
def witnessUnfundedInvoke : InvokeTransaction := .v1 ⟨1, [], 0, 5, [], false⟩

/-- An L1 handler of nonce `0`, with a fee paid on L1. -/
def witnessL1Handler : HandleL1MessageTransaction := ⟨0, 9, 0, []⟩

/-- An invoke V1 of account `0` with nonce `1`. -/
def witnessZeroInvoke : InvokeTransaction := .v1 ⟨0, [], 1, 0, [], false⟩

/-- Three pairs of calls that the pool accepts on the same storage and
orders first to second by their tags, where the second fails `handle_nonce`
with `InvalidNonce` after the first. A declare V0 of account `5` provides the
tag of nonce `0` but leaves the nonce at `0`. An invoke whose dispatch fails
for want of balance leaves it there too. An L1 handler of nonce `0` provides
`(0, 0)`, the tag that an invoke of account `0` with nonce `1` requires. -/
theorem pool_order_fails_handle_nonce :
    (validateUnsigned witnessConfig quietBlockifier witnessStart (.declare witnessDeclareV0 ()) =
        .ok ⟨[], [(5, 0)]⟩ ∧
      validateUnsigned witnessConfig quietBlockifier witnessStart (.invoke witnessNextInvoke) =
        .ok ⟨[(5, 0)], [(5, 1)]⟩ ∧
      ∃ next, dispatch witnessConfig (execute quietBlockifier (.runtime false false))
          (.declare witnessDeclareV0 ()) witnessStart = .ok next ∧
        execute quietBlockifier (.runtime false false) (getBlockContext witnessConfig next)
          (witnessNextInvoke.intoExecutable witnessConfig.crypto 0 false) next.contracts =
          .error (.invalidNonce 5 0 1)) ∧
    (validateUnsigned witnessConfig quietBlockifier witnessStart (.invoke witnessUnfundedInvoke) =
        .ok ⟨[], [(5, 0)]⟩ ∧
      dispatch witnessConfig (execute quietBlockifier (.runtime false false))
          (.invoke witnessUnfundedInvoke) witnessStart = .error (.module .transactionExecutionFailed) ∧
      execute quietBlockifier (.runtime false false) (getBlockContext witnessConfig witnessStart)
          (witnessNextInvoke.intoExecutable witnessConfig.crypto 0 false) witnessStart.contracts =
        .error (.invalidNonce 5 0 1)) ∧
    (validateUnsigned witnessConfig quietBlockifier witnessStart (.consumeL1Message witnessL1Handler 1) =
        .ok ⟨[], [(0, 0)]⟩ ∧
      validateUnsigned witnessConfig quietBlockifier witnessStart (.invoke witnessZeroInvoke) =
        .ok ⟨[(0, 0)], [(0, 1)]⟩ ∧
      ∃ next, dispatch witnessConfig (execute quietBlockifier (.runtime false false))
          (.consumeL1Message witnessL1Handler 1) witnessStart = .ok next ∧
        execute quietBlockifier (.runtime false false) (getBlockContext witnessConfig next)
          (witnessZeroInvoke.intoExecutable witnessConfig.crypto 0 false) next.contracts =
          .error (.invalidNonce 0 0 1)) :=
  ⟨⟨rfl, rfl, _, rfl, rfl⟩, ⟨rfl, rfl, rfl⟩, ⟨rfl, rfl, _, rfl, rfl⟩⟩

end Agreement

end Madara.Validation

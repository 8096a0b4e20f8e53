import Madara.Felt

/-! `mp_transactions`: the transaction types the runtime stores, their hashes
(`compute_hash.rs`), the field getters (`getters.rs`) and the conversions into
the executable form the blockifier runs (`conversions.rs`). The hash functions
themselves come from `starknet_crypto` and stay abstract in `Crypto`; every
hash below is assembled from them exactly as the source lists its elements. -/
namespace Madara.Transactions

open Madara.Felt

/-- `u128` amounts. -/
abbrev U128 := Fin (2 ^ 128)

/-- The numerals of `U128` rest on this one instance. -/
instance neZeroTwoPow128 : NeZero (2 ^ 128 : Nat) := NeZero.of_pos (Nat.two_pow_pos 128)

structure InvokeTransactionV0 where
  maxFee : U128
  signature : List Felt252Wrapper
  contractAddress : Felt252Wrapper
  entryPointSelector : Felt252Wrapper
  calldata : List Felt252Wrapper
  deriving DecidableEq, Repr

structure InvokeTransactionV1 where
  maxFee : U128
  signature : List Felt252Wrapper
  nonce : Felt252Wrapper
  senderAddress : Felt252Wrapper
  calldata : List Felt252Wrapper
  offsetVersion : Bool
  deriving DecidableEq, Repr

inductive InvokeTransaction where
  | v0 (tx : InvokeTransactionV0)
  | v1 (tx : InvokeTransactionV1)
  deriving DecidableEq, Repr

structure DeclareTransactionV0 where
  maxFee : U128
  signature : List Felt252Wrapper
  nonce : Felt252Wrapper
  classHash : Felt252Wrapper
  senderAddress : Felt252Wrapper
  deriving DecidableEq, Repr

structure DeclareTransactionV1 where
  maxFee : U128
  signature : List Felt252Wrapper
  nonce : Felt252Wrapper
  classHash : Felt252Wrapper
  senderAddress : Felt252Wrapper
  offsetVersion : Bool
  deriving DecidableEq, Repr

structure DeclareTransactionV2 where
  maxFee : U128
  signature : List Felt252Wrapper
  nonce : Felt252Wrapper
  classHash : Felt252Wrapper
  senderAddress : Felt252Wrapper
  compiledClassHash : Felt252Wrapper
  offsetVersion : Bool
  deriving DecidableEq, Repr

inductive DeclareTransaction where
  | v0 (tx : DeclareTransactionV0)
  | v1 (tx : DeclareTransactionV1)
  | v2 (tx : DeclareTransactionV2)
  deriving DecidableEq, Repr

structure DeployAccountTransaction where
  maxFee : U128
  signature : List Felt252Wrapper
  nonce : Felt252Wrapper
  contractAddressSalt : Felt252Wrapper
  constructorCalldata : List Felt252Wrapper
  classHash : Felt252Wrapper
  offsetVersion : Bool
  deriving DecidableEq, Repr

structure HandleL1MessageTransaction where
  nonce : UInt64
  contractAddress : Felt252Wrapper
  entryPointSelector : Felt252Wrapper
  calldata : List Felt252Wrapper
  deriving DecidableEq, Repr

/-- `mp_transactions::Transaction`, the form stored in `Pending` and in blocks. -/
inductive Transaction where
  | declare (tx : DeclareTransaction)
  | deployAccount (tx : DeployAccountTransaction)
  | invoke (tx : InvokeTransaction)
  | l1Handler (tx : HandleL1MessageTransaction)
  deriving DecidableEq, Repr

/-- The two hash families a transaction hash is built from: the Pedersen chain
`starknet_core::crypto::compute_hash_on_elements` (calldata and addresses) and
the runtime's `SystemHash` (`HasherT::compute_hash_on_elements`, and
`compute_hash_on_wrappers` for block headers). -/
structure Crypto where
  computeHashOnElements : List FieldElement → FieldElement
  systemHashOnElements : List FieldElement → FieldElement
  systemHashOnWrappers : List FieldElement → FieldElement

/-- `SIMULATE_TX_VERSION_OFFSET`, `2^128`. -/
def simulateTxVersionOffset : FieldElement := ⟨2 ^ 128, two_pow_128_lt_starkPrime⟩

/-- The transaction version felt, shifted by the simulation offset when asked. -/
def versionFelt (base : FieldElement) (offsetVersion : Bool) : FieldElement :=
  if offsetVersion then simulateTxVersionOffset + base else base

/-- `from_byte_slice_be(b"invoke")`, `b"declare"`, `b"deploy_account"`, `b"l1_handler"`. -/
def invokePrefix : FieldElement := ⟨0x696e766f6b65, by simp only [starkPrime]; omega⟩
def declarePrefix : FieldElement := ⟨0x6465636c617265, by simp only [starkPrime]; omega⟩
def deployAccountPrefix : FieldElement := ⟨0x6465706c6f795f6163636f756e74, by simp only [starkPrime]; omega⟩
def l1HandlerPrefix : FieldElement := ⟨0x6c315f68616e646c6572, by simp only [starkPrime]; omega⟩

section Hashes

variable (crypto : Crypto) (chainId : Felt252Wrapper) (offsetVersion : Bool)

def InvokeTransactionV0.computeHash (tx : InvokeTransactionV0) : Felt252Wrapper :=
  crypto.systemHashOnElements [invokePrefix, versionFelt 0 offsetVersion, tx.contractAddress,
    tx.entryPointSelector, crypto.computeHashOnElements tx.calldata, ofU128 tx.maxFee, chainId]

def InvokeTransactionV1.computeHash (tx : InvokeTransactionV1) : Felt252Wrapper :=
  crypto.systemHashOnElements [invokePrefix, versionFelt 1 offsetVersion, tx.senderAddress, 0,
    crypto.computeHashOnElements tx.calldata, ofU128 tx.maxFee, chainId, tx.nonce]

def InvokeTransaction.computeHash : InvokeTransaction → Felt252Wrapper
  | .v0 tx => tx.computeHash crypto chainId offsetVersion
  | .v1 tx => tx.computeHash crypto chainId offsetVersion

def DeclareTransactionV0.computeHash (tx : DeclareTransactionV0) : Felt252Wrapper :=
  crypto.systemHashOnElements [declarePrefix, versionFelt 0 offsetVersion, tx.senderAddress, 0,
    crypto.computeHashOnElements [], ofU128 tx.maxFee, chainId, tx.classHash]

def DeclareTransactionV1.computeHash (tx : DeclareTransactionV1) : Felt252Wrapper :=
  crypto.systemHashOnElements [declarePrefix, versionFelt 1 offsetVersion, tx.senderAddress, 0,
    crypto.computeHashOnElements [tx.classHash], ofU128 tx.maxFee, chainId, tx.nonce]

def DeclareTransactionV2.computeHash (tx : DeclareTransactionV2) : Felt252Wrapper :=
  crypto.systemHashOnElements [declarePrefix, versionFelt 2 offsetVersion, tx.senderAddress, 0,
    crypto.computeHashOnElements [tx.classHash], ofU128 tx.maxFee, chainId, tx.nonce,
    tx.compiledClassHash]

def DeclareTransaction.computeHash : DeclareTransaction → Felt252Wrapper
  | .v0 tx => tx.computeHash crypto chainId offsetVersion
  | .v1 tx => tx.computeHash crypto chainId offsetVersion
  | .v2 tx => tx.computeHash crypto chainId offsetVersion

/-- Cairo short string `"STARKNET_CONTRACT_ADDRESS"`. -/
def prefixContractAddress : FieldElement :=
  ⟨0x535441524b4e45545f434f4e54524143545f41444452455353, by simp only [starkPrime]; omega⟩

/-- `2^251 - 256`, the bound contract addresses are reduced below. -/
def addrBound : Nat := 2 ^ 251 - 256

/-- `DeployAccountTransaction::calculate_contract_address`: the Pedersen chain
reduced modulo `ADDR_BOUND`. -/
def calculateContractAddress (salt classHash : FieldElement) (constructorCalldata : List FieldElement) :
    FieldElement :=
  let digest := crypto.computeHashOnElements
    [prefixContractAddress, 0, salt, classHash, crypto.computeHashOnElements constructorCalldata]
  ⟨digest.val % addrBound, lt_of_le_of_lt (Nat.mod_le _ _) digest.isLt⟩

def DeployAccountTransaction.getAccountAddress (tx : DeployAccountTransaction) : FieldElement :=
  calculateContractAddress crypto tx.contractAddressSalt tx.classHash tx.constructorCalldata

def DeployAccountTransaction.computeHashGivenContractAddress (tx : DeployAccountTransaction)
    (contractAddress : FieldElement) : FieldElement :=
  crypto.systemHashOnElements [deployAccountPrefix, versionFelt 1 offsetVersion, contractAddress, 0,
    crypto.computeHashOnElements ([tx.classHash, tx.contractAddressSalt] ++ tx.constructorCalldata),
    ofU128 tx.maxFee, chainId, tx.nonce]

def DeployAccountTransaction.computeHash (tx : DeployAccountTransaction) : Felt252Wrapper :=
  tx.computeHashGivenContractAddress crypto chainId offsetVersion (tx.getAccountAddress crypto)

def HandleL1MessageTransaction.computeHash (tx : HandleL1MessageTransaction) : Felt252Wrapper :=
  crypto.systemHashOnElements [l1HandlerPrefix, versionFelt 0 offsetVersion, tx.contractAddress,
    tx.entryPointSelector, crypto.computeHashOnElements tx.calldata, chainId, ofU64 tx.nonce]

def Transaction.computeHash : Transaction → Felt252Wrapper
  | .declare tx => tx.computeHash crypto chainId offsetVersion
  | .deployAccount tx => tx.computeHash crypto chainId offsetVersion
  | .invoke tx => tx.computeHash crypto chainId offsetVersion
  | .l1Handler tx => tx.computeHash crypto chainId offsetVersion

end Hashes

/-! ### Getters -/

def InvokeTransaction.senderAddress : InvokeTransaction → Felt252Wrapper
  | .v0 tx => tx.contractAddress
  | .v1 tx => tx.senderAddress

def InvokeTransaction.nonce : InvokeTransaction → Option Felt252Wrapper
  | .v0 _ => none
  | .v1 tx => some tx.nonce

def DeclareTransaction.senderAddress : DeclareTransaction → Felt252Wrapper
  | .v0 tx => tx.senderAddress
  | .v1 tx => tx.senderAddress
  | .v2 tx => tx.senderAddress

def DeclareTransaction.nonce : DeclareTransaction → Felt252Wrapper
  | .v0 tx => tx.nonce
  | .v1 tx => tx.nonce
  | .v2 tx => tx.nonce

def DeclareTransaction.maxFee : DeclareTransaction → U128
  | .v0 tx => tx.maxFee
  | .v1 tx => tx.maxFee
  | .v2 tx => tx.maxFee

def DeclareTransaction.classHash : DeclareTransaction → Felt252Wrapper
  | .v0 tx => tx.classHash
  | .v1 tx => tx.classHash
  | .v2 tx => tx.classHash

/-- `TransactionVersion::version` of a declare. -/
def DeclareTransaction.version : DeclareTransaction → Nat
  | .v0 _ => 0
  | .v1 _ => 1
  | .v2 _ => 2

/-- `DeclareTransaction::offset_version`: a declare V0 never has one, as the
RPC takes none. -/
def DeclareTransaction.offsetVersion : DeclareTransaction → Bool
  | .v0 _ => false
  | .v1 tx => tx.offsetVersion
  | .v2 tx => tx.offsetVersion

/-- `InvokeTransaction::offset_version`: an invoke V0 never has one. -/
def InvokeTransaction.offsetVersion : InvokeTransaction → Bool
  | .v0 _ => false
  | .v1 tx => tx.offsetVersion

/-- `mp_transactions::UserTransaction`; a declare carries its contract class. -/
inductive UserTransaction (ContractClass : Type) where
  | declare (tx : DeclareTransaction) (contractClass : ContractClass)
  | deployAccount (tx : DeployAccountTransaction)
  | invoke (tx : InvokeTransaction)

/-- `mp_transactions::UserOrL1HandlerTransaction`; an L1 handler carries the fee paid on L1. -/
inductive UserOrL1HandlerTransaction (ContractClass : Type) where
  | user (tx : UserTransaction ContractClass)
  | l1Handler (tx : HandleL1MessageTransaction) (paidFeeOnL1 : U128)

/-- `UserTransaction::sender_address`: a deploy_account's sender is the
address it will deploy. -/
def UserTransaction.senderAddress {ContractClass : Type} (crypto : Crypto) :
    UserTransaction ContractClass → Felt252Wrapper
  | .declare tx _ => tx.senderAddress
  | .deployAccount tx => tx.getAccountAddress crypto
  | .invoke tx => tx.senderAddress

/-- `UserTransaction::nonce`: every declare version carries one, an invoke V0
does not. -/
def UserTransaction.nonce {ContractClass : Type} : UserTransaction ContractClass → Option Felt252Wrapper
  | .declare tx _ => some tx.nonce
  | .deployAccount tx => some tx.nonce
  | .invoke tx => tx.nonce

/-- `UserTransaction::offset_version`. -/
def UserTransaction.offsetVersion {ContractClass : Type} : UserTransaction ContractClass → Bool
  | .declare tx _ => tx.offsetVersion
  | .deployAccount tx => tx.offsetVersion
  | .invoke tx => tx.offsetVersion

/-! ### Executable forms -/

/-- The blockifier transactions the pallet executes, each with the hash
computed when it was built (`conversions.rs`). A declare also carries the
class it declares, a deploy_account the address it deploys to. -/
inductive Executable (ContractClass : Type) where
  | invoke (tx : InvokeTransaction) (txHash : FieldElement)
  | declare (tx : DeclareTransaction) (contractClass : ContractClass) (txHash : FieldElement)
  | deployAccount (tx : DeployAccountTransaction) (txHash contractAddress : FieldElement)
  | l1Handler (tx : HandleL1MessageTransaction) (paidFeeOnL1 : U128) (txHash : FieldElement)

def Executable.txHash {ContractClass : Type} : Executable ContractClass → FieldElement
  | .invoke _ txHash | .declare _ _ txHash | .deployAccount _ txHash _ | .l1Handler _ _ txHash => txHash

section Conversions

variable (crypto : Crypto) (chainId : Felt252Wrapper) (offsetVersion : Bool)

/-- `InvokeTransaction::into_executable`. -/
def InvokeTransaction.intoExecutable {ContractClass : Type} (tx : InvokeTransaction) :
    Executable ContractClass :=
  .invoke tx (tx.computeHash crypto chainId offsetVersion)

/-- `DeclareTransaction::try_into_executable`; the blockifier constructor's own
check of the class against the declare version is `accepts`. -/
def DeclareTransaction.tryIntoExecutable {ContractClass : Type}
    (accepts : DeclareTransaction → ContractClass → Bool) (tx : DeclareTransaction)
    (contractClass : ContractClass) : Option (Executable ContractClass) :=
  if accepts tx contractClass then
    some (.declare tx contractClass (tx.computeHash crypto chainId offsetVersion))
  else none

/-- `DeployAccountTransaction::into_executable`: the hash is computed from the
address through `compute_hash_given_contract_address`. -/
def DeployAccountTransaction.intoExecutable {ContractClass : Type} (tx : DeployAccountTransaction) :
    Executable ContractClass :=
  let accountAddress := tx.getAccountAddress crypto
  .deployAccount tx (tx.computeHashGivenContractAddress crypto chainId offsetVersion accountAddress)
    accountAddress

/-- `HandleL1MessageTransaction::into_executable`. -/
def HandleL1MessageTransaction.intoExecutable {ContractClass : Type} (tx : HandleL1MessageTransaction)
    (paidFeeOnL1 : U128) : Executable ContractClass :=
  .l1Handler tx paidFeeOnL1 (tx.computeHash crypto chainId offsetVersion)

/-- The four conversion paths agree with `Transaction::compute_hash`: the hash
an executable carries is the hash of the transaction the pallet stores. -/
theorem invoke_intoExecutable_txHash {ContractClass : Type} (tx : InvokeTransaction) :
    (tx.intoExecutable crypto chainId offsetVersion : Executable ContractClass).txHash =
      (Transaction.invoke tx).computeHash crypto chainId offsetVersion := rfl

theorem deployAccount_intoExecutable_txHash {ContractClass : Type} (tx : DeployAccountTransaction) :
    (tx.intoExecutable crypto chainId offsetVersion : Executable ContractClass).txHash =
      (Transaction.deployAccount tx).computeHash crypto chainId offsetVersion := rfl

theorem l1Handler_intoExecutable_txHash {ContractClass : Type} (tx : HandleL1MessageTransaction)
    (paidFeeOnL1 : U128) :
    (tx.intoExecutable crypto chainId offsetVersion paidFeeOnL1 : Executable ContractClass).txHash =
      (Transaction.l1Handler tx).computeHash crypto chainId offsetVersion := rfl

/-- A declare that converts is executed with its own class and hash. -/
theorem declare_tryIntoExecutable_eq_some {ContractClass : Type}
    {accepts : DeclareTransaction → ContractClass → Bool} {tx : DeclareTransaction}
    {contractClass : ContractClass} {executable : Executable ContractClass}
    (built : tx.tryIntoExecutable crypto chainId offsetVersion accepts contractClass = some executable) :
    executable = .declare tx contractClass (tx.computeHash crypto chainId offsetVersion) := by
  unfold DeclareTransaction.tryIntoExecutable at built
  split at built
  · cases built
    rfl
  · cases built

theorem declare_tryIntoExecutable_txHash {ContractClass : Type}
    {accepts : DeclareTransaction → ContractClass → Bool} {tx : DeclareTransaction}
    {contractClass : ContractClass} {executable : Executable ContractClass}
    (built : tx.tryIntoExecutable crypto chainId offsetVersion accepts contractClass = some executable) :
    executable.txHash = (Transaction.declare tx).computeHash crypto chainId offsetVersion := by
  rw [declare_tryIntoExecutable_eq_some crypto chainId offsetVersion built]
  rfl

end Conversions

end Madara.Transactions

import LocalChain.Account.Wallet
import LocalChain.Transaction.Basic

/-!
# Requests for transactions

A request says what is known of a transaction. It becomes one when enough is known: everything but the
value and the input, which are zero and empty otherwise, and the chain, for which there is a rule too.
-/

namespace LocalChain

/-- What is known of a transaction. -/
structure TxRequest where
  sender : Option Address := none
  destination : Option Destination := none
  value : Option Word := none
  input : Option Bytes := none
  nonce : Option UInt64 := none
  gasLimit : Option UInt64 := none
  chainId : Option UInt64 := none
  gasPrice : Option Price := none
  maxFee : Option Price := none
  maxPriorityFee : Option Price := none
  deriving DecidableEq, Inhabited

/-- Why a request could not be signed. -/
inductive SigningError where
  /-- A field is missing that has no default. -/
  | incomplete
  /-- The sender is not the account of the wallet. -/
  | foreignSender
  deriving DecidableEq, Repr

/-- The sentence for people. -/
def SigningError.message : SigningError → String
  | incomplete => "the request is incomplete"
  | foreignSender => "no key for the sender"

namespace TxRequest

/-- How the transaction pays: at one gas price when that is known, with capped fees otherwise, then on
the first chain if none is named. -/
def fee? (r : TxRequest) : Option Fee :=
  match r.gasPrice with
  | some price => some (.legacy r.chainId price)
  | none => do
    return .capped (r.chainId.getD 1) (← r.maxFee) (← r.maxPriorityFee)

/-- The transaction, when enough is known. -/
def build? (r : TxRequest) : Option Transaction := do
  return {
    nonce := ← r.nonce
    gasLimit := ← r.gasLimit
    destination := ← r.destination
    value := r.value.getD 0
    input := r.input.getD []
    fee := ← r.fee? }

/-- The transaction that a wallet signs for a request. The sender, if named, must be its account. -/
def prepare (r : TxRequest) (w : Wallet) : Except SigningError Transaction :=
  match r.build? with
  | none => .error .incomplete
  | some t => if r.sender.all (· = w.address) then .ok t else .error .foreignSender

/-- The bytes to send for a request. -/
def sign (r : TxRequest) (w : Wallet) : Except SigningError Bytes :=
  (r.prepare w).map (·.sign w.key)

end TxRequest

/-- A failure to sign as a failure of the account. -/
def ChainError.ofSigning (e : SigningError) : ChainError :=
  .wallet ("Signing failed: " ++ e.message)

/-- The request for a transfer of value at one gas price, with every field set. -/
def TxRequest.transfer (sender : Address) (chainId : UInt64) (recipient : Address) (value : Word)
    (gasLimit nonce : UInt64) (gasPrice : Price) : TxRequest where
  sender := some sender
  destination := some (.call recipient)
  value := some value
  nonce := some nonce
  gasLimit := some gasLimit
  chainId := some chainId
  gasPrice := some gasPrice

end LocalChain

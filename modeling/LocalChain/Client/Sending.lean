import LocalChain.Client.Fees

/-!
# Sending what is not complete

A request for a transaction may leave out its nonce, its chain, its gas limit and what it pays. A client
asks the node for what is missing, signs and sends. Nonce and chain are asked for once: from then on the
nonces are counted here, also those of transactions that are refused, and the chain is remembered.
-/

namespace LocalChain.Client

variable {σ : Type}

/-- Asks for something that a transaction needs. There is no limit to the time it may take. -/
def need {α : Type} (c : Client σ) (r : Request) (decode : Json → Option α) :
    Talk σ (Stop ChainError) α := do
  match ← c.reply r decode with
  | some (.ok a) => return a
  | some (.error failure) => throw (.failed failure.toChainError)
  | none => throw .stuck

/-- Forgets nonce and chain, as a new client does. -/
def forget {ε : Type} : Talk σ ε Unit :=
  Talk.ofFunction fun s => (.ok (), { s with nextNonce := none, chainId := none })

/-- The nonce of the next transaction. -/
def takeNonce (c : Client σ) : Talk σ (Stop ChainError) UInt64 := do
  let nonce ← match (← get).nextNonce with
    | some n => pure n
    | none => c.need (.transactionCount c.wallet.address true) Quantity.word64?
  modify fun s => { s with nextNonce := some (nonce + 1) }
  return nonce

/-- The chain of a transaction that names none. -/
def ownChainId (c : Client σ) : Talk σ (Stop ChainError) UInt64 := do
  match (← get).chainId with
  | some id => return id
  | none =>
    let id ← c.need .chainId Quantity.word64?
    modify fun s => { s with chainId := some id }
    return id

/-- What a transaction should offer now. -/
def offer (c : Client σ) : Talk σ (Stop ChainError) Offer := do
  let history ← c.need .feeHistory FeeHistory.ofJson?
  let baseFee ← match history.nextBaseFee? with
    | some fee => pure fee
    | none =>
      c.need .latestBlock fun j => j.get? "baseFeePerGas" >>= Quantity.ofJson? 128
  return history.offer baseFee

/-- A value that may be there already. -/
def orElse {ε α : Type} (a : Option α) (t : Talk σ ε α) : Talk σ ε α :=
  match a with
  | some a => pure a
  | none => t

/-- The request with everything that it leaves out. -/
def complete (c : Client σ) (r : TxRequest) : Talk σ (Stop ChainError) TxRequest := do
  let r := { r with sender := r.sender <|> some c.wallet.address }
  let nonce ← orElse r.nonce c.takeNonce
  let chainId ← orElse r.chainId c.ownChainId
  let r := { r with nonce := some nonce, chainId := some chainId }
  let r ←
    if r.gasPrice.isSome ∨ (r.maxFee.isSome ∧ r.maxPriorityFee.isSome) then pure r
    else do
      let o ← c.offer
      pure { r with maxFee := some o.maxFee, maxPriorityFee := some o.maxPriorityFee }
  let gasLimit ← orElse r.gasLimit (c.need (.estimateGas r) Quantity.word64?)
  return { r with gasLimit := some gasLimit }

/-- Completes a request, signs it and sends it. -/
def send (c : Client σ) (r : TxRequest) : Talk σ (Stop ChainError) TxHash := do
  let r ← c.complete r
  match r.sign c.wallet with
  | .error e => throw (.failed (RequestFailure.usage e.message).toChainError)
  | .ok raw =>
    match ← (c.sendRaw raw).stoppable with
    | some hash => return hash
    | none => throw .stuck

end LocalChain.Client

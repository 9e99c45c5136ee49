import LocalChain.Client.Connection

/-!
# Sending transfers

Transfers are signed here, for the chain of the connection and at one price of gas that is fixed before
the first, and sent as they are. The node's answer is the reply to the transfer; when there is none, the
reply never comes.
-/

namespace LocalChain

/-- A connection with the price of gas of its transfers. -/
structure TransferSender (σ : Type) where
  connection : Connection σ
  gasPrice : Price

namespace TransferSender

variable {σ : Type}

/-- Fixes the price of gas: the given one, or what gas costs now. -/
def create (c : Connection σ) (gasPrice : Option Price) : Talk σ ChainError (TransferSender σ) := do
  let gasPrice ← match gasPrice with
    | some price => pure price
    | none => c.client.gasPrice
  Talk.report (.gasPriceFixed gasPrice.toNat)
  return ⟨c, gasPrice⟩

/-- The nonce of the account's next transaction. -/
def baseNonce (t : TransferSender σ) : Talk σ ChainError UInt64 :=
  t.connection.client.transactionCount t.connection.account

/-- Signs a transfer and sends it. -/
def submit (t : TransferSender σ) (transfer : Transfer) : Talk σ ChainError (Option TxHash) :=
  match t.connection.signTransfer t.gasPrice transfer with
  | .error e => throw (.ofSigning e)
  | .ok raw => t.connection.client.sendRaw raw

/-- The reply to a transfer by what its submission ended with. -/
def replyOf : Except ChainError (Option TxHash) → Option (Delayed (Except ChainError TxHash))
  | .ok (some hash) => some ⟨0, .ok hash⟩
  | .ok none => none
  | .error e => some ⟨0, .error e⟩

/-- The sink that sends to the node. The nonce takes the time that the read takes; the node answers a
transfer at once or never. -/
def sink (t : TransferSender σ) : Sink (Session σ) where
  baseNonce s :=
    let (r, after) := t.baseNonce.runFrom s
    (⟨after.clockMs - s.clockMs, r⟩, after)
  submit s transfer :=
    let (r, after) := (t.submit transfer).runFrom s
    (replyOf r, after)

end TransferSender
end LocalChain

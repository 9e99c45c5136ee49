import LocalChain.Account.Wallet
import LocalChain.Client.Sending
import LocalChain.Issuance.Run
import LocalChain.SocketAddress

/-!
# Connections

What a run needs before it sends anything: the account, a client, and the chain that the node serves,
checked in this order.
-/

namespace LocalChain

/-- A client and the chain that its transactions are for. -/
structure Connection (σ : Type) where
  client : Client σ
  chainId : UInt64

namespace Connection

variable {σ : Type}

/-- The account that signs. -/
def account (c : Connection σ) : Address :=
  c.client.wallet.address

/-- The configured wallet, which is reported. -/
def loadWallet (a : AccountSettings) : Talk σ ChainError Wallet := do
  let wallet ← Talk.ofExcept a.wallet
  Talk.report (.walletReady wallet.address)
  return wallet

/-- The client of the configured account. Nothing is asked yet. -/
def openClient (node : Node σ) (s : Settings) : Talk σ ChainError (Client σ) := do
  let wallet ← loadWallet s.account
  let client ← Talk.ofExcept (Client.create node s.rpc wallet)
  Client.forget
  return client

/-- Connects to the configured chain with the configured account. -/
def connect (node : Node σ) (s : Settings) : Talk σ ChainError (Connection σ) := do
  let client ← openClient node s
  return ⟨client, ← client.resolveChainId⟩

/-- The signed transfer with a nonce, at a price of gas. -/
def signTransfer (c : Connection σ) (gasPrice : Price) (t : Transfer) : Except SigningError Bytes :=
  (TxRequest.transfer c.account c.chainId t.recipient t.value t.gasLimit t.nonce gasPrice).sign
    c.client.wallet

end Connection

/-- What is wrong with the address that counters should be served at, when they should be. -/
def ObservabilitySettings.addressEvent? (o : ObservabilitySettings) : Option Event :=
  if o.metricsEnabled ∧ (SocketAddress.parse? o.metricsAddress).isNone then
    some (.badMetricsAddress o.metricsAddress)
  else none

end LocalChain

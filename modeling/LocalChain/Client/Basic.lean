import LocalChain.Account.Wallet
import LocalChain.Client.Session
import LocalChain.Node.Receipt
import LocalChain.Settings.Basic
import LocalChain.Url.Parser

/-!
# Clients

A client is a way to a node together with the account that signs. What it reads from the node is one
request each, made once, and has to come within the time allowed to it. What it sends has no such limit.

The time allowed is taken as the settings give it, however long it is. That every wait ends after thirty
years, as the waits between transfers do (`Issuance.waitMs`), is left out here: with a node time is real,
and no answer is waited for that long.
-/

namespace LocalChain

/-- A client of a node with state `σ`. -/
structure Client (σ : Type) where
  node : Node σ
  settings : RpcSettings
  wallet : Wallet

namespace Client

variable {σ : Type}

/-- A client, when the URL of the settings is one. Nothing is asked yet. -/
def create (node : Node σ) (settings : RpcSettings) (wallet : Wallet) :
    Except ChainError (Client σ) :=
  match Url.parse settings.url with
  | .error e => .error (.rpc ("Invalid RPC URL '" ++ settings.url ++ "': " ++ e.message))
  | .ok _ => .ok ⟨node, settings, wallet⟩

/-- The form for developers. -/
def debug (c : Client σ) : String :=
  let chain := match c.settings.chainId with
    | none => "None"
    | some id => "Some(" ++ toString id.toNat ++ ")"
  "RpcClient \x7b rpc_url: " ++ Text.quoted c.settings.url ++ ", chain_id: " ++ chain ++
    ", timeout_secs: " ++ toString c.settings.timeoutSecs.toNat ++ " \x7d"

/-- Time allowed to a request that reads. -/
def timeoutMs (c : Client σ) : Nat :=
  c.settings.timeoutSecs.toNat * 1000

/-- What comes back for a request; nothing when it stays without an answer. -/
def reply {ε α : Type} (c : Client σ) (r : Request) (decode : Json → Option α) :
    Talk σ ε (Option (Except RequestFailure α)) := do
  return (← Talk.ask c.node r).read decode

/-- The end of a read: its value, or its failure, which is reported. A read without an answer fails
once the time allowed to it is over. -/
def settle {α : Type} (c : Client σ) (r : Request) :
    Option (Except RequestFailure α) → Talk σ ChainError α
  | some (.ok a) => pure a
  | some (.error failure) => do
    Talk.report (.requestFailed r.method failure)
    throw failure.toChainError
  | none => do
    Talk.waitUntil ((← Talk.clockMs) + c.timeoutMs)
    Talk.report (.requestTimedOut r.method)
    throw (.timeout c.settings.timeoutSecs)

/-- Reads something from the node. -/
def read {α : Type} (c : Client σ) (r : Request) (decode : Json → Option α) :
    Talk σ ChainError α := do
  c.settle r (← c.reply r decode)

/-- Reads something that is of use only before a time, after which another error takes the place of
the failure. -/
def readBefore {α : Type} (c : Client σ) (limitMs : Nat) (late : ChainError) (r : Request)
    (decode : Json → Option α) : Talk σ ChainError α := do
  match ← c.reply r decode with
  | some reply => c.settle r (some reply)
  | none =>
    if limitMs ≤ (← Talk.clockMs) + c.timeoutMs then
      Talk.waitUntil limitMs
      throw late
    else c.settle r none

/-- The chain that the node serves. -/
def getChainId (c : Client σ) : Talk σ ChainError UInt64 :=
  c.read .chainId Quantity.word64?

/-- The chain that the node serves, which has to be the expected one. -/
def resolveChainId (c : Client σ) : Talk σ ChainError UInt64 := do
  let chainId ← c.getChainId
  match c.settings.chainId with
  | some expected =>
    if chainId ≠ expected then throw (.chainMismatch expected chainId)
  | none => pure ()
  Talk.report (.connected c.settings.url chainId)
  return chainId

/-- The number of the last block. -/
def blockNumber (c : Client σ) : Talk σ ChainError UInt64 :=
  c.read .blockNumber Quantity.word64?

/-- How many transactions of an account are in blocks. -/
def transactionCount (c : Client σ) (account : Address) : Talk σ ChainError UInt64 :=
  c.read (.transactionCount account false) Quantity.word64?

/-- The receipt of a transaction, if it is in a block. -/
def receipt (c : Client σ) (hash : TxHash) : Talk σ ChainError (Option Receipt) :=
  c.read (.receipt hash) Receipt.ofAnswer?

/-- A price of gas as a value gives it. -/
def price? (j : Json) : Option Price :=
  (Quantity.ofJson? 128 j).map (BitVec.ofNat 128)

/-- What gas costs now. -/
def gasPrice (c : Client σ) : Talk σ ChainError Price :=
  c.read .gasPrice price?

/-- What a transaction would return now. -/
def call (c : Client σ) (r : TxRequest) : Talk σ ChainError Bytes :=
  c.read (.call r) Quantity.bytes?

/-- Sends a signed transaction. There is no digest when the node never answers. -/
def sendRaw (c : Client σ) (raw : Bytes) : Talk σ ChainError (Option TxHash) := do
  match ← c.reply (.sendRaw raw) TxHash.ofJson? with
  | some (.ok hash) => return some hash
  | some (.error failure) => throw failure.toChainError
  | none => return none

end Client
end LocalChain

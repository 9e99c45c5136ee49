import LocalChain.Client.Confirmation
import LocalChain.Client.Connection
import LocalChain.Contract.Artifact
import LocalChain.Contract.Call

/-!
# Steps of a deployment

A step creates a contract, calls one, or reads from one. Transactions are sent one at a time, each
confirmed before the next. One that fails is tried again as a call, since the answer to a call says why.
-/

namespace LocalChain

/-- Who deploys, and how much gas each transaction may use. -/
structure Deployer (σ : Type) where
  connection : Connection σ
  gasLimit : UInt64

namespace Deployer

variable {σ : Type}

/-- The account that transactions are sent from. -/
def account (d : Deployer σ) : Address :=
  d.connection.account

/-- The request that creates a contract: its code with the arguments behind it. -/
def creation (d : Deployer σ) (artifact : Artifact) (arguments : Bytes) : TxRequest where
  sender := some d.account
  destination := some .create
  input := some (artifact.bytecode ++ arguments)
  gasLimit := some d.gasLimit

/-- The request that calls a contract. -/
def calling (d : Deployer σ) (contract : Address) (call : Contract.Call) : TxRequest where
  sender := some d.account
  destination := some (.call contract)
  input := some call.input
  gasLimit := some d.gasLimit

/-- Sends a transaction and waits until it is confirmed. -/
def sendAndConfirm (d : Deployer σ) (r : TxRequest) : Talk σ (Stop ChainError) Receipt := do
  d.connection.client.confirm (← d.connection.client.send r)

/-- Tries a transaction that failed as a call, to see why. A call that succeeds tells nothing; then the
first error stands. -/
def explain (d : Deployer σ) (label : String) (r : TxRequest) (error : ChainError) :
    Talk σ (Stop DeployError) Receipt := do
  Talk.report (.replaying label error.message)
  let reason := match ← Talk.attempt (d.connection.client.call r) with
    | .error e => e.message
    | .ok _ => error.message
  Talk.report (.wentWrong label reason)
  throw (.failed (.reverted label reason))

/-- Sends a transaction, waits until it is confirmed, and explains it when it fails. -/
def confirm (d : Deployer σ) (label : String) (r : TxRequest) :
    Talk σ (Stop DeployError) Receipt := do
  match ← Talk.attempt (d.sendAndConfirm r) with
  | .ok receipt => return receipt
  | .error (.failed e) => d.explain label r e
  | .error .stuck => throw .stuck
  | .error .broken => throw .broken

/-- Creates a contract and gives its address. -/
def deploy (d : Deployer σ) (artifact : Artifact) (arguments : Bytes) :
    Talk σ (Stop DeployError) Address := do
  let receipt ← d.confirm artifact.name (d.creation artifact arguments)
  match receipt.contract with
  | none => throw (.failed (.missingAddress artifact.name))
  | some address =>
    Talk.enter (.count (.deployed artifact.name))
    Talk.report (.deployed artifact.name address receipt.hash receipt.gasUsed)
    return address

/-- Calls a contract in a transaction. -/
def call (d : Deployer σ) (label : String) (contract : Address) (call : Contract.Call) :
    Talk σ (Stop DeployError) Receipt := do
  let receipt ← d.confirm label (d.calling contract call)
  Talk.report (.confirmed label receipt.hash receipt.block)
  return receipt

/-- Reads what a call of a contract returns now. -/
def read {α : Type} (d : Deployer σ) (contract : Address) (call : Contract.Call)
    (decode : Bytes → Option α) : Talk σ DeployError α := do
  let request := { d.calling contract call with gasLimit := none }
  let output ← (d.connection.client.call request).mapError .chain
  match decode output with
  | some a => return a
  | none => throw (.decode call.method.signature "not what the function returns")

end Deployer
end LocalChain

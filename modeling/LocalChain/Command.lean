import LocalChain.Client.Transfers
import LocalChain.Deployment.Sequence
import LocalChain.Settings.Layers

/-!
# The commands

One command issues transfers and the other deploys contracts. A run ends with an error of its
settings, of its plan, of the chain or of the deployment.
-/

namespace LocalChain

/-- A failure of the program. -/
inductive RunError where
  | settings (cause : SettingsError)
  | plan (cause : Problem)
  | chain (cause : ChainError)
  | deployment (cause : DeployError)
  deriving DecidableEq, Repr

/-- The sentence for people. -/
def RunError.message : RunError → String
  | settings cause => cause.message
  | plan cause => cause.message
  | chain cause => cause.message
  | deployment cause => cause.message

end LocalChain

/-! ## The command that issues transfers

The plan is made before the node is asked anything. Then the chain is checked, the price of gas is
fixed, and the transfers are issued. After the last the command waits for replies for a while, and
ends well whatever they are. A transfer that is started counts as put to the node, also when no time
is left for replies, where a process may be gone before the task of the last one has run. -/

namespace LocalChain.Spam

variable {σ : Type}

/-- The plan of the settings. -/
def plan (s : Settings) : Talk σ (Stop RunError) IssuancePlan :=
  match IssuancePlan.ofSettings s.load with
  | none => throw .broken
  | some (.error p) => throw (.failed (.plan p))
  | some (.ok plan) => pure plan

/-- The configured price of gas. -/
def configuredPrice (l : LoadSettings) : Option Price :=
  l.gasPriceWei.map fun price => BitVec.ofNat 128 price.toNat

/-- Connects and fixes the price of gas. -/
def openSender (node : Node σ) (s : Settings) : Talk σ ChainError (TransferSender σ) := do
  let connection ← Connection.connect node s
  TransferSender.create connection (configuredPrice s.load)

/-- Transfers that have been issued, and at what price. -/
structure Issued (σ : Type) where
  gasPrice : Price
  ended : Issuance.Ended (Session σ)

/-- Issues the transfers of the settings. -/
def issue (node : Node σ) (s : Settings) : Talk σ (Stop RunError) (Issued σ) := do
  let plan ← plan s
  let sender ← (openSender node s).mapError fun e => .failed (.chain e)
  Talk.ofFunction fun session =>
    let ended := Issuance.run sender.sink plan session
    (.ok ⟨sender.gasPrice, ended⟩, ended.sink)

/-- What has happened when the wait for replies is over. -/
def drained (drainMs : Nat) (e : Issuance.Ended (Session σ)) : List Issuance.Moment :=
  e.history ++
    (e.pending.takeWhile (·.dueMs < e.returnedAtMs + drainMs)).map Issuance.Pending.moment

/-- The event at the end: how many transfers the node took, or that some replies are still to come.
-/
def lastEvent (drainTimeoutMs : UInt64) (h : List Issuance.Moment) : Event :=
  if (Issuance.arrivals h).length < (Issuance.starts h).length then
    .repliesOutstanding drainTimeoutMs
  else
    let t := Issuance.tally h
    .allReplied t.sent t.failed

/-- The command. -/
def run (node : Node σ) (s : Settings) : Talk σ (Stop RunError) Unit := do
  let issued ← issue node s
  match issued.ended.result with
  | .error e =>
    Talk.enterAll (Issuance.journal true issued.ended.history)
    throw (.failed (.chain e))
  | .ok _ =>
    let h := drained s.load.drainTimeoutMs.toNat issued.ended
    Talk.enterAll (Issuance.journal true h)
    Talk.report (lastEvent s.load.drainTimeoutMs h)

end LocalChain.Spam

/-! ## The command that deploys contracts

The artifacts are read before the node is asked anything. The record is written last, and only when
every step succeeded. -/

namespace LocalChain.Deploy

variable {σ : Type}

/-- A talk whose failure is reported. -/
def reporting {α : Type} (event : String → Event) (t : Talk σ (Stop DeployError) α) :
    Talk σ (Stop DeployError) α := do
  match ← Talk.attempt t with
  | .ok a => return a
  | .error (.failed e) =>
    Talk.report (event e.message)
    throw (.failed e)
  | .error stop => throw stop

/-- Writes a record to a file, and gives the files with it. -/
def writeRecord (files : Files) (r : DeploymentRecord) (path : String) :
    Talk σ DeployError Files := do
  let files ← Talk.ofExcept (r.write files path)
  Talk.report (.recordWritten path)
  return files

/-- Creates the contracts and adds liquidity, unless that is skipped. -/
def deploy (d : Deployment σ) (skipLiquidity : Bool) :
    Talk σ (Stop DeployError) DeploymentRecord := do
  let record ← reporting .deploymentFailed d.deployContracts
  if skipLiquidity then return record
  return (← reporting .liquidityFailed (d.addLiquidity record)).1

/-- The command. It gives the files with the record, if one is wanted. -/
def run (node : Node σ) (s : Settings) (files : Files) (skipLiquidity : Bool) :
    Talk σ (Stop RunError) Files := do
  let stop (e : DeployError) : Stop RunError := .failed (.deployment e)
  let artifacts ← (Talk.ofExcept (ArtifactSet.ofFiles files s.deploy)).mapError stop
  let connection ← (Connection.connect node s).mapError fun e => .failed (.chain e)
  let d : Deployment σ := ⟨⟨connection, s.deploy.gasLimit⟩, artifacts, s.deploy⟩
  let record ← (deploy d skipLiquidity).mapError (·.map .deployment)
  match s.deploy.output with
  | none => return files
  | some path => (writeRecord files record path).mapError stop

end LocalChain.Deploy

import LocalChain.Contract.Call
import LocalChain.Deployment.Record
import LocalChain.Deployment.Step
import LocalChain.Settings.Problem

/-!
# The sequence of a deployment

Wrapped ether, the factory, the router and the tokens are created in this order. Liquidity is then added
for the first two tokens: the router may spend both tokens and wrapped ether, puts the amounts into the
pair, and the pair is read back.
-/

namespace LocalChain

/-- A pair of tokens and what it holds of them. -/
structure PairState where
  pair : Address
  reserve0 : Word
  reserve1 : Word
  deriving DecidableEq

/-- What is to be deployed, and by whom. -/
structure Deployment (σ : Type) where
  deployer : Deployer σ
  artifacts : ArtifactSet
  settings : DeploySettings

namespace Deployment

variable {σ : Type}

/-- An amount of the settings. -/
def amount (field value : String) : Talk σ (Stop DeployError) Word :=
  match readAmount field value with
  | none => throw .broken
  | some (.error p) => throw (.failed (.amount p.message))
  | some (.ok w) => pure w

/-- Creates a token. -/
def deployToken (d : Deployment σ) (t : TokenSettings) :
    Talk σ (Stop DeployError) DeployedToken := do
  let supply ← amount (t.symbol ++ " supply") t.supply
  let address ← d.deployer.deploy d.artifacts.token
    (Contract.tokenArguments t.name t.symbol supply d.deployer.account)
  Talk.report (.tokenDeployed t.symbol address)
  return ⟨t.name, t.symbol, address⟩

/-- Creates the tokens one after the other. -/
def deployTokens (d : Deployment σ) :
    List TokenSettings → Talk σ (Stop DeployError) (List DeployedToken)
  | [] => pure []
  | t :: ts => do
    let token ← d.deployToken t
    return token :: (← d.deployTokens ts)

/-- Creates all contracts. -/
def deployContracts (d : Deployment σ) : Talk σ (Stop DeployError) DeploymentRecord := do
  let me := d.deployer.account
  let chainId := d.deployer.connection.chainId
  Talk.report (.deploying me chainId)
  let weth ← d.deployer.deploy d.artifacts.weth []
  let factory ← d.deployer.deploy d.artifacts.factory (Contract.factoryArguments me)
  let router ← d.deployer.deploy d.artifacts.router (Contract.routerArguments factory weth)
  let tokens ← d.deployTokens d.settings.tokens
  return { chainId, deployer := me, weth, factory, router, tokens }

/-- Finds the pair of two tokens and reads what it holds. -/
def checkPair (d : Deployment σ) (factory tokenA tokenB : Address) :
    Talk σ DeployError PairState := do
  let pair ← d.deployer.read factory (.getPair tokenA tokenB) Contract.pair?
  if pair = .zero then
    throw (.missingAddress ("pair " ++ tokenA.display ++ "/" ++ tokenB.display))
  let reserves ← d.deployer.read pair .getReserves Contract.reserves?
  let state : PairState :=
    ⟨pair, reserves.reserve0.setWidth 256, reserves.reserve1.setWidth 256⟩
  Talk.report (.pairReserves pair state.reserve0 state.reserve1)
  return state

/-- Lets the router spend an amount of a token. -/
def approve (d : Deployment σ) (router : Address) (amount : Word) (token : Address) :
    Talk σ (Stop DeployError) Unit := do
  let _ ← d.deployer.call ("approve " ++ token.display) token (.approve router amount)

/-- The second after which no liquidity is added any more: some seconds from now, as far as 64 bits
go. -/
def deadline (nowSecs : Nat) (secs : UInt64) : Word :=
  BitVec.ofNat 256 (min (nowSecs + secs.toNat) (UInt64.size - 1))

/-- The terms on which liquidity is added for two tokens. -/
def terms (d : Deployment σ) (tokenA tokenB : Address) (amount : Word) (nowSecs : Nat) :
    Contract.LiquidityTerms where
  tokenA
  tokenB
  amountADesired := amount
  amountBDesired := amount
  amountAMin := 0
  amountBMin := 0
  recipient := d.deployer.account
  deadline := deadline nowSecs d.settings.deadlineSecs

/-- Adds liquidity for the first two tokens of a record, and gives the record with their pair. -/
def addLiquidity (d : Deployment σ) (r : DeploymentRecord) :
    Talk σ (Stop DeployError) (DeploymentRecord × PairState) := do
  match r.tokens with
  | a :: b :: _ =>
    let desired ← amount "liquidity_amount" d.settings.liquidityAmount
    [a.address, b.address, r.weth].forM (d.approve r.router desired)
    let terms := d.terms a.address b.address desired (← get).nowSecs
    let _ ← d.deployer.call "addLiquidity" r.router (.addLiquidity terms)
    let state ← (d.checkPair r.factory a.address b.address).stoppable
    return ({ r with pair := some state.pair }, state)
  | few =>
    throw (.failed (.amount
      ("need two tokens to add liquidity, have " ++ toString few.length)))

end Deployment
end LocalChain

import LocalChain.Command
import LocalChain.Proofs.Deployment.Steps
import LocalChain.Proofs.Session.Connections

/-!
# The plan of a deployment

`Plan.deployment` is the plan of the whole command: wrapped ether, the factory, the router and the
tokens are created, and then, unless that is skipped, three approvals and the addition of
liquidity follow.  Wherever an address occurs in it, it is the one that an earlier receipt names.

The command pursues this plan (`Deploy.pursues_run`): against any node and with any settings and
artifacts it broadcasts the first transactions of the plan and nothing else, one after the other
is confirmed, and all of them when it ends well.
-/

namespace LocalChain

variable {σ : Type}

/-! ## Amounts -/

/-- The amount in wei that a text gives, when it gives one. -/
def wei? (value : String) : Option Word :=
  (readAmount "" value).bind Except.toOption

/-- The field that an amount is read for has no influence on the amount. -/
theorem toOption_readAmount (field value : String) :
    (readAmount field value).bind Except.toOption = wei? value := by
  simp only [wei?, readAmount]
  split
  · rfl
  · cases Ether.parse (Text.trim value.toList) <;> rfl

/-! ## The plan -/

/-- The contracts that a deployment creates. -/
structure DeployedContracts where
  weth : Address
  factory : Address
  router : Address
  tokens : List Address

namespace Plan

/-- An amount that is needed for what comes next. -/
def amount (value : String) : Plan Word :=
  match wei? value with
  | some w => return w
  | none => stop

variable (artifacts : ArtifactSet) (d : DeploySettings) (me : Address)

/-- The creation of a token. -/
def token (t : TokenSettings) : Plan Address := do
  let supply ← amount t.supply
  create artifacts.token (Contract.tokenArguments t.name t.symbol supply me)

/-- The creation of tokens. -/
def tokens : List TokenSettings → Plan (List Address)
  | [] => return []
  | t :: ts => do
    let address ← token artifacts me t
    let addresses ← tokens ts
    return address :: addresses

/-- The creation of all contracts. -/
def contracts : Plan DeployedContracts := do
  let weth ← create artifacts.weth []
  let factory ← create artifacts.factory (Contract.factoryArguments me)
  let router ← create artifacts.router (Contract.routerArguments factory weth)
  let tokens ← tokens artifacts me d.tokens
  return { weth, factory, router, tokens }

/-- The terms on which liquidity is to be added at some second: the same amount of both tokens, with
no least amount, for the deployer, and until a second that is as much later as the settings say, or the
last one that 64 bits can hold. -/
def liquidityTerms (tokenA tokenB : Address) (desired : Word) (nowSecs : Nat) :
    Contract.LiquidityTerms where
  tokenA
  tokenB
  amountADesired := desired
  amountBDesired := desired
  amountAMin := 0
  amountBMin := 0
  recipient := me
  deadline := BitVec.ofNat 256 (min (nowSecs + d.deadlineSecs.toNat) (UInt64.size - 1))

/-- The addition of liquidity for the first two tokens, with the approvals that it takes. -/
def liquidity (c : DeployedContracts) : Plan Unit :=
  match c.tokens with
  | tokenA :: tokenB :: _ => do
    let desired ← amount d.liquidityAmount
    [tokenA, tokenB, c.weth].forM fun token => call token fun _ => .approve c.router desired
    call c.router fun nowSecs => .addLiquidity (liquidityTerms d me tokenA tokenB desired nowSecs)
  | _ => stop

/-- The plan of a deployment. -/
def deployment (skipLiquidity : Bool) : Plan Unit := do
  let c ← contracts artifacts d me
  if skipLiquidity then return ()
  liquidity d me c

end Plan

/-! ## Talks that pursue the parts -/

namespace Deployment

variable (d : Deployment σ)

theorem pursues_amount (s : Sender) (now : Clock) (field value : String) :
    (amount field value : Talk σ _ _).Pursues s now (Plan.amount value) id := by
  rw [amount, Plan.amount, ← toOption_readAmount field]
  match readAmount field value with
  | none => exact .throw
  | some (.error p) => exact .throw
  | some (.ok w) => exact .pure rfl

theorem pursues_deployToken (t : TokenSettings) (now : Clock) :
    (d.deployToken t).Pursues d.deployer.sender now
      (Plan.token d.artifacts d.deployer.account t) (·.address) := by
  refine (pursues_amount _ _ _ _).bind fun supply now => ?_
  refine (d.deployer.pursues_deploy _ _ _).followed fun address now => ?_
  exact (Talk.quiet_report _).pursues (Talk.prompt_report _) fun _ => .pure rfl

theorem pursues_deployTokens (ts : List TokenSettings) (now : Clock) :
    (d.deployTokens ts).Pursues d.deployer.sender now
      (Plan.tokens d.artifacts d.deployer.account ts) (List.map (·.address)) := by
  induction ts generalizing now with
  | nil => exact .pure rfl
  | cons t ts ih =>
    refine (d.pursues_deployToken t now).bind fun token now => ?_
    exact (ih now).bind fun tokens _ => .pure rfl

/-- The contracts of a record. -/
def contractsOf (r : DeploymentRecord) : DeployedContracts where
  weth := r.weth
  factory := r.factory
  router := r.router
  tokens := r.tokens.map (·.address)

/-- **The contracts are created as it is planned.** -/
theorem pursues_deployContracts (now : Clock) :
    d.deployContracts.Pursues d.deployer.sender now
      (Plan.contracts d.artifacts d.settings d.deployer.account) contractsOf := by
  refine (Talk.quiet_report _).pursues (Talk.prompt_report _) fun _ => ?_
  refine (d.deployer.pursues_deploy _ _ _).bind fun weth now => ?_
  refine (d.deployer.pursues_deploy _ _ _).bind fun factory now => ?_
  refine (d.deployer.pursues_deploy _ _ _).bind fun router now => ?_
  exact (d.pursues_deployTokens _ _).bind fun tokens _ => .pure rfl

section Pairs

variable (factory tokenA tokenB : Address)

/-- Looking at the pair is no part of the plan, and not needed for it. -/
theorem quiet_checkPair : (d.checkPair factory tokenA tokenB).Quiet := by
  refine (d.deployer.quiet_read _ _ _).bind fun pair => ?_
  split
  · exact .throw
  · refine (d.deployer.quiet_read _ _ _).bind fun reserves => ?_
    exact (Talk.quiet_report _).bind fun _ => .pure

theorem prompt_checkPair : (d.checkPair factory tokenA tokenB).Prompt := by
  refine (d.deployer.prompt_read _ _ _).bind fun pair => ?_
  split
  · exact .throw
  · refine (d.deployer.prompt_read _ _ _).bind fun reserves => ?_
    exact (Talk.prompt_report _).bind fun _ => .pure

end Pairs

theorem pursues_approve (router : Address) (desired : Word) (token : Address) (now : Clock) :
    (d.approve router desired token).Pursues d.deployer.sender now
      (Plan.call token fun _ => .approve router desired) id :=
  (d.deployer.pursues_call _ token (fun _ => .approve router desired) now).followed
    fun _ _ => .pure rfl

/-- **Liquidity is added as it is planned**, on terms for the time of the call. -/
theorem pursues_addLiquidity (r : DeploymentRecord) (now : Clock) :
    (d.addLiquidity r).Pursues d.deployer.sender now
      (Plan.liquidity d.settings d.deployer.account (contractsOf r)) fun _ => () := by
  rw [addLiquidity, Plan.liquidity, contractsOf]
  match r.tokens with
  | [] => exact .throw
  | [_] => exact .throw
  | a :: b :: _ =>
    refine (pursues_amount _ _ _ _).bind fun desired now => ?_
    refine (Talk.Pursues.forM (d.pursues_approve r.router desired) _).bind fun _ now => ?_
    refine Talk.pursues_get fun session hnow => ?_
    rw [session.nowSecs_eq, hnow]
    refine (d.deployer.pursues_call "addLiquidity" r.router (fun nowSecs => .addLiquidity
      (Plan.liquidityTerms d.settings d.deployer.account a.address b.address desired nowSecs))
        now).followed fun _ now => ?_
    exact (d.quiet_checkPair _ _ _).mapError.pursues (d.prompt_checkPair _ _ _).mapError
      fun _ => .pure rfl

end Deployment

/-! ## The command -/

namespace Connection

/-- Connecting takes no time. -/
theorem prompt_connect (node : Node σ) (s : Settings) : (connect node s).Prompt := by
  have hopen : (openClient node s).Prompt := by
    refine Talk.Prompt.bind ?_ fun w => ?_
    · exact (Talk.prompt_ofExcept _).bind fun _ => (Talk.prompt_report _).bind fun _ => .pure
    · exact (Talk.prompt_ofExcept _).bind fun _ => Client.prompt_forget.bind fun _ => .pure
  refine hopen.bind fun client => Talk.Prompt.bind ?_ fun _ => .pure
  have hreport (id : UInt64) : (do Talk.report (.connected client.settings.url id); pure id :
      Talk σ ChainError _).Prompt :=
    (Talk.prompt_report _).bind fun _ => .pure
  refine (client.prompt_read _ _).bind fun id => ?_
  cases client.settings.chainId with
  | none => exact hreport id
  | some expected =>
    dsimp only
    split
    · exact .throw
    · exact hreport id

end Connection

namespace Deploy

theorem pursues_reporting {α β : Type} {t : Talk σ (Stop DeployError) α} {s : Sender} {now : Clock}
    {p : Plan β} {result : α → β} (event : String → Event) (ht : t.Pursues s now p result) :
    (reporting event t).Pursues s now p result := by
  refine (Talk.EnsuresAt.attempt ht).bind_ok ?_
  rintro g (e | a) later ⟨sent, hg⟩
  · cases e with
    | failed e =>
      refine ((Talk.prompt_report _).ensuresAt (Talk.ensures_report _) later).bind ?_ ?_
      · rintro _ _ _ ⟨_, ⟨_, -, rfl⟩, -⟩
        refine .throw ⟨sent, ?_⟩
        rw [Growth.append_empty, Growth.asked_append, List.append_nil]
        exact hg
      · rintro _ ⟨_, ⟨_, rfl, -⟩, ⟨⟩⟩
    | stuck => exact .throw ⟨sent, by rwa [Growth.append_empty]⟩
    | broken => exact .throw ⟨sent, by rwa [Growth.append_empty]⟩
  · exact .pure ⟨sent, by rwa [Growth.append_empty]⟩

theorem pursues_deploy (d : Deployment σ) (skipLiquidity : Bool) (now : Clock) :
    (deploy d skipLiquidity).Pursues d.deployer.sender now
      (Plan.deployment d.artifacts d.settings d.deployer.account skipLiquidity) fun _ => () := by
  refine (pursues_reporting _ (d.pursues_deployContracts now)).bind fun record now => ?_
  cases skipLiquidity with
  | true => exact .pure rfl
  | false =>
    exact (pursues_reporting _ (d.pursues_addLiquidity record now)).followed fun _ _ => .pure rfl

section Records

variable (files : Files) (r : DeploymentRecord) (path : String)

theorem quiet_writeRecord : (writeRecord files r path : Talk σ DeployError Files).Quiet := by
  have hwrite : (Talk.ofExcept (r.write files path) : Talk σ _ _).Quiet := by
    refine (Talk.ensures_ofExcept _).mono ?_
    rintro _ _ ⟨-, rfl⟩
    rfl
  exact hwrite.bind fun files => (Talk.quiet_report _).bind fun _ => .pure

theorem prompt_writeRecord : (writeRecord files r path : Talk σ DeployError Files).Prompt :=
  (Talk.prompt_ofExcept _).bind fun _ => (Talk.prompt_report _).bind fun _ => .pure

end Records

section Run

variable (node : Node σ) (s : Settings) (files : Files) (skipLiquidity : Bool)

/-- The part of a run that follows once it is connected. -/
def afterConnect (artifacts : ArtifactSet) (c : Connection σ) : Talk σ (Stop RunError) Files := do
  let d : Deployment σ := ⟨⟨c, s.deploy.gasLimit⟩, artifacts, s.deploy⟩
  let record ← (deploy d skipLiquidity).mapError (·.map .deployment)
  match s.deploy.output with
  | none => return files
  | some path => (writeRecord files record path).mapError fun e => .failed (.deployment e)

theorem pursues_afterConnect (artifacts : ArtifactSet) (c : Connection σ) (now : Clock) :
    (afterConnect s files skipLiquidity artifacts c).Pursues
      (Deployer.sender ⟨c, s.deploy.gasLimit⟩) now
      (Plan.deployment artifacts s.deploy c.account skipLiquidity) fun _ => () := by
  have hdeploy := pursues_deploy ⟨⟨c, s.deploy.gasLimit⟩, artifacts, s.deploy⟩ skipLiquidity now
  refine hdeploy.mapError.followed fun record now => ?_
  cases s.deploy.output with
  | none => exact .pure rfl
  | some path =>
    exact (quiet_writeRecord files record path).mapError.pursues_pure
      (prompt_writeRecord files record path).mapError fun _ => rfl

variable {artifacts : ArtifactSet} (hartifacts : ArtifactSet.ofFiles files s.deploy = .ok artifacts)
include hartifacts

theorem run_of_artifacts :
    run node s files skipLiquidity = (do
      let c ← (Connection.connect node s).mapError fun e => .failed (.chain e)
      afterConnect s files skipLiquidity artifacts c) := by
  rw [run, hartifacts]
  rfl

/-- Without a wallet a run asks nothing. -/
theorem ensures_run_of_no_wallet {e : ChainError} (hwallet : s.account.wallet = .error e) :
    (run node s files skipLiquidity).Ensures fun g _ => g.asked = [] := by
  rw [run_of_artifacts node s files skipLiquidity hartifacts]
  have hconnect := Connection.ensures_connect node s
  rw [Settings.client?_of_no_wallet node hwallet] at hconnect
  refine hconnect.mapError.bind ?_ ?_
  · rintro g c ⟨_ | _, ⟨-, ⟨⟩⟩, ⟨⟩⟩
  · rintro g e ⟨x, ⟨hasked, -⟩, -⟩
    exact hasked

/-- Who sends the transactions of a run. -/
def sender (s : Settings) (w : Wallet) : Sender where
  wallet := w
  gasLimit := s.deploy.gasLimit
  required := s.rpc.confirmationBlocks.toNat
  intervalMs := s.rpc.pollIntervalMs.toNat

/-- **With a wallet a run pursues its plan.** -/
theorem pursues_run {w : Wallet} (hwallet : s.account.wallet = .ok w) (now : Clock) :
    (run node s files skipLiquidity).Pursues (sender s w) now
      (Plan.deployment artifacts s.deploy w.address skipLiquidity) fun _ => () := by
  rw [run_of_artifacts node s files skipLiquidity hartifacts]
  have hconnect := (Connection.prompt_connect node s).ensuresAt
    (Connection.ensures_connect_client node hwallet) now
  refine hconnect.mapError.bind ?_ ?_
  · rintro g c _ ⟨_ | _, ⟨hasked, hclient⟩, ⟨⟩⟩
    have hafter := pursues_afterConnect s files skipLiquidity artifacts c now
    rw [Deployer.sender, Connection.account, hclient c rfl] at hafter
    refine hafter.mono ?_
    rintro h x ⟨sent, hh⟩
    exact ⟨sent, hh.after_quiet hasked⟩
  · rintro g ⟨_, ⟨hasked, -⟩, -⟩
    exact ⟨[], .stopped hasked⟩

end Run

end Deploy
end LocalChain

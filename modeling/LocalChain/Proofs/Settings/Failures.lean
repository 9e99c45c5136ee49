import LocalChain.Program
import LocalChain.Proofs.Account.Keys
import LocalChain.Proofs.Deployment.Sequence
import LocalChain.Proofs.Session.Endings
import LocalChain.Proofs.Settings.Validity
import LocalChain.Proofs.Spam.Conversation

/-!
# Settings that are judged right do not fail later

Settings are judged once, and used much later: by the plan of the transfers, by the client, by the
account and in the middle of a deployment.  Whoever uses them finds them as they were judged.
Amounts can be read for every field that uses them, liquidity finds its two tokens, and a phrase
that is used is not blank.

So a command whose settings have no problems does not break off, and it does not fail with an error
that is about them (`RunError.FromOutside`); the account, the node and the files are what is left to
fail (`failures_of_valid`).
-/

namespace LocalChain

/-! ## What is judged and what is used -/

/-- An amount is judged for one field and used for another. -/
theorem readAmount_of_wei? {value : String} {w : Word} (h : wei? value = some w)
    (field : String) : readAmount field value = some (.ok w) := by
  rw [← toOption_readAmount field] at h
  rcases hread : readAmount field value with _ | _ | w'
  · rw [hread] at h; cases h
  · rw [hread] at h; cases h
  · rw [hread] at h
    cases h
    rfl

theorem Settings.wei?_of_amountProblems {field value : String}
    (h : Settings.amountProblems field value = some []) : ∃ w, wei? value = some w := by
  obtain ⟨w, hw⟩ := (Settings.amountProblems_eq_nil_iff field value).mp h
  exact ⟨w, by rw [← toOption_readAmount field, hw]; rfl⟩

theorem TokenSettings.wei?_of_problemsFrom {ts : List TokenSettings} {i : Nat}
    (h : problemsFrom i ts = some []) : ∀ t ∈ ts, ∃ w, wei? t.supply = some w := by
  induction ts generalizing i with
  | nil => simp
  | cons t ts ih =>
    rw [problemsFrom, problems] at h
    -- a list of problems is empty only if both of its parts are
    cases hsupply :
        Settings.amountProblems ("deploy.tokens[" ++ toString i ++ "].supply") t.supply with
    | none => rw [hsupply] at h; cases h
    | some supply =>
      cases hothers : problemsFrom (i + 1) ts with
      | none => rw [hsupply, hothers] at h; cases h
      | some others =>
        rw [hsupply, hothers] at h
        simp only [Option.pure_def, Option.bind_eq_bind, Option.bind_some, Option.some.injEq,
          List.append_eq_nil_iff] at h
        obtain ⟨⟨-, rfl⟩, rfl⟩ := h
        exact List.forall_mem_cons.mpr
          ⟨Settings.wei?_of_amountProblems hsupply, ih hothers⟩

/-- Contracts that have no problems: two tokens at least, and every amount is one. -/
theorem DeploySettings.of_valid {d : DeploySettings} (h : d.problems = some []) :
    2 ≤ d.tokens.length ∧ (∀ t ∈ d.tokens, ∃ w, wei? t.supply = some w) ∧
      ∃ w, wei? d.liquidityAmount = some w := by
  rw [problems] at h
  cases htokens : TokenSettings.problemsFrom 0 d.tokens with
  | none => rw [htokens] at h; cases h
  | some tokens =>
    cases hliquidity : Settings.amountProblems "deploy.liquidity_amount" d.liquidityAmount with
    | none => rw [htokens, hliquidity] at h; cases h
    | some liquidity =>
      rw [htokens, hliquidity] at h
      simp only [Option.pure_def, Option.bind_eq_bind, Option.bind_some, Option.some.injEq,
        List.append_eq_nil_iff, Problem.when_eq_nil_iff, decide_eq_false_iff_not,
        Nat.not_lt] at h
      obtain ⟨⟨⟨-, hcount⟩, rfl⟩, rfl⟩ := h
      exact ⟨hcount, TokenSettings.wei?_of_problemsFrom htokens,
        Settings.wei?_of_amountProblems hliquidity⟩

theorem RpcSettings.pollIntervalMs_of_valid {r : RpcSettings} (h : r.problems = []) :
    r.pollIntervalMs ≠ 0 := by
  simp only [problems, List.append_eq_nil_iff, Problem.when_eq_nil_iff,
    decide_eq_false_iff_not] at h
  exact h.1.2

theorem Client.create_of_valid {σ : Type} (node : Node σ) {r : RpcSettings}
    (h : r.problems = []) (w : Wallet) : Client.create node r w = .ok ⟨node, r, w⟩ := by
  have hurl := r.isUrl_of_valid h
  rw [Settings.isNoUrl] at hurl
  rw [create]
  cases hparse : Url.parse r.url with
  | error e => rw [hparse] at hurl; cases hurl
  | ok u => rfl

theorem AccountSettings.phrase_of_valid {a : AccountSettings} (h : a.problems = [])
    (hkey : a.key? = none) : Text.isBlankText a.mnemonic = false := by
  simpa [problems, hkey] using h

theorem ObservabilitySettings.addressEvent?_of_valid {o : ObservabilitySettings}
    (h : o.problems = []) : o.addressEvent? = none := by
  rw [problems, Problem.when_eq_nil_iff, Bool.and_eq_false_iff] at h
  rw [addressEvent?, if_neg]
  rintro ⟨henabled, hnone⟩
  rcases h with h | h
  · rw [henabled] at h; cases h
  · rw [hnone] at h; cases h

/-- **Settings that are resolved have no problems.** -/
theorem Settings.valid_of_resolve {files : Files} {path key : Option String} {o : Overrides}
    {s : Settings} (h : Settings.resolve files path key o = some (.ok s)) :
    s.problems = some [] := by
  rw [resolve] at h
  cases hfile : path.elim (.ok {}) (readFile files) with
  | error e => rw [hfile] at h; cases h
  | ok given =>
    rw [hfile] at h
    simp only [check, Option.map_eq_some_iff] at h
    obtain ⟨problems, hproblems, hs⟩ := h
    split at hs
    · rename_i hempty
      cases hs
      rw [hproblems, List.isEmpty_iff.mp hempty]
    · cases hs

/-! ## Errors that settings have no part in -/

/-- The error is not that of an amount, or of too few tokens, or of a text in the place of the URL.
-/
def DeployError.FromOutside : DeployError → Prop
  | amount _ => False
  | chain cause => cause.FromOutside
  | _ => True

/-- The error is not about the settings of the run. -/
def RunError.FromOutside : RunError → Prop
  | settings _ => False
  | plan _ => False
  | chain cause => cause.FromOutside
  | deployment cause => cause.FromOutside

theorem ChainError.fromOutside_wallet (message : String) : (wallet message).FromOutside := by
  rintro text ⟨⟩

/-- An account that is none is no failure of the settings: they say only that there is a text. -/
theorem AccountSettings.fromOutside_of_wallet {a : AccountSettings} {e : ChainError}
    (h : a.wallet = .error e) : e.FromOutside := by
  obtain ⟨m, rfl⟩ := a.exists_error_of_wallet h
  exact ChainError.fromOutside_wallet m

variable {σ : Type}

/-! ## Steps of a deployment -/

namespace Deployer

variable (d : Deployer σ)

theorem ends_explain (label : String) (r : TxRequest) (error : ChainError) :
    (d.explain label r error).FailsOnly (Stop.Only DeployError.FromOutside) := by
  refine (Talk.ends_report _).bind fun _ _ => ?_
  refine (d.connection.client.ends_read _ _).attempt_bind (fun _ _ => ?_) fun _ _ => ?_
  · exact (Talk.ends_report _).bind fun _ _ => .throw trivial
  · exact (Talk.ends_report _).bind fun _ _ => .throw trivial

variable {d} (hpoll : d.connection.client.settings.pollIntervalMs ≠ 0)
include hpoll

/-- **A step fails because a transaction did**, whatever the reason. -/
theorem ends_confirm (label : String) (r : TxRequest) :
    (d.confirm label r).FailsOnly (Stop.Only DeployError.FromOutside) := by
  have hsend : (d.sendAndConfirm r).FailsOnly (Stop.Only ChainError.FromOutside) :=
    (d.connection.client.ends_send r).bind fun hash _ => d.connection.client.ends_confirm hpoll hash
  refine hsend.attempt_bind (fun _ _ => .pure trivial) fun e he => ?_
  cases e with
  | failed e => exact d.ends_explain label r e
  | stuck => exact .throw trivial
  | broken => exact he.elim

theorem ends_deploy (artifact : Artifact) (arguments : Bytes) :
    (d.deploy artifact arguments).FailsOnly (Stop.Only DeployError.FromOutside) := by
  refine (ends_confirm hpoll _ _).bind fun receipt _ => ?_
  cases receipt.contract with
  | none => exact .throw trivial
  | some address =>
    refine (Talk.ends_enter _).bind fun _ _ => ?_
    exact (Talk.ends_report _).bind fun _ _ => .pure trivial

theorem ends_call (label : String) (contract : Address) (call : Contract.Call) :
    (d.call label contract call).FailsOnly (Stop.Only DeployError.FromOutside) := by
  refine (ends_confirm hpoll _ _).bind fun receipt _ => ?_
  exact (Talk.ends_report _).bind fun _ _ => .pure trivial

omit hpoll

theorem ends_read {α : Type} (d : Deployer σ) (contract : Address) (call : Contract.Call)
    (decode : Bytes → Option α) :
    (d.read contract call decode).FailsOnly DeployError.FromOutside := by
  have hcall : ((d.connection.client.read (.call { d.calling contract call with
      gasLimit := none }) Quantity.bytes?).mapError .chain).FailsOnly DeployError.FromOutside :=
    (d.connection.client.ends_read _ _).mapError fun e he => he
  refine hcall.bind fun output _ => ?_
  cases decode output with
  | some a => exact .pure trivial
  | none => exact .throw trivial

end Deployer

/-! ## Deployments -/

namespace Deployment

variable {d : Deployment σ}

theorem ends_amount {value : String} {w : Word} (h : wei? value = some w) (field : String) :
    (amount field value : Talk σ _ _).FailsOnly (Stop.Only DeployError.FromOutside) := by
  rw [amount, readAmount_of_wei? h field]
  exact .pure trivial

section Steps

variable (hpoll : d.deployer.connection.client.settings.pollIntervalMs ≠ 0)
include hpoll

theorem ends_deployToken {t : TokenSettings} (h : ∃ w, wei? t.supply = some w) :
    (d.deployToken t).FailsOnly (Stop.Only DeployError.FromOutside) := by
  obtain ⟨w, hw⟩ := h
  refine (ends_amount hw _).bind fun supply _ => ?_
  refine (Deployer.ends_deploy hpoll _ _).bind fun address _ => ?_
  exact (Talk.ends_report _).bind fun _ _ => .pure trivial

/-- As many tokens are created as there are in the settings. -/
theorem ends_deployTokens {ts : List TokenSettings}
    (h : ∀ t ∈ ts, ∃ w, wei? t.supply = some w) :
    (d.deployTokens ts).Ends (fun tokens => tokens.length = ts.length)
      (Stop.Only DeployError.FromOutside) := by
  induction ts with
  | nil => exact .pure rfl
  | cons t ts ih =>
    obtain ⟨ht, hts⟩ := List.forall_mem_cons.mp h
    refine (ends_deployToken hpoll ht).bind fun token _ => ?_
    refine (ih hts).bind fun tokens htokens => ?_
    exact .pure (congrArg (· + 1) htokens)

theorem ends_deployContracts (h : ∀ t ∈ d.settings.tokens, ∃ w, wei? t.supply = some w) :
    d.deployContracts.Ends (fun record => record.tokens.length = d.settings.tokens.length)
      (Stop.Only DeployError.FromOutside) := by
  refine (Talk.ends_report _).bind fun _ _ => ?_
  refine (Deployer.ends_deploy hpoll _ _).bind fun weth _ => ?_
  refine (Deployer.ends_deploy hpoll _ _).bind fun factory _ => ?_
  refine (Deployer.ends_deploy hpoll _ _).bind fun router _ => ?_
  exact (ends_deployTokens hpoll h).bind fun tokens htokens => .pure htokens

omit hpoll in
theorem ends_checkPair (factory tokenA tokenB : Address) :
    (d.checkPair factory tokenA tokenB).FailsOnly DeployError.FromOutside := by
  refine (d.deployer.ends_read _ _ _).bind fun pair _ => ?_
  dsimp only
  split
  · exact .throw trivial
  · refine (d.deployer.ends_read _ _ _).bind fun reserves _ => ?_
    exact (Talk.ends_report _).bind fun _ _ => .pure trivial

/-- **Liquidity finds its two tokens.** -/
theorem ends_addLiquidity {r : DeploymentRecord} (htokens : 2 ≤ r.tokens.length)
    (h : ∃ w, wei? d.settings.liquidityAmount = some w) :
    (d.addLiquidity r).FailsOnly (Stop.Only DeployError.FromOutside) := by
  obtain ⟨w, hw⟩ := h
  obtain ⟨chainId, deployer, weth, factory, router, tokens, pair⟩ := r
  rcases tokens with _ | ⟨a, _ | ⟨b, others⟩⟩
  · simp at htokens
  · simp at htokens
  refine (ends_amount hw _).bind fun desired _ => ?_
  have happrove (token : Address) :
      (d.approve router desired token).FailsOnly (Stop.Only DeployError.FromOutside) :=
    (Deployer.ends_call hpoll _ _ _).bind fun _ _ => .pure trivial
  refine (Talk.ends_forM happrove _).bind fun _ _ => ?_
  refine Talk.ends_get.bind fun session _ => ?_
  refine (Deployer.ends_call hpoll _ _ _).bind fun _ _ => ?_
  have hpair : (d.checkPair factory a.address b.address).stoppable.FailsOnly
      (Stop.Only DeployError.FromOutside) :=
    (ends_checkPair _ _ _).mapError fun e he => he
  exact hpair.bind fun state _ => .pure trivial

end Steps
end Deployment

/-! ## Commands -/

namespace Connection

/-- **Connecting with settings without problems** fails for reasons of the account or the node. -/
theorem ends_connect (node : Node σ) {s : Settings} (hrpc : s.rpc.problems = []) :
    (connect node s).Ends (fun c => c.client.settings = s.rpc) ChainError.FromOutside := by
  have hwallet : (loadWallet s.account : Talk σ ChainError Wallet).FailsOnly
      ChainError.FromOutside := by
    refine (Talk.failsOnly_ofExcept fun e he =>
      AccountSettings.fromOutside_of_wallet he).bind fun w _ => ?_
    exact (Talk.ends_report _).bind fun _ _ => .pure trivial
  have hopen : (openClient node s).Ends (fun c => c.settings = s.rpc) ChainError.FromOutside := by
    refine hwallet.bind fun w _ => ?_
    rw [Client.create_of_valid node hrpc w]
    have hforget : (Client.forget : Talk σ ChainError Unit).FailsOnly ChainError.FromOutside :=
      fun _ => trivial
    exact hforget.bind fun _ _ => .pure rfl
  refine hopen.bind fun c hc => ?_
  exact c.ends_resolveChainId.bind fun id _ => .pure hc

end Connection

namespace Deploy

theorem ends_reporting {α : Type} {given : α → Prop} {t : Talk σ (Stop DeployError) α}
    (event : String → Event) (ht : t.Ends given (Stop.Only DeployError.FromOutside)) :
    (reporting event t).Ends given (Stop.Only DeployError.FromOutside) := by
  refine ht.attempt_bind (fun a ha => .pure ha) fun e he => ?_
  cases e with
  | failed e => exact (Talk.ends_report _).bind fun _ _ => .throw he
  | stuck => exact .throw trivial
  | broken => exact he.elim

theorem ends_deploy {d : Deployment σ} (skipLiquidity : Bool)
    (hpoll : d.deployer.connection.client.settings.pollIntervalMs ≠ 0)
    (hsettings : d.settings.problems = some []) :
    (deploy d skipLiquidity).FailsOnly (Stop.Only DeployError.FromOutside) := by
  obtain ⟨htokens, hsupplies, hliquidity⟩ := DeploySettings.of_valid hsettings
  refine (ends_reporting _ (Deployment.ends_deployContracts hpoll hsupplies)).bind
    fun record hrecord => ?_
  cases skipLiquidity with
  | true => exact .pure trivial
  | false =>
    refine (ends_reporting _ (Deployment.ends_addLiquidity hpoll ?_ hliquidity)).bind
      fun _ _ => .pure trivial
    rwa [hrecord]

theorem fromOutside_of_write {files : Files} {r : DeploymentRecord} {path : String}
    {e : DeployError} (h : r.write files path = .error e) : e.FromOutside := by
  rw [DeploymentRecord.write] at h
  cases hwrite : files.write path (Bytes.ofText r.text) with
  | ok files => rw [hwrite] at h; cases h
  | error cause => rw [hwrite] at h; cases h; trivial

theorem fromOutside_of_ofFile {files : Files} {path : String} {e : DeployError}
    (h : Artifact.ofFile files path = .error e) : e.FromOutside := by
  rw [Artifact.ofFile] at h
  split at h
  · cases h; trivial
  · rename_i text _
    cases htext : Artifact.ofJson (Path.stem path) text with
    | ok artifact => rw [htext] at h; cases h
    | error cause => rw [htext] at h; cases h; trivial

theorem fromOutside_of_ofFiles {files : Files} {d : DeploySettings} {e : DeployError}
    (h : ArtifactSet.ofFiles files d = .error e) : e.FromOutside := by
  -- the first artifact that cannot be had is the error of all
  have hstep {α : Type} {path : String} {rest : Artifact → Except DeployError α}
      (hrest : ∀ artifact e, rest artifact = .error e → e.FromOutside) (e : DeployError)
      (h : Artifact.ofFile files path >>= rest = .error e) : e.FromOutside := by
    cases hartifact : Artifact.ofFile files path with
    | error cause => rw [hartifact] at h; cases h; exact fromOutside_of_ofFile hartifact
    | ok artifact => rw [hartifact] at h; exact hrest artifact e h
  refine hstep (fun weth e h => ?_) e h
  refine hstep (fun factory e h => ?_) e h
  refine hstep (fun router e h => ?_) e h
  exact hstep (fun token e h => by cases h) e h

theorem ends_run (node : Node σ) {s : Settings} (valid : s.problems = some []) (files : Files)
    (skipLiquidity : Bool) :
    (run node s files skipLiquidity).FailsOnly (Stop.Only RunError.FromOutside) := by
  obtain ⟨hrpc, -, -, hdeploy, -⟩ := s.problems_eq_nil_iff.mp valid
  have hread : (Talk.ofExcept (ArtifactSet.ofFiles files s.deploy) :
      Talk σ DeployError _).FailsOnly DeployError.FromOutside :=
    Talk.failsOnly_ofExcept fun e he => fromOutside_of_ofFiles he
  have hartifacts := hread.failed RunError.deployment RunError.FromOutside fun e he => he
  refine hartifacts.bind fun artifacts _ => ?_
  have hconnect := (Connection.ends_connect node hrpc).failed RunError.chain
    RunError.FromOutside fun e he => he
  refine hconnect.bind fun c hc => ?_
  have hpoll : c.client.settings.pollIntervalMs ≠ 0 :=
    hc ▸ RpcSettings.pollIntervalMs_of_valid hrpc
  let d : Deployment σ := ⟨⟨c, s.deploy.gasLimit⟩, artifacts, s.deploy⟩
  have hsteps : ((deploy d skipLiquidity).mapError (·.map .deployment)).FailsOnly
      (Stop.Only RunError.FromOutside) :=
    (ends_deploy skipLiquidity hpoll hdeploy).mapError fun e he => by cases e <;> exact he
  refine hsteps.bind fun record _ => ?_
  cases s.deploy.output with
  | none => exact .pure trivial
  | some path =>
    have hwrite : (writeRecord files record path : Talk σ DeployError Files).FailsOnly
        DeployError.FromOutside := by
      refine (Talk.failsOnly_ofExcept fun e he => fromOutside_of_write he).bind
        fun files _ => ?_
      exact (Talk.ends_report _).bind fun _ _ => .pure trivial
    exact hwrite.failed RunError.deployment RunError.FromOutside fun e he => he

end Deploy

namespace Spam

/-- A run of transfers fails when its first nonce cannot be had, or when no nonce is left. -/
theorem fromOutside_of_result {t : TransferSender σ} {plan : IssuancePlan} {session : Session σ}
    {e : ChainError} (h : (Issuance.run t.sink plan session).result = .error e) :
    e.FromOutside := by
  have hvalue : (t.sink.baseNonce session).1.value = (t.baseNonce.runFrom session).1 := rfl
  cases hbase : (t.baseNonce.runFrom session).1 with
  | error cause =>
    rw [Issuance.run_of_error t.sink plan (hvalue.trans hbase)] at h
    cases h
    have hread := t.connection.client.ends_read (.transactionCount t.connection.account false)
      Quantity.word64? session
    rwa [show (Client.read _ _ _).runFrom session = t.baseNonce.runFrom session from rfl,
      hbase] at hread
  | ok base =>
    rw [Issuance.result_run (hvalue.trans hbase)] at h
    split at h
    · cases h
    · cases h
      rintro text ⟨⟩

theorem ends_openSender (node : Node σ) {s : Settings} (hrpc : s.rpc.problems = []) :
    (openSender node s).FailsOnly ChainError.FromOutside := by
  refine (Connection.ends_connect node hrpc).bind fun c _ => ?_
  have hfixed (price : Price) :
      (do Talk.report (.gasPriceFixed price.toNat); return ⟨c, price⟩ :
        Talk σ ChainError (TransferSender σ)).FailsOnly ChainError.FromOutside :=
    (Talk.ends_report _).bind fun _ _ => .pure trivial
  cases configuredPrice s.load with
  | some price => exact hfixed price
  | none => exact (c.client.ends_read _ _).bind fun price _ => hfixed price

theorem ends_issue (node : Node σ) {s : Settings} (valid : s.problems = some []) :
    (issue node s).Ends (fun issued => ∀ e, issued.ended.result = .error e → e.FromOutside)
      (Stop.Only RunError.FromOutside) := by
  obtain ⟨hrpc, -, hload, -, -⟩ := s.problems_eq_nil_iff.mp valid
  obtain ⟨plan, hplan, -⟩ := IssuancePlan.ofSettings_of_valid hload
  rw [issue_eq hplan]
  have hsender := (ends_openSender node hrpc).failed RunError.chain RunError.FromOutside
    fun e he => he
  exact hsender.bind fun sender _ session e he => fromOutside_of_result he

theorem ends_run (node : Node σ) {s : Settings} (valid : s.problems = some []) :
    (run node s).FailsOnly (Stop.Only RunError.FromOutside) := by
  refine (ends_issue node valid).bind fun issued hissued => ?_
  cases hresult : issued.ended.result with
  | error e =>
    exact (Talk.ends_enterAll _).bind fun _ _ => .throw (hissued e hresult)
  | ok summary =>
    refine (Talk.ends_enterAll _).bind fun _ _ => ?_
    exact Talk.ends_report _

end Spam

namespace Program

/-- **A command with settings without problems fails for reasons of the account, the node and the
files only**, and it does not break off. -/
theorem ends_runCommand (node : Node σ) (around : Surroundings) {s : Settings}
    (valid : s.problems = some []) (c : Command) :
    (runCommand node around s c).FailsOnly (Stop.Only RunError.FromOutside) := by
  refine (Talk.ends_report _).bind fun _ _ => ?_
  obtain ⟨-, -, -, -, hobservability⟩ := s.problems_eq_nil_iff.mp valid
  rw [ObservabilitySettings.addressEvent?_of_valid hobservability]
  have hnone : ((none : Option Event).forM Talk.report : Talk σ (Stop RunError) PUnit).FailsOnly
      (Stop.Only RunError.FromOutside) := .pure trivial
  refine hnone.bind fun _ _ => ?_
  cases c with
  | spam => exact (Spam.ends_run node valid).bind fun _ _ => .pure trivial
  | deploy skipLiquidity => exact Deploy.ends_run node valid around.files skipLiquidity

end Program

/-- **Settings that are judged right do not fail later**, and those that are resolved are judged
right.  There is a plan for the transfers and a client for the URL, every amount can be read for
whatever field it is used, the contracts of a deployment have two tokens for their liquidity, a
phrase that is used is not blank, and no address is found wanting.  Against any node a command does
not break off, and an error that it ends with is not about the settings. -/
theorem failures_of_valid (s : Settings)
    (valid : s.problems = some [] ∨
      ∃ files path key overrides, Settings.resolve files path key overrides = some (.ok s)) :
    s.observability.addressEvent? = none ∧
    (s.account.key? = none → Text.isBlankText s.account.mnemonic = false) ∧
    (∃ plan, IssuancePlan.ofSettings s.load = some (.ok plan)) ∧
    (∀ t ∈ s.deploy.tokens, ∀ field, ∃ w, readAmount field t.supply = some (.ok w)) ∧
    (∀ field, ∃ w, readAmount field s.deploy.liquidityAmount = some (.ok w)) ∧
    ∀ (σ : Type) (node : Node σ) (session : Session σ),
      (∀ w, Client.create node s.rpc w = .ok ⟨node, s.rpc, w⟩) ∧
      (∀ w chainId artifacts record,
        let d : Deployment σ :=
          ⟨⟨⟨⟨node, s.rpc, w⟩, chainId⟩, s.deploy.gasLimit⟩, artifacts, s.deploy⟩
        (d.deployContracts.runFrom session).1 = .ok record → 2 ≤ record.tokens.length) ∧
      ∀ around command,
        match ((Program.runCommand node around s command).runFrom session).1 with
        | .ok _ => True
        | .error (.failed e) => e.FromOutside
        | .error .stuck => True
        | .error .broken => False := by
  have valid : s.problems = some [] := by
    rcases valid with valid | ⟨files, path, key, overrides, hresolve⟩
    · exact valid
    · exact Settings.valid_of_resolve hresolve
  obtain ⟨hrpc, haccount, hload, hdeploy, hobservability⟩ := s.problems_eq_nil_iff.mp valid
  obtain ⟨htokens, hsupplies, liquidity, hliquidity⟩ := DeploySettings.of_valid hdeploy
  obtain ⟨plan, hplan, -⟩ := IssuancePlan.ofSettings_of_valid hload
  refine ⟨ObservabilitySettings.addressEvent?_of_valid hobservability,
    AccountSettings.phrase_of_valid haccount, ⟨plan, hplan⟩, fun t ht field => ?_,
    fun field => ⟨liquidity, readAmount_of_wei? hliquidity field⟩, fun σ node session => ?_⟩
  · obtain ⟨w, hw⟩ := hsupplies t ht
    exact ⟨w, readAmount_of_wei? hw field⟩
  refine ⟨Client.create_of_valid node hrpc, fun w chainId artifacts record => ?_,
    fun around command => ?_⟩
  · intro d hrecord
    have hpoll : s.rpc.pollIntervalMs ≠ 0 := RpcSettings.pollIntervalMs_of_valid hrpc
    have hlength := (Deployment.ends_deployContracts (d := d) hpoll hsupplies).given_of_ok hrecord
    rw [hlength]
    exact htokens
  · have hends := Program.ends_runCommand node around valid command session
    cases hx : ((Program.runCommand node around s command).runFrom session).1 with
    | ok files => trivial
    | error stop =>
      rw [hx] at hends
      cases stop with
      | failed e => exact hends
      | stuck => trivial
      | broken => exact hends

/-- The default settings, with a node that takes the first transaction and fails the second. -/
theorem failures_of_default_settings :
    ({} : Settings).problems = some [] ∧
      ∀ around command,
        match ((Program.runCommand (NodeScript.node { revertNonces := [1] }) around {}
          command).runFrom { node := NodeScript.start {} }).1 with
        | .ok _ => True
        | .error (.failed e) => e.FromOutside
        | .error .stuck => True
        | .error .broken => False :=
  ⟨Settings.problems_default, fun around command =>
    ((failures_of_valid {} (.inl Settings.problems_default)).2.2.2.2.2 _ _ _).2.2 around command⟩

end LocalChain

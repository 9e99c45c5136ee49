import LocalChain.Node.Script
import LocalChain.Proofs.Deployment.Runs
import LocalChain.Proofs.Session.Asked
import LocalChain.Proofs.Wire.Transactions

/-!
# The chain of a deployment

A run asks for the chain twice.  The first answer is compared with the settings and goes into the
record.  The client does not keep it, and asks again before it completes the first transaction;
every transaction is signed for the chain that the node names then (`Deploy.chain_run`).  The two
chains are the same unless the node changes its answer, and nothing is checked when it does
(`Deploy.signs_for_changed_chain`).
-/

namespace LocalChain

variable {σ : Type}

/-! ## Entries of the ledger -/

theorem Transcript.map_fst_ledger (required : Nat) (h : Transcript) :
    (ledger required h).map Prod.fst = h.broadcasts := by
  induction h with
  | nil => rfl
  | cons e h ih =>
    obtain ⟨r, a⟩ := e
    rw [broadcasts_cons, ← ih]
    cases r <;> rfl

namespace Deploy

/-- The bytes of a transaction that a wallet has signed for a chain. -/
def SignedFor (w : Wallet) (chainId : UInt64) (raw : Bytes) : Prop :=
  ∃ t : Transaction, raw = t.sign w.key ∧ t.fee.chainId? = some chainId

/-- The broadcasts of a run are its transactions, signed. -/
theorem Booked.broadcasts_eq {s : Settings} {files : Files} {skipLiquidity : Bool}
    {asked : Transcript} {bs : List Booking} (hb : Booked s files skipLiquidity asked bs)
    {w : Wallet} (hwallet : s.account.wallet = .ok w) :
    asked.broadcasts = bs.map fun b => b.transaction.sign w.key := by
  unfold Booked at hb
  rw [hwallet] at hb
  cases hartifacts : ArtifactSet.ofFiles files s.deploy with
  | error e =>
    rw [hartifacts] at hb
    obtain ⟨rfl, rfl⟩ := hb
    rfl
  | ok artifacts =>
    rw [hartifacts] at hb
    rw [← Transcript.map_fst_ledger s.rpc.confirmationBlocks.toNat, hb.1, List.map_map]
    rfl

theorem Booked.broadcasts_eq_nil {s : Settings} {files : Files} {skipLiquidity : Bool}
    {asked : Transcript} (hb : Booked s files skipLiquidity asked []) : asked.broadcasts = [] := by
  cases hwallet : s.account.wallet with
  | ok w => exact hb.broadcasts_eq hwallet
  | error e =>
    have hidle : asked = [] ∧ ([] : List Booking) = [] := by
      unfold Booked at hb
      rw [hwallet] at hb
      cases hartifacts : ArtifactSet.ofFiles files s.deploy <;> rw [hartifacts] at hb <;> exact hb
    rw [hidle.1]
    rfl

/-- The chain that is named first is the one that is always named. -/
theorem chain?_eq_of_constant {h : Transcript} {id used : UInt64} (hused : h.chain? = some used)
    (hconstant : ∀ e ∈ h, ∀ named ∈ e.chain?, named = id) : used = id := by
  obtain ⟨e, he, hnamed⟩ := List.exists_of_findSome?_eq_some hused
  exact hconstant e he used hnamed

/-- **The chain of a deployment.**  Against any node, a run that broadcasts anything was first told
a chain that agrees with the settings, and this chain is the one in its record.  What it broadcasts
is signed for the first chain that the node names after that.

So everything is signed for the chain that was checked if the node names no other chain later. -/
theorem chain_run (node : Node σ) (s : Settings) (files : Files) (skipLiquidity : Bool)
    (session : Session σ) :
    let ended := (run node s files skipLiquidity).runFrom session
    let outcome := ((steps node s files skipLiquidity).runFrom session).1
    ∃ asked : Transcript, ended.2.requests = session.requests ++ asked ∧
      (asked.broadcasts = [] ∧ outcome.toOption = none ∨
        ∃ (w : Wallet) (first : Answer) (rest : Transcript) (checked : UInt64),
          s.account.wallet = .ok w ∧ asked = (.chainId, first) :: rest ∧
          first.value? Quantity.word64? = some checked ∧ (∀ id ∈ s.rpc.chainId, checked = id) ∧
          (∀ r ∈ outcome.toOption, r.chainId = checked) ∧
          (∀ raw ∈ asked.broadcasts, ∃ used, rest.chain? = some used ∧ SignedFor w used raw) ∧
          ((∀ e ∈ rest, ∀ id ∈ e.chain?, id = checked) →
            ∀ raw ∈ asked.broadcasts, SignedFor w checked raw)) := by
  intro ended outcome
  obtain ⟨g, bs, hg, haccounts⟩ := accounts_steps node s files skipLiquidity session
  obtain ⟨h, hh, hasked, -, -⟩ := ended_run node s files skipLiquidity hg
  refine ⟨h.asked, hh.requests_eq, ?_⟩
  have hbooked := haccounts.booked
  rw [← hasked] at hbooked
  rcases haccounts.connected with
    ⟨rfl, hnone⟩ | ⟨w, first, rest, checked, hwallet, hfirst, haccepted, hfor, hrecord⟩
  · exact .inl ⟨hbooked.broadcasts_eq_nil, hnone⟩
  · obtain ⟨hchecked, hexpected⟩ := Option.filter_eq_some_iff.mp haccepted
    have hsigned (raw : Bytes) (hraw : raw ∈ h.asked.broadcasts) :
        ∃ used, rest.chain? = some used ∧ SignedFor w used raw := by
      rw [hbooked.broadcasts_eq hwallet] at hraw
      obtain ⟨b, hb, rfl⟩ := List.mem_map.mp hraw
      obtain ⟨used, hused, hfee⟩ := hfor b hb
      exact ⟨used, hused, b.transaction, rfl, hfee⟩
    refine .inr ⟨w, first, rest, checked, hwallet, hasked.trans hfirst, hchecked, ?_, ?_,
      hsigned, ?_⟩
    · intro id hid
      rw [Option.mem_def.mp hid] at hexpected
      exact (by simpa using hexpected : id = checked).symm
    · intro r hr
      exact (hrecord r hr).1.chainId_eq
    · intro hconstant raw hraw
      obtain ⟨used, hused, hfor'⟩ := hsigned raw hraw
      rwa [← chain?_eq_of_constant hused hconstant]

end Deploy

/-! ## The first transaction -/

/-- A talk that pursues a plan from whatever time on only adds to a session. -/
theorem Talk.Pursues.grows {ε α β : Type} {t : Talk σ ε α} {s : Sender} {p : Plan β}
    {result : α → β} (ht : ∀ now, t.Pursues s now p result) : t.Grows := by
  intro session
  obtain ⟨g, hg, -⟩ := ht session.clock session rfl
  exact ⟨g, hg, trivial⟩

namespace Deployer

variable (d : Deployer σ)

/-- A transaction that can be completed is broadcast. -/
theorem asks_confirm (label : String) (t : PlannedTransaction) {s s' : Session σ}
    {nonce chainId : UInt64} {o : Offer}
    (hcomplete : (d.connection.client.complete (d.request t)).runFrom s =
      (.ok (d.completedRequest t nonce chainId o), s')) :
    (d.confirm label (d.request t)).Asks s
      (.sendRaw ((d.transaction t nonce chainId o).sign d.connection.client.wallet.key)) := by
  have hsend : (d.connection.client.send (d.request t)).Asks s
      (.sendRaw ((d.transaction t nonce chainId o).sign d.connection.client.wallet.key)) := by
    refine Talk.Asks.after hcomplete ?_
    simp only [d.sign_completedRequest]
    refine (d.connection.client.ensures_sendSigned _).asks ?_
    rintro g x ⟨a, hasked, -⟩
    exact ⟨a, by simp [hasked]⟩
  have hconfirm : (d.sendAndConfirm (d.request t)).Asks s _ :=
    hsend.bind fun hash => (d.connection.client.ensures_confirm hash).grows
  refine hconfirm.attempt.bind ?_
  rintro ((e | _ | _) | receipt)
  · exact (d.ensures_explain label _ e).grows
  · exact .throw
  · exact .throw
  · exact .pure

theorem grows_deploy (artifact : Artifact) (arguments : Bytes) :
    (d.deploy artifact arguments).Grows :=
  Talk.Pursues.grows (d.pursues_deploy artifact arguments)

/-- So is a creation. -/
theorem asks_deploy (artifact : Artifact) (arguments : Bytes) {s s' : Session σ}
    {nonce chainId : UInt64} {o : Offer}
    (hcomplete : (d.connection.client.complete
      (d.request ⟨.create, artifact.bytecode ++ arguments⟩)).runFrom s =
        (.ok (d.completedRequest ⟨.create, artifact.bytecode ++ arguments⟩ nonce chainId o), s')) :
    (d.deploy artifact arguments).Asks s (.sendRaw
      ((d.transaction ⟨.create, artifact.bytecode ++ arguments⟩ nonce chainId o).sign
        d.connection.client.wallet.key)) := by
  refine (d.asks_confirm artifact.name _ hcomplete).bind fun receipt => ?_
  cases receipt.contract with
  | none => exact .throw
  | some address =>
    exact (Talk.ensures_enter _).grows.bind fun _ =>
      (Talk.ensures_report _).grows.bind fun _ => .pure

end Deployer

namespace Deploy

theorem grows_reporting {α : Type} (event : String → Event) {t : Talk σ (Stop DeployError) α}
    (ht : t.Grows) : (reporting event t).Grows := by
  refine (Talk.Ensures.attempt ht).grows.bind ?_
  rintro ((e | _ | _) | a)
  · exact (Talk.ensures_report _).grows.bind fun _ => .throw
  · exact .throw
  · exact .throw
  · exact .pure

theorem asks_reporting {α : Type} (event : String → Event) {t : Talk σ (Stop DeployError) α}
    {s : Session σ} {r : Request} (ht : t.Asks s r) : (reporting event t).Asks s r := by
  refine ht.attempt.bind ?_
  rintro ((e | _ | _) | a)
  · exact (Talk.ensures_report _).grows.bind fun _ => .throw
  · exact .throw
  · exact .throw
  · exact .pure

/-- **A deployment broadcasts its first creation**, when the transaction can be completed. -/
theorem asks_deploy (d : Deployment σ) (skipLiquidity : Bool) {s s₁ s₂ : Session σ}
    {nonce chainId : UInt64} {o : Offer}
    (hreport : (Talk.report (.deploying d.deployer.account d.deployer.connection.chainId) :
      Talk σ (Stop DeployError) Unit).runFrom s = (.ok (), s₁))
    (hcomplete : (d.deployer.connection.client.complete
      (d.deployer.request ⟨.create, d.artifacts.weth.bytecode ++ []⟩)).runFrom s₁ =
        (.ok (d.deployer.completedRequest ⟨.create, d.artifacts.weth.bytecode ++ []⟩
          nonce chainId o), s₂)) :
    (deploy d skipLiquidity).Asks s (.sendRaw
      ((d.deployer.transaction ⟨.create, d.artifacts.weth.bytecode ++ []⟩ nonce chainId o).sign
        d.deployer.connection.client.wallet.key)) := by
  have hcontracts : d.deployContracts.Asks s _ :=
    Talk.Asks.after hreport ((d.deployer.asks_deploy _ _ hcomplete).bind fun weth =>
      (d.deployer.grows_deploy _ _).bind fun factory =>
        (d.deployer.grows_deploy _ _).bind fun router =>
          (Talk.Pursues.grows (d.pursues_deployTokens _)).bind fun tokens => .pure)
  refine (asks_reporting _ hcontracts).bind fun record => ?_
  cases skipLiquidity with
  | true => exact .pure
  | false =>
    have hadd : (d.addLiquidity record).Grows := Talk.Pursues.grows (d.pursues_addLiquidity record)
    exact (grows_reporting _ hadd).bind fun _ => .pure

/-! ## A node that changes its answer -/

/-- A node that names one chain at first, and another one after that. -/
def changing : NodeScript where
  replies := [("eth_chainId",
    [.answer (.result (.str "0x7a69")), .answer (.result (.str "0x1"))])]

/-- Settings that expect the first of the two chains. -/
def expecting : Settings where
  rpc := { chainId := some 31337, pollIntervalMs := 1 }
  account :=
    { privateKey := some "0x0000000000000000000000000000000000000000000000000000000000000001" }
  deploy :=
    { artifactsDir := "", wethArtifact := "code.json", factoryArtifact := "code.json"
      routerArtifact := "code.json", tokenArtifact := "code.json" }

/-- Files with the one artifact that these settings name. -/
def codeFiles : Files :=
  Files.empty.addFile "code.json" (Bytes.ofText "\x7b\"bytecode\":\"0x6001\"\x7d")

/-- The artifact in the file. -/
def code : Artifact :=
  ⟨"code", [0x60, 0x01]⟩

/-- The deployment that a wallet comes to. -/
def changingDeployment (w : Wallet) : Deployment NodeState :=
  ⟨⟨⟨⟨changing.node, expecting.rpc, w⟩, 31337⟩, expecting.deploy.gasLimit⟩,
    ⟨code, code, code, code⟩, expecting.deploy⟩

/-- The session once it is connected: one answer is used up. -/
def connectedSession (w : Wallet) : Session NodeState where
  node := { changing.start with
    replies := [("eth_chainId", [.answer (.result (.str "0x1"))])] }
  asked := [(.chainId, .result (.str "0x7a69"))]
  entered := [.event (.connected expecting.rpc.url 31337), .event (.walletReady w.address)]

theorem ofFiles_codeFiles :
    ArtifactSet.ofFiles codeFiles expecting.deploy = .ok ⟨code, code, code, code⟩ :=
  eq_ok_of_toOption (by decide +kernel)

theorem exists_wallet_expecting : ∃ w, expecting.account.wallet = .ok w := by
  have hread : expecting.account.wallet.toOption.isSome = true := by decide +kernel
  obtain ⟨w, hw⟩ := Option.isSome_iff_exists.mp hread
  exact ⟨w, eq_ok_of_toOption hw⟩

variable {w : Wallet}

theorem connect_expecting (hwallet : expecting.account.wallet = .ok w) :
    (Connection.connect changing.node expecting).runFrom { node := changing.start } =
      (.ok (changingDeployment w).deployer.connection, connectedSession w) := by
  rw [Connection.connect, Connection.openClient, Connection.loadWallet, hwallet]
  rfl

/-- The first creation, for the chain that the second answer names. -/
def firstCreation (w : Wallet) (o : Offer) : Transaction :=
  (changingDeployment w).deployer.transaction ⟨.create, code.bytecode ++ []⟩ 0 1 o

theorem asks_changing (hwallet : expecting.account.wallet = .ok w) :
    ∃ o, (run changing.node expecting codeFiles true).Asks { node := changing.start }
      (.sendRaw ((firstCreation w o).sign w.key)) := by
  have hdeploy : ∃ o, (deploy (changingDeployment w) true).Asks (connectedSession w)
      (.sendRaw ((firstCreation w o).sign w.key)) :=
    ⟨_, asks_deploy (changingDeployment w) true rfl rfl⟩
  obtain ⟨o, hdeploy⟩ := hdeploy
  have hsteps : (steps changing.node expecting codeFiles true).Asks { node := changing.start }
      (.sendRaw ((firstCreation w o).sign w.key)) := by
    rw [Talk.Asks, steps_of_artifacts _ _ _ _ ofFiles_codeFiles, connect_expecting hwallet]
    exact hdeploy.mapError
  refine ⟨o, ?_⟩
  rw [run_eq_steps]
  exact hsteps.bind fun record => (ensures_finish _ _ record).grows

/-- **Nothing is checked when the node changes its answer.**  The settings expect chain 31337, and
the first answer names it.  The second names chain 1, and a transaction is broadcast that is for
chain 1 and no other. -/
theorem signs_for_changed_chain :
    expecting.rpc.chainId = some 31337 ∧
      ∃ (w : Wallet) (raw : Bytes), expecting.account.wallet = .ok w ∧
        raw ∈ Transcript.broadcasts
          ((run changing.node expecting codeFiles true).runFrom
            { node := changing.start }).2.requests ∧
        (Transaction.decode raw).map (·.transaction.fee.chainId?) = some (some 1) ∧
        ¬SignedFor w 31337 raw := by
  obtain ⟨w, hwallet⟩ := exists_wallet_expecting
  obtain ⟨o, a, hasked⟩ := asks_changing hwallet
  have hshort : (firstCreation w o).input.length < 2 ^ 32 := by
    show (code.bytecode ++ []).length < 2 ^ 32
    decide
  refine ⟨rfl, w, (firstCreation w o).sign w.key, hwallet, ?_, ?_, ?_⟩
  · exact List.mem_filterMap.mpr ⟨_, List.mem_reverse.mpr hasked, rfl⟩
  · have hread := (firstCreation w o).decode_sign w.key hshort
    obtain ⟨signed, hsigned, htransaction⟩ := Option.map_eq_some_iff.mp hread
    rw [hsigned, Option.map_some, htransaction]
    rfl
  · rintro ⟨t, hsign, hfee⟩
    have hlength : ((firstCreation w o).sign w.key).length < 2 ^ 64 :=
      (firstCreation w o).length_signedForm_lt _ hshort
    obtain rfl := Transaction.eq_of_sign_eq hlength hsign
    cases hfee

end Deploy
end LocalChain

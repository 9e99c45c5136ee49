import LocalChain.Program
import LocalChain.Proofs.Deployment.Accounting
import LocalChain.Proofs.Issuance.Tally

/-!
# Runs of a deployment

A run connects, which asks for the chain once and forgets what the client knew of it, deploys, and
writes its record.  Everything but the last is in `Deploy.steps`.

What a run has to account for is in `Deploy.accounts_run`: however it ends, each counter of created
contracts stands at the number of creations that were confirmed with an address, and the record is
written exactly when every step before has succeeded, with the addresses of the receipts.
-/

namespace LocalChain

variable {σ : Type}

/-! ## Connecting -/

namespace Connection

/-- **What is known after connecting**: the node was asked for its chain at most, and a connection
is for the chain that it named. -/
theorem connected (node : Node σ) {s : Settings} {w : Wallet} (hwallet : s.account.wallet = .ok w)
    (session : Session σ) :
    let ended := (connect node s).runFrom session
    ∃ g, session.GrowsBy g ended.2 ∧ g.entered.counted = [] ∧ g.asked.Plain ∧
      ∀ c, ended.1 = .ok c → ended.2.chainId = none ∧
        ∃ a id, g.asked = [(.chainId, a)] ∧ s.rpc.acceptedChain? a = some id ∧
          c = ⟨⟨node, s.rpc, w⟩, id⟩ := by
  intro ended
  obtain ⟨g, hg, hcounted, hknown⟩ := forgets_connect node s session
  obtain ⟨g', hg', hx⟩ := ensures_connect node s session
  obtain rfl := hg'.unique hg
  rw [Settings.client?, hwallet] at hx
  by_cases hurl : Settings.isNoUrl s.rpc.url = true
  · rw [if_pos hurl] at hx
    obtain ⟨hasked, hnone⟩ := hx
    refine ⟨g', hg, hcounted, by rw [hasked]; exact .nil, ?_⟩
    intro c hc
    rw [hc] at hnone
    cases hnone
  · rw [if_neg hurl] at hx
    obtain ⟨a, hasked, hc⟩ := hx
    refine ⟨g', hg, hcounted, by rw [hasked]; exact .singleton rfl, ?_⟩
    intro c hended
    rw [hended] at hc
    obtain ⟨id, hid, rfl⟩ := Option.map_eq_some_iff.mp hc.symm
    exact ⟨hknown _ hended, a, id, hasked, hid, rfl⟩

end Connection

/-! ## The steps of a run -/

namespace Deploy

/-- The command up to the writing of its record. -/
def steps (node : Node σ) (s : Settings) (files : Files) (skipLiquidity : Bool) :
    Talk σ (Stop RunError) DeploymentRecord := do
  let artifacts ← (Talk.ofExcept (ArtifactSet.ofFiles files s.deploy)).mapError fun e =>
    .failed (.deployment e)
  let c ← (Connection.connect node s).mapError fun e => .failed (.chain e)
  (deploy ⟨⟨c, s.deploy.gasLimit⟩, artifacts, s.deploy⟩ skipLiquidity).mapError (·.map .deployment)

/-- The writing of a record, if it is wanted. -/
def finish (files : Files) (output : Option String) (r : DeploymentRecord) :
    Talk σ (Stop RunError) Files :=
  match output with
  | none => return files
  | some path => (writeRecord files r path).mapError fun e => .failed (.deployment e)

/-- What a run ends with whose record is written, if it is wanted. -/
def written (files : Files) (output : Option String) (r : DeploymentRecord) :
    Except (Stop RunError) Files :=
  match output with
  | none => .ok files
  | some path =>
    match files.write path (Bytes.ofText r.text) with
    | .ok files => .ok files
    | .error e => .error (.failed (.deployment (.output path e.message)))

/-- A run is its steps, and the writing of the record after them. -/
theorem run_eq_steps (node : Node σ) (s : Settings) (files : Files) (skipLiquidity : Bool) :
    run node s files skipLiquidity =
      steps node s files skipLiquidity >>= finish files s.deploy.output := by
  simp only [run, steps, bind_assoc]
  rfl

theorem consults_finish (files : Files) (output : Option String) (r : DeploymentRecord) :
    (finish files output r : Talk σ _ _).Consults fun _ => False := by
  cases output with
  | none => exact .pure
  | some path =>
    have hwrite : (writeRecord files r path : Talk σ _ _).Consults fun _ => False :=
      (Talk.consults_ofExcept _).bind fun _ => (Talk.consults_report _).bind fun _ => .pure
    exact hwrite.mapError

/-- **A record is written or the run fails**, with the file as the reason. -/
theorem ensures_finish (files : Files) (output : Option String) (r : DeploymentRecord) :
    (finish files output r : Talk σ _ _).Ensures fun _ x => x = written files output r := by
  cases output with
  | none => exact .pure rfl
  | some path =>
    have hwrite : (writeRecord files r path : Talk σ _ _).Ensures fun _ x =>
        x = r.write files path := by
      refine (Talk.ensures_ofExcept _).bind ?_ ?_
      · rintro _ files' ⟨hx, rfl⟩
        refine (Talk.ensures_report _).bind_ok ?_
        rintro _ _ -
        exact .pure hx
      · rintro _ e ⟨hx, rfl⟩
        exact hx
    refine hwrite.mapError.mono ?_
    rintro g _ ⟨_, rfl, rfl⟩
    rw [DeploymentRecord.write, written]
    cases files.write path (Bytes.ofText r.text) <;> rfl

/-- The bookings of a run are what the ledger shows, and they are made from the artifacts that are
planned, as far as they go.  Without artifacts or a wallet nothing is asked, and nothing booked. -/
def Booked (s : Settings) (files : Files) (skipLiquidity : Bool) (asked : Transcript)
    (bs : List Booking) : Prop :=
  match ArtifactSet.ofFiles files s.deploy, s.account.wallet with
  | .ok artifacts, .ok w =>
    asked.ledger s.rpc.confirmationBlocks.toNat = bs.map (Booking.entry w.key) ∧
      bs.map Booking.artifact <+: planned artifacts s.deploy.tokens skipLiquidity
  | _, _ => asked = [] ∧ bs = []

/-- What a run has done that was connected.  The first answer names a chain that will do, and a
record tells this chain; what is signed is for the first chain that is named after that. -/
def Connected (s : Settings) (skipLiquidity : Bool) (asked : Transcript) (bs : List Booking)
    (record : Option DeploymentRecord) : Prop :=
  ∃ (w : Wallet) (first : Answer) (rest : Transcript) (chainId : UInt64),
    s.account.wallet = .ok w ∧ asked = (.chainId, first) :: rest ∧
      s.rpc.acceptedChain? first = some chainId ∧ (∀ b ∈ bs, b.IsFor rest.chain?) ∧
      ∀ r ∈ record, r.Tells chainId w.address s.deploy.tokens bs (calls skipLiquidity) ∧
        PairIn skipLiquidity r asked

/-- The accounts of a run with the record that it comes to: the counters went up for its bookings,
and a run that was not connected has neither bookings nor a record. -/
structure Accounts (s : Settings) (files : Files) (skipLiquidity : Bool) (g : Growth)
    (bs : List Booking) (record : Option DeploymentRecord) : Prop where
  counted_eq : g.entered.counted = bs.filterMap Booking.counter?
  booked : Booked s files skipLiquidity g.asked bs
  connected : bs = [] ∧ record = none ∨ Connected s skipLiquidity g.asked bs record

section Steps

variable (node : Node σ) (s : Settings) (files : Files) (skipLiquidity : Bool)
  {artifacts : ArtifactSet} {w : Wallet}

/-- With artifacts the steps are to connect and to deploy. -/
theorem steps_of_artifacts (hartifacts : ArtifactSet.ofFiles files s.deploy = .ok artifacts)
    (session : Session σ) :
    (steps node s files skipLiquidity).runFrom session =
      match (Connection.connect node s).runFrom session with
      | (.ok c, session') =>
        ((deploy ⟨⟨c, s.deploy.gasLimit⟩, artifacts, s.deploy⟩ skipLiquidity).mapError
          (·.map RunError.deployment)).runFrom session'
      | (.error e, session') => (.error (.failed (.chain e)), session') := by
  have hsteps : steps node s files skipLiquidity = (do
      let c ← (Connection.connect node s).mapError fun e => .failed (.chain e)
      (deploy ⟨⟨c, s.deploy.gasLimit⟩, artifacts, s.deploy⟩ skipLiquidity).mapError
        (·.map RunError.deployment)) := by
    rw [steps, hartifacts]
    rfl
  rw [hsteps, Talk.runFrom_bind, Talk.runFrom_mapError]
  rcases (Connection.connect node s).runFrom session with ⟨e | c, session'⟩ <;> rfl

/-- The accounts of the steps are right when there are artifacts and a wallet. -/
theorem accounts_of_wallet (hartifacts : ArtifactSet.ofFiles files s.deploy = .ok artifacts)
    (hwallet : s.account.wallet = .ok w) (session : Session σ) :
    let ended := (steps node s files skipLiquidity).runFrom session
    ∃ g bs, session.GrowsBy g ended.2 ∧ Accounts s files skipLiquidity g bs ended.1.toOption := by
  intro ended
  have hended : ended = _ := steps_of_artifacts node s files skipLiquidity hartifacts session
  obtain ⟨g, hg, hcounted, hplain, hconnected⟩ := Connection.connected node hwallet session
  rcases hrun : (Connection.connect node s).runFrom session with ⟨e | c, session'⟩
  · rw [hrun] at hg hended
    rw [hended]
    refine ⟨g, [], hg, hcounted, ?_, .inl ⟨rfl, rfl⟩⟩
    unfold Booked
    rw [hartifacts, hwallet]
    exact ⟨hplain.ledger_eq_nil, List.nil_prefix⟩
  · rw [hrun] at hg hconnected hended
    obtain ⟨hforgotten, first, chainId, hasked, haccepted, rfl⟩ := hconnected c rfl
    have hdeploy := books_deploy ⟨⟨⟨⟨node, s.rpc, w⟩, chainId⟩, s.deploy.gasLimit⟩, artifacts,
      s.deploy⟩ skipLiquidity
    obtain ⟨h, bs, hh, hcounted', hrecord⟩ :=
      hdeploy.mapError (h := Stop.map RunError.deployment) session'
    rw [hended]
    refine ⟨g ++ h, bs, hg.trans hh.grows, ?_, ?_, .inr ?_⟩
    · rw [Growth.entered_append, Journal.counted_append, hcounted, hcounted', List.nil_append]
    · have hledger := hh.begun.ledger_eq [] .nil
      rw [List.append_nil] at hledger
      unfold Booked
      rw [hartifacts, hwallet, Growth.asked_append,
        Transcript.ledger_append_of_quiet hplain.quiet]
      exact ⟨hledger, hh.begun.artifacts_prefix⟩
    · refine ⟨w, first, h.asked, chainId, hwallet, by rw [Growth.asked_append, hasked]; rfl,
        haccepted, ?_, ?_⟩
      · have hknown := hh.chainId_eq
        rw [hforgotten, Option.none_or] at hknown
        exact fun b hb => hknown ▸ hh.signed b hb
      · intro r hr
        obtain ⟨htells, hpair⟩ := hrecord r hr
        exact ⟨htells, hpair.after g.asked⟩

/-- **The accounts of the steps are right**, whether they succeed or not. -/
theorem accounts_steps (session : Session σ) :
    let ended := (steps node s files skipLiquidity).runFrom session
    ∃ g bs, session.GrowsBy g ended.2 ∧ Accounts s files skipLiquidity g bs ended.1.toOption := by
  intro ended
  cases hartifacts : ArtifactSet.ofFiles files s.deploy with
  | error e =>
    have hended : ended = (.error (.failed (.deployment e)), session) := by
      show (steps node s files skipLiquidity).runFrom session = _
      rw [steps, hartifacts]
      rfl
    rw [hended]
    refine ⟨{}, [], .refl session, rfl, ?_, .inl ⟨rfl, rfl⟩⟩
    unfold Booked
    rw [hartifacts]
    exact ⟨rfl, rfl⟩
  | ok artifacts =>
    cases hwallet : s.account.wallet with
    | ok w => exact accounts_of_wallet node s files skipLiquidity hartifacts hwallet session
    | error e =>
      have hended : ended = _ := steps_of_artifacts node s files skipLiquidity hartifacts session
      obtain ⟨g, hg, hcounted, -⟩ := Connection.forgets_connect node s session
      obtain ⟨g', hg', hx⟩ := Connection.ensures_connect node s session
      obtain rfl := hg'.unique hg
      rw [Settings.client?_of_no_wallet node hwallet] at hx
      obtain ⟨hasked, hnone⟩ := hx
      rcases hrun : (Connection.connect node s).runFrom session with ⟨e | c, session'⟩
      · rw [hrun] at hg hended
        rw [hended]
        refine ⟨g', [], hg, hcounted, ?_, .inl ⟨rfl, rfl⟩⟩
        unfold Booked
        rw [hartifacts, hwallet]
        exact ⟨hasked, rfl⟩
      · rw [hrun] at hnone
        cases hnone

end Steps

/-! ## Runs -/

/-- A creation from an artifact with a name, which was confirmed with an address. -/
def creates (name : String) (b : Booking) : Bool :=
  b.artifact.any (·.name = name) && b.address?.isSome

/-- The counter of created contracts goes up for their creations. -/
theorem count_counter? (name : String) (bs : List Booking) :
    (bs.filterMap Booking.counter?).count (.deployed name) = bs.countP (creates name) := by
  rw [List.count_eq_countP, List.countP_filterMap]
  congr 1
  funext b
  rw [creates, Booking.counter?]
  cases b.artifact with
  | none => rfl
  | some artifact =>
    cases b.address? with
    | none => simp
    | some address =>
      rw [Bool.eq_iff_iff]
      simp [pure]

/-- The files after a run: those that it ends with, or else those that it found. -/
def filesAfter (files : Files) (ended : Except (Stop RunError) Files) : Files :=
  ended.toOption.getD files

/-- The program leaves the files as the run of its command does. -/
theorem files_start (node : Node σ) (around : Program.Surroundings) {arguments : List String}
    {i : Invocation} (hread : CommandLine.read arguments = .run i) (session : Session σ) :
    (Program.start node around arguments session).files =
      filesAfter around.files ((Program.run node around i).runFrom session).1 := by
  rw [Program.start, hread]
  dsimp only
  rcases (Program.run node around i).runFrom session with ⟨(e | _ | _) | files, session'⟩ <;> rfl

/-- A run ends as its steps do when these fail, and otherwise with the record that is written.  It
asks and counts what its steps ask and count. -/
theorem ended_run (node : Node σ) (s : Settings) (files : Files) (skipLiquidity : Bool)
    {session : Session σ} {g : Growth}
    (hg : session.GrowsBy g ((steps node s files skipLiquidity).runFrom session).2) :
    let ended := (run node s files skipLiquidity).runFrom session
    ∃ h, session.GrowsBy h ended.2 ∧ h.asked = g.asked ∧
      h.entered.counted = g.entered.counted ∧
      ended.1 = ((steps node s files skipLiquidity).runFrom session).1.bind
        (written files s.deploy.output) := by
  intro ended
  have hended : ended = _ := (congrArg (·.runFrom session)
    (run_eq_steps node s files skipLiquidity)).trans (Talk.runFrom_bind _ _ session)
  rcases hrun : (steps node s files skipLiquidity).runFrom session with ⟨e | r, session'⟩
  · rw [hrun] at hg hended
    rw [hended]
    exact ⟨g, hg, rfl, rfl, rfl⟩
  · rw [hrun] at hg hended
    obtain ⟨k, hk, hx⟩ := (consults_finish files s.deploy.output r).and
      (ensures_finish files s.deploy.output r) session'
    rw [hended]
    refine ⟨g ++ k, hg.trans hk.grows, ?_, ?_, hx⟩
    · rw [Growth.asked_append, List.eq_nil_iff_forall_not_mem.mpr hk.asked, List.append_nil]
    · rw [Growth.entered_append, Journal.counted_append, hk.counted, List.append_nil]

/-- What a run ends with is what its steps end with, or the record is written that they end with. -/
theorem ends_of_bind {files : Files} {output : Option String} {told : DeploymentRecord → Prop}
    (outcome : Except (Stop RunError) DeploymentRecord) (ended : Except (Stop RunError) Files) :
    ended = outcome.bind (written files output) → (∀ r, outcome = .ok r → told r) →
      match outcome with
      | .error e => ended = .error e ∧ filesAfter files ended = files
      | .ok r => ended = written files output r ∧ told r := by
  intro hended htold
  cases outcome with
  | error e =>
    rw [hended]
    exact ⟨rfl, rfl⟩
  | ok r => exact ⟨hended, htold r rfl⟩

/-- **The accounts of a deployment.**  Against any node, however a run ends, it books what the
ledger of its transcript shows: transactions that are made from the artifacts in their order, as
far as they go.  The counter of a name stands at the number of creations from an artifact with this
name that were confirmed with an address.

When a step fails the run ends as the step does, and no file changes.  Otherwise the record is
written, if it is wanted.  It tells the chain that was accepted at first, the account, and of each
contract the address in the receipt of its creation; and it has the pair that the factory names,
unless liquidity is skipped. -/
theorem accounts_run (node : Node σ) (s : Settings) (files : Files) (skipLiquidity : Bool)
    (session : Session σ) :
    let ended := (run node s files skipLiquidity).runFrom session
    let outcome := ((steps node s files skipLiquidity).runFrom session).1
    ∃ (asked : Transcript) (entered : Journal) (bs : List Booking),
      ended.2.requests = session.requests ++ asked ∧
      ended.2.journal = session.journal ++ entered ∧
      (∀ name, entered.total (.deployed name) = bs.countP (creates name)) ∧
      Booked s files skipLiquidity asked bs ∧
      match outcome with
      | .error e => ended.1 = .error e ∧ filesAfter files ended.1 = files
      | .ok r => ended.1 = written files s.deploy.output r ∧
          ∃ (w : Wallet) (first : Answer) (rest : Transcript) (chainId : UInt64),
            s.account.wallet = .ok w ∧ asked = (.chainId, first) :: rest ∧
            s.rpc.acceptedChain? first = some chainId ∧
            r.Tells chainId w.address s.deploy.tokens bs (calls skipLiquidity) ∧
            PairIn skipLiquidity r asked := by
  intro ended outcome
  obtain ⟨g, bs, hg, haccounts⟩ := accounts_steps node s files skipLiquidity session
  obtain ⟨h, hh, hasked, hcounted, hended⟩ := ended_run node s files skipLiquidity hg
  refine ⟨h.asked, h.entered, bs, hh.requests_eq, hh.journal_eq, ?_, ?_, ?_⟩
  · intro name
    rw [Journal.total, hcounted, haccounts.counted_eq, count_counter?]
  · rw [hasked]
    exact haccounts.booked
  · refine ends_of_bind outcome ended.1 hended fun r hr => ?_
    have hrecord : outcome.toOption = some r := by rw [hr]; rfl
    rcases haccounts.connected with
      ⟨-, hnone⟩ | ⟨w, first, rest, chainId, hwallet, hfirst, haccepted, -, htold⟩
    · cases hnone.symm.trans hrecord
    · obtain ⟨htells, hpair⟩ := htold r hrecord
      exact ⟨w, first, rest, chainId, hwallet, hasked.trans hfirst, haccepted, htells,
        hasked ▸ hpair⟩

end Deploy
end LocalChain

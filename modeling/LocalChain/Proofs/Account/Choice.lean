import LocalChain.Command
import LocalChain.Proofs.Account.Keys
import LocalChain.Proofs.Session.Growth
import LocalChain.Proofs.Settings.Checks

/-!
# The account that signs

There are three places that an account can come from: the environment, the key of the settings and their
phrase.  The first that is not blank is chosen (`Signer.Chosen`), whatever it is worth, so a key that is
none is an error and never a reason to use the phrase.  `account_of_signer` says so of the settings under
the environment, and what follows from it: a run without an account leaves its session as it was, and a
signer is reported as missing exactly if none is left.
-/

namespace LocalChain

/-- What a wallet is made of. -/
inductive Signer where
  | key (text : String)
  | phrase (words : String) (index : UInt32)

namespace Signer

/-- The wallet, if there is one. -/
def wallet : Signer → Except ChainError Wallet
  | key text => Wallet.ofKeyText text
  | phrase words index => Wallet.ofPhrase words index

/-- Nothing is given, or nothing but blanks. -/
def Missing (text : Option String) : Prop :=
  ∀ s ∈ text, Text.isBlankText s

/-- What signs under a key of the environment: the first that is given, and what it is worth has no part
in it. -/
inductive Chosen (given : Option String) (a : AccountSettings) : Signer → Prop where
  | environment {text : String} (hgiven : given = some text) (htext : ¬Text.isBlankText text) :
    Chosen given a (.key text)
  | configured {text : String} (hgiven : Missing given) (hkey : a.privateKey = some text)
    (htext : ¬Text.isBlankText text) : Chosen given a (.key text)
  | phrase (hgiven : Missing given) (hkey : Missing a.privateKey) :
    Chosen given a (.phrase a.mnemonic a.derivationIndex)

variable {given : Option String} {a : AccountSettings} {signer other : Signer} {text : String}

theorem not_missing (hkey : given = some text) (htext : ¬Text.isBlankText text) : ¬Missing given :=
  fun h => htext (h text hkey)

theorem missing_or (given : Option String) :
    Missing given ∨ ∃ text, given = some text ∧ ¬Text.isBlankText text := by
  cases given with
  | none => exact .inl nofun
  | some text =>
    by_cases htext : Text.isBlankText text = true
    · refine .inl ?_
      rintro _ ⟨⟩
      exact htext
    · exact .inr ⟨text, rfl, htext⟩

theorem exists_chosen (given : Option String) (a : AccountSettings) : ∃ signer, Chosen given a signer := by
  rcases missing_or given with hgiven | ⟨text, hgiven, htext⟩
  · rcases missing_or a.privateKey with hkey | ⟨text, hkey, htext⟩
    · exact ⟨_, .phrase hgiven hkey⟩
    · exact ⟨_, .configured hgiven hkey htext⟩
  · exact ⟨_, .environment hgiven htext⟩

/-- There is one choice. -/
theorem Chosen.unique (h : Chosen given a signer) (h' : Chosen given a other) : other = signer := by
  cases h with
  | environment hgiven htext =>
    cases h' with
    | environment hgiven' _ => rw [Option.some.inj (hgiven.symm.trans hgiven')]
    | configured hmissing | phrase hmissing => exact (not_missing hgiven htext hmissing).elim
  | configured hmissing hkey htext =>
    cases h' with
    | environment hgiven htext => exact (not_missing hgiven htext hmissing).elim
    | configured _ hkey' _ => rw [Option.some.inj (hkey.symm.trans hkey')]
    | phrase _ hnone => exact (not_missing hkey htext hnone).elim
  | phrase hmissing hnone =>
    cases h' with
    | environment hgiven htext => exact (not_missing hgiven htext hmissing).elim
    | configured _ hkey htext => exact (not_missing hkey htext hnone).elim
    | phrase => rfl

end Signer

open Signer (Missing Chosen)

/-! ## Blank keys -/

variable {given : Option String} {s : Settings} {signer : Signer}

theorem filter_blank_eq_none_iff (text : Option String) :
    text.filter (!Text.isBlankText ·) = none ↔ Missing text := by
  simp [Option.filter_eq_none_iff, Missing]

theorem filter_blank_of_not_blank {text : String} (htext : ¬Text.isBlankText text) :
    (some text).filter (!Text.isBlankText ·) = some text := by
  simp [Option.filter, htext]

namespace Settings

theorem withEnvironment_of_missing (hgiven : Missing given) : s.withEnvironment given = s := by
  rw [withEnvironment, (filter_blank_eq_none_iff given).mpr hgiven]

theorem withEnvironment_of_not_blank {text : String} (htext : ¬Text.isBlankText text) :
    (s.withEnvironment (some text)).account = { s.account with privateKey := some text } := by
  rw [withEnvironment, filter_blank_of_not_blank htext]

end Settings

/-- **What is chosen signs.** -/
theorem Signer.Chosen.wallet_eq (h : Chosen given s.account signer) :
    (s.withEnvironment given).account.wallet = signer.wallet := by
  cases h with
  | environment hgiven htext =>
    subst hgiven
    rw [Settings.withEnvironment_of_not_blank htext, AccountSettings.wallet, AccountSettings.key?,
      filter_blank_of_not_blank htext]
    rfl
  | configured hgiven hkey htext =>
    rw [Settings.withEnvironment_of_missing hgiven, AccountSettings.wallet, AccountSettings.key?,
      hkey, filter_blank_of_not_blank htext]
    rfl
  | phrase hgiven hkey =>
    rw [Settings.withEnvironment_of_missing hgiven, AccountSettings.wallet, AccountSettings.key?,
      (filter_blank_eq_none_iff _).mpr hkey]
    rfl

/-- No key is left exactly if neither was there. -/
theorem Settings.key?_withEnvironment_eq_none_iff :
    (s.withEnvironment given).account.key? = none ↔ Missing given ∧ Missing s.account.privateKey := by
  rw [AccountSettings.key?, filter_blank_eq_none_iff]
  rcases Signer.missing_or given with hgiven | ⟨text, rfl, htext⟩
  · rw [withEnvironment_of_missing hgiven, and_iff_right hgiven]
  · rw [withEnvironment_of_not_blank htext]
    exact iff_of_false (Signer.not_missing rfl htext) fun h => Signer.not_missing rfl htext h.1

theorem Settings.mnemonic_withEnvironment :
    (s.withEnvironment given).account.mnemonic = s.account.mnemonic := by
  rw [withEnvironment]
  split <;> rfl

/-- A missing signer is reported for the account and for nothing else. -/
theorem Settings.noSigner_mem_iff {c : Settings} {ps : List Problem} (h : c.problems = some ps) :
    .noSigner ∈ ps ↔ c.account.key? = none ∧ Text.isBlankText c.account.mnemonic := by
  have hreads (value : String) (huses : c.Uses value) : ¬SplitsAmount value := by
    intro hsplits
    rw [problems_eq_none_iff.mpr ⟨value, huses, hsplits⟩] at h
    cases h
  have honly (k : Check) (hk : Problem.noSigner = c.problem k) : k = .account := by
    cases k with
    | account => rfl
    | recipient =>
      rw [problem] at hk
      split at hk <;> cases hk
    | _ => cases hk
  obtain rfl := Option.some.inj (h.symm.trans (problems_eq_reports hreads))
  rw [List.mem_map]
  constructor
  · rintro ⟨⟨k, p⟩, hmem, rfl⟩
    obtain ⟨hviolated, hp⟩ := mem_reports_iff.mp hmem
    rw [honly k hp] at hviolated
    exact hviolated
  · intro hviolated
    exact ⟨(.account, .noSigner), mem_reports_iff.mpr ⟨hviolated, rfl⟩, rfl⟩

/-! ## Runs without an account -/

variable {σ : Type} {c : Settings} {e : ChainError}

theorem Connection.runFrom_connect_of_error (node : Node σ) (hwallet : c.account.wallet = .error e)
    (session : Session σ) : (connect node c).runFrom session = (.error e, session) := by
  have hload : (loadWallet c.account : Talk σ ChainError Wallet).runFrom session =
      (.error e, session) := by
    rw [loadWallet, hwallet]
    exact Talk.runFrom_bind_error rfl
  have hopen : (openClient node c).runFrom session = (.error e, session) :=
    Talk.runFrom_bind_error hload
  exact Talk.runFrom_bind_error hopen

/-- A plan is made without the node. -/
theorem Spam.runFrom_plan (c : Settings) (session : Session σ) :
    ∃ made, (plan c).runFrom session = (made, session) ∧
      ∀ p, IssuancePlan.ofSettings c.load = some (.ok p) → made = .ok p := by
  rw [plan]
  rcases IssuancePlan.ofSettings c.load with _ | problem | p
  · exact ⟨_, rfl, nofun⟩
  · exact ⟨_, rfl, nofun⟩
  · refine ⟨_, rfl, ?_⟩
    rintro _ ⟨⟩
    rfl

/-- **Without an account a run that issues transfers leaves the session as it was.** -/
theorem Spam.runFrom_run_of_error (node : Node σ) (hwallet : c.account.wallet = .error e)
    (session : Session σ) : ∃ stop, (run node c).runFrom session = (.error stop, session) ∧
      ∀ plan, IssuancePlan.ofSettings c.load = some (.ok plan) → stop = .failed (.chain e) := by
  have hopen : ((openSender node c).mapError fun e => Stop.failed (RunError.chain e)).runFrom session =
      (.error (.failed (.chain e)), session) := by
    rw [Talk.runFrom_mapError, openSender,
      Talk.runFrom_bind_error (Connection.runFrom_connect_of_error node hwallet session)]
    rfl
  obtain ⟨made, hmade, hplan⟩ := Spam.runFrom_plan c session
  cases made with
  | error stop =>
    -- the plan comes first, so its failure is the one that shows
    exact ⟨stop, Talk.runFrom_bind_error (Talk.runFrom_bind_error hmade),
      fun p hp => nomatch hplan p hp⟩
  | ok p =>
    refine ⟨_, Talk.runFrom_bind_error ?_, fun _ _ => rfl⟩
    rw [issue, Talk.runFrom_bind_ok hmade]
    exact Talk.runFrom_bind_error hopen

/-- **So does a run that deploys contracts.** -/
theorem Deploy.runFrom_run_of_error (node : Node σ) (hwallet : c.account.wallet = .error e)
    (files : Files) (skipLiquidity : Bool) (session : Session σ) :
    ∃ stop, (run node c files skipLiquidity).runFrom session = (.error stop, session) ∧
      ∀ artifacts, ArtifactSet.ofFiles files c.deploy = .ok artifacts →
        stop = .failed (.chain e) := by
  have hconnect : ((Connection.connect node c).mapError fun e =>
      Stop.failed (RunError.chain e)).runFrom session = (.error (.failed (.chain e)), session) := by
    rw [Talk.runFrom_mapError, Connection.runFrom_connect_of_error node hwallet session]
    rfl
  cases hartifacts : ArtifactSet.ofFiles files c.deploy with
  | error cause =>
    refine ⟨.failed (.deployment cause), ?_, nofun⟩
    rw [run, hartifacts]
    rfl
  | ok artifacts =>
    refine ⟨_, ?_, fun _ _ => rfl⟩
    rw [run, hartifacts]
    exact (Talk.runFrom_bind_ok rfl).trans (Talk.runFrom_bind_error hconnect)

/-- **Which account signs.**  A text is a key exactly if it is a number from one up to the order of the
curve in 64 hexadecimal digits, and its wallet is that of the number.  Of the key of the environment,
the key of the settings and their phrase the first that is not blank is chosen, and no other; its wallet
is the wallet of the settings under the environment, whatever the command line gives.

The choice is made before anything is read, so that a key that is none is an error of the account.  Then
a run of either command ends with the error and leaves its session as it was: nothing is asked.

Judged with settings of any other kind, a missing signer is reported exactly if all three are blank. -/
theorem account_of_signer (s : Settings) (given : Option String) :
    (∀ text, (∀ w, Wallet.ofKeyText text = .ok w ↔
        ∃ key : PrivateKey, KeyText key.val text ∧ w = .ofKey key) ∧
      ((∃ w, Wallet.ofKeyText text = .ok w) ↔
        ∃ n, 1 ≤ n ∧ n < Secp256k1.order ∧ KeyText n text)) ∧
    ∃ signer, Chosen given s.account signer ∧
      (∀ other, Chosen given s.account other → other = signer) ∧
      (s.withEnvironment given).account.wallet = signer.wallet ∧
      (∀ o, ((s.withEnvironment given).override o).account = (s.withEnvironment given).account) ∧
      ∀ c : Settings, c.account = (s.withEnvironment given).account →
        (∀ e, signer.wallet = .error e → (∃ m, e = .wallet m) ∧
          ∀ {σ : Type} (node : Node σ) (session : Session σ),
            (∃ stop, (Spam.run node c).runFrom session = (.error stop, session) ∧
              ∀ plan, IssuancePlan.ofSettings c.load = some (.ok plan) →
                stop = .failed (.chain e)) ∧
            ∀ files skipLiquidity, ∃ stop,
              (Deploy.run node c files skipLiquidity).runFrom session = (.error stop, session) ∧
                ∀ artifacts, ArtifactSet.ofFiles files c.deploy = .ok artifacts →
                  stop = .failed (.chain e)) ∧
        ∀ ps, c.problems = some ps → (.noSigner ∈ ps ↔
          Missing given ∧ Missing s.account.privateKey ∧ Text.isBlankText s.account.mnemonic) := by
  obtain ⟨signer, hchosen⟩ := Signer.exists_chosen given s.account
  refine ⟨fun text => ⟨fun w => Wallet.ofKeyText_eq_ok_iff, ?_⟩, signer, hchosen,
    fun other => hchosen.unique, hchosen.wallet_eq, fun o => rfl, fun c hc => ⟨fun e he => ?_, ?_⟩⟩
  · simp only [Wallet.ofKeyText_eq_ok_iff, ← Wallet.exists_key_iff]
    simp
  · have hwallet : c.account.wallet = .error e := by rw [hc, hchosen.wallet_eq, he]
    exact ⟨c.account.exists_error_of_wallet hwallet, fun node session =>
      ⟨Spam.runFrom_run_of_error node hwallet session, fun files skipLiquidity =>
        Deploy.runFrom_run_of_error node hwallet files skipLiquidity session⟩⟩
  · intro ps hps
    rw [Settings.noSigner_mem_iff hps, hc, Settings.key?_withEnvironment_eq_none_iff,
      Settings.mnemonic_withEnvironment, and_assoc]

/-- A key that is none stands in the way of a phrase that is one. -/
example : (({} : Settings).withEnvironment (some "0xkey")).account.wallet =
    .error (.wallet "Invalid private key format: odd number of digits") := by
  rfl

end LocalChain

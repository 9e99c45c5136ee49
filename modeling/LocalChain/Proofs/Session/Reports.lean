import LocalChain.Client.Connection
import LocalChain.Deployment.Step
import LocalChain.Proofs.Session.Asked
import LocalChain.Proofs.Session.Exchanges

/-!
# What talks report when they succeed

A talk that ends with a value has made some entries in the journal, and these follow from the value
(`Talk.Enters`).  What is entered on the way to an error is left open.

Reads that succeed enter nothing (`Client.enters_read`), so what a longer talk enters is what it reports
of its value in the end (`Talk.Enters.silent_bind`, `Talk.Enters.report_pure`).
-/

namespace LocalChain

namespace Talk

variable {σ ε ε' α β : Type}

/-- In whatever session the talk starts, if it ends with a value these are the entries it has made. -/
def Enters (t : Talk σ ε α) (entries : α → Journal) : Prop :=
  t.Ensures fun g x => ∀ a, x = .ok a → g.entered = entries a

variable {t : Talk σ ε α} {f : α → Talk σ ε β} {entries : α → Journal} {all : β → Journal}

/-- What the journal holds after a talk with a value. -/
theorem Enters.journal_eq (ht : t.Enters entries) {s s' : Session σ} {a : α}
    (hrun : t.runFrom s = (.ok a, s')) : s'.journal = s.journal ++ entries a := by
  obtain ⟨g, hgrows, hentered⟩ := ht s
  rw [hrun] at hgrows hentered
  rw [hgrows.journal_eq, hentered a rfl]

theorem Ensures.enters {post : Growth → Except ε α → Prop} (ht : t.Ensures post)
    (h : ∀ g a, post g (.ok a) → g.entered = entries a) : t.Enters entries := by
  refine ht.mono ?_
  rintro g _ hx a rfl
  exact h g a hx

/-! ## Talks put together -/

theorem Enters.pure {a : α} (h : entries a = []) : (pure a : Talk σ ε α).Enters entries := by
  refine Ensures.pure ?_
  rintro _ ⟨⟩
  exact h.symm

theorem Enters.throw {e : ε} : (throw e : Talk σ ε α).Enters entries :=
  Ensures.throw nofun

/-- **A talk that enters nothing may come first.** -/
theorem Enters.silent_bind (ht : t.Enters fun _ => []) (hf : ∀ a, (f a).Enters all) :
    (t >>= f).Enters all := by
  refine Ensures.bind ht ?_ fun _ _ _ => nofun
  intro g a hg
  refine (hf a).mono ?_
  intro h x hx b hb
  rw [Growth.entered_append, hg a rfl, hx b hb, List.nil_append]

/-- **What is reported of a value in the end** is what the value makes of the journal. -/
theorem Enters.report_pure {e : Event} {a : α} (h : entries a = [.event e]) :
    (report e >>= fun _ => Pure.pure a : Talk σ ε α).Enters entries := by
  refine (ensures_report e).bind_ok ?_
  rintro _ _ rfl
  refine Ensures.pure ?_
  rintro _ ⟨⟩
  exact h.symm

/-- Nothing is known of the entries before an error. -/
theorem Enters.before_throw {e : ε} (ht : t.Grows) :
    (t >>= fun _ => MonadExcept.throw e : Talk σ ε β).Enters all := by
  refine Ensures.bind ht (fun _ _ _ => ?_) fun _ _ _ => nofun
  exact Ensures.throw nofun

theorem Enters.mapError {h : ε → ε'} (ht : t.Enters entries) : (t.mapError h).Enters entries := by
  refine (Ensures.mapError ht).enters ?_
  rintro g a ⟨e | b, hg, hb⟩
  · cases hb
  · cases hb
    exact hg a rfl

/-! ## Talks that enter nothing -/

theorem enters_clockMs : (clockMs : Talk σ ε Nat).Enters fun _ => [] :=
  ensures_clockMs.enters (by rintro _ _ ⟨_, -, rfl⟩; rfl)

theorem enters_waitUntil (ms : Nat) : (waitUntil ms : Talk σ ε Unit).Enters fun _ => [] :=
  (ensures_waitUntil ms).enters (by rintro _ _ ⟨_, -, rfl⟩; rfl)

theorem enters_ofExcept (x : Except ε α) : (ofExcept x : Talk σ ε α).Enters fun _ => [] :=
  (ensures_ofExcept x).enters (by rintro _ _ ⟨-, rfl⟩; rfl)

end Talk

variable {σ ε α : Type}

namespace Client

variable (c : Client σ) (r : Request) (decode : Json → Option α)

theorem enters_reply : (c.reply r decode : Talk σ ε _).Enters fun _ => [] :=
  (c.ensures_reply r decode).enters (by rintro _ _ ⟨_, -, _, -, rfl⟩; rfl)

/-- **A read that succeeds is not reported.** -/
theorem enters_read : (c.read r decode).Enters fun _ => [] := by
  refine (c.enters_reply r decode).silent_bind fun reply => ?_
  match reply with
  | some (.ok value) => exact .pure rfl
  | some (.error failure) => exact .before_throw (Talk.ensures_report _).grows
  | none =>
    refine Talk.enters_clockMs.silent_bind fun now => ?_
    refine (Talk.enters_waitUntil _).silent_bind fun _ => ?_
    exact .before_throw (Talk.ensures_report _).grows

end Client

/-- Nor is what is read from a contract. -/
theorem Deployer.enters_read (d : Deployer σ) (contract : Address) (call : Contract.Call)
    (decode : Bytes → Option α) : (d.read contract call decode).Enters fun _ => [] := by
  refine (d.connection.client.enters_read _ _).mapError.silent_bind fun output => ?_
  cases decode output with
  | none => exact .throw
  | some value => exact .pure rfl

/-- A wallet that is loaded is reported by its address. -/
theorem Connection.enters_loadWallet (a : AccountSettings) :
    (loadWallet a : Talk σ ChainError Wallet).Enters
      fun w => [.event (.walletReady w.address)] :=
  (Talk.enters_ofExcept a.wallet).silent_bind fun _ => .report_pure rfl

end LocalChain

import LocalChain.Deployment.Step
import LocalChain.Proofs.Session.Inquiries
import LocalChain.Proofs.Session.Reads

/-!
# Why a step failed

A step succeeds exactly when its transaction is accepted and confirmed.  However else it ends, unless it
never does, its request is tried once more as a call, and the step is reported as reverted: for the
reason that the call fails with, or for the first error if the call does not fail
(`Deployer.confirm_diagnosis`).  The call is no transaction, so a step sends one transaction at most.
-/

namespace LocalChain

/-- The first talk fails as the second does, and asks nothing more when that succeeds. -/
def Talk.Finishes {σ ε α β : Type} (t : Talk σ ε β) (u : Talk σ ε α) : Prop :=
  ∀ s, (∀ e s', u.runFrom s = (.error e, s') → t.runFrom s = (.error e, s')) ∧
    ∀ a s', u.runFrom s = (.ok a, s') → (t.runFrom s).2.requests = s'.requests

/-- Why a step failed, by the answer to its call: what made the call fail, or else the error that the
step failed with. -/
def Client.reason {σ : Type} (c : Client σ) (answer : Answer) (error : ChainError) : String :=
  match c.readResult Quantity.bytes? answer with
  | .error e => e.message
  | .ok _ => error.message

namespace Deployer

variable {σ : Type} (d : Deployer σ)

/-- An attempt fails, in the sending or in the wait for the confirmation, and leaves the session like
this. -/
inductive Fails (r : TxRequest) (s : Session σ) (error : ChainError) (tried : Session σ) : Prop
  | unsent (hsend : (d.connection.client.send r).runFrom s = (.error (.failed error), tried))
  | unconfirmed {hash : TxHash} {sent : Session σ}
      (hsend : (d.connection.client.send r).runFrom s = (.ok hash, sent))
      (hconfirm : (d.connection.client.confirm hash).runFrom sent =
        (.error (.failed error), tried))

variable {r : TxRequest} {s s' : Session σ}

theorem fails_iff {error : ChainError} :
    d.Fails r s error s' ↔ (d.sendAndConfirm r).runFrom s = (.error (.failed error), s') := by
  rw [sendAndConfirm, Talk.runFrom_bind_eq_error_iff]
  constructor
  · rintro (hsend | ⟨hsend, hconfirm⟩)
    · exact .inl hsend
    · exact .inr ⟨_, _, hsend, hconfirm⟩
  · rintro (hsend | ⟨hash, sent, hsend, hconfirm⟩)
    · exact .unsent hsend
    · exact .unconfirmed hsend hconfirm

/-- After a transaction is accepted, its broadcast stays the one dealing, whatever the wait for the
confirmation comes to. -/
theorem requests_of_sent {hash : TxHash} {sent : Session σ} {x : Except (Stop ChainError) Receipt}
    (hsend : (d.connection.client.send r).runFrom s = (.ok hash, sent))
    (hconfirm : (d.connection.client.confirm hash).runFrom sent = (x, s')) :
    ∃ h answer, s'.requests = s.requests ++ h ∧ d.connection.client.Deals r h answer ∧
      answer.value? TxHash.ofJson? = some hash := by
  obtain ⟨g, hg, hsent⟩ := d.connection.client.dealings_send r s
  obtain ⟨h, hh, hquiet, -⟩ := d.connection.client.inquires_confirm hash sent
  rw [hsend] at hg hsent
  rw [hconfirm] at hh
  obtain ⟨-, ⟨⟩⟩ | ⟨answer, ⟨t, ht, hdealings⟩, hhash⟩ := hsent
  refine ⟨g.asked ++ h.asked, answer, (hg.trans hh).requests_eq, ⟨t, ht, ?_⟩, hhash.symm⟩
  rw [Transcript.dealings_append, hdealings, hquiet, List.append_nil]

/-- **An attempt that fails has one dealing at most.** -/
theorem Fails.requests {error : ChainError} (hfails : d.Fails r s error s') :
    ∃ h : Transcript, s'.requests = s.requests ++ h ∧
      (h.dealings = [] ∨ ∃ answer, d.connection.client.Deals r h answer) := by
  cases hfails with
  | unsent hsend =>
    obtain ⟨g, hg, hunsent⟩ := d.connection.client.dealings_send r s
    rw [hsend] at hg hunsent
    refine ⟨g.asked, hg.requests_eq, ?_⟩
    obtain ⟨hnone, -⟩ | ⟨answer, hdeals, -⟩ := hunsent
    · exact .inl hnone
    · exact .inr ⟨answer, hdeals⟩
  | unconfirmed hsend hconfirm =>
    obtain ⟨h, answer, hrequests, hdeals, -⟩ := d.requests_of_sent hsend hconfirm
    exact ⟨h, hrequests, .inr ⟨answer, hdeals⟩⟩

/-- **An explanation is one call**, and it always fails, with the reason that the answer gives. -/
theorem runFrom_explain (label : String) (error : ChainError) {a : Answer} {n : σ}
    (hanswer : d.connection.client.node.answer s.node (.call r) = (a, n)) :
    ∃ s', (d.explain label r error).runFrom s =
        (.error (.failed (.reverted label (d.connection.client.reason a error))), s') ∧
      s'.requests = s.requests ++ [(.call r, a)] := by
  rw [explain, Talk.runFrom_report_bind, Talk.runFrom_attempt_bind, Client.call]
  obtain ⟨s', hread, hreach⟩ := Client.runFrom_read Quantity.bytes? (c := d.connection.client)
    (s := { s with entered := .event (.replaying label error.message) :: s.entered }) hanswer
  rw [hread, Client.reason]
  cases d.connection.client.readResult Quantity.bytes? a with
  | error e => exact ⟨_, rfl, hreach.requests⟩
  | ok output => exact ⟨_, rfl, hreach.requests⟩

/-! ## Steps -/

theorem runFrom_confirm_of_ok (label : String) {receipt : Receipt}
    (hattempt : (d.sendAndConfirm r).runFrom s = (.ok receipt, s')) :
    (d.confirm label r).runFrom s = (.ok receipt, s') := by
  rw [confirm, Talk.runFrom_attempt_bind, hattempt]
  rfl

theorem runFrom_confirm_of_failed (label : String) {error : ChainError}
    (hattempt : (d.sendAndConfirm r).runFrom s = (.error (.failed error), s')) :
    (d.confirm label r).runFrom s = (d.explain label r error).runFrom s' := by
  rw [confirm, Talk.runFrom_attempt_bind, hattempt]

theorem runFrom_confirm_eq_ok_iff (label : String) {receipt : Receipt} :
    (d.confirm label r).runFrom s = (.ok receipt, s') ↔
      (d.sendAndConfirm r).runFrom s = (.ok receipt, s') := by
  refine ⟨fun hrun => ?_, d.runFrom_confirm_of_ok label⟩
  rcases hattempt : (d.sendAndConfirm r).runFrom s with ⟨e | receipt', tried⟩
  · cases e with
    | failed error =>
      -- an explanation never ends well
      rw [d.runFrom_confirm_of_failed label hattempt] at hrun
      obtain ⟨s'', hexplain, -⟩ := d.runFrom_explain (r := r) (s := tried) label error rfl
      rw [hexplain] at hrun
      cases hrun
    | stuck | broken =>
      rw [confirm, Talk.runFrom_attempt_bind, hattempt] at hrun
      cases hrun
  · rw [d.runFrom_confirm_of_ok label hattempt] at hrun
    obtain ⟨hreceipt, rfl⟩ := Prod.mk.inj hrun
    rw [Except.ok.inj hreceipt]

/-- A step that fails was tried in vain. -/
theorem exists_fails {label : String} {e : DeployError}
    (hrun : (d.confirm label r).runFrom s = (.error (.failed e), s')) :
    ∃ error tried, d.Fails r s error tried := by
  rcases hattempt : (d.sendAndConfirm r).runFrom s with ⟨cause | receipt, tried⟩
  · cases cause with
    | failed error => exact ⟨error, tried, d.fails_iff.mpr hattempt⟩
    | stuck | broken =>
      rw [confirm, Talk.runFrom_attempt_bind, hattempt] at hrun
      cases hrun
  · rw [d.runFrom_confirm_of_ok label hattempt] at hrun
    cases hrun

theorem finishes_deploy (artifact : Artifact) (arguments : Bytes) :
    (d.deploy artifact arguments).Finishes
      (d.confirm artifact.name (d.creation artifact arguments)) := by
  intro s
  refine ⟨fun e s' hfailed => Talk.runFrom_bind_error hfailed, ?_⟩
  intro receipt s' hconfirmed
  rw [deploy, Talk.runFrom_bind_ok hconfirmed]
  cases receipt.contract with
  | none => rfl
  | some address => rfl

theorem finishes_call (label : String) (contract : Address) (call : Contract.Call) :
    (d.call label contract call).Finishes (d.confirm label (d.calling contract call)) := by
  intro s
  refine ⟨fun e s' hfailed => Talk.runFrom_bind_error hfailed, ?_⟩
  intro receipt s' hconfirmed
  rw [Deployer.call, Talk.runFrom_bind_ok hconfirmed]
  rfl

/-- **A step succeeds when its transaction is accepted and confirmed, and is diagnosed when it fails.**
If it succeeds, its transaction is all that it sends, and it makes no call.  If the attempt at it fails
in whatever way, the same request is tried as a call, once and after everything else, and the step is
reported as reverted with its label, for the reason that the call gives or else for the error of the
attempt.  A step that fails fails in no other way, and so do creations and calls of contracts, which
ask nothing more. -/
theorem confirm_diagnosis (d : Deployer σ) (label : String) (r : TxRequest) (s : Session σ) :
    (∀ receipt s', (d.confirm label r).runFrom s = (.ok receipt, s') ↔
      ∃ hash sent, (d.connection.client.send r).runFrom s = (.ok hash, sent) ∧
        (d.connection.client.confirm hash).runFrom sent = (.ok receipt, s')) ∧
    (∀ hash sent receipt s', (d.connection.client.send r).runFrom s = (.ok hash, sent) →
      (d.connection.client.confirm hash).runFrom sent = (.ok receipt, s') →
      ∃ h answer, s'.requests = s.requests ++ h ∧ d.connection.client.Deals r h answer ∧
        answer.value? TxHash.ofJson? = some hash) ∧
    (∀ error tried, d.Fails r s error tried →
      ∃ (h : Transcript) (answer : Answer) (s' : Session σ), tried.requests = s.requests ++ h ∧
        (h.dealings = [] ∨ ∃ answer', d.connection.client.Deals r h answer') ∧
        answer = (d.connection.client.node.answer tried.node (.call r)).1 ∧
        (d.confirm label r).runFrom s =
          (.error (.failed (.reverted label (d.connection.client.reason answer error))), s') ∧
        s'.requests = s.requests ++ h ++ [(.call r, answer)]) ∧
    (∀ e s', (d.confirm label r).runFrom s = (.error (.failed e), s') →
      ∃ error tried, d.Fails r s error tried) ∧
    (∀ artifact arguments, (d.deploy artifact arguments).Finishes
      (d.confirm artifact.name (d.creation artifact arguments))) ∧
    ∀ contract call, (d.call label contract call).Finishes
      (d.confirm label (d.calling contract call)) := by
  refine ⟨?_, ?_, ?_, fun e s' => d.exists_fails, d.finishes_deploy, d.finishes_call label⟩
  · intro receipt s'
    rw [d.runFrom_confirm_eq_ok_iff, sendAndConfirm, Talk.runFrom_bind_eq_ok_iff]
  · intro hash sent receipt s' hsend hconfirm
    exact d.requests_of_sent hsend hconfirm
  · intro error tried hfails
    obtain ⟨h, hrequests, hdealings⟩ := Fails.requests d hfails
    obtain ⟨s', hexplain, hcalled⟩ := d.runFrom_explain (r := r) (s := tried) label error rfl
    refine ⟨h, _, s', hrequests, hdealings, rfl, ?_, by rw [hcalled, hrequests]⟩
    rw [d.runFrom_confirm_of_failed label (d.fails_iff.mp hfails), hexplain]

end Deployer
end LocalChain

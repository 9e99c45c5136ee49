import LocalChain.Deployment.Step
import LocalChain.Proofs.Deployment.Plan

/-!
# Steps carry their plans

A step of a deployment is planned as one transaction.  Whatever the node says, the step broadcasts
this transaction or nothing, and gives a receipt only when the transaction is confirmed; what it
asks to explain a failure is no broadcast.
-/

namespace LocalChain

variable {σ : Type}

namespace Deployer

variable (d : Deployer σ) (t : PlannedTransaction)

/-- The deployer as the sender of its transactions. -/
def sender : Sender where
  wallet := d.connection.client.wallet
  gasLimit := d.gasLimit
  required := d.connection.client.settings.confirmationBlocks.toNat
  intervalMs := d.connection.client.settings.pollIntervalMs.toNat

/-- The request for a planned transaction. -/
def request : TxRequest where
  sender := some d.account
  destination := some t.destination
  input := some t.input
  gasLimit := some d.gasLimit

/-! ## Sending -/

/-- The request with what a plan leaves open. -/
def completedRequest (nonce chainId : UInt64) (o : Offer) : TxRequest :=
  { d.request t with
    nonce := some nonce, chainId := some chainId
    maxFee := some o.maxFee, maxPriorityFee := some o.maxPriorityFee }

/-- A completed request can always be signed. -/
theorem signs_completedRequest (nonce chainId : UInt64) (o : Offer) :
    ∃ raw, (d.completedRequest t nonce chainId o).sign d.connection.client.wallet = .ok raw ∧
      d.sender.Signs t raw := by
  refine ⟨_, ?_, nonce, chainId, o.maxFee, o.maxPriorityFee, rfl⟩
  simp [completedRequest, request, account, Connection.account, sender, TxRequest.sign,
    TxRequest.prepare, TxRequest.build?, TxRequest.fee?, Except.map]

/-- A request leaves out its nonce, its chain and its fees, which are asked for in this order. -/
theorem complete_request :
    d.connection.client.complete (d.request t) = (do
      let nonce ← d.connection.client.takeNonce
      let chainId ← d.connection.client.ownChainId
      let o ← d.connection.client.offer
      return d.completedRequest t nonce chainId o) :=
  rfl

/-- Completing a request is quiet, and adds only what a plan leaves open. -/
theorem ensures_complete :
    (d.connection.client.complete (d.request t)).Ensures fun g x =>
      g.asked.broadcasts = [] ∧
        ∀ r ∈ x.toOption, ∃ nonce chainId o, r = d.completedRequest t nonce chainId o := by
  rw [complete_request]
  refine d.connection.client.quiet_takeNonce.bind_given fun nonce => ?_
  refine d.connection.client.quiet_ownChainId.bind_given fun chainId => ?_
  refine d.connection.client.quiet_offer.bind_given fun o => ?_
  refine .pure ⟨rfl, ?_⟩
  rintro _ ⟨⟩
  exact ⟨nonce, chainId, o, rfl⟩

/-- A request is sent in one broadcast of the planned transaction, after quiet requests, if it is
sent at all. -/
theorem ensures_send :
    (d.connection.client.send (d.request t)).Ensures fun g x =>
      g.asked.broadcasts = [] ∧ x.toOption = none ∨
        ∃ (before : Transcript) (raw : Bytes) (answer : Answer),
          g.asked = before ++ [(.sendRaw raw, answer)] ∧ before.broadcasts = [] ∧
          d.sender.Signs t raw ∧ x.toOption = answer.value? TxHash.ofJson? := by
  refine (d.ensures_complete t).bind ?_ ?_
  · rintro g r ⟨hquiet, hr⟩
    obtain ⟨nonce, chainId, o, rfl⟩ := hr r rfl
    obtain ⟨raw, hraw, hsigns⟩ := d.signs_completedRequest t nonce chainId o
    simp only [hraw]
    refine (d.connection.client.ensures_sendRaw raw).mapError.bind ?_ ?_
    · rintro _ hash ⟨_ | x, ⟨answer, rfl, hanswer⟩, ⟨⟩⟩
      cases hash with
      | none => exact .throw (.inr ⟨g.asked, raw, answer, by simp, hquiet, hsigns, hanswer⟩)
      | some hash => exact .pure (.inr ⟨g.asked, raw, answer, by simp, hquiet, hsigns, hanswer⟩)
    · rintro _ e ⟨_ | x, ⟨answer, rfl, hanswer⟩, ⟨⟩⟩
      exact .inr ⟨g.asked, raw, answer, rfl, hquiet, hsigns, hanswer⟩
  · rintro g e ⟨hquiet, -⟩
    exact .inl ⟨hquiet, rfl⟩

/-- **A transaction is sent and confirmed as it is planned** for the time at which it is sent. -/
theorem pursues_sendAndConfirm (t : Nat → PlannedTransaction) (now : Clock) :
    (d.sendAndConfirm (d.request (t now.nowSecs))).Pursues d.sender now (.send t .done) id := by
  have hsend := (d.connection.client.prompt_send _).ensuresAt (d.ensures_send (t now.nowSecs)) now
  refine hsend.bind ?_ ?_
  · rintro g hash _ ⟨_ | _, ⟨-, ⟨⟩⟩ | ⟨before, raw, answer, hasked, hquiet, hsigns, hhash⟩, ⟨⟩⟩
    have hconfirm := (d.connection.client.ensuresAt_confirm hash now).and
      (d.connection.client.ensures_confirm hash)
    refine hconfirm.mono ?_
    rintro h x ⟨hlater, y, ⟨hquiet', hconfirmed⟩, hy⟩
    rw [Growth.asked_append, hasked, List.append_assoc, List.singleton_append]
    cases x with
    | none => exact ⟨_, .unconfirmed hquiet hsigns hquiet'⟩
    | some x =>
      obtain ⟨receipt, later⟩ := x
      obtain rfl : later = _ := hlater _ rfl
      have hcarried : (Plan.send t .done).Carried d.sender now
          (before ++ (.sendRaw raw, answer) :: (h.asked ++ [])) [⟨now.nowSecs, some receipt⟩]
          (some (receipt, _)) :=
        .confirmed hquiet hsigns hhash.symm (hconfirmed receipt hy) (.finished rfl)
      rw [List.append_nil] at hcarried
      exact ⟨_, hcarried⟩
  · rintro g ⟨_, ⟨hquiet, -⟩ | ⟨before, raw, answer, hasked, hquiet, hsigns, -⟩, -⟩
    · exact ⟨_, .stopped hquiet⟩
    · rw [hasked]
      exact ⟨_, .unconfirmed hquiet hsigns rfl⟩

/-! ## Steps -/

/-- An explanation is quiet, and never ends well. -/
theorem ensures_explain (label : String) (r : TxRequest) (error : ChainError) :
    (d.explain label r error).Ensures fun g x =>
      g.asked.broadcasts = [] ∧ ∀ receipt ∈ x.toOption, False := by
  refine (Talk.quiet_report _).bind_given fun _ => ?_
  refine (d.connection.client.quiet_read _ rfl).attempt.bind_given fun outcome => ?_
  refine (Talk.quiet_report _).bind_given fun _ => ?_
  exact .throw ⟨rfl, fun _ hr => nomatch hr⟩

/-- A step that explains its failure carries its plan no further by that. -/
theorem pursues_confirm (label : String) (t : Nat → PlannedTransaction) (now : Clock) :
    (d.confirm label (d.request (t now.nowSecs))).Pursues d.sender now (.send t .done) id := by
  refine (Talk.EnsuresAt.attempt (d.pursues_sendAndConfirm t now)).bind_ok ?_
  rintro g (e | receipt) later ⟨sent, hg⟩
  · cases e with
    | failed e =>
      refine ((d.ensures_explain label _ e).at later).mono ?_
      rintro h x ⟨y, ⟨hquiet, hnone⟩, hy⟩
      cases x with
      | some x => exact (hnone x.1 hy).elim
      | none => exact ⟨sent, hg.before_quiet hquiet⟩
    -- a step that is stuck has nothing to explain
    | stuck => exact .throw ⟨sent, by rwa [Growth.append_empty]⟩
    | broken => exact .throw ⟨sent, by rwa [Growth.append_empty]⟩
  · exact .pure ⟨sent, by rwa [Growth.append_empty]⟩

end Deployer

/-! ## Plans of steps -/

namespace Plan

/-- The creation of a contract, whose address the receipt has to name. -/
def create (artifact : Artifact) (arguments : Bytes) : Plan Address := do
  let receipt ← send (fun _ => ⟨.create, artifact.bytecode ++ arguments⟩) done
  match receipt.contract with
  | some address => return address
  | none => stop

/-- The call of a contract. -/
def call (contract : Address) (call : (nowSecs : Nat) → Contract.Call) : Plan Unit := do
  let _ ← send (fun nowSecs => ⟨.call contract, (call nowSecs).input⟩) done

end Plan

namespace Deployer

variable (d : Deployer σ)

/-- **A contract is created as it is planned.** -/
theorem pursues_deploy (artifact : Artifact) (arguments : Bytes) (now : Clock) :
    (d.deploy artifact arguments).Pursues d.sender now (.create artifact arguments) id := by
  have hconfirm := d.pursues_confirm artifact.name
    (fun _ => ⟨.create, artifact.bytecode ++ arguments⟩) now
  refine hconfirm.bind fun receipt later => ?_
  rw [id]
  cases receipt.contract with
  | none => exact .throw
  | some address =>
    refine (Talk.quiet_enter _).pursues (Talk.prompt_enter _) fun _ => ?_
    exact (Talk.quiet_report _).pursues (Talk.prompt_report _) fun _ => .pure rfl

/-- **A contract is called as it is planned** for the time of the call. -/
theorem pursues_call (label : String) (contract : Address) (call : Nat → Contract.Call)
    (now : Clock) :
    (d.call label contract (call now.nowSecs)).Pursues d.sender now (.call contract call)
      fun _ => () := by
  have hconfirm := d.pursues_confirm label
    (fun nowSecs => ⟨.call contract, (call nowSecs).input⟩) now
  refine hconfirm.bind fun receipt later => ?_
  exact (Talk.quiet_report _).pursues (Talk.prompt_report _) fun _ => .pure rfl

section Reads

variable {α : Type} (contract : Address) (call : Contract.Call) (decode : Bytes → Option α)

/-- What is read from a contract is read quietly. -/
theorem quiet_read : (d.read contract call decode).Quiet := by
  refine (d.connection.client.quiet_read _ rfl).mapError.bind fun output => ?_
  cases decode output with
  | some a => exact .pure
  | none => exact .throw

theorem prompt_read : (d.read contract call decode).Prompt := by
  refine (d.connection.client.prompt_read _ _).mapError.bind fun output => ?_
  cases decode output with
  | some a => exact .pure
  | none => exact .throw

end Reads

end Deployer
end LocalChain

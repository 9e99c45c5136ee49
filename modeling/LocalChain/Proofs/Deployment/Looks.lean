import LocalChain.Proofs.Deployment.Bookkeeping
import LocalChain.Proofs.Deployment.Diagnosis

/-!
# Looks at contracts

A look at a contract is a call without a limit of its own.  A step of a deployment makes none, whatever
becomes of it (`Deployer.blind_call`), and what is read from a contract is what the answer to one look
returns (`Deployer.runFrom_read`).
-/

namespace LocalChain

/-- The request looks at a contract: it is a call without a limit of its own. -/
def Request.isLook : Request → Bool
  | call r => r.gasLimit.isNone
  | _ => false

/-- A look comes after all requests that are none. -/
theorem Transcript.isPrefix_of_isLook {g g' h₁ h₂ : Transcript} {e : Exchange}
    (hblind : ∀ e ∈ g, e.1.isLook = false) (hsplit : g ++ g' = h₁ ++ e :: h₂)
    (hlook : e.1.isLook) : g <+: h₁ := by
  rcases List.append_eq_append_iff.mp hsplit with ⟨h, rfl, -⟩ | ⟨h, hh, hrest⟩
  · exact List.prefix_append _ _
  · cases h with
    | nil => exact ⟨[], by simp [hh]⟩
    | cons e' h =>
      obtain ⟨rfl, -⟩ := List.cons.inj hrest
      rw [hblind e (by simp [hh])] at hlook
      cases hlook

namespace Talk

variable {σ ε ε' α β : Type}

/-- The talk looks at no contract. -/
def Blind (t : Talk σ ε α) : Prop :=
  t.Ensures fun g _ => ∀ e ∈ g.asked, e.1.isLook = false

variable {t : Talk σ ε α} {f : α → Talk σ ε β}

theorem Blind.pure {a : α} : (pure a : Talk σ ε α).Blind :=
  Ensures.pure (by simp)

theorem Blind.throw {e : ε} : (throw e : Talk σ ε α).Blind :=
  Ensures.throw (by simp)

theorem Blind.bind (ht : t.Blind) (hf : ∀ a, (f a).Blind) : (t >>= f).Blind := by
  refine Ensures.bind ht (fun g a hg => (hf a).mono ?_) fun g e hg => hg
  rintro h x hh e he
  rcases List.mem_append.mp he with he | he
  · exact hg e he
  · exact hh e he

theorem Blind.attempt (ht : t.Blind) : (t.attempt : Talk σ ε' _).Blind := by
  refine (Ensures.attempt ht).mono ?_
  rintro g x ⟨-, -, hg⟩
  exact hg

theorem Consults.blind (ht : t.Consults (·.isLook = false)) : t.Blind := by
  intro s
  obtain ⟨g, hg⟩ := ht s
  exact ⟨g, hg.grows, hg.asked⟩

/-- Inquiries are no looks, so it is enough to know the dealings of a talk. -/
theorem Ensures.blind {post : Growth → Except ε α → Prop} (ht : t.Ensures post)
    (hpost : ∀ g x, post g x → ∀ e ∈ g.asked.dealings, e.1.isLook = false) : t.Blind := by
  refine ht.mono fun g x hx e he => ?_
  cases hinquiry : e.1.isInquiry with
  | false => exact hpost g x hx e (List.mem_filter.mpr ⟨he, by simp [hinquiry]⟩)
  | true =>
    rw [Request.isInquiry.eq_def] at hinquiry
    rw [Request.isLook.eq_def]
    split
    · simp_all
    · rfl

end Talk

namespace Deployer

variable {σ : Type} (d : Deployer σ) {r : TxRequest}

theorem blind_sendAndConfirm : (d.sendAndConfirm r).Blind := by
  refine Talk.Blind.bind ?_ fun hash => ?_
  · refine (d.connection.client.dealings_send r).blind ?_
    rintro g x (⟨hg, -⟩ | ⟨answer, ⟨t, -, hg⟩, -⟩)
    · simp [hg]
    · simp [hg, Request.isLook]
  · have hconfirm : (d.connection.client.confirm hash).Consults (·.isLook = false) :=
      d.connection.client.consults_confirm rfl rfl
    exact hconfirm.blind

/-- A step looks at no contract, since its request has a limit when it is tried as a call. -/
theorem blind_confirm (label : String) (hr : r.gasLimit.isSome) : (d.confirm label r).Blind := by
  refine d.blind_sendAndConfirm.attempt.bind fun x => ?_
  have hreport (e : Event) : (Talk.report e : Talk σ (Stop DeployError) Unit).Blind :=
    (Talk.consults_report e).blind
  match x with
  | .ok receipt => exact .pure
  | .error (.failed e) =>
    have hcall : (d.connection.client.call r).Consults (·.isLook = false) :=
      d.connection.client.consults_read (by simpa [Request.isLook] using hr) _
    refine (hreport _).bind fun _ => ?_
    refine hcall.blind.attempt.bind fun _ => ?_
    exact (hreport _).bind fun _ => .throw
  | .error .stuck => exact .throw
  | .error .broken => exact .throw

theorem blind_call (label : String) (contract : Address) (call : Contract.Call) :
    (d.call label contract call).Blind := by
  refine (d.blind_confirm label rfl).bind fun receipt => ?_
  exact Talk.Blind.bind (Talk.consults_report _).blind fun _ => .pure

/-! ## Confirmed calls and what contracts return -/

/-- A call of a contract is sent in a transaction and confirmed, which is reported. -/
inductive Confirmed (label : String) (contract : Address) (call : Contract.Call) (s : Session σ) :
    Session σ → Prop
  | mk {hash : TxHash} {receipt : Receipt} {sent confirmed : Session σ}
      (hsend : (d.connection.client.send (d.calling contract call)).runFrom s = (.ok hash, sent))
      (hconfirm : (d.connection.client.confirm hash).runFrom sent = (.ok receipt, confirmed)) :
      Confirmed label contract call s { confirmed with
        entered := .event (.confirmed label receipt.hash receipt.block) :: confirmed.entered }

theorem runFrom_call_eq_ok_iff {label : String} {contract : Address} {call : Contract.Call}
    {s s' : Session σ} : (∃ receipt, (d.call label contract call).runFrom s = (.ok receipt, s')) ↔
      d.Confirmed label contract call s s' := by
  simp only [Deployer.call, Talk.runFrom_bind_eq_ok_iff, runFrom_confirm_eq_ok_iff, sendAndConfirm]
  constructor
  · rintro ⟨_, receipt, confirmed, ⟨hash, sent, hsend, hconfirm⟩, _, _, ⟨⟩, ⟨⟩⟩
    exact .mk hsend hconfirm
  · rintro ⟨hsend, hconfirm⟩
    exact ⟨_, _, _, ⟨_, _, hsend, hconfirm⟩, _, _, rfl, rfl⟩

end Deployer

/-- The answer to a call gives what a function returns. -/
def Answer.Returns {α : Type} (a : Answer) (decode : Bytes → Option α) (value : α) : Prop :=
  ∃ output, a.value? Quantity.bytes? = some output ∧ decode output = some value

theorem Client.toOption_readResult {σ α : Type} (c : Client σ) (decode : Json → Option α)
    (a : Answer) : (c.readResult decode a).toOption = a.value? decode := by
  rw [readResult, Answer.value?]
  rcases a.read decode with - | - | - <;> rfl

namespace Deployer

variable {σ α : Type} (d : Deployer σ)

/-- What a contract returns, by the answer to a look at it. -/
def readResult (call : Contract.Call) (decode : Bytes → Option α) (a : Answer) :
    Except DeployError α :=
  match d.connection.client.readResult Quantity.bytes? a with
  | .error e => .error (.chain e)
  | .ok output =>
    match decode output with
    | some value => .ok value
    | none => .error (.decode call.method.signature "not what the function returns")

variable {contract : Address} {call : Contract.Call} {decode : Bytes → Option α} {a : Answer}

theorem readResult_eq_ok_iff {value : α} :
    d.readResult call decode a = .ok value ↔ a.Returns decode value := by
  rw [Answer.Returns, ← d.connection.client.toOption_readResult, readResult]
  cases d.connection.client.readResult Quantity.bytes? a with
  | error e => simp [Except.toOption]
  | ok output => cases hdecode : decode output <;> simp [Except.toOption, hdecode]

/-- **What is read from a contract is what it returns**, in one look. -/
theorem runFrom_read (decode : Bytes → Option α) {s : Session σ} {n : σ}
    (hanswer : d.connection.client.node.answer s.node (look d.account contract call) = (a, n)) :
    ∃ s', (d.read contract call decode).runFrom s = (d.readResult call decode a, s') ∧
      s'.node = n ∧ s'.requests = s.requests ++ [(look d.account contract call, a)] := by
  obtain ⟨s', hread, hreach⟩ := Client.runFrom_read Quantity.bytes? hanswer
  refine ⟨s', ?_, hreach.node, hreach.requests⟩
  have hcall : ((d.connection.client.read (look d.account contract call)
      Quantity.bytes?).mapError DeployError.chain).runFrom s =
        ((d.connection.client.readResult Quantity.bytes? a).mapError .chain, s') := by
    rw [Talk.runFrom_mapError, hread]
  rw [readResult]
  cases hresult : d.connection.client.readResult Quantity.bytes? a with
  | error e =>
    rw [hresult] at hcall
    exact Talk.runFrom_bind_error hcall
  | ok output =>
    rw [hresult] at hcall
    refine (Talk.runFrom_bind_ok hcall).trans ?_
    cases hdecode : decode output <;> simp only [hdecode] <;> rfl

end Deployer

end LocalChain

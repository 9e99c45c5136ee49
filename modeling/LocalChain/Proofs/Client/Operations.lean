import LocalChain.Proofs.Node.Values
import LocalChain.Proofs.Session.Reads

/-!
# One request, one result

Whatever a client reads or broadcasts is one request, put once, and what the request comes to is
decided by its answer alone.  A result that can be decoded gives its value, an error of the node is a
rejection with the node's own code and sentence, and everything that is no answer is a failure of the
request (`Answer.Decides`, `decides_settled`).  Only silence is told apart: a read fails when the time
allowed to it is over, and a broadcast has no such limit, so that it never fails for the time.

`Client.one_request_each` says so of all that is read, which is one `Question` each, of a broadcast, and
of the chain that has to be the configured one.
-/

namespace LocalChain

variable {σ α β : Type}

/-! ## What can be read -/

/-- What a client reads from a node, with the kind of the value. -/
inductive Question : Type → Type where
  | chainId : Question UInt64
  | blockNumber : Question UInt64
  | transactionCount (account : Address) : Question UInt64
  | receipt (hash : TxHash) : Question (Option Receipt)
  | gasPrice : Question Price
  | call (r : TxRequest) : Question Bytes

namespace Question

/-- The request that puts the question. -/
def request : Question α → Request
  | chainId => .chainId
  | blockNumber => .blockNumber
  | transactionCount account => .transactionCount account false
  | receipt hash => .receipt hash
  | gasPrice => .gasPrice
  | call r => .call r

/-- The value that a result is. -/
def decode : Question α → Json → Option α
  | chainId | blockNumber | transactionCount _ => Quantity.word64?
  | receipt _ => Receipt.ofAnswer?
  | gasPrice => Client.price?
  | call _ => Quantity.bytes?

/-- The result that a node writes for a value. -/
def write : Question α → α → Json
  | chainId | blockNumber | transactionCount _ => fun n => Quantity.toJson n.toNat
  | receipt _ => fun r => r.elim .null Receipt.toJson
  | gasPrice => fun price => Quantity.toJson price.toNat
  | call _ => Quantity.ofBytes

/-- A client puts the question. -/
def put (c : Client σ) : Question α → Talk σ ChainError α
  | chainId => c.getChainId
  | blockNumber => c.blockNumber
  | transactionCount account => c.transactionCount account
  | receipt hash => c.receipt hash
  | gasPrice => c.gasPrice
  | call r => c.call r

theorem put_eq (c : Client σ) (q : Question α) : q.put c = c.read q.request q.decode := by
  cases q <;> rfl

/-- **Every value can be told**: what a node writes for it is decoded to it. -/
theorem decode_write (q : Question α) (v : α) : q.decode (q.write v) = some v := by
  cases q with
  | chainId | blockNumber | transactionCount _ => exact Quantity.word64?_toJson v
  | receipt _ => exact Receipt.ofAnswer?_write v
  | gasPrice =>
    rw [decode, write, Client.price?, Quantity.ofJson?_toJson v.isLt, Option.map_some,
      BitVec.ofNat_toNat, BitVec.setWidth_eq]
  | call _ => exact Quantity.bytes?_ofBytes v

end Question

/-! ## What answers decide -/

/-- The answer decides what its request comes to, unless it is silence: a decoded result is the value, an
error is a rejection with its own code and sentence, and what is no answer or cannot be decoded is a
failure of the request. -/
structure Answer.Decides (a : Answer) (decode : Json → Option α) (value : α → β)
    (x : Except ChainError β) : Prop where
  ok_iff : ∀ v, x = .ok (value v) ↔ ∃ j, a = .result j ∧ decode j = some v
  rejected_iff : ∀ code m, x = .error (.rejected code m) ↔ ∃ data, a = .error code m data
  rpc_iff : (∃ m, x = .error (.rpc m)) ↔
    a = .garbled ∨ a = .unreachable ∨ ∃ j, a = .result j ∧ decode j = none

/-- What a request comes to, silence to something of its own. -/
def Answer.settled (a : Answer) (decode : Json → Option α) (value : α → β)
    (unanswered : Except ChainError β) : Except ChainError β :=
  match a.read decode with
  | some (.ok v) => .ok (value v)
  | some (.error failure) => .error failure.toChainError
  | none => unanswered

namespace Answer

variable {decode : Json → Option α} {value : α → β} {unanswered : Except ChainError β}
  {j : Json} {v : α}

theorem settled_of_decoded (h : decode j = some v) :
    (result j).settled decode value unanswered = .ok (value v) := by
  rw [settled, read, h]

theorem settled_of_undecodable (h : decode j = none) :
    (result j).settled decode value unanswered =
      .error (.rpc RequestFailure.badResponse.message) := by
  rw [settled, read, h]
  rfl

@[simp] theorem settled_error (code : Int) (m : String) (data : Option Json) :
    (error code m data).settled decode value unanswered = .error (.rejected code m) := rfl

@[simp] theorem settled_garbled : garbled.settled decode value unanswered =
    .error (.rpc RequestFailure.badResponse.message) := rfl

@[simp] theorem settled_unreachable : unreachable.settled decode value unanswered =
    .error (.rpc RequestFailure.unreachable.message) := rfl

@[simp] theorem settled_silence : silence.settled decode value unanswered = unanswered := rfl

end Answer

/-- What silence comes to is nothing that an answer comes to. -/
structure Unanswered (value : α → β) (x : Except ChainError β) : Prop where
  not_ok : ∀ v, x ≠ .ok (value v)
  not_rejected : ∀ code m, x ≠ .error (.rejected code m)
  not_rpc : ∀ m, x ≠ .error (.rpc m)

/-- **The answer decides.** -/
theorem decides_settled (a : Answer) (decode : Json → Option α) {value : α → β}
    {unanswered : Except ChainError β} (hvalue : Function.Injective value)
    (hsilent : Unanswered value unanswered) :
    a.Decides decode value (a.settled decode value unanswered) := by
  cases a with
  | result j =>
    cases hj : decode j with
    | none =>
      rw [Answer.settled_of_undecodable hj]
      constructor <;> simp [hj]
    | some v =>
      rw [Answer.settled_of_decoded hj]
      constructor <;> simp [hj, hvalue.eq_iff]
  | error code m data => constructor <;> simp
  | garbled | unreachable => constructor <;> simp
  | silence =>
    constructor <;> simp [hsilent.not_ok, hsilent.not_rejected, hsilent.not_rpc]

namespace Answer

variable {a : Answer} {decode : Json → Option α} {value : α → β} {unanswered : Except ChainError β}

/-- Only silence comes to what silence comes to. -/
theorem settled_eq_unanswered_iff (hsilent : Unanswered value unanswered) :
    a.settled decode value unanswered = unanswered ↔ a = .silence := by
  cases a with
  | result j =>
    cases hj : decode j with
    | none => simp [settled_of_undecodable hj, (hsilent.not_rpc _).symm]
    | some v => simp [settled_of_decoded hj, (hsilent.not_ok _).symm]
  | error code m data => simp [(hsilent.not_rejected _ _).symm]
  | garbled | unreachable => simp [(hsilent.not_rpc _).symm]
  | silence => simp

/-- An error that is neither a rejection nor a failure of the request is due to silence. -/
theorem settled_eq_error_iff {e : ChainError} (hrejected : ∀ code m, e ≠ .rejected code m)
    (hrpc : ∀ m, e ≠ .rpc m) :
    a.settled decode value unanswered = .error e ↔ a = .silence ∧ unanswered = .error e := by
  cases a with
  | result j =>
    cases hj : decode j with
    | none => simp [settled_of_undecodable hj, (hrpc _).symm]
    | some v => simp [settled_of_decoded hj]
  | error code m data => simp [(hrejected _ _).symm]
  | garbled | unreachable => simp [(hrpc _).symm]
  | silence => simp

end Answer

/-! ## One request each -/

/-- What settings make of the chain that a node serves. -/
def RpcSettings.judge (r : RpcSettings) (chainId : UInt64) : Except ChainError UInt64 :=
  match r.chainId with
  | some expected =>
    if chainId ≠ expected then .error (.chainMismatch expected chainId) else .ok chainId
  | none => .ok chainId

namespace RpcSettings

variable {r : RpcSettings} {y : Except ChainError UInt64} {expected actual : UInt64}

theorem judge_eq_ok_iff : r.judge actual = .ok expected ↔
    actual = expected ∧ (r.chainId = none ∨ r.chainId = some expected) := by
  rw [judge]
  cases r.chainId with
  | none => simp
  | some configured =>
    by_cases hsame : actual = configured
    · simp +contextual [hsame, eq_comm]
    · have hother : ¬(actual = expected ∧ configured = expected) := by
        rintro ⟨rfl, rfl⟩
        exact hsame rfl
      simpa [hsame] using hother

theorem judge_eq_error_iff {e : ChainError} : r.judge actual = .error e ↔
    ∃ expected, r.chainId = some expected ∧ expected ≠ actual ∧
      e = .chainMismatch expected actual := by
  rw [judge]
  cases r.chainId with
  | none => simp
  | some configured => by_cases hsame : actual = configured <;> simp [hsame, eq_comm]

/-- What was read is accepted as it is, or not at all. -/
theorem bind_judge_eq_ok_iff : y.bind r.judge = .ok expected ↔
    y = .ok expected ∧ (r.chainId = none ∨ r.chainId = some expected) := by
  cases y with
  | error e => simp [Except.bind]
  | ok actual => simp [Except.bind, judge_eq_ok_iff]

/-- A chain that was read is found to be another one. -/
theorem bind_judge_eq_mismatch_iff
    (hread : ∀ expected actual, y ≠ .error (.chainMismatch expected actual)) :
    y.bind r.judge = .error (.chainMismatch expected actual) ↔
      r.chainId = some expected ∧ expected ≠ actual ∧ y = .ok actual := by
  cases y with
  | error e =>
    have he : e ≠ .chainMismatch expected actual := fun h => hread _ _ (congrArg _ h)
    simp [Except.bind, he]
  | ok chainId =>
    have hjudge : (Except.ok chainId : Except ChainError UInt64).bind r.judge = r.judge chainId := rfl
    rw [hjudge, judge_eq_error_iff]
    constructor
    · rintro ⟨_, hchain, hne, ⟨⟩⟩
      exact ⟨hchain, hne, rfl⟩
    · rintro ⟨hchain, hne, ⟨⟩⟩
      exact ⟨_, hchain, hne, rfl⟩

end RpcSettings

namespace Client

variable (c : Client σ)

/-- In every session the talk puts one request to the node, once, and nothing else, and comes to
something that goes with the answer.  Only silence takes time. -/
def PutsOnce (t : Talk σ ChainError α) (r : Request) (patienceMs : Nat)
    (comesTo : Session σ → Answer → Except ChainError α → Prop) : Prop :=
  ∀ s, ∃ a n x s', c.node.answer s.node r = (a, n) ∧ t.runFrom s = (x, s') ∧
    s.Reaches n [(r, a)] (s.clockMs + if a.isSilent then patienceMs else 0) s' ∧ comesTo s a x

variable {c}

/-- What a question comes to is a matter of its answer. -/
theorem putsOnce_put (q : Question α) : c.PutsOnce (q.put c) q.request c.timeoutMs fun _ a x =>
    x = a.settled q.decode id (.error (.timeout c.settings.timeoutSecs)) := by
  intro s
  obtain ⟨s', hrun, hreach⟩ := runFrom_read q.decode (c := c) (s := s) (r := q.request) rfl
  exact ⟨_, _, _, s', rfl, (congrArg (·.runFrom s) (q.put_eq c)).trans hrun, hreach, rfl⟩

/-- So is what a broadcast comes to, which takes no time. -/
theorem putsOnce_sendRaw (raw : Bytes) : c.PutsOnce (c.sendRaw raw) (.sendRaw raw) 0 fun _ a x =>
    x = a.settled TxHash.ofJson? some (.ok none) := by
  intro s
  obtain ⟨a, n, hanswer⟩ : ∃ a n, c.node.answer s.node (.sendRaw raw) = (a, n) := ⟨_, _, rfl⟩
  have hreach := s.reaches_asked n (.sendRaw raw, a)
  refine ⟨a, n, _, { s with node := n, asked := (.sendRaw raw, a) :: s.asked }, hanswer, ?_,
    by simpa using hreach, rfl⟩
  rw [sendRaw, Talk.runFrom_bind_ok (runFrom_reply c _ _ hanswer), Answer.settled]
  rcases a.read TxHash.ofJson? with _ | _ | _ <;> rfl

/-- What is read is judged by the settings, without another request. -/
theorem runFrom_resolveChainId {s s₁ : Session σ} {chainId : UInt64}
    (hread : c.getChainId.runFrom s = (.ok chainId, s₁)) :
    ∃ s', c.resolveChainId.runFrom s = (c.settings.judge chainId, s') ∧
      s₁.Reaches s₁.node [] s₁.clockMs s' := by
  rw [resolveChainId, Talk.runFrom_bind_ok hread, RpcSettings.judge]
  cases c.settings.chainId with
  | none => exact ⟨_, rfl, rfl, (List.append_nil _).symm, rfl⟩
  | some expected =>
    by_cases hne : chainId ≠ expected
    · simp only [if_pos hne]
      exact ⟨s₁, rfl, rfl, (List.append_nil _).symm, rfl⟩
    · simp only [if_neg hne]
      exact ⟨_, rfl, rfl, (List.append_nil _).symm, rfl⟩

/-- The chain is read once, and then judged. -/
theorem putsOnce_resolveChainId : c.PutsOnce c.resolveChainId .chainId c.timeoutMs fun s a x =>
    x = (c.getChainId.runFrom s).1.bind c.settings.judge ∧
      (c.getChainId.runFrom s).1 =
        a.settled Quantity.word64? id (.error (.timeout c.settings.timeoutSecs)) := by
  intro s
  obtain ⟨a, n, y, s₁, hanswer, hread, hreach, hy⟩ := putsOnce_put (c := c) .chainId s
  have hread : c.getChainId.runFrom s = (y, s₁) := hread
  have hends : (c.getChainId.runFrom s).1 = y := congrArg Prod.fst hread
  have hjudged : y.bind c.settings.judge = (c.getChainId.runFrom s).1.bind c.settings.judge := by
    rw [hends]
  cases y with
  | error e =>
    exact ⟨a, n, _, s₁, hanswer, Talk.runFrom_bind_error hread, hreach, hjudged, hends.trans hy⟩
  | ok chainId =>
    obtain ⟨s', hrun, hafter⟩ := runFrom_resolveChainId hread
    have hreach' := hreach.trans hafter
    rw [List.append_nil, hreach.node, hreach.clock] at hreach'
    exact ⟨a, n, _, s', hanswer, hrun, hreach', hjudged, hends.trans hy⟩

theorem PutsOnce.mono {t : Talk σ ChainError α} {r : Request} {ms : Nat}
    {comesTo comesTo' : Session σ → Answer → Except ChainError α → Prop}
    (ht : c.PutsOnce t r ms comesTo) (h : ∀ s a x, comesTo s a x → comesTo' s a x) :
    c.PutsOnce t r ms comesTo' := by
  intro s
  obtain ⟨a, n, x, s', hanswer, hrun, hreach, hx⟩ := ht s
  exact ⟨a, n, x, s', hanswer, hrun, hreach, h s a x hx⟩

/-- **Every operation is one request, whose answer decides.**  What a client reads or broadcasts it
puts to the node once, whatever the node says.  It has a value only of a result that can be decoded to
it; it is rejected with the code and the sentence of an error; and it is a failure of the request when
what comes back is no answer, or nothing can be reached, or the result cannot be decoded.

A read that stays without an answer fails for the time allowed to it, and no other does.  A broadcast
never fails for the time: it has no end then.

The chain is accepted exactly if the node names it and the settings name no other one.  If they do, the
error names both, and a read that fails is the failure of the whole. -/
theorem one_request_each (c : Client σ) :
    (∀ {α : Type} (q : Question α), c.PutsOnce (q.put c) q.request c.timeoutMs fun _ a x =>
      a.Decides q.decode id x ∧
      ∀ secs, x = .error (.timeout secs) ↔ a = .silence ∧ secs = c.settings.timeoutSecs) ∧
    (∀ {α : Type} (q : Question α) (v : α), q.decode (q.write v) = some v) ∧
    (∀ hash j, (Question.receipt hash).decode j = some none ↔ j = .null) ∧
    (∀ raw, c.PutsOnce (c.sendRaw raw) (.sendRaw raw) 0 fun _ a x =>
      a.Decides TxHash.ofJson? some x ∧ (x = .ok none ↔ a = .silence) ∧
      ∀ secs, x ≠ .error (.timeout secs)) ∧
    (∀ hash : TxHash, TxHash.ofJson? (.str hash.text) = some hash) ∧
    c.PutsOnce c.resolveChainId .chainId c.timeoutMs fun s a x =>
      (∀ chainId, x = .ok chainId ↔
        (∃ j, a = .result j ∧ Quantity.word64? j = some chainId) ∧
          (c.settings.chainId = none ∨ c.settings.chainId = some chainId)) ∧
      (∀ expected actual, x = .error (.chainMismatch expected actual) ↔
        c.settings.chainId = some expected ∧ expected ≠ actual ∧
          ∃ j, a = .result j ∧ Quantity.word64? j = some actual) ∧
      ∀ e, (c.getChainId.runFrom s).1 = .error e → x = .error e := by
  have hlate {β : Type} {value : β → β} :
      Unanswered value (.error (.timeout c.settings.timeoutSecs)) := ⟨by simp, by simp, by simp⟩
  refine ⟨fun q => ?_, fun q v => q.decode_write v, fun _ _ => Receipt.ofAnswer?_eq_some_none_iff,
    fun raw => ?_, TxHash.ofJson?_text, ?_⟩
  · refine (putsOnce_put q).mono ?_
    rintro _ a _ rfl
    refine ⟨decides_settled a q.decode Function.injective_id hlate, fun secs => ?_⟩
    rw [Answer.settled_eq_error_iff (by simp) (by simp)]
    simp [eq_comm]
  · have hnone : Unanswered some (.ok none : Except ChainError (Option TxHash)) :=
      ⟨by simp, by simp, by simp⟩
    refine (putsOnce_sendRaw raw).mono ?_
    rintro _ a _ rfl
    refine ⟨decides_settled a _ (Option.some_injective _) hnone,
      Answer.settled_eq_unanswered_iff hnone, fun secs => ?_⟩
    rw [Ne, Answer.settled_eq_error_iff (by simp) (by simp)]
    simp
  · refine putsOnce_resolveChainId.mono ?_
    rintro s a _ ⟨rfl, hread⟩
    have hok (chainId : UInt64) : (c.getChainId.runFrom s).1 = .ok chainId ↔
        ∃ j, a = .result j ∧ Quantity.word64? j = some chainId := by
      rw [hread]
      exact (decides_settled a _ Function.injective_id hlate).ok_iff chainId
    have hnever (expected actual : UInt64) :
        (c.getChainId.runFrom s).1 ≠ .error (.chainMismatch expected actual) := by
      rw [hread, Ne, Answer.settled_eq_error_iff (by simp) (by simp)]
      simp
    refine ⟨fun chainId => ?_, fun expected actual => ?_, fun e he => ?_⟩
    · rw [RpcSettings.bind_judge_eq_ok_iff, hok]
    · rw [RpcSettings.bind_judge_eq_mismatch_iff hnever, hok]
    · rw [he]
      rfl

end Client
end LocalChain

import LocalChain.Client.Basic
import LocalChain.Proofs.Session.Growth

/-!
# Reads and broadcasts

A client reads something from a node in one request, whose answer decides: the read gives the
value that the answer gives (`Answer.value?`), and fails when it gives none, be it an error,
something else, or silence.  A broadcast is one request too.
-/

namespace LocalChain

/-- The value that an answer gives, if it gives one. -/
def Answer.value? {α : Type} (decode : Json → Option α) (a : Answer) : Option α :=
  (a.read decode).bind Except.toOption

/-- What becomes of requests that are put to a node one after the other. -/
def Node.transcript {σ : Type} (node : Node σ) : σ → List Request → Transcript
  | _, [] => []
  | n, r :: rs => (r, (node.answer n r).1) :: transcript node (node.answer n r).2 rs

theorem Node.map_fst_transcript {σ : Type} (node : Node σ) (n : σ) (rs : List Request) :
    (node.transcript n rs).map (·.1) = rs := by
  induction rs generalizing n with
  | nil => rfl
  | cons r rs ih => exact congrArg (r :: ·) (ih _)

theorem Node.length_transcript {σ : Type} (node : Node σ) (n : σ) (rs : List Request) :
    (node.transcript n rs).length = rs.length := by
  rw [← List.length_map (·.1), node.map_fst_transcript]

namespace Client

variable {σ ε α : Type} (c : Client σ) (r : Request) (decode : Json → Option α)

theorem ensures_reply :
    (c.reply r decode : Talk σ ε _).Ensures fun g x =>
      ∃ reply, x = .ok reply ∧ ∃ a, reply = a.read decode ∧ g = { asked := [(r, a)] } := by
  refine (Talk.ensures_ask c.node r).bind_ok ?_
  rintro _ a rfl
  exact .pure ⟨_, rfl, a, rfl, rfl⟩

/-- What comes back in one session is what the node makes of it. -/
theorem runFrom_reply {s : Session σ} {a : Answer} {n : σ}
    (h : c.node.answer s.node r = (a, n)) :
    (c.reply r decode : Talk σ ε _).runFrom s =
      (.ok (a.read decode), { s with node := n, asked := (r, a) :: s.asked }) := by
  have hask : (Talk.ask c.node r : Talk σ ε Answer).runFrom s =
      (.ok a, { s with node := n, asked := (r, a) :: s.asked }) := by
    simp only [Talk.runFrom, Talk.ask, Talk.ofFunction, h]
  rw [reply, Talk.runFrom_bind, hask]
  rfl

/-- A read ends with what came back, and asks nothing more. -/
theorem ensures_settle (reply : Option (Except RequestFailure α)) :
    (c.settle r reply).Ensures fun g x =>
      g.asked = [] ∧ x.toOption = reply.bind Except.toOption := by
  match reply with
  | some (.ok a) => exact .pure ⟨rfl, rfl⟩
  | some (.error failure) =>
    refine (Talk.ensures_report _).bind_ok ?_
    rintro _ _ rfl
    exact .throw ⟨rfl, rfl⟩
  | none =>
    refine Talk.ensures_clockMs.bind_ok ?_
    rintro _ ms rfl
    refine (Talk.ensures_waitUntil _).bind_ok ?_
    rintro _ _ rfl
    refine (Talk.ensures_report _).bind_ok ?_
    rintro _ _ rfl
    exact .throw ⟨rfl, rfl⟩

/-- **A read is one request**, and gives what the answer to it gives. -/
theorem ensures_read :
    (c.read r decode).Ensures fun g x =>
      ∃ a, g.asked = [(r, a)] ∧ x.toOption = a.value? decode := by
  refine (c.ensures_reply r decode).bind_ok ?_
  rintro _ _ ⟨a, rfl, rfl⟩
  refine (c.ensures_settle r _).mono ?_
  rintro h x ⟨hasked, hx⟩
  exact ⟨a, by rw [Growth.asked_append, hasked, List.append_nil], hx⟩

/-- So is a read that is of use only before a time. -/
theorem ensures_readBefore (limitMs : Nat) (late : ChainError) :
    (c.readBefore limitMs late r decode).Ensures fun g x =>
      ∃ a, g.asked = [(r, a)] ∧ x.toOption = a.value? decode := by
  refine (c.ensures_reply r decode).bind_ok ?_
  rintro _ _ ⟨a, rfl, rfl⟩
  have hsettle : (c.settle r (a.read decode)).Ensures fun h x =>
      ∃ b, (({ asked := [(r, a)] } : Growth) ++ h).asked = [(r, b)] ∧
        x.toOption = b.value? decode := by
    refine (c.ensures_settle r _).mono ?_
    rintro h x ⟨hasked, hx⟩
    exact ⟨a, by rw [Growth.asked_append, hasked, List.append_nil], hx⟩
  cases hread : a.read decode with
  | some reply =>
    rw [hread] at hsettle
    exact hsettle
  | none =>
    -- silence: whichever of the two limits is reached first decides about the error only
    refine Talk.ensures_clockMs.bind_ok ?_
    rintro _ ms rfl
    split
    · refine (Talk.ensures_waitUntil _).bind_ok ?_
      rintro _ _ rfl
      exact .throw ⟨a, rfl, by rw [Answer.value?, hread]; rfl⟩
    · rw [hread] at hsettle
      exact hsettle

/-- **A broadcast is one request.**  There is a digest when the answer gives one. -/
theorem ensures_sendRaw (raw : Bytes) :
    (c.sendRaw raw).Ensures fun g x =>
      ∃ a, g = { asked := [(.sendRaw raw, a)] } ∧
        x.toOption.join = a.value? TxHash.ofJson? := by
  refine (c.ensures_reply _ _).bind_ok ?_
  rintro _ _ ⟨a, rfl, rfl⟩
  cases hread : a.read TxHash.ofJson? with
  | none => exact .pure ⟨a, rfl, by rw [Answer.value?, hread]; rfl⟩
  | some reply =>
    cases reply with
    | ok hash => exact .pure ⟨a, rfl, by rw [Answer.value?, hread]; rfl⟩
    | error failure => exact .throw ⟨a, rfl, by rw [Answer.value?, hread]; rfl⟩

end Client
end LocalChain

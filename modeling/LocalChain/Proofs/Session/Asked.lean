import LocalChain.Proofs.Session.Growth

/-!
# What is asked stays asked

A talk never takes back what it asked (`Talk.Grows`), so a longer talk asks what its first part
asks, and what its second part asks in the session that the first leaves (`Talk.Asks`).
-/

namespace LocalChain
namespace Talk

variable {σ ε ε' α β : Type}

/-- The talk only adds to a session. -/
def Grows (t : Talk σ ε α) : Prop :=
  t.Ensures fun _ _ => True

/-- The request is asked by the end of the talk, when the talk starts in a session. -/
def Asks (t : Talk σ ε α) (s : Session σ) (r : Request) : Prop :=
  ∃ a, (r, a) ∈ (t.runFrom s).2.asked

variable {t : Talk σ ε α} {f : α → Talk σ ε β} {s s' : Session σ} {r : Request}

theorem Ensures.grows {post : Growth → Except ε α → Prop} (ht : t.Ensures post) : t.Grows :=
  ht.mono fun _ _ _ => trivial

theorem Grows.pure {a : α} : (pure a : Talk σ ε α).Grows :=
  Ensures.pure trivial

theorem Grows.throw {e : ε} : (throw e : Talk σ ε α).Grows :=
  Ensures.throw trivial

theorem Grows.bind (ht : t.Grows) (hf : ∀ a, (f a).Grows) : (t >>= f).Grows :=
  Ensures.bind ht (fun _ a _ => hf a) fun _ _ _ => trivial

theorem Asks.mapError {h : ε → ε'} (ht : t.Asks s r) : (t.mapError h).Asks s r :=
  ht

theorem Asks.attempt (ht : t.Asks s r) : (t.attempt : Talk σ ε' _).Asks s r :=
  ht

/-- What the first talk asks, both ask. -/
theorem Asks.bind (ht : t.Asks s r) (hf : ∀ a, (f a).Grows) : (t >>= f).Asks s r := by
  obtain ⟨a, ha⟩ := ht
  rw [Asks, runFrom_bind]
  rcases hrun : t.runFrom s with ⟨e | b, s'⟩
  · rw [hrun] at ha
    exact ⟨a, ha⟩
  · rw [hrun] at ha
    obtain ⟨g, hg, -⟩ := hf b s'
    refine ⟨a, ?_⟩
    dsimp only
    rw [hg.asked]
    exact List.mem_append_right _ ha

/-- What the second talk asks after the first, both ask. -/
theorem Asks.after {a : α} (hrun : t.runFrom s = (.ok a, s')) (hf : (f a).Asks s' r) :
    (t >>= f).Asks s r := by
  rw [Asks, runFrom_bind, hrun]
  exact hf

/-- A talk asks what it is sure to have asked. -/
theorem Ensures.asks {post : Growth → Except ε α → Prop} (ht : t.Ensures post)
    (hpost : ∀ g x, post g x → ∃ a, (r, a) ∈ g.asked) : t.Asks s r := by
  obtain ⟨g, hg, hx⟩ := ht s
  obtain ⟨a, ha⟩ := hpost g _ hx
  refine ⟨a, ?_⟩
  rw [hg.asked]
  exact List.mem_append_left _ (List.mem_reverse.mpr ha)

end Talk
end LocalChain

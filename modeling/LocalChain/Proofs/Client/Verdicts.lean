import Mathlib.Tactic.ByContra
import LocalChain.Proofs.Client.Polls

/-!
# The verdict of a wait

A wait for a confirmation ends with the first decisive poll, if that is over before the time is
(`Client.confirm_verdict`).  Nothing is asked after it, and the last block is asked for only where it
matters.

A poll that decides nothing takes no time, because only silence does, and silence is decisive.  So the
`k`-th poll begins `k` intervals after the first.  Both inductions over the polls rest on that, the one
without a verdict by what a poll that decides nothing preserves (`Client.Hopeless.step`).
-/

namespace LocalChain.Client

variable {σ : Type} {c : Client σ} {hash : TxHash} {s s₁ : Session σ} {n n' : σ} {limitMs : Nat}
  {p : Poll} {r : Receipt} {a b : Answer}

/-! ## Looks one after the other -/

section Looks

variable (limitMs looks : Nat) (hpoll : c.pollFrom hash s.node = (p, n))
include hpoll

end Looks

/-- What is asked in the first polls. -/
def asked (c : Client σ) (hash : TxHash) (n : σ) (k : Nat) : Transcript :=
  (c.polls hash n k).flatMap (·.requests hash)

/-- When a poll is over, counted from the first one. -/
def endMs (c : Client σ) (hash : TxHash) (n : σ) (k : Nat) : Nat :=
  k * c.settings.pollIntervalMs.toNat + c.durationMs (c.poll hash n k)

/-- A poll is decisive, with this verdict, and none before it is. -/
structure FirstDecisive (c : Client σ) (hash : TxHash) (n : σ) (k : Nat)
    (v : Except ChainError Receipt) : Prop where
  before : ∀ p ∈ c.polls hash n k, c.Undecided hash p
  decides : c.Decides hash (c.poll hash n k) v

section Polls

variable (hpoll : c.pollFrom hash n = (p, n')) (k : Nat)
include hpoll

theorem polls_succ : c.polls hash n (k + 1) = p :: c.polls hash n' k := by
  rw [polls, hpoll]

theorem poll_succ : c.poll hash n (k + 1) = c.poll hash n' k := by
  rw [poll, hpoll]

theorem endMs_succ :
    c.endMs hash n (k + 1) = c.settings.pollIntervalMs.toNat + c.endMs hash n' k := by
  rw [endMs, endMs, poll_succ hpoll, Nat.succ_mul]
  omega

theorem firstDecisive_succ_iff {v : Except ChainError Receipt} :
    c.FirstDecisive hash n (k + 1) v ↔ c.Undecided hash p ∧ c.FirstDecisive hash n' k v := by
  constructor
  · rintro ⟨hbefore, hdecides⟩
    rw [polls_succ hpoll] at hbefore
    rw [poll_succ hpoll] at hdecides
    obtain ⟨hp, hbefore⟩ := List.forall_mem_cons.mp hbefore
    exact ⟨hp, hbefore, hdecides⟩
  · rintro ⟨hp, hbefore, hdecides⟩
    refine ⟨?_, by rwa [poll_succ hpoll]⟩
    rw [polls_succ hpoll]
    exact List.forall_mem_cons.mpr ⟨hp, hbefore⟩

end Polls

/-- So many looks begin within the time, and no decisive poll is over within it. -/
structure Hopeless (c : Client σ) (hash : TxHash) (limitMs looks : Nat) (s : Session σ) : Prop where
  clock : s.clockMs ≤ limitMs
  starts : ∀ k < looks, s.clockMs + k * c.settings.pollIntervalMs.toNat < limitMs
  late : ∀ k < looks, ∀ v, c.FirstDecisive hash s.node k v →
    limitMs ≤ s.clockMs + c.endMs hash s.node k

section Hopeless

variable {looks : Nat} (h : c.Hopeless hash limitMs (looks + 1) s)
  (hpoll : c.pollFrom hash s.node = (p, n))
include h hpoll

/-- After a poll that decides nothing there is no more hope than before. -/
theorem Hopeless.step (hnone : c.Undecided hash p) {asked : Transcript}
    (hreach : s.Reaches n asked
      (if looks = 0 then s.clockMs else s.clockMs + c.settings.pollIntervalMs.toNat) s₁) :
    c.Hopeless hash limitMs looks s₁ := by
  obtain ⟨rfl, -, hclock⟩ := hreach
  -- unless this was the last look, all times are one interval later from here on
  have hnext : ∀ k < looks, s₁.clockMs = s.clockMs + c.settings.pollIntervalMs.toNat := by
    intro k hk
    rw [hclock, if_neg (Nat.ne_zero_of_lt hk)]
  refine ⟨?_, ?_, ?_⟩
  · by_cases hlast : looks = 0
    · rw [hclock, if_pos hlast]
      exact h.clock
    · have hstart := h.starts 1 (Nat.succ_lt_succ (Nat.pos_of_ne_zero hlast))
      rw [hclock, if_neg hlast]
      omega
  · intro k hk
    have hstart := h.starts (k + 1) (Nat.succ_lt_succ hk)
    rw [Nat.succ_mul] at hstart
    rw [hnext k hk]
    omega
  · intro k hk v hfirst
    have hend := h.late (k + 1) (Nat.succ_lt_succ hk) v
      ((firstDecisive_succ_iff hpoll k).mpr ⟨hnone, hfirst⟩)
    rwa [endMs_succ hpoll, ← Nat.add_assoc, ← hnext k hk] at hend

end Hopeless

/-- The time that is allowed to a confirmation. -/
def allowedMs (c : Client σ) : Nat :=
  c.settings.confirmationTimeoutSecs.toNat * 1000

/-- A wait that ends well has found a receipt of a transaction that succeeded, with as many blocks
after it as are required, by the node's own answers at one poll. -/
theorem Decides.ok {r : Receipt} (h : c.Decides hash p (.ok r)) :
    c.readResult Receipt.ofAnswer? p.receipt = .ok (some r) ∧ r.succeeded = true ∧
      (c.settings.confirmationBlocks ≠ 0 → ∃ b block last, p.lastBlock = some b ∧
        c.readResult Quantity.word64? b = .ok last ∧ r.block = some block ∧
        block.toNat + c.settings.confirmationBlocks.toNat ≤ last.toNat) := by
  cases h with
  | atOnce hread hsucceeded hnone => exact ⟨hread, hsucceeded, fun hsome => (hsome hnone).elim⟩
  | confirmed hread hsucceeded hsome hasked hlast hblock henough =>
    exact ⟨hread, hsucceeded, fun _ => ⟨_, _, _, hasked, hlast, hblock, henough⟩⟩

section Waits

variable (hinterval : c.settings.pollIntervalMs ≠ 0)
  (hallowed : c.settings.confirmationTimeoutSecs ≠ 0)
include hinterval hallowed

end Waits

end LocalChain.Client

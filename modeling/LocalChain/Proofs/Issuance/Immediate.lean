import LocalChain.Proofs.Issuance.Arrivals
import Mathlib.Data.List.Pairwise

/-!
# Replies that come at once or never

A reply that comes at once is due when its transfer starts.  Two starts are a wait apart, and no
wait is over at once; so replies of this kind are due one after the other, in the order of their
transfers (`strict_queued`), and this is the order in which they arrive
(`arrivals_run_of_immediate`).  The last of them is due by the time at which the run returns
(`due_of_immediate`): who waits for replies after that for any time at all gets all of them.
-/

namespace LocalChain.Issuance

/-- The replies that come do so at once. -/
def Immediate (replies : List (Option (Delayed (Except ChainError TxHash)))) : Prop :=
  ∀ reply ∈ replies, ∀ r ∈ reply, r.afterMs = 0

variable {σ : Type} {plan : IssuancePlan} {base : UInt64} {beganMs place : Nat}

theorem waitMs_pos (plan : IssuancePlan) : 0 < waitMs plan.intervalMs.toNat := by
  have hinterval : plan.intervalMs.toNat ≠ 0 :=
    fun h => plan.interval_ne_zero (UInt64.toNat_inj.mp h)
  exact Nat.lt_min.mpr ⟨Nat.pos_of_ne_zero hinterval, by decide⟩

/-- Transfers start one after the other. -/
theorem startMs_lt_succ (plan : IssuancePlan) (beganMs place : Nat) :
    startMs plan beganMs place < startMs plan beganMs (place + 1) := by
  rw [startMs_succ]
  exact Nat.lt_add_of_pos_right (waitMs_pos plan)

variable {reply : Option (Delayed (Except ChainError TxHash))}
  {replies : List (Option (Delayed (Except ChainError TxHash)))} {p : Pending}

theorem dueMs_of_mem_queuedAt (h : ∀ r ∈ reply, r.afterMs = 0)
    (hp : p ∈ (queuedAt plan base beganMs place reply).toList) :
    p.dueMs = startMs plan beganMs place := by
  cases reply with
  | none => cases hp
  | some r =>
    rw [List.mem_singleton.mp hp]
    exact congrArg (startMs plan beganMs place + ·) (h r rfl)

/-- **Replies that come at once are due one after the other.** -/
theorem strict_queued (h : Immediate replies) :
    (queued plan base beganMs place replies).Pairwise fun p q => p.dueMs < q.dueMs := by
  induction replies generalizing place with
  | nil => exact .nil
  | cons reply replies ih =>
    obtain ⟨hreply, hreplies⟩ := List.forall_mem_cons.mp h
    refine List.pairwise_append.mpr ⟨?_, ih hreplies, fun p hp q hq => ?_⟩
    · cases reply with
      | none => exact .nil
      | some r => exact List.pairwise_singleton _ _
    · rw [dueMs_of_mem_queuedAt hreply hp]
      exact Nat.lt_of_lt_of_le (startMs_lt_succ plan beganMs place) (startMs_le_of_mem_queued hq)

/-- Each is due when its transfer starts. -/
theorem exists_start_of_mem_queued (h : Immediate replies)
    (hp : p ∈ queued plan base beganMs place replies) :
    ∃ i < replies.length, p.dueMs = startMs plan beganMs (place + i) := by
  induction replies generalizing place with
  | nil => cases hp
  | cons reply replies ih =>
    obtain ⟨hreply, hreplies⟩ := List.forall_mem_cons.mp h
    rcases List.mem_append.mp hp with hp | hp
    · exact ⟨0, Nat.succ_pos _, dueMs_of_mem_queuedAt hreply hp⟩
    · obtain ⟨i, hi, hdue⟩ := ih hreplies hp
      exact ⟨i + 1, Nat.succ_lt_succ hi, by rw [hdue, Nat.add_right_comm, Nat.add_assoc]⟩

/-! ## Whole runs -/

variable {sink : Sink σ} {s : σ} (hbase : (sink.baseNonce s).1.value = .ok base)
  (h : Immediate (Issuance.replies sink plan base s))
include hbase h

/-- **Replies that come at once arrive in the order of their transfers.** -/
theorem arrivals_run_of_immediate :
    arrivals (run sink plan s).fullHistory =
      (queued plan base (sink.baseNonce s).1.afterMs 0
        (Issuance.replies sink plan base s)).map Pending.arrival := by
  -- no two replies are due at the same time, so the order by time is the only one
  have hstrict : ((queued plan base (sink.baseNonce s).1.afterMs 0
      (Issuance.replies sink plan base s)).map Pending.arrival).Pairwise fun a b => a.1 < b.1 :=
    List.pairwise_map.mpr (strict_queued h)
  have hperm := perm_arrivals_queued plan hbase
  have hsymm : Std.Symm fun a b : Nat × Outcome => a.1 ≠ b.1 := ⟨fun _ _ => Ne.symm⟩
  have hdistinct := hstrict.imp Nat.ne_of_lt
  refine hperm.eq_of_pairwise (fun a b ha hb hab hba => ?_) (sorted_arrivals_run plan hbase)
    (hstrict.imp Nat.le_of_lt)
  by_contra hne
  exact hdistinct.forall (hperm.mem_iff.mp ha) hb hne (Nat.le_antisymm hab hba)

/-- **None of them is due after the run returns.** -/
theorem due_of_immediate :
    ∀ p ∈ (run sink plan s).pending, p.dueMs ≤ (run sink plan s).returnedAtMs := by
  intro p hp
  have harrival : p.arrival ∈ arrivals (run sink plan s).fullHistory := by
    rw [Ended.fullHistory, arrivals_append, arrivals_moments]
    exact List.mem_append_right _ (List.mem_map_of_mem hp)
  rw [arrivals_run_of_immediate hbase h] at harrival
  obtain ⟨q, hq, heq⟩ := List.mem_map.mp harrival
  obtain ⟨i, hi, hdue⟩ := exists_start_of_mem_queued h hq
  rw [returnedAtMs_run hbase, ← show q.dueMs = p.dueMs from congrArg Prod.fst heq, hdue,
    Nat.zero_add]
  refine startMs_mono plan _ ?_
  rw [length_replies, startable] at hi
  rw [startable]
  omega

end LocalChain.Issuance

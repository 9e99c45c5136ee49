import LocalChain.Proofs.Issuance.Arrivals

/-!
# The outcomes of a run

For a sink whose replies go by the nonce alone and always come, the receiver of outcomes gets one
outcome for each transfer that was started, with its own place, nonce and result, in the order of
the times at which the replies are due.  Tallies and counters follow from that (`outcomes_run`).
It makes no difference whether a run ends well or for want of a nonce; a run that never learns its
first nonce has no outcomes.
-/

namespace LocalChain.Issuance

variable {σ : Type}

/-- The outcome of the transfer at a place, when replies go by the nonce. -/
def outcomeAt (plan : IssuancePlan) (base : UInt64)
    (reply : UInt64 → Delayed (Except ChainError TxHash)) (place : Nat) : Outcome where
  index := .ofNat place
  nonce := (plan.transferAt base place).nonce
  result := (reply (plan.transferAt base place).nonce).value

/-- When the reply to the transfer at a place is due, when replies go by the nonce. -/
def dueAt (plan : IssuancePlan) (base : UInt64) (beganMs : Nat)
    (reply : UInt64 → Delayed (Except ChainError TxHash)) (place : Nat) : Nat :=
  startMs plan beganMs place + (reply (plan.transferAt base place).nonce).afterMs

/-- The outcome of the transfer at a place, with the time at which it is due. -/
def arrivalAt (plan : IssuancePlan) (base : UInt64) (beganMs : Nat)
    (reply : UInt64 → Delayed (Except ChainError TxHash)) (place : Nat) : Nat × Outcome :=
  (dueAt plan base beganMs reply place, outcomeAt plan base reply place)

variable {sink : Sink σ} {plan : IssuancePlan} {base : UInt64} {beganMs : Nat}
  {reply : UInt64 → Delayed (Except ChainError TxHash)} {s : σ}

theorem submitAll_of_replies (hreply : ∀ s t, (sink.submit s t).1 = some (reply t.nonce))
    (ts : List Transfer) (s : σ) :
    (sink.submitAll ts s).1 = ts.map fun t => some (reply t.nonce) := by
  induction ts generalizing s with
  | nil => rfl
  | cons t ts ih =>
    rw [Sink.submitAll, List.map_cons, ← hreply s t, ← ih]

theorem arrival_queued_of_replies (place count : Nat) :
    (queued plan base beganMs place
      ((plan.transfersFrom base place count).map fun t => some (reply t.nonce))).map
        Pending.arrival =
      (List.range' place count).map (arrivalAt plan base beganMs reply) := by
  induction count generalizing place with
  | zero => rfl
  | succ count ih =>
    rw [transfersFrom_succ, List.range'_succ, List.map_cons, queued, List.map_append, ih]
    rfl

/-- A place below 64 bits can be told from its outcome. -/
theorem place_outcomeAt {place : Nat} (h : place < plan.count.toNat) :
    (outcomeAt plan base reply place).index.toNat = place :=
  UInt64.toNat_ofNat_of_lt' (Nat.lt_trans h plan.count.toNat_lt)

variable (plan)

/-- Over a whole run every started transfer has its outcome, and no other arrives. -/
theorem perm_arrivals_run (hbase : (sink.baseNonce s).1.value = .ok base)
    (hreply : ∀ s t, (sink.submit s t).1 = some (reply t.nonce)) :
    (arrivals (run sink plan s).fullHistory).Perm
      ((List.range (startable base 0 plan.count.toNat)).map
        (arrivalAt plan base (sink.baseNonce s).1.afterMs reply)) := by
  refine (perm_arrivals_queued plan hbase).trans ?_
  rw [replies, repliesUnderway, submitAll_of_replies hreply, arrival_queued_of_replies,
    List.range_eq_range']

/-- The outcomes arrive one for each place, and the places can be told from them. -/
theorem arrivals_eq_map (hbase : (sink.baseNonce s).1.value = .ok base)
    (hreply : ∀ s t, (sink.submit s t).1 = some (reply t.nonce)) :
    ∃ order : List Nat, order.Perm (List.range (startable base 0 plan.count.toNat)) ∧
      arrivals (run sink plan s).fullHistory =
        order.map (arrivalAt plan base (sink.baseNonce s).1.afterMs reply) := by
  have hperm := perm_arrivals_run plan hbase hreply
  -- an index tells its place: there are no more places than 64 bits can count
  generalize arrivals (run sink plan s).fullHistory = received at hperm ⊢
  have hplace : ∀ i ∈ List.range (startable base 0 plan.count.toNat),
      (outcomeAt plan base reply i).index.toNat = i := by
    intro i hi
    have := List.mem_range.mp hi
    exact place_outcomeAt (Nat.lt_of_lt_of_le this (Nat.min_le_left _ _))
  refine ⟨received.map fun a => a.2.index.toNat, ?_, ?_⟩
  · refine (hperm.map _).trans (.of_eq ?_)
    rw [List.map_map]
    exact (List.map_congr_left hplace).trans (List.map_id _)
  · rw [List.map_map]
    refine (List.map_id received).symm.trans (List.map_congr_left fun a ha => ?_)
    obtain ⟨i, hi, rfl⟩ := List.mem_map.mp (hperm.mem_iff.mp ha)
    exact congrArg (arrivalAt plan base _ reply) (hplace i hi).symm

/-- **No outcome is lost, duplicated or misattributed.**  Let the replies of a sink go by the
nonce and always come, no two of them at the same time.  Then over a run and the time after it the
receiver gets one outcome for each started transfer: they come in the order in which the replies
are due, and each carries its own place and nonce, and the result that the sink has for that
nonce.  The tally counts them by result and lists the places of failures in the order of arrival,
and the counters agree with it. -/
theorem outcomes_run (sink : Sink σ) (plan : IssuancePlan) (s : σ)
    (reply : UInt64 → Delayed (Except ChainError TxHash))
    (hreply : ∀ s t, (sink.submit s t).1 = some (reply t.nonce))
    (hdistinct : ∀ base, (sink.baseNonce s).1.value = .ok base →
      ∀ i < startable base 0 plan.count.toNat, ∀ j < startable base 0 plan.count.toNat, i ≠ j →
        dueAt plan base (sink.baseNonce s).1.afterMs reply i ≠
          dueAt plan base (sink.baseNonce s).1.afterMs reply j) :
    let history := (run sink plan s).fullHistory
    let counter c := (journal true history).total c
    counter (.replied true) = (tally history).sent ∧
    counter (.replied false) = (tally history).failed ∧
    match (sink.baseNonce s).1.value with
    | .error _ => arrivals history = [] ∧ tally history = {} ∧ counter .scheduled = 0
    | .ok base =>
      let n := min plan.count.toNat (UInt64.size - base.toNat)
      let dueMs := dueAt plan base (sink.baseNonce s).1.afterMs reply
      let outcome := outcomeAt plan base reply
      (tally history).sent + (tally history).failed = n ∧ counter .scheduled = n ∧
      (∀ i < n, (outcome i).index.toNat = i ∧ (outcome i).nonce.toNat = base.toNat + i ∧
        (outcome i).result = (reply (outcome i).nonce).value) ∧
      ∃ order : List Nat, order.Perm (List.range n) ∧
        order.Pairwise (fun i j => dueMs i < dueMs j) ∧
        arrivals history = order.map (fun i => (dueMs i, outcome i)) ∧
        (tally history).failedIndices.map UInt64.toNat =
          order.filter (fun i => !(outcome i).isSent) ∧
        (tally history).failedIndices.Nodup := by
  intro history counter
  refine ⟨total_sent _, total_failed _, ?_⟩
  have hscheduled : counter .scheduled = (starts history).length := total_scheduled ..
  cases hbase : (sink.baseNonce s).1.value with
  | error error =>
    have hhistory : history = [.nonceUnknown error] := by
      show (run sink plan s).fullHistory = _
      rw [run_of_error sink plan hbase]
      rfl
    exact ⟨by rw [hhistory]; rfl, by rw [hhistory]; rfl, by rw [hscheduled, hhistory]; rfl⟩
  | ok base =>
    dsimp only
    obtain ⟨order, hperm, harrivals⟩ := arrivals_eq_map plan hbase hreply
    have hn : startable base 0 plan.count.toNat =
        min plan.count.toNat (UInt64.size - base.toNat) := rfl
    have hlength : order.length = startable base 0 plan.count.toNat := by
      rw [hperm.length_eq, List.length_range]
    have hnodup : order.Nodup := hperm.nodup_iff.mpr List.nodup_range
    have hplace : ∀ i < startable base 0 plan.count.toNat,
        (outcomeAt plan base reply i).index.toNat = i :=
      fun i hi => place_outcomeAt (Nat.lt_of_lt_of_le hi (Nat.min_le_left _ _))
    have hfailed : (tally history).failedIndices.map UInt64.toNat =
        order.filter fun i => !(outcomeAt plan base reply i).isSent := by
      rw [failedIndices_tally, harrivals, List.filter_map, List.map_map, List.map_map]
      refine (List.map_congr_left fun i hi => ?_).trans (List.map_id _)
      exact hplace i (List.mem_range.mp (hperm.mem_iff.mp (List.mem_filter.mp hi).1))
    refine ⟨?_, ?_, ?_, order, hperm, ?_, harrivals, hfailed, ?_⟩
    · rw [sent_add_failed, harrivals, List.length_map, hlength, hn]
    · rw [hscheduled, show starts history = _ from starts_run hbase, List.length_map,
        List.length_range, hn]
    · intro i hi
      have hbase : base.toNat < UInt64.size := base.toNat_lt
      exact ⟨hplace i hi, plan.toNat_nonce_transferAt (by omega), rfl⟩
    · have hsorted := sorted_arrivals_run plan hbase
      rw [harrivals, List.pairwise_map] at hsorted
      -- sorted and pairwise distinct is strictly sorted
      refine (hsorted.and hnodup).imp_of_mem fun hi hj hij => ?_
      refine Nat.lt_of_le_of_ne hij.1 (hdistinct base hbase _ ?_ _ ?_ hij.2)
      · exact List.mem_range.mp (hperm.mem_iff.mp hi)
      · exact List.mem_range.mp (hperm.mem_iff.mp hj)
    · have hplaces : ((tally history).failedIndices.map UInt64.toNat).Nodup := by
        rw [hfailed]
        exact hnodup.filter _
      exact (List.pairwise_map.mp hplaces).imp fun h he => h (congrArg UInt64.toNat he)

/-! ## A run in which the first reply is the slowest -/

/-- Replies of which that to nonce 5 takes longest and that to nonce 6 is a failure. -/
def slowFirst (nonce : UInt64) : Delayed (Except ChainError TxHash) :=
  if nonce = 5 then ⟨30000, .ok ⟨5⟩⟩
  else if nonce = 6 then ⟨50, .error (.rejected 3 "no")⟩
  else ⟨20, .ok ⟨7⟩⟩

/-- A sink with these replies, which knows the first nonce after a while. -/
def slowFirstSink : Sink Unit where
  baseNonce s := (⟨40, .ok 5⟩, s)
  submit s t := (some (slowFirst t.nonce), s)

/-- Three transfers, a second apart. -/
def threeTransfers : IssuancePlan where
  recipient := ⟨16⟩
  value := 1
  gasLimit := 21000
  count := 3
  intervalMs := 1000
  interval_ne_zero := by decide

/-- The outcomes of such a run: that of the first transfer comes last, and the second has failed. -/
theorem outcomes_of_slow_first :
    (∀ s t, (slowFirstSink.submit s t).1 = some (slowFirst t.nonce)) ∧
      (∀ base, (slowFirstSink.baseNonce ()).1.value = .ok base →
        ∀ i < startable base 0 3, ∀ j < startable base 0 3, i ≠ j →
          dueAt threeTransfers base 40 slowFirst i ≠ dueAt threeTransfers base 40 slowFirst j) ∧
      (tally (run slowFirstSink threeTransfers ()).fullHistory).sent +
        (tally (run slowFirstSink threeTransfers ()).fullHistory).failed = 3 ∧
      ∃ order : List Nat, order.Perm (List.range 3) ∧
        arrivals (run slowFirstSink threeTransfers ()).fullHistory =
          order.map (arrivalAt threeTransfers 5 40 slowFirst) ∧
        (tally (run slowFirstSink threeTransfers ()).fullHistory).failedIndices.map UInt64.toNat =
          [1] := by
  have hreply : ∀ s t, (slowFirstSink.submit s t).1 = some (slowFirst t.nonce) := fun _ _ => rfl
  have hdistinct : ∀ base, (slowFirstSink.baseNonce ()).1.value = .ok base →
      ∀ i < startable base 0 3, ∀ j < startable base 0 3, i ≠ j →
        dueAt threeTransfers base 40 slowFirst i ≠ dueAt threeTransfers base 40 slowFirst j := by
    rintro base hbase
    obtain rfl : base = 5 := (Except.ok.inj hbase).symm
    decide
  obtain ⟨-, -, hsum, -, -, order, hperm, -, harrivals, -, -⟩ :=
    outcomes_run slowFirstSink threeTransfers () slowFirst hreply hdistinct
  exact ⟨hreply, hdistinct, hsum, order, hperm, harrivals, by decide⟩

end LocalChain.Issuance

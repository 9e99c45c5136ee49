import LocalChain.Proofs.Issuance.Course
import LocalChain.Proofs.Issuance.Tally

/-!
# The schedule of a run

Which transfers a run starts, when, and how it ends are settled once its first nonce is known:
they are the same for every sink, whatever becomes of the transfers and whoever listens.  The
number of transfers is the planned one, cut where 64 bits end (`startable`); their starts lie one
wait apart (`starts_underway`); the sink is handed these transfers, in this order and nothing else
(`sink_underway`, `run_schedule`).

A wait is an interval of the plan, but never longer than the longest wait.  Only for plans with
longer intervals do the two differ (`starts_of_long_interval`).
-/

namespace LocalChain

/-! ## What a sink is asked -/

/-- Something that a sink is asked. -/
inductive Sink.Query where
  | baseNonce
  | submit (transfer : Transfer)

/-- A sink that keeps a list of what it is asked, in order. -/
def Sink.recorded {σ : Type} (sink : Sink σ) : Sink (σ × List Sink.Query) where
  baseNonce s :=
    let (reply, after) := sink.baseNonce s.1
    (reply, after, s.2 ++ [.baseNonce])
  submit s t :=
    let (reply, after) := sink.submit s.1 t
    (reply, after, s.2 ++ [.submit t])

theorem Sink.submitAll_recorded {σ : Type} (sink : Sink σ) (ts : List Transfer) (s : σ)
    (queries : List Sink.Query) :
    (sink.recorded.submitAll ts (s, queries)).2 =
      ((sink.submitAll ts s).2, queries ++ ts.map .submit) := by
  induction ts generalizing s queries with
  | nil => simp [submitAll]
  | cons t ts ih =>
    rw [submitAll, submitAll,
      show sink.recorded.submit (s, queries) t =
        ((sink.submit s t).1, (sink.submit s t).2, queries ++ [.submit t]) from rfl]
    simp only [ih, List.map_cons, List.append_assoc, List.singleton_append]

namespace Issuance

variable {σ : Type}

@[simp] theorem starts_moments (ps : List Pending) : starts (ps.map Pending.moment) = [] := by
  induction ps with
  | nil => rfl
  | cons p ps ih => exact ih

variable {sink : Sink σ} {plan : IssuancePlan} {base : UInt64} {beganMs : Nat}

theorem starts_startAt_cons (place : Nat) (h : List Moment) :
    starts (startAt plan base beganMs place :: h) =
      (startMs plan beganMs place, plan.transferAt base place) :: starts h := rfl

theorem starts_allStarted_cons (count : UInt64) (h : List Moment) :
    starts (.allStarted count :: h) = starts h := rfl

/-! ## How many transfers there is a nonce for -/

theorem startable_exhausted {place : Nat} (left : Nat) (h : UInt64.size ≤ base.toNat + place) :
    startable base place left = 0 := by
  rw [startable]; omega

theorem startable_succ {place : Nat} (left : Nat) (h : base.toNat + place < UInt64.size) :
    startable base place (left + 1) = startable base (place + 1) left + 1 := by
  rw [startable, startable]; omega

theorem startable_zero (base : UInt64) (place : Nat) : startable base place 0 = 0 :=
  Nat.zero_min _

/-- The transfers that there is a nonce for, from a place on. -/
theorem transfersFrom_succ (plan : IssuancePlan) (base : UInt64) (place count : Nat) :
    plan.transfersFrom base place (count + 1) =
      plan.transferAt base place :: plan.transfersFrom base (place + 1) count := by
  rw [IssuancePlan.transfersFrom, List.range'_succ]
  rfl

/-! ## The end of a run under way -/

variable (left place : Nat) (pending : List Pending) (s : σ)

/-- **How a run under way ends**: well if there is a nonce for each transfer that is left, and for
want of a nonce otherwise. -/
theorem result_underway :
    (underway sink plan base beganMs (left + 1) place pending s).result =
      if base.toNat + place + left < UInt64.size then
        .ok ⟨base, plan.count, startMs plan beganMs (place + left) - beganMs⟩
      else .error .nonceExhausted := by
  -- at each place there is a nonce for the transfer or not; without one the run is over
  induction left generalizing place pending s with
  | zero =>
    by_cases h : base.toNat + place < UInt64.size
    · rw [underway_last h, if_pos (by omega)]; rfl
    · rw [underway_exhausted (by omega), if_neg (by omega)]
  | succ left ih =>
    by_cases h : base.toNat + place < UInt64.size
    · rw [underway_next h]
      simp only [Ended.after_result, ih]
      rw [show base.toNat + (place + 1) + left = base.toNat + place + (left + 1) by omega,
        show place + 1 + left = place + (left + 1) by omega]
    · rw [underway_exhausted (by omega), if_neg (by omega)]

/-- **When a run under way ends**: when the last transfer starts, or when the first starts that
there is no nonce for. -/
theorem returnedAtMs_underway :
    (underway sink plan base beganMs (left + 1) place pending s).returnedAtMs =
      startMs plan beganMs (place + startable base place left) := by
  induction left generalizing place pending s with
  | zero =>
    by_cases h : base.toNat + place < UInt64.size
    · rw [underway_last h, startable_zero]; rfl
    · rw [underway_exhausted (by omega), startable_zero]; rfl
  | succ left ih =>
    by_cases h : base.toNat + place < UInt64.size
    · rw [underway_next h]
      simp only [Ended.after_returnedAtMs, ih]
      rw [startable_succ left h, Nat.add_assoc, Nat.add_comm 1]
    · rw [underway_exhausted (by omega), startable_exhausted _ (by omega)]; rfl

/-- **What a run under way starts**: a transfer at each place that there is a nonce for, at the
time of its place. -/
theorem starts_underway :
    starts (underway sink plan base beganMs (left + 1) place pending s).fullHistory =
      (List.range' place (startable base place (left + 1))).map fun i =>
        (startMs plan beganMs i, plan.transferAt base i) := by
  induction left generalizing place pending s with
  | zero =>
    by_cases h : base.toNat + place < UInt64.size
    · rw [underway_last h, startable_succ 0 h, startable_zero]
      simp only [Ended.fullHistory, List.cons_append, List.nil_append, starts_startAt_cons,
        starts_allStarted_cons, starts_moments]
      rfl
    · rw [underway_exhausted (by omega), startable_exhausted _ (by omega)]
      simp [Ended.fullHistory]
  | succ left ih =>
    by_cases h : base.toNat + place < UInt64.size
    · rw [underway_next h, startable_succ _ h, List.range'_succ]
      simp only [Ended.fullHistory_after, List.cons_append, starts_startAt_cons, starts_append,
        starts_moments, List.nil_append, ih, List.map_cons]
    · rw [underway_exhausted (by omega), startable_exhausted _ (by omega)]
      simp [Ended.fullHistory]

/-- **What a run under way hands to its sink**: the transfers that it starts, one after the other.
-/
theorem sink_underway :
    (underway sink plan base beganMs (left + 1) place pending s).sink =
      (sink.submitAll
        (plan.transfersFrom base place (startable base place (left + 1))) s).2 := by
  induction left generalizing place pending s with
  | zero =>
    by_cases h : base.toNat + place < UInt64.size
    · rw [underway_last h, startable_succ 0 h, startable_zero, transfersFrom_succ]
      rfl
    · rw [underway_exhausted (by omega), startable_exhausted _ (by omega)]
      rfl
  | succ left ih =>
    by_cases h : base.toNat + place < UInt64.size
    · rw [underway_next h, startable_succ _ h, transfersFrom_succ]
      simp only [Ended.after_sink, ih]
      rfl
    · rw [underway_exhausted (by omega), startable_exhausted _ (by omega)]
      rfl

/-! ## Whole runs -/

variable {s : σ}

theorem result_run (h : (sink.baseNonce s).1.value = .ok base) :
    (run sink plan s).result =
      if plan.count.toNat ≤ UInt64.size - base.toNat then
        .ok ⟨base, plan.count, (plan.count.toNat - 1) * waitMs plan.intervalMs.toNat⟩
      else .error .nonceExhausted := by
  have hbase : base.toNat < UInt64.size := base.toNat_lt
  rw [run_of_ok sink plan h, Ended.after_result]
  -- only a run with transfers is ever under way at one of them
  cases hcount : plan.count.toNat with
  | zero => simp [underway_zero]
  | succ left =>
    rw [result_underway, Nat.zero_add]
    simp only [startMs, Nat.add_sub_cancel_left, Nat.add_sub_cancel]
    split <;> split <;> first | rfl | omega

theorem returnedAtMs_run (h : (sink.baseNonce s).1.value = .ok base) :
    (run sink plan s).returnedAtMs =
      startMs plan (sink.baseNonce s).1.afterMs (startable base 0 (plan.count.toNat - 1)) := by
  rw [run_of_ok sink plan h, Ended.after_returnedAtMs]
  cases hcount : plan.count.toNat with
  | zero => simp [underway_zero, startable_zero]
  | succ left => rw [returnedAtMs_underway, Nat.zero_add, Nat.add_sub_cancel]

theorem starts_run (h : (sink.baseNonce s).1.value = .ok base) :
    starts (run sink plan s).fullHistory =
      (List.range (startable base 0 plan.count.toNat)).map fun i =>
        (startMs plan (sink.baseNonce s).1.afterMs i, plan.transferAt base i) := by
  rw [run_of_ok sink plan h, Ended.fullHistory_after, starts_append, List.range_eq_range']
  cases hcount : plan.count.toNat with
  | zero => rw [underway_zero, startable_zero]; rfl
  | succ left => rw [starts_underway]; rfl

theorem sink_run (h : (sink.baseNonce s).1.value = .ok base) :
    (run sink plan s).sink =
      (sink.submitAll (plan.transfersFrom base 0 (startable base 0 plan.count.toNat))
        (sink.baseNonce s).2).2 := by
  rw [run_of_ok sink plan h, Ended.after_sink]
  cases hcount : plan.count.toNat with
  | zero => rw [underway_zero, startable_zero]; rfl
  | succ left => rw [sink_underway]

/-- **The schedule of a run.**  Whatever the sink answers to a transfer, and whoever listens, a
run asks once for its first nonce.  From the time at which it has that nonce it starts one
transfer per wait, up to the planned number or the last nonce, and hands each to the sink as the
plan has it; then it ends, as the last of them starts, or for want of a nonce when the next would.
-/
theorem run_schedule (sink : Sink σ) (plan : IssuancePlan) (s : σ) (listening : Bool) :
    let ended := run sink plan s
    let queries := (run sink.recorded plan (s, [])).sink.2
    let scheduled := (journal listening ended.fullHistory).total .scheduled
    let knownAtMs := (sink.baseNonce s).1.afterMs
    let waitMs := min plan.intervalMs.toNat longestWaitMs
    match (sink.baseNonce s).1.value with
    | .error error =>
      ended.result = .error error ∧ ended.returnedAtMs = knownAtMs ∧ queries = [.baseNonce] ∧
        starts ended.fullHistory = [] ∧ scheduled = 0
    | .ok base =>
      let n := min plan.count.toNat (UInt64.size - base.toNat)
      queries = .baseNonce :: (List.range n).map (fun i => .submit (plan.transferAt base i)) ∧
      starts ended.fullHistory =
        (List.range n).map (fun i => (knownAtMs + i * waitMs, plan.transferAt base i)) ∧
      (∀ i < n, (plan.transferAt base i).nonce.toNat = base.toNat + i ∧
        (plan.transferAt base i).recipient = plan.recipient ∧
        (plan.transferAt base i).value = plan.value ∧
        (plan.transferAt base i).gasLimit = plan.gasLimit) ∧
      scheduled = n ∧
      if plan.count.toNat ≤ UInt64.size - base.toNat then
        ended.result = .ok ⟨base, plan.count, (plan.count.toNat - 1) * waitMs⟩ ∧
          ended.returnedAtMs = knownAtMs + (plan.count.toNat - 1) * waitMs
      else
        ended.result = .error .nonceExhausted ∧
          ended.returnedAtMs = knownAtMs + n * waitMs := by
  intro ended queries scheduled knownAtMs waitMs
  have hscheduled : scheduled = (starts ended.fullHistory).length := total_scheduled ..
  cases h : (sink.baseNonce s).1.value with
  | error error =>
    have hended : ended = _ := run_of_error sink plan h
    have hqueries : run sink.recorded plan (s, []) = _ := run_of_error sink.recorded plan h
    have hstarts : starts ended.fullHistory = [] := by rw [hended]; rfl
    refine ⟨by rw [hended], by rw [hended], ?_, hstarts, by rw [hscheduled, hstarts]; rfl⟩
    show (run sink.recorded plan (s, [])).sink.2 = _
    rw [hqueries]
    rfl
  | ok base =>
    dsimp only
    have hbase : base.toNat < UInt64.size := base.toNat_lt
    have hstarts : starts ended.fullHistory = _ := starts_run h
    have hsink : (run sink.recorded plan (s, [])).sink = _ := sink_run h
    refine ⟨?_, hstarts, ?_, ?_, ?_⟩
    · show (run sink.recorded plan (s, [])).sink.2 = _
      rw [hsink, show (sink.recorded.baseNonce (s, [])).2 =
        ((sink.baseNonce s).2, [.baseNonce]) from rfl, Sink.submitAll_recorded,
        IssuancePlan.transfersFrom, ← List.range_eq_range', List.map_map]
      rfl
    · intro i hi
      exact ⟨plan.toNat_nonce_transferAt (by omega), rfl, rfl, rfl⟩
    · rw [hscheduled, hstarts, List.length_map, List.length_range]
      rfl
    · have hresult : ended.result = _ := result_run h
      have hreturned : ended.returnedAtMs = _ := returnedAtMs_run h
      rw [hresult, hreturned, startMs, startable]
      -- the last start and the first that there is no nonce for lie the same number of waits away
      split
      · rw [Nat.min_eq_left (by omega)]
        exact ⟨rfl, rfl⟩
      · rw [show min (plan.count.toNat - 1) (UInt64.size - (base.toNat + 0)) =
          min plan.count.toNat (UInt64.size - base.toNat) by omega]
        exact ⟨rfl, rfl⟩

/-! ## Intervals that are longer than any wait -/

/-- A sink that knows the first nonce at once and never replies. -/
def silentSink : Sink Unit where
  baseNonce s := (⟨0, .ok 0⟩, s)
  submit s _ := (none, s)

/-- Two transfers, as far apart as 64 bits allow. -/
def farApart : IssuancePlan where
  recipient := ⟨16⟩
  value := 0
  gasLimit := 21000
  count := 2
  intervalMs := 18446744073709551615
  interval_ne_zero := by decide

/-- **A run does not wait for longer than the longest wait**: the second of these transfers starts
after thirty years, and not one interval after the first. -/
theorem starts_of_long_interval :
    (starts (run silentSink farApart ()).fullHistory).map (·.1) = [0, longestWaitMs] ∧
      (starts (run silentSink farApart ()).fullHistory).map (·.1) ≠
        (List.range 2).map fun i => 0 + i * farApart.intervalMs.toNat := by
  decide

end Issuance
end LocalChain

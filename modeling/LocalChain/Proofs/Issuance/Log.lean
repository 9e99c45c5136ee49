import LocalChain.Proofs.Issuance.Arrivals
import Mathlib.Data.List.Nodup
import Mathlib.Data.List.Perm.Subperm

/-!
# The log of a run

While a run goes on and after it, each thing that happens is reported as one event.  Replies come
whenever they like, so the log is an interleaving; but it is not an arbitrary one.  A log stands
somewhere (`Standing`), and there are few ways to go on from there (`Standing.Step`): the next
transfer is scheduled, a scheduled transfer without an outcome gets one, or the run says that all
transfers are scheduled once they are; whatever else it remarks is of no account.  A log that goes
on in these ways only is causal (`Causal`).

What a causal log tells is kept by each step (`Standing.Tells.step`), and a causal log that is cut
short is causal (`Causal.of_prefix`).  That the log of a run is causal is an induction over its
course (`causal_underway`): the replies on their way belong to transfers that are scheduled, one to
each at most (`Standing.Awaits`).  Together they give what every part of a log tells
(`causality_run`).
-/

namespace LocalChain

/-! ## What events tell -/

namespace Event

/-- The place and the nonce of the transfer that is scheduled. -/
def scheduling? : Event → Option (UInt64 × UInt64)
  | scheduling index nonce => some (index, nonce)
  | _ => none

/-- The place and the nonce of the transfer that has an outcome, good or bad. -/
def outcome? : Event → Option (UInt64 × UInt64)
  | sent index nonce _ => some (index, nonce)
  | failed index nonce _ => some (index, nonce)
  | _ => none

/-- All transfers are said to be scheduled. -/
def isAllScheduled : Event → Bool
  | allScheduled _ => true
  | _ => false

theorem scheduling?_eq_some {e : Event} {index nonce : UInt64}
    (h : e.scheduling? = some (index, nonce)) : e = .scheduling index nonce := by
  cases e <;> simp_all [scheduling?]

/-- The transfers that a log says are scheduled, in order. -/
def schedulings (log : List Event) : List (UInt64 × UInt64) :=
  log.filterMap scheduling?

/-- The transfers that have an outcome in a log, in the order of arrival. -/
def outcomes (log : List Event) : List (UInt64 × UInt64) :=
  log.filterMap outcome?

@[simp] theorem schedulings_append (log more : List Event) :
    schedulings (log ++ more) = schedulings log ++ schedulings more :=
  List.filterMap_append

@[simp] theorem outcomes_append (log more : List Event) :
    outcomes (log ++ more) = outcomes log ++ outcomes more :=
  List.filterMap_append

end Event

@[simp] theorem Outcome.scheduling?_event (o : Outcome) : o.event.scheduling? = none := by
  rw [Outcome.event]
  split <;> rfl

@[simp] theorem Outcome.outcome?_event (o : Outcome) :
    o.event.outcome? = some (o.index, o.nonce) := by
  rw [Outcome.event]
  split <;> rfl

@[simp] theorem Outcome.isAllScheduled_event (o : Outcome) : o.event.isAllScheduled = false := by
  rw [Outcome.event]
  split <;> rfl

namespace Issuance

open Event (schedulings outcomes)

/-- The event that reports a moment. -/
def Moment.event : Moment → Event
  | nonceUnknown e => .nonceUnknown e
  | sending plan baseNonce => .sending plan.count plan.intervalMs baseNonce plan.recipient
  | started _ index transfer => .scheduling index transfer.nonce
  | allStarted count => .allScheduled count
  | resolved _ outcome => outcome.event

/-- The counter that goes up at a moment. -/
def Moment.counter? : Moment → Option Counter
  | started .. => some .scheduled
  | resolved _ outcome => some (.replied outcome.isSent)
  | _ => none

/-- **Each moment is reported as one event.** -/
theorem events_journal (h : List Moment) : (journal true h).events = h.map Moment.event := by
  induction h with
  | nil => rfl
  | cons m h ih =>
    rw [journal_cons, Journal.events, List.filterMap_append, List.map_cons, ← ih]
    cases m <;> rfl

/-- The outcomes that a journal reports are those that arrive, in order. -/
theorem outcome_events_journal (h : List Moment) :
    (journal true h).events.filter (·.outcome?.isSome) = (arrivals h).map (·.2.event) := by
  rw [events_journal]
  induction h with
  | nil => rfl
  | cons m h ih =>
    cases m with
    | resolved atMs o =>
      have harrival : arrivals (.resolved atMs o :: h) = (atMs, o) :: arrivals h := rfl
      rw [List.map_cons, List.filter_cons_of_pos (by simp [Moment.event]), ih, harrival]
      rfl
    | started _ _ _ | nonceUnknown _ | sending _ _ | allStarted _ => exact ih

theorem counted_journal (h : List Moment) :
    (journal true h).counted = h.filterMap Moment.counter? := by
  induction h with
  | nil => rfl
  | cons m h ih =>
    rw [journal_cons, Journal.counted, List.filterMap_append, ← List.singleton_append,
      List.filterMap_append, ← ih]
    cases m <;> rfl

/-- **What counters stand at while a history goes on** is what they stand at after a part of it. -/
theorem exists_total_of_prefix {h : List Moment} {seen : Journal}
    (hseen : seen <+: journal true h) :
    ∃ past, past <+: h ∧ ∀ c, seen.total c = (journal true past).total c := by
  have hcounted : seen.counted <+: h.filterMap Moment.counter? := by
    rw [← counted_journal]
    exact hseen.filterMap _
  obtain ⟨past, hpast, heq⟩ := List.prefix_filterMap_iff.mp hcounted
  refine ⟨past, hpast, fun c => ?_⟩
  rw [Journal.total, Journal.total, heq, counted_journal]

theorem schedulings_events (h : List Moment) :
    (schedulings (h.map Moment.event)).length = (starts h).length := by
  induction h with
  | nil => rfl
  | cons m h ih =>
    cases m with
    | started atMs index transfer => exact congrArg (· + 1) ih
    | resolved atMs o => exact (congrArg _ (List.filterMap_cons_none o.scheduling?_event)).trans ih
    | nonceUnknown _ | sending _ _ | allStarted _ => exact ih

theorem outcomes_events (h : List Moment) :
    (outcomes (h.map Moment.event)).length = (arrivals h).length := by
  induction h with
  | nil => rfl
  | cons m h ih =>
    cases m with
    | resolved atMs o =>
      exact (congrArg _ (List.filterMap_cons_some o.outcome?_event)).trans (congrArg (· + 1) ih)
    | started _ _ _ | nonceUnknown _ | sending _ _ | allStarted _ => exact ih

/-! ## Causal logs -/

/-- Where a log stands. -/
structure Standing where
  /-- The number of transfers that are scheduled; their places are the numbers below it. -/
  started : Nat := 0
  /-- The places of transfers that have an outcome, the last to arrive first. -/
  resolved : List Nat := []
  /-- All transfers are said to be scheduled. -/
  finished : Bool := false

/-- The index and the nonce of the transfer at a place, as events show them. -/
def shownAt (plan : IssuancePlan) (base : UInt64) (place : Nat) : UInt64 × UInt64 :=
  (.ofNat place, (plan.transferAt base place).nonce)

variable (plan : IssuancePlan) (base : UInt64)

/-- The ways in which a log goes on. -/
inductive Standing.Step : Standing → Event → Standing → Prop
  | remark (now : Standing) (e : Event) (noStart : e.scheduling? = none)
      (noOutcome : e.outcome? = none) (noEnd : e.isAllScheduled = false) : Step now e now
  | start (now : Standing) (left : now.started < plan.count.toNat)
      (hasNonce : base.toNat + now.started < UInt64.size) (unfinished : now.finished = false) :
      Step now
        (.scheduling (shownAt plan base now.started).1 (shownAt plan base now.started).2)
        { now with started := now.started + 1 }
  | resolve (now : Standing) (o : Outcome) (place : Nat)
      (shown : (o.index, o.nonce) = shownAt plan base place) (scheduled : place < now.started)
      (fresh : place ∉ now.resolved) :
      Step now o.event { now with resolved := place :: now.resolved }
  | finish (now : Standing) (all : now.started = plan.count.toNat)
      (unfinished : now.finished = false) :
      Step now (.allScheduled plan.count) { now with finished := true }

/-- A log of steps, and where it stands. -/
inductive Causal : List Event → Standing → Prop
  | empty : Causal [] {}
  | step {log : List Event} {now next : Standing} {e : Event} (before : Causal log now)
      (last : Standing.Step plan base now e next) : Causal (log ++ [e]) next

/-- What a log tells that stands somewhere. -/
structure Standing.Tells (now : Standing) (log : List Event) : Prop where
  schedulings_eq : schedulings log = (List.range now.started).map (shownAt plan base)
  outcomes_eq : outcomes log = now.resolved.reverse.map (shownAt plan base)
  nodup : now.resolved.Nodup
  scheduled : ∀ place ∈ now.resolved, place < now.started
  started_le : now.started ≤ plan.count.toNat
  hasNonce : base.toNat + now.started ≤ UInt64.size
  saidOnce : log.countP Event.isAllScheduled = now.finished.toNat
  all : now.finished = true → now.started = plan.count.toNat

variable {plan base} {log : List Event} {now next : Standing} {e : Event}

/-- **A step keeps what logs tell.** -/
theorem Standing.Tells.step (h : now.Tells plan base log) (hstep : Step plan base now e next) :
    next.Tells plan base (log ++ [e]) := by
  obtain ⟨hschedulings, houtcomes, hnodup, hscheduled, hle, hnonce, honce, hall⟩ := h
  cases hstep with
  | remark _ noStart noOutcome noEnd =>
    refine ⟨?_, ?_, hnodup, hscheduled, hle, hnonce, ?_, hall⟩
    · rw [Event.schedulings_append, hschedulings]
      simp [schedulings, noStart]
    · rw [Event.outcomes_append, houtcomes]
      simp [outcomes, noOutcome]
    · rw [List.countP_append, honce]
      simp [noEnd]
  | start left hasNonce unfinished =>
    refine ⟨?_, ?_, hnodup, ?_, left, hasNonce, ?_, ?_⟩
    · rw [Event.schedulings_append, hschedulings, List.range_succ, List.map_append]; rfl
    · rw [Event.outcomes_append, houtcomes]; exact List.append_nil _
    · exact fun place hplace => Nat.lt_succ_of_lt (hscheduled place hplace)
    · rw [List.countP_append, honce]; rfl
    · exact fun hfinished => absurd hfinished (by simp [unfinished])
  | resolve o place shown scheduled fresh =>
    refine ⟨?_, ?_, List.nodup_cons.mpr ⟨fresh, hnodup⟩, ?_, hle, hnonce, ?_, hall⟩
    · rw [Event.schedulings_append, hschedulings]
      simp [schedulings]
    · rw [Event.outcomes_append, houtcomes, List.reverse_cons, List.map_append, List.map_singleton,
        ← shown]
      simp [outcomes]
    · exact List.forall_mem_cons.mpr ⟨scheduled, hscheduled⟩
    · rw [List.countP_append, honce]
      simp
  | finish all unfinished =>
    refine ⟨?_, ?_, hnodup, hscheduled, hle, hnonce, ?_, fun _ => all⟩
    · rw [Event.schedulings_append, hschedulings]; exact List.append_nil _
    · rw [Event.outcomes_append, houtcomes]; exact List.append_nil _
    · rw [List.countP_append, honce, unfinished]; rfl

theorem Standing.tells_empty : ({} : Standing).Tells plan base [] where
  schedulings_eq := rfl
  outcomes_eq := rfl
  nodup := .nil
  scheduled := by simp
  started_le := Nat.zero_le _
  hasNonce := base.toNat_lt.le
  saidOnce := rfl
  all := by simp

/-- **What a causal log tells** follows from where it stands. -/
theorem Causal.tells (h : Causal plan base log now) : now.Tells plan base log := by
  induction h with
  | empty => exact Standing.tells_empty
  | step _ last ih => exact ih.step last

/-- **A causal log that is cut short is causal.** -/
theorem Causal.of_prefix (h : Causal plan base log now) {seen : List Event}
    (hseen : seen <+: log) : ∃ then_, Causal plan base seen then_ := by
  induction h with
  | empty =>
    rw [List.prefix_nil.mp hseen]
    exact ⟨_, .empty⟩
  | step before last ih =>
    -- the part is the whole log, or it lies before the last event
    rcases List.prefix_concat_iff.mp hseen with rfl | hseen
    · exact ⟨_, before.step last⟩
    · exact ih hseen

/-- **Where an outcome arrives, its transfer has been scheduled**, with the same nonce. -/
theorem Causal.scheduling_mem (h : Causal plan base (log ++ [e]) now) {index nonce : UInt64}
    (he : e.outcome? = some (index, nonce)) : .scheduling index nonce ∈ log := by
  generalize hwhole : log ++ [e] = whole at h
  cases h with
  | empty => simp at hwhole
  | step before last =>
    obtain ⟨rfl, hlast⟩ := List.append_inj' hwhole rfl
    obtain rfl := List.singleton_inj.mp hlast
    cases last with
    | remark _ _ noOutcome => rw [noOutcome] at he; cases he
    | start | finish => cases he
    | resolve o place shown scheduled fresh =>
      rw [Outcome.outcome?_event, shown] at he
      -- the place is one of those that are scheduled, and its event is in the log
      have hmem : shownAt plan base place ∈ schedulings log := by
        rw [before.tells.schedulings_eq]
        exact List.mem_map_of_mem (List.mem_range.mpr scheduled)
      obtain ⟨e, hlog, he'⟩ := List.mem_filterMap.mp hmem
      rw [Event.scheduling?_eq_some (he'.trans he)] at hlog
      exact hlog

/-! ## Replies on their way -/

/-- The place of the transfer that a reply belongs to. -/
def Pending.place (p : Pending) : Nat :=
  p.outcome.index.toNat

/-- The replies belong to scheduled transfers without an outcome, one to each at most. -/
structure Standing.Awaits (plan : IssuancePlan) (base : UInt64) (now : Standing)
    (ps : List Pending) : Prop where
  fresh : (ps.map Pending.place ++ now.resolved).Nodup
  scheduled : ∀ p ∈ ps, p.place < now.started
  shown : ∀ p ∈ ps, (p.outcome.index, p.outcome.nonce) = shownAt plan base p.place

variable {p : Pending} {ps qs : List Pending}

theorem Standing.Awaits.perm (h : now.Awaits plan base ps) (hperm : ps.Perm qs) :
    now.Awaits plan base qs where
  fresh := ((hperm.map _).append_right _).nodup_iff.mp h.fresh
  scheduled p hp := h.scheduled p (hperm.mem_iff.mpr hp)
  shown p hp := h.shown p (hperm.mem_iff.mpr hp)

theorem place_of_queuedAt {place : Nat} (hplace : place < UInt64.size) {beganMs : Nat}
    {reply : Option (Delayed (Except ChainError TxHash))}
    (h : queuedAt plan base beganMs place reply = some p) :
    p.place = place ∧ (p.outcome.index, p.outcome.nonce) = shownAt plan base place := by
  obtain ⟨r, -, rfl⟩ := Option.map_eq_some_iff.mp h
  exact ⟨UInt64.toNat_ofNat_of_lt' hplace, rfl⟩

/-- **When the next transfer is scheduled, its reply is awaited** if there is one. -/
theorem Standing.Awaits.enqueue (h : now.Awaits plan base ps)
    (hresolved : ∀ place ∈ now.resolved, place < now.started)
    (hplace : now.started < UInt64.size) (beganMs : Nat)
    (reply : Option (Delayed (Except ChainError TxHash))) :
    ({ now with started := now.started + 1 } : Standing).Awaits plan base
      (Issuance.enqueue plan base beganMs now.started reply ps) := by
  refine Awaits.perm ?_ (perm_enqueue _ _ _).symm
  cases hqueued : queuedAt plan base beganMs now.started reply with
  | none => exact ⟨h.fresh, fun p hp => Nat.lt_succ_of_lt (h.scheduled p hp), h.shown⟩
  | some p =>
    obtain ⟨hnew, hshown⟩ := place_of_queuedAt hplace hqueued
    refine ⟨List.nodup_cons.mpr ⟨fun hmem => ?_, h.fresh⟩, ?_, ?_⟩
    · -- the new place is above all others
      rw [hnew] at hmem
      rcases List.mem_append.mp hmem with hmem | hmem
      · obtain ⟨q, hq, heq⟩ := List.mem_map.mp hmem
        have := h.scheduled q hq
        omega
      · exact Nat.lt_irrefl _ (hresolved _ hmem)
    · refine List.forall_mem_cons.mpr ⟨?_, fun q hq => Nat.lt_succ_of_lt (h.scheduled q hq)⟩
      exact Nat.lt_succ_of_le hnew.le
    · exact List.forall_mem_cons.mpr ⟨hnew ▸ hshown, h.shown⟩

/-- A reply that is awaited may arrive, and the others are awaited still. -/
theorem Standing.Awaits.arrive (h : now.Awaits plan base (p :: ps)) :
    Step plan base now p.moment.event { now with resolved := p.place :: now.resolved } ∧
      ({ now with resolved := p.place :: now.resolved } : Standing).Awaits plan base ps := by
  obtain ⟨hfresh, hscheduled, hshown⟩ := h
  obtain ⟨hp, hscheduled⟩ := List.forall_mem_cons.mp hscheduled
  obtain ⟨hpshown, hshown⟩ := List.forall_mem_cons.mp hshown
  have hnot : p.place ∉ now.resolved := fun hmem =>
    (List.nodup_cons.mp hfresh).1 (List.mem_append_right _ hmem)
  exact ⟨.resolve now p.outcome p.place hpshown hp hnot,
    List.perm_middle.nodup_iff.mpr hfresh, hscheduled, hshown⟩

/-- **Awaited replies may arrive one after the other**, and the rest is awaited still. -/
theorem Causal.arrive (h : Causal plan base log now) (hps : now.Awaits plan base (ps ++ qs)) :
    ∃ next : Standing, Causal plan base (log ++ (ps.map Pending.moment).map Moment.event) next ∧
      next.Awaits plan base qs ∧ next.started = now.started ∧ next.finished = now.finished := by
  induction ps generalizing log now with
  | nil => exact ⟨now, by simpa using h, hps, rfl, rfl⟩
  | cons p ps ih =>
    obtain ⟨hstep, hrest⟩ := hps.arrive
    obtain ⟨next, hnext, hqs, hstarted, hfinished⟩ := ih (h.step hstep) hrest
    rw [List.append_assoc] at hnext
    exact ⟨next, hnext, hqs, hstarted, hfinished⟩

/-! ## The log of a run -/

variable {σ : Type} {sink : Sink σ} {beganMs : Nat}

/-- A run ends well. -/
def Ended.isOk (e : Ended σ) : Bool :=
  match e.result with
  | .ok _ => true
  | .error _ => false

theorem Ended.isOk_eq_true_iff (e : Ended σ) :
    e.isOk = true ↔ ∃ summary, e.result = .ok summary := by
  rw [Ended.isOk]
  cases e.result <;> simp

/-- **A log goes on with the start of the next transfer**, whose reply is then awaited. -/
theorem Causal.start (h : Causal plan base log now) (hpending : now.Awaits plan base ps)
    (hunfinished : now.finished = false) (hleft : now.started < plan.count.toNat)
    (hnonce : base.toNat + now.started < UInt64.size) (beganMs : Nat)
    (reply : Option (Delayed (Except ChainError TxHash))) :
    ∃ next : Standing,
      Causal plan base (log ++ [(startAt plan base beganMs now.started).event]) next ∧
      next.Awaits plan base (enqueue plan base beganMs now.started reply ps) ∧
      next.started = now.started + 1 ∧ next.finished = false :=
  ⟨_, h.step (.start now hleft hnonce hunfinished),
    hpending.enqueue h.tells.scheduled (by omega) beganMs reply, rfl, hunfinished⟩

/-- **A log of all transfers goes on with the end of the run**, and then with the replies. -/
theorem Causal.finish (h : Causal plan base log now) (hpending : now.Awaits plan base ps)
    (hunfinished : now.finished = false) (hall : now.started = plan.count.toNat) :
    ∃ next : Standing,
      Causal plan base
        (log ++ (.allStarted plan.count :: ps.map Pending.moment).map Moment.event) next ∧
      next.finished = true := by
  have hfinish : Standing.Step plan base now (Moment.allStarted plan.count).event _ :=
    .finish now hall hunfinished
  have hlast : Standing.Awaits plan base ⟨now.started, now.resolved, true⟩ (ps ++ []) :=
    ⟨by simpa using hpending.fresh, by simpa using hpending.scheduled,
      by simpa using hpending.shown⟩
  obtain ⟨next, hnext, -, -, hfinished⟩ := (h.step hfinish).arrive hlast
  rw [List.append_assoc] at hnext
  exact ⟨next, hnext, hfinished⟩

/-- A run without a nonce says nothing more; only replies are still to come. -/
theorem Causal.exhausted (h : Causal plan base log now) (hpending : now.Awaits plan base ps)
    (hunfinished : now.finished = false) (hnonce : UInt64.size ≤ base.toNat + now.started)
    (beganMs left : Nat) (s : σ) :
    let ended := underway sink plan base beganMs (left + 1) now.started ps s
    ∃ next : Standing, Causal plan base (log ++ ended.fullHistory.map Moment.event) next ∧
      next.finished = ended.isOk := by
  rw [underway_exhausted hnonce]
  have hlast : now.Awaits plan base (ps ++ []) := by simpa using hpending
  obtain ⟨next, hnext, -, -, hfinished⟩ := h.arrive hlast
  exact ⟨next, hnext, hfinished.trans hunfinished⟩

variable (sink beganMs) in
/-- **From a transfer on, the log of a run goes on causally**, and it says that all transfers are
scheduled if and only if the run ends well. -/
theorem causal_underway (left : Nat) {place : Nat} {pending : List Pending} (s : σ)
    (h : Causal plan base log now) (hpending : now.Awaits plan base pending)
    (hplace : now.started = place) (hunfinished : now.finished = false)
    (hleft : place + (left + 1) = plan.count.toNat) :
    let ended := underway sink plan base beganMs (left + 1) place pending s
    ∃ next : Standing, Causal plan base (log ++ ended.fullHistory.map Moment.event) next ∧
      next.finished = ended.isOk := by
  induction left generalizing log now place pending s with
  | zero =>
    subst hplace
    by_cases hnonce : base.toNat + now.started < UInt64.size
    · rw [underway_last hnonce]
      obtain ⟨next, hnext, hawaits, hstarted, hopen⟩ :=
        h.start hpending hunfinished (by omega) hnonce beganMs
          (sink.submit s (plan.transferAt base now.started)).1
      obtain ⟨last, hlast, hfinished⟩ := hnext.finish hawaits hopen (by omega)
      rw [List.append_assoc] at hlast
      exact ⟨last, hlast, hfinished⟩
    · exact h.exhausted hpending hunfinished (by omega) beganMs 0 s
  | succ left ih =>
    subst hplace
    by_cases hnonce : base.toNat + now.started < UInt64.size
    · rw [underway_next hnonce]
      obtain ⟨next, hnext, hawaits, hstarted, hopen⟩ :=
        h.start hpending hunfinished (by omega) hnonce beganMs
          (sink.submit s (plan.transferAt base now.started)).1
      -- the replies that are due arrive before the next transfer; the others are awaited still
      rw [← List.takeWhile_append_dropWhile
        (p := fun p : Pending => decide (p.dueMs ≤ startMs plan beganMs (now.started + 1)))
        (l := enqueue plan base beganMs now.started _ pending)] at hawaits
      obtain ⟨waited, hwaited, hrest, hstarted', hopen'⟩ := hnext.arrive hawaits
      obtain ⟨last, hlast, hfinished⟩ :=
        ih (sink.submit s (plan.transferAt base now.started)).2 hwaited hrest
          (hstarted'.trans hstarted) (hopen'.trans hopen) (by omega)
      refine ⟨last, ?_, hfinished⟩
      simpa only [Ended.fullHistory_after, List.map_append, List.map_cons, List.append_assoc,
        List.cons_append, List.nil_append] using hlast
    · exact h.exhausted hpending hunfinished (by omega) beganMs (left + 1) s

/-- **The log of a run is causal**, for the first nonce if that is ever known, and it says that all
transfers are scheduled if and only if the run ends well. -/
theorem causal_run (sink : Sink σ) (plan : IssuancePlan) (s : σ) :
    ∃ (base : UInt64) (last : Standing),
      (∀ nonce, (sink.baseNonce s).1.value = .ok nonce → base = nonce) ∧
      Causal plan base ((run sink plan s).fullHistory.map Moment.event) last ∧
      last.finished = (run sink plan s).isOk := by
  cases hbase : (sink.baseNonce s).1.value with
  | error error =>
    rw [run_of_error sink plan hbase]
    exact ⟨0, {}, by simp, Causal.empty.step (.remark _ _ rfl rfl rfl), rfl⟩
  | ok base =>
    rw [run_of_ok sink plan hbase, Ended.fullHistory_after]
    have hbegun : Causal plan base ([Moment.sending plan base].map Moment.event) {} :=
      Causal.empty.step (.remark _ _ rfl rfl rfl)
    have hnone : ({} : Standing).Awaits plan base [] := ⟨.nil, by simp, by simp⟩
    refine ⟨base, ?_⟩
    cases hcount : plan.count.toNat with
    | zero =>
      rw [underway_zero]
      obtain ⟨last, hlast, hfinished⟩ := hbegun.finish hnone rfl hcount.symm
      exact ⟨last, fun nonce hnonce => Except.ok.inj hnonce, hlast, hfinished⟩
    | succ left =>
      obtain ⟨last, hlast, hfinished⟩ := causal_underway sink
        (sink.baseNonce s).1.afterMs left (sink.baseNonce s).2 hbegun hnone rfl rfl
        (by rw [hcount, Nat.zero_add])
      exact ⟨last, fun nonce hnonce => Except.ok.inj hnonce, hlast, hfinished⟩

/-! ## What every part of a log tells -/

/-- **Scheduled transfers are numbered** from zero, and their nonces from the first nonce. -/
theorem Causal.numbered (h : Causal plan base log now) :
    (schedulings log).map (fun t => (t.1.toNat, t.2.toNat)) =
      (List.range (schedulings log).length).map fun i => (i, base.toNat + i) := by
  have hcount : plan.count.toNat < UInt64.size := plan.count.toNat_lt
  have hle := h.tells.started_le
  have hnonce := h.tells.hasNonce
  rw [h.tells.schedulings_eq, List.length_map, List.length_range, List.map_map]
  refine List.map_congr_left fun i hi => ?_
  have := List.mem_range.mp hi
  exact congrArg₂ Prod.mk (UInt64.toNat_ofNat_of_lt' (by omega))
    (plan.toNat_nonce_transferAt (by omega))

/-- **No transfer has more than one outcome.** -/
theorem Causal.nodup_outcomes (h : Causal plan base log now) :
    ((outcomes log).map Prod.fst).Nodup := by
  have hcount : plan.count.toNat < UInt64.size := plan.count.toNat_lt
  have hle := h.tells.started_le
  rw [h.tells.outcomes_eq, List.map_map]
  refine List.Nodup.map_on (fun i hi j hj hij => ?_) (List.nodup_reverse.mpr h.tells.nodup)
  -- places are below 64 bits, so an index tells its place
  have hi := h.tells.scheduled i (List.mem_reverse.mp hi)
  have hj := h.tells.scheduled j (List.mem_reverse.mp hj)
  have hij : (UInt64.ofNat i).toNat = (UInt64.ofNat j).toNat := congrArg UInt64.toNat hij
  rwa [UInt64.toNat_ofNat_of_lt' (by omega), UInt64.toNat_ofNat_of_lt' (by omega)] at hij

/-- **There are never more outcomes than scheduled transfers.** -/
theorem Causal.outcomes_le (h : Causal plan base log now) :
    (outcomes log).length ≤ (schedulings log).length := by
  rw [h.tells.outcomes_eq, h.tells.schedulings_eq, List.length_map, List.length_map,
    List.length_reverse]
  have hwithin : now.resolved ⊆ List.range now.started := fun i hi =>
    List.mem_range.mpr (h.tells.scheduled i hi)
  exact (List.Nodup.subperm h.tells.nodup hwithin).length_le

theorem Causal.finished_iff (h : Causal plan base log now) :
    now.finished = true ↔ ∃ count, .allScheduled count ∈ log := by
  have hsaid := h.tells.saidOnce
  constructor
  · intro hfinished
    rw [hfinished] at hsaid
    obtain ⟨e, he, hlast⟩ := List.countP_pos_iff.mp (by rw [hsaid]; exact Nat.one_pos)
    cases e with
    | allScheduled count => exact ⟨count, he⟩
    | _ => cases hlast
  · rintro ⟨count, hmem⟩
    have hpos : 0 < log.countP Event.isAllScheduled := List.countP_pos_iff.mpr ⟨_, hmem, rfl⟩
    cases hfinished : now.finished with
    | true => rfl
    | false => rw [hsaid, hfinished] at hpos; cases hpos

/-! ## How many transfers have an outcome in the end -/

theorem length_queued (place : Nat)
    (replies : List (Option (Delayed (Except ChainError TxHash)))) :
    (queued plan base beganMs place replies).length = replies.countP Option.isSome := by
  induction replies generalizing place with
  | nil => rfl
  | cons reply replies ih =>
    rw [queued, List.length_append, ih, List.countP_cons]
    cases reply <;> simp [queuedAt, Nat.add_comm]

/-- The outcomes of a whole run are the replies that come. -/
theorem length_arrivals_run {s : σ} (h : (sink.baseNonce s).1.value = .ok base) :
    (arrivals (run sink plan s).fullHistory).length =
      (repliesUnderway sink plan base plan.count.toNat 0 (sink.baseNonce s).2).countP
        Option.isSome := by
  rw [(perm_arrivals_queued plan h).length_eq, List.length_map, length_queued, replies]

/-- **In the end each scheduled transfer has an outcome if and only if each has a reply.** -/
theorem outcomes_complete_iff {s : σ} (h : (sink.baseNonce s).1.value = .ok base) :
    (arrivals (run sink plan s).fullHistory).length =
        (starts (run sink plan s).fullHistory).length ↔
      ∀ reply ∈ repliesUnderway sink plan base plan.count.toNat 0 (sink.baseNonce s).2,
        reply.isSome := by
  have hreplies :
      (repliesUnderway sink plan base plan.count.toNat 0 (sink.baseNonce s).2).length =
        (starts (run sink plan s).fullHistory).length := by
    rw [starts_run h, List.length_map, List.length_range]
    exact length_replies plan s
  rw [length_arrivals_run h, ← hreplies, List.countP_eq_length]

/-- **Causality of the log.**  Let the log of a run be cut anywhere.  An outcome that it ends with
belongs to a transfer that was scheduled before, with the same index and nonce; no transfer has two
outcomes, and there are no more outcomes than scheduled transfers, in the log as well as in the
counters.  The scheduled transfers are numbered from zero and have the nonces from the first on.
That all are scheduled is said once at most, after all of them, and it is said if and only if the
run ends well.  In the end each scheduled transfer has an outcome if and only if each has a reply.
-/
theorem causality_run (sink : Sink σ) (plan : IssuancePlan) (s : σ) :
    let ended := run sink plan s
    let entries := journal true ended.fullHistory
    (∀ seen, seen <+: entries.events →
      (∀ before e index nonce, seen = before ++ [e] → e.outcome? = some (index, nonce) →
        .scheduling index nonce ∈ before) ∧
      ((outcomes seen).map Prod.fst).Nodup ∧
      (outcomes seen).length ≤ (schedulings seen).length ∧
      seen.countP Event.isAllScheduled ≤ 1 ∧
      (∀ count, .allScheduled count ∈ seen → (schedulings seen).length = plan.count.toNat)) ∧
    (∀ seen : Journal, seen <+: entries →
      seen.total (.replied true) + seen.total (.replied false) ≤ seen.total .scheduled) ∧
    ((∃ count, .allScheduled count ∈ entries.events) ↔ ∃ summary, ended.result = .ok summary) ∧
    match (sink.baseNonce s).1.value with
    | .error error => entries.events = [.nonceUnknown error]
    | .ok base =>
      let n := min plan.count.toNat (UInt64.size - base.toNat)
      let replies := (sink.submitAll (plan.transfersFrom base 0 n) (sink.baseNonce s).2).1
      (∀ seen, seen <+: entries.events →
        (schedulings seen).map (fun t => (t.1.toNat, t.2.toNat)) =
          (List.range (schedulings seen).length).map fun i => (i, base.toNat + i)) ∧
      ((outcomes entries.events).length = (schedulings entries.events).length ↔
        ∀ reply ∈ replies, reply.isSome) := by
  intro ended entries
  obtain ⟨base, last, hbase, hcausal, hfinished⟩ := causal_run sink plan s
  have hevents : entries.events = ended.fullHistory.map Moment.event := events_journal _
  refine ⟨fun seen hseen => ?_, fun seen hseen => ?_, ?_, ?_⟩
  · rw [hevents] at hseen
    obtain ⟨now, hnow⟩ := hcausal.of_prefix hseen
    refine ⟨?_, hnow.nodup_outcomes, hnow.outcomes_le, ?_, ?_⟩
    · rintro before e index nonce rfl he
      exact hnow.scheduling_mem he
    · rw [hnow.tells.saidOnce]
      exact Bool.toNat_le _
    · intro count hcount
      rw [hnow.tells.schedulings_eq, List.length_map, List.length_range]
      exact hnow.tells.all (hnow.finished_iff.mpr ⟨count, hcount⟩)
  · obtain ⟨past, hpast, htotal⟩ := exists_total_of_prefix hseen
    obtain ⟨now, hnow⟩ := hcausal.of_prefix (hpast.map _)
    rw [htotal, htotal, htotal, total_sent, total_failed, sent_add_failed, total_scheduled,
      ← outcomes_events, ← schedulings_events]
    exact hnow.outcomes_le
  · rw [hevents, ← hcausal.finished_iff, hfinished, Ended.isOk_eq_true_iff]
  · rw [hevents]
    cases hvalue : (sink.baseNonce s).1.value with
    | error error =>
      show (run sink plan s).fullHistory.map Moment.event = _
      rw [run_of_error sink plan hvalue]
      rfl
    | ok nonce =>
      obtain rfl := hbase nonce hvalue
      refine ⟨fun seen hseen => ?_, ?_⟩
      · obtain ⟨now, hnow⟩ := hcausal.of_prefix hseen
        exact hnow.numbered
      · rw [outcomes_events, schedulings_events]
        exact outcomes_complete_iff hvalue

end Issuance
end LocalChain

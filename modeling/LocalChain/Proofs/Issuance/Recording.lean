import Mathlib.Data.List.Forall2
import Mathlib.Data.List.Induction
import LocalChain.Proofs.Issuance.Tally

/-!
# What is recorded of outcomes

Whoever listens to outcomes takes them as they come.  Each is counted in a tally, is reported in an
event of its own, and makes one counter go up.  `Recorded` says what a tally and a journal have to hold
of some outcomes; it holds of one outcome and of outcomes one after the other (`Recorded.append`), and
so of all that arrive.

The order of arrival shows in the events and in the failed places, and in nothing else
(`Recorded.agree_of_perm`).  `recorded_outcomes` puts this together.
-/

namespace LocalChain

variable {os xs ys : List Outcome} {t u : Tally} {j k : Journal}

/-! ## One outcome -/

/-- What is reported of an outcome. -/
inductive Outcome.Reports (o : Outcome) (e : Event) : Prop
  | sent {hash : TxHash} (result : o.result = .ok hash) (level : e.level = .info)
      (message : e.message = "tx #" ++ Event.number o.index ++ " sent: " ++ hash.text)
      (fields : e.fields = [("index", Event.number o.index), ("nonce", Event.number o.nonce),
        ("tx_hash", hash.text)])
  | failed {error : ChainError} (result : o.result = .error error) (level : e.level = .error)
      (message : e.message = "error on tx #" ++ Event.number o.index)
      (fields : e.fields = [("index", Event.number o.index), ("nonce", Event.number o.nonce),
        ("kind", error.stage), ("error", error.message)])

theorem Outcome.reports_event (o : Outcome) : o.Reports o.event := by
  cases hresult : o.result with
  | ok hash =>
    have hevent : o.event = .sent o.index o.nonce hash := by rw [event, hresult]
    rw [hevent]
    exact .sent hresult rfl rfl rfl
  | error e =>
    have hevent : o.event = .failed o.index o.nonce e := by rw [event, hresult]
    rw [hevent]
    exact .failed hresult rfl rfl rfl

/-! ## What has to be recorded -/

/-- Two counts, of outcomes and of those that come after them, as one. -/
def Tally.followedBy (t u : Tally) : Tally where
  sent := t.sent + u.sent
  failed := t.failed + u.failed
  failedIndices := t.failedIndices ++ u.failedIndices

/-- The tally and the journal hold what has to be recorded of outcomes. -/
structure Recorded (os : List Outcome) (t : Tally) (j : Journal) : Prop where
  sent : t.sent = os.countP Outcome.isSent
  failed : t.failed = os.countP (!·.isSent)
  /-- The failed places are in the order of arrival, each as often as it failed. -/
  failedIndices : t.failedIndices = (os.filter (!·.isSent)).map Outcome.index
  total : t.total = os.length
  /-- There is one event for each outcome, in the order of arrival. -/
  events : List.Forall₂ Outcome.Reports os j.events
  counter_sent : j.total (.replied true) = t.sent
  counter_failed : j.total (.replied false) = t.failed
  /-- No other counter goes up. -/
  counter_other : ∀ c, (∀ sent, c ≠ .replied sent) → j.total c = 0

namespace Recorded

theorem nothing : Recorded [] {} [] where
  sent := rfl
  failed := rfl
  failedIndices := rfl
  total := rfl
  events := .nil
  counter_sent := rfl
  counter_failed := rfl
  counter_other _ _ := rfl

/-- What is recorded of one outcome. -/
theorem one (o : Outcome) : Recorded [o] (Tally.record {} o) o.entries where
  sent := by cases h : o.isSent <;> simp [Tally.record, h]
  failed := by cases h : o.isSent <;> simp [Tally.record, h]
  failedIndices := by cases h : o.isSent <;> simp [Tally.record, h]
  total := by cases h : o.isSent <;> simp [Tally.record, Tally.total, h]
  events := .cons o.reports_event .nil
  counter_sent := by cases h : o.isSent <;> simp [Issuance.total_entries, Tally.record, h]
  counter_failed := by cases h : o.isSent <;> simp [Issuance.total_entries, Tally.record, h]
  counter_other c hc := List.count_eq_zero.mpr fun hmem =>
    hc o.isSent (List.mem_singleton.mp hmem)

/-- **What is recorded of outcomes and then of more is what is recorded of all of them.** -/
theorem append (hx : Recorded xs t j) (hy : Recorded ys u k) :
    Recorded (xs ++ ys) (t.followedBy u) (j ++ k) where
  sent := by rw [List.countP_append, ← hx.sent, ← hy.sent]; rfl
  failed := by rw [List.countP_append, ← hx.failed, ← hy.failed]; rfl
  failedIndices := by
    rw [List.filter_append, List.map_append, ← hx.failedIndices, ← hy.failedIndices]
    rfl
  total := by
    rw [List.length_append, ← hx.total, ← hy.total]
    exact Nat.add_add_add_comm t.sent u.sent t.failed u.failed
  events := by
    rw [Journal.events, List.filterMap_append]
    exact List.rel_append hx.events hy.events
  counter_sent := by rw [Journal.total_append, hx.counter_sent, hy.counter_sent]; rfl
  counter_failed := by rw [Journal.total_append, hx.counter_failed, hy.counter_failed]; rfl
  counter_other c hc := by
    rw [Journal.total_append, hx.counter_other c hc, hy.counter_other c hc]

/-- There is only one tally of outcomes. -/
theorem tally_unique (ht : Recorded os t j) (hu : Recorded os u k) : t = u := by
  obtain ⟨sent, failed, failedIndices⟩ := t
  obtain ⟨sent', failed', failedIndices'⟩ := u
  rw [Tally.mk.injEq]
  exact ⟨ht.sent.trans hu.sent.symm, ht.failed.trans hu.failed.symm,
    ht.failedIndices.trans hu.failedIndices.symm⟩

/-- **The order of arrival shows in the order of the failed places only**, as far as numbers go. -/
theorem agree_of_perm (hx : Recorded xs t j) (hy : Recorded ys u k) (hperm : xs.Perm ys) :
    t.sent = u.sent ∧ t.failed = u.failed ∧ t.total = u.total ∧
      t.failedIndices.Perm u.failedIndices ∧ ∀ c, j.total c = k.total c := by
  have hsent : t.sent = u.sent := by rw [hx.sent, hy.sent, hperm.countP_eq]
  have hfailed : t.failed = u.failed := by rw [hx.failed, hy.failed, hperm.countP_eq]
  refine ⟨hsent, hfailed, ?_, ?_, fun c => ?_⟩
  · rw [hx.total, hy.total, hperm.length_eq]
  · rw [hx.failedIndices, hy.failedIndices]
    exact (hperm.filter _).map _
  · by_cases hother : ∀ sent, c ≠ .replied sent
    · rw [hx.counter_other c hother, hy.counter_other c hother]
    · obtain ⟨sent, rfl⟩ : ∃ sent, c = .replied sent := not_forall_not.mp hother
      cases sent with
      | true => rw [hx.counter_sent, hy.counter_sent, hsent]
      | false => rw [hx.counter_failed, hy.counter_failed, hfailed]

end Recorded

/-! ## All outcomes -/

/-- Counting one more outcome is counting it after the others. -/
theorem Tally.record_eq (t : Tally) (o : Outcome) : t.record o = t.followedBy (record {} o) := by
  rw [record, record, followedBy]
  split
  · simp
  · simp

theorem Journal.ofOutcomes_append (xs ys : List Outcome) :
    ofOutcomes (xs ++ ys) = ofOutcomes xs ++ ofOutcomes ys :=
  List.flatMap_append

/-- Outcomes are recorded as they arrive, one after the other. -/
theorem recorded_ofOutcomes (os : List Outcome) : Recorded os (.ofOutcomes os) (.ofOutcomes os) := by
  induction os using List.reverseRecOn with
  | nil => exact .nothing
  | append_singleton os o ih =>
    have htally : Tally.ofOutcomes (os ++ [o]) =
        (Tally.ofOutcomes os).followedBy (Tally.record {} o) := by
      rw [Tally.ofOutcomes, List.foldl_concat, Tally.record_eq]
      rfl
    have hjournal : Journal.ofOutcomes (os ++ [o]) = Journal.ofOutcomes os ++ o.entries := by
      rw [Journal.ofOutcomes_append]
      exact congrArg _ (List.append_nil _)
    rw [htally, hjournal]
    exact ih.append (.one o)

/-- **The record of outcomes is exact, and their order does not matter to the counts.**  The tally has
the numbers of outcomes that went well and that failed, and the places of the latter; the counters grow
by the same numbers, whatever they stood at before; and each outcome is reported in one event, with its
place, its nonce and its digest or error.

The same outcomes in another order give the same numbers, and the failed places in that order.  Two
records one after the other are the record of both. -/
theorem recorded_outcomes (os : List Outcome) :
    Recorded os (.ofOutcomes os) (.ofOutcomes os) ∧
    (∀ before : Journal,
      (before ++ .ofOutcomes os).total (.replied true) =
        before.total (.replied true) + (Tally.ofOutcomes os).sent ∧
      (before ++ .ofOutcomes os).total (.replied false) =
        before.total (.replied false) + (Tally.ofOutcomes os).failed) ∧
    (∀ others, os.Perm others →
      (Tally.ofOutcomes os).sent = (Tally.ofOutcomes others).sent ∧
      (Tally.ofOutcomes os).failed = (Tally.ofOutcomes others).failed ∧
      (Tally.ofOutcomes os).total = (Tally.ofOutcomes others).total ∧
      (Tally.ofOutcomes os).failedIndices.Perm (Tally.ofOutcomes others).failedIndices ∧
      ∀ c, (Journal.ofOutcomes os).total c = (Journal.ofOutcomes others).total c) ∧
    ∀ later, Tally.ofOutcomes (os ++ later) =
        (Tally.ofOutcomes os).followedBy (Tally.ofOutcomes later) ∧
      Journal.ofOutcomes (os ++ later) = .ofOutcomes os ++ .ofOutcomes later := by
  have hos := recorded_ofOutcomes os
  refine ⟨hos, fun before => ⟨?_, ?_⟩, fun others hperm => ?_, fun later => ⟨?_, ?_⟩⟩
  · rw [Journal.total_append, hos.counter_sent]
  · rw [Journal.total_append, hos.counter_failed]
  · exact hos.agree_of_perm (recorded_ofOutcomes others) hperm
  · exact (recorded_ofOutcomes (os ++ later)).tally_unique (hos.append (recorded_ofOutcomes later))
  · exact Journal.ofOutcomes_append os later

/-- A transfer that failed twice, with one between that went well, and the same the other way round. -/
theorem recorded_of_repeated_failure :
    let early : Outcome := ⟨4, 11, .error (.timeout 10)⟩
    let late : Outcome := ⟨4, 12, .error (.rejected (-32000) "nonce too low")⟩
    let taken : Outcome := ⟨0, 7, .ok default⟩
    let lost : Outcome := ⟨2, 9, .error (.wallet "no key")⟩
    [early, taken, late, lost].Perm [lost, late, taken, early] ∧
    (Tally.ofOutcomes [early, taken, late, lost]).failedIndices = [4, 4, 2] ∧
    (Tally.ofOutcomes [lost, late, taken, early]).failedIndices = [2, 4, 4] ∧
    (Tally.ofOutcomes [lost, late, taken, early]).failed = 3 ∧
    (Journal.ofOutcomes [lost, late, taken, early]).total (.replied false) = 3 := by
  intro early late taken lost
  have hperm : [early, taken, late, lost].Perm [lost, late, taken, early] :=
    List.reverse_perm [lost, late, taken, early]
  obtain ⟨hos, -, hothers, -⟩ := recorded_outcomes [early, taken, late, lost]
  obtain ⟨-, hfailed, -, -, htotal⟩ := hothers _ hperm
  have hthree : (Tally.ofOutcomes [early, taken, late, lost]).failed = 3 := by decide
  exact ⟨hperm, by decide, by decide, hfailed.symm.trans hthree,
    (htotal _).symm.trans (hos.counter_failed.trans hthree)⟩

end LocalChain

import LocalChain.Proofs.Settings.Checks

/-!
# Plans and the judgement on transfers

The section on transfers is used by the plan of a run, which stops at the first thing that is wrong with
it, and judged with everything else, where all that is wrong is collected.  The two make the same four
checks in different orders: a plan fails for the first check in its own order (`Check.planned`) that is
violated (`planned_or_refused`), and the problems about transfers among all problems are those of its
section (`filter_onLoad`).  So there is a plan exactly if nothing about transfers is reported
(`plan_iff_nothing_reported`).
-/

namespace LocalChain

namespace Problem

variable {name : String} {ps : List Problem}

/-- The problem is about a field of the section on transfers. -/
def OnLoad (p : Problem) : Prop :=
  "load".toList <+: p.field.toList

instance : DecidablePred OnLoad := fun _ =>
  inferInstanceAs (Decidable (_ <+: _))

/-- A section with another name has nothing to say about transfers. -/
theorem Within.filter_onLoad (h : Within name ps) (hname : ¬name.toList <+: "load".toList)
    (hload : ¬"load".toList <+: name.toList) : ps.filter OnLoad = [] := by
  refine List.filter_eq_nil_iff.mpr fun p hp honLoad => ?_
  have honLoad : "load".toList <+: p.field.toList := of_decide_eq_true honLoad
  rcases List.prefix_or_prefix_of_prefix (h p hp) honLoad with hle | hle
  · exact hname hle
  · exact hload hle

end Problem

/-- The checks that a plan makes, in its order. -/
def Check.planned : List Check :=
  [gasLimit, interval, recipient, value]

theorem Check.mem_planned_iff {k : Check} : k ∈ planned ↔ k ∈ load := by
  cases k <;> simp [planned, load]

/-- The plan is what the section says: the recipient and the value that are read of their texts, and
the numbers as they are. -/
structure IssuancePlan.Follows (plan : IssuancePlan) (l : LoadSettings) : Prop where
  recipient : readRecipient l.recipient = .ok plan.recipient
  value : readAmount "load.value" l.value = some (.ok plan.value)
  gasLimit : plan.gasLimit = l.gasLimit
  count : plan.count = l.count
  intervalMs : plan.intervalMs = l.intervalMs

namespace Settings

variable {c : Settings} {p : Problem} {ps : List Problem} {l : LoadSettings}

/-- **The problems about transfers are those of their section**, whatever else is wrong. -/
theorem filter_onLoad (h : c.problems = some ps) : c.load.problems = some (ps.filter Problem.OnLoad) := by
  obtain ⟨load, hload, h⟩ := Option.bind_eq_some_iff.mp h
  obtain ⟨deploy, hdeploy, h⟩ := Option.bind_eq_some_iff.mp h
  obtain rfl := Option.some.inj h
  have hown : load.filter Problem.OnLoad = load :=
    List.filter_eq_self.mpr fun p hp => decide_eq_true (LoadSettings.within_of_problems hload p hp)
  rw [hload, List.filter_append, List.filter_append, List.filter_append, List.filter_append, hown,
    c.rpc.within_problems.filter_onLoad (by decide) (by decide),
    c.account.within_problems.filter_onLoad (by decide) (by decide),
    (DeploySettings.within_of_problems hdeploy).1.filter_onLoad (by decide) (by decide),
    c.observability.within_problems.filter_onLoad (by decide) (by decide)]
  simp

/-! ## One check after the other -/

theorem report_recipient_of_ok {a : Address} (h : readRecipient c.load.recipient = .ok a) :
    c.report .recipient = none := by
  have hnone := recipientProblems_eq (c := c)
  rw [recipientProblems, h] at hnone
  exact Option.toList_eq_nil_iff.mp hnone.symm

theorem report_recipient_of_error (h : readRecipient c.load.recipient = .error p) :
    c.report .recipient = some p := by
  have hone := recipientProblems_eq (c := c)
  rw [recipientProblems, h] at hone
  exact Option.toList_eq_singleton_iff.mp hone.symm

theorem report_value_of_ok {w : Word} (h : readAmount "load.value" c.load.value = some (.ok w)) :
    c.report .value = none := by
  have hread : ¬c.Violated .value := by
    rw [Violated, IsNoAmount, h]
    exact Option.some_ne_none w
  exact if_neg hread

theorem report_value_of_error (h : readAmount "load.value" c.load.value = some (.error p)) :
    c.report .value = some p := by
  have hno : c.Violated .value := by
    rw [Violated, IsNoAmount, h]
    rfl
  rw [eq_of_readAmount_eq_error h]
  exact if_pos hno

/-- **There is a plan that follows the section, or the first check that is violated refuses it.** -/
theorem planned_or_refused (hreads : readAmount "load.value" c.load.value ≠ none) :
    (∃ plan, IssuancePlan.ofSettings c.load = some (.ok plan) ∧ plan.Follows c.load ∧
      Check.planned.findSome? c.report = none) ∨
    ∃ p, IssuancePlan.ofSettings c.load = some (.error p) ∧
      Check.planned.findSome? c.report = some p := by
  rw [IssuancePlan.ofSettings]
  by_cases hgas : c.load.gasLimit = 0
  · have hreport : c.report .gasLimit = some (.notPositive "load.gas_limit") := if_pos hgas
    exact .inr ⟨_, if_pos hgas, by simp [Check.planned, hreport]⟩
  have hgasLimit : c.report .gasLimit = none := if_neg hgas
  rw [if_neg hgas]
  by_cases hms : c.load.intervalMs = 0
  · have hreport : c.report .interval = some (.notPositive "load.interval_ms") := if_pos hms
    exact .inr ⟨_, dif_pos hms, by simp [Check.planned, hgasLimit, hreport]⟩
  have hinterval : c.report .interval = none := if_neg hms
  rw [dif_neg hms]
  cases hto : readRecipient c.load.recipient with
  | error p =>
    have hreport := report_recipient_of_error hto
    exact .inr ⟨p, rfl, by simp [Check.planned, hgasLimit, hinterval, hreport]⟩
  | ok a =>
    have hrecipient := report_recipient_of_ok hto
    rcases hread : readAmount "load.value" c.load.value with _ | p | w
    · exact (hreads hread).elim
    · have hreport := report_value_of_error hread
      refine .inr ⟨p, rfl, ?_⟩
      simp [Check.planned, hgasLimit, hinterval, hrecipient, hreport]
    · have hvalue := report_value_of_ok hread
      refine .inl ⟨_, rfl, ⟨hto, hread, rfl, rfl, rfl⟩, ?_⟩
      simp [Check.planned, hgasLimit, hinterval, hrecipient, hvalue]

theorem findSome?_planned_eq_none_iff :
    Check.planned.findSome? c.report = none ↔ Check.load.filterMap c.report = [] := by
  simp only [List.findSome?_eq_none_iff, List.filterMap_eq_nil_iff, Check.mem_planned_iff]

/-- The first check of a plan that is violated is reported. -/
theorem mem_filterMap_of_findSome?_planned (h : Check.planned.findSome? c.report = some p) :
    p ∈ Check.load.filterMap c.report := by
  obtain ⟨k, hk, hreport⟩ := List.exists_of_findSome?_eq_some h
  exact List.mem_filterMap.mpr ⟨k, Check.mem_planned_iff.mp hk, hreport⟩

/-- The plan of a section goes with the problems of the section, and with the checks in any settings it
stands in. -/
theorem plan_agrees (hreads : readAmount "load.value" c.load.value ≠ none) :
    ∃ outcome found, IssuancePlan.ofSettings c.load = some outcome ∧ c.load.problems = some found ∧
      (∀ plan, outcome = .ok plan → plan.Follows c.load) ∧
      ((∃ plan, outcome = .ok plan) ↔ found = []) ∧
      (∀ p, outcome = .error p → p ∈ found) ∧
      ∀ p, outcome = .error p ↔ Check.planned.findSome? c.report = some p := by
  have hfound := load_problems_eq (c := c) (mt readAmount_eq_none_iff.mpr hreads)
  rcases planned_or_refused hreads with ⟨plan, hplan, hfollows, hnone⟩ | ⟨p, hrefused, hsome⟩
  · refine ⟨_, _, hplan, hfound, ?_, ?_, nofun, by simp [hnone]⟩
    · rintro _ ⟨⟩
      exact hfollows
    · exact iff_of_true ⟨plan, rfl⟩ (findSome?_planned_eq_none_iff.mp hnone)
  · have hmem := mem_filterMap_of_findSome?_planned hsome
    refine ⟨_, _, hrefused, hfound, nofun, ?_, ?_, by simp [hsome]⟩
    · exact iff_of_false nofun (List.ne_nil_of_mem hmem)
    · rintro _ ⟨⟩
      exact hmem

/-- **Plans and the judgement on transfers agree.**  A section whose amount can be read gives a plan that
follows it, or else a problem, which is the first in the plan's own order.  There is a plan exactly if
the section has no problems, and a problem that is given is one of them.

Whatever the other sections are, the problems of the section are what is reported about transfers.  So
there is a plan exactly if nothing about transfers is reported, and otherwise the plan's problem is
reported. -/
theorem plan_iff_nothing_reported (l : LoadSettings)
    (hreads : readAmount "load.value" l.value ≠ none) :
    ∃ outcome found, IssuancePlan.ofSettings l = some outcome ∧ l.problems = some found ∧
      (∀ plan, outcome = .ok plan → plan.Follows l) ∧
      ((∃ plan, outcome = .ok plan) ↔ found = []) ∧
      (∀ p, outcome = .error p → p ∈ found) ∧
      ∀ c : Settings, c.load = l →
        (∀ p, outcome = .error p ↔ Check.planned.findSome? c.report = some p) ∧
        ∀ ps, c.problems = some ps →
          ps.filter Problem.OnLoad = found ∧
          ((∃ plan, outcome = .ok plan) ↔ ∀ p ∈ ps, ¬p.OnLoad) ∧
          ∀ p, outcome = .error p → p ∈ ps ∧ p.OnLoad := by
  obtain ⟨outcome, found, houtcome, hfound, hfollows, hplanned, hrefused, -⟩ :=
    plan_agrees (c := { load := l }) hreads
  refine ⟨outcome, found, houtcome, hfound, hfollows, hplanned, hrefused, ?_⟩
  replace hfound : l.problems = some found := hfound
  rintro c rfl
  obtain ⟨_, -, hsame, -, -, -, -, hfirst⟩ := plan_agrees hreads
  obtain rfl := Option.some.inj (houtcome.symm.trans hsame)
  refine ⟨hfirst, fun ps hps => ?_⟩
  obtain rfl := Option.some.inj (hfound.symm.trans (filter_onLoad hps))
  refine ⟨rfl, ?_, fun p hp => ?_⟩
  · simp only [hplanned, List.filter_eq_nil_iff, decide_eq_true_eq]
  · obtain ⟨hmem, honLoad⟩ := List.mem_filter.mp (hrefused p hp)
    exact ⟨hmem, of_decide_eq_true honLoad⟩

/-- Transfers with three faults. -/
def threeFaults : LoadSettings where
  recipient := " "
  value := "lots"
  gasLimit := 0

/-- Of three faults the plan meets the gas limit first, and the judgement last. -/
theorem plan_of_threeFaults :
    readAmount "load.value" threeFaults.value ≠ none ∧
    IssuancePlan.ofSettings threeFaults = some (.error (.notPositive "load.gas_limit")) ∧
    threeFaults.problems = some [.empty "load.to", .invalidAmount "load.value" "lots",
      .notPositive "load.gas_limit"] ∧
    ∀ c : Settings, c.load = threeFaults → ∀ ps, c.problems = some ps →
      .notPositive "load.gas_limit" ∈ ps := by
  have hreads : readAmount "load.value" threeFaults.value ≠ none := by decide +kernel
  have hplan : IssuancePlan.ofSettings threeFaults =
      some (.error (.notPositive "load.gas_limit")) := rfl
  refine ⟨hreads, hplan, by decide +kernel, fun c hc ps hps => ?_⟩
  obtain ⟨outcome, _, houtcome, -, -, -, -, hall⟩ := plan_iff_nothing_reported threeFaults hreads
  obtain rfl := Option.some.inj (houtcome.symm.trans hplan)
  exact ((((hall c hc).2 ps hps).2.2) _ rfl).1

end Settings
end LocalChain

import LocalChain.Issuance.Plan
import LocalChain.Settings.Validation

/-!
# Settings without problems

Settings have no problems when none of their sections has one, and a section has none when each of
its fields passes its own check.  Transfers that have no problems can be planned, with the number
that the settings give.
-/

namespace LocalChain

@[simp] theorem Problem.when_eq_nil_iff (bad : Bool) (p : Problem) :
    Problem.when bad p = [] ↔ bad = false := by
  cases bad <;> simp [Problem.when]

theorem Settings.problems_eq_nil_iff (s : Settings) :
    s.problems = some [] ↔
      s.rpc.problems = [] ∧ s.account.problems = [] ∧ s.load.problems = some [] ∧
        s.deploy.problems = some [] ∧ s.observability.problems = [] := by
  rw [Settings.problems]
  cases s.load.problems <;> cases s.deploy.problems <;> simp

/-- The defaults are a complete configuration. -/
theorem Settings.problems_default : ({} : Settings).problems = some [] := by
  decide +kernel

theorem Settings.amountProblems_eq_nil_iff (field value : String) :
    Settings.amountProblems field value = some [] ↔ ∃ w, readAmount field value = some (.ok w) := by
  rw [Settings.amountProblems]
  rcases readAmount field value with _ | _ | w <;> simp

theorem Settings.recipientProblems_eq_nil_iff (value : String) :
    Settings.recipientProblems value = [] ↔ ∃ a, readRecipient value = .ok a := by
  rw [Settings.recipientProblems]
  cases readRecipient value <;> simp

theorem LoadSettings.problems_eq_nil_iff (l : LoadSettings) :
    l.problems = some [] ↔
      (∃ a, readRecipient l.recipient = .ok a) ∧
        (∃ w, readAmount "load.value" l.value = some (.ok w)) ∧ l.gasLimit ≠ 0 ∧
          l.intervalMs ≠ 0 := by
  rw [← Settings.recipientProblems_eq_nil_iff, ← Settings.amountProblems_eq_nil_iff,
    LoadSettings.problems]
  cases Settings.amountProblems "load.value" l.value <;> simp

theorem RpcSettings.isUrl_of_valid {r : RpcSettings} (h : r.problems = []) :
    Settings.isNoUrl r.url = false := by
  simp only [RpcSettings.problems, List.append_eq_nil_iff, Problem.when_eq_nil_iff] at h
  exact h.1.1.1

/-- **Transfers without problems can be planned.** -/
theorem IssuancePlan.ofSettings_of_valid {l : LoadSettings} (h : l.problems = some []) :
    ∃ plan, ofSettings l = some (.ok plan) ∧ plan.count = l.count := by
  obtain ⟨⟨recipient, hrecipient⟩, ⟨value, hvalue⟩, hgas, hinterval⟩ :=
    l.problems_eq_nil_iff.mp h
  rw [ofSettings, if_neg hgas, dif_neg hinterval, hrecipient]
  simp only [hvalue]
  exact ⟨_, rfl, rfl⟩

end LocalChain

import LocalChain.Text.Basic
import Mathlib.Data.List.TakeWhile

/-!
# Blanks around a text

Readers do not mind blanks at either end of a text.  Nothing else is taken away (`Text.padded_trim`), and
what is left is the text itself when it has no blanks of its own (`Text.trim_of_padded`).
-/

namespace LocalChain.Text

/-- The text is `cs` with nothing but blanks around it. -/
def Padded (cs : List Char) (s : String) : Prop :=
  ∃ before after, s.toList = before ++ cs ++ after ∧ (∀ c ∈ before, isBlank c) ∧
    ∀ c ∈ after, isBlank c

variable {cs : List Char} {s : String}

/-- There need not be any blanks. -/
theorem padded_self (s : String) : Padded s.toList s :=
  ⟨[], [], by simp, by simp, by simp⟩

variable {p : Char → Bool}

theorem dropWhile_eq_self (hcs : ∀ c ∈ cs, p c = false) : cs.dropWhile p = cs := by
  cases cs with
  | nil => rfl
  | cons c cs => exact List.dropWhile_cons_of_neg (by simp [hcs c List.mem_cons_self])

theorem strip_append {before after : List Char} (hbefore : ∀ c ∈ before, p c)
    (hafter : ∀ c ∈ after, p c) (hcs : ∀ c ∈ cs, p c = false) :
    strip p (before ++ cs ++ after) = cs := by
  have hlast : ∀ c ∈ after.reverse, p c := fun c hc => hafter c (List.mem_reverse.mp hc)
  have hback : ∀ c ∈ cs.reverse, p c = false := fun c hc => hcs c (List.mem_reverse.mp hc)
  rw [strip, List.append_assoc, List.dropWhile_append_of_pos hbefore]
  cases cs with
  | nil =>
    rw [List.nil_append, List.dropWhile_eq_nil_iff.mpr hafter]
    rfl
  | cons c cs =>
    rw [List.cons_append, List.dropWhile_cons_of_neg (by simp [hcs c List.mem_cons_self]),
      ← List.cons_append, List.reverse_append, List.dropWhile_append_of_pos hlast,
      dropWhile_eq_self hback, List.reverse_reverse]

/-- **Blanks around a text without blanks are all that is taken away.** -/
theorem trim_of_padded (h : Padded cs s) (hcs : ∀ c ∈ cs, isBlank c = false) :
    trim s.toList = cs := by
  obtain ⟨before, after, hs, hbefore, hafter⟩ := h
  rw [hs]
  exact strip_append hbefore hafter hcs

/-- What is stripped off either end. -/
theorem strip_spec (p : Char → Bool) (cs : List Char) :
    ∃ before after, cs = before ++ strip p cs ++ after ∧ (∀ c ∈ before, p c) ∧ ∀ c ∈ after, p c := by
  let rest := cs.dropWhile p
  have hback : rest = strip p cs ++ (rest.reverse.takeWhile p).reverse := by
    rw [strip, ← List.reverse_append, List.takeWhile_append_dropWhile, List.reverse_reverse]
  refine ⟨cs.takeWhile p, (rest.reverse.takeWhile p).reverse, ?_, fun c hc => ?_, fun c hc => ?_⟩
  · rw [List.append_assoc, ← hback, List.takeWhile_append_dropWhile]
  · exact List.mem_takeWhile_imp hc
  · exact List.mem_takeWhile_imp (List.mem_reverse.mp hc)

/-- Nothing but blanks is ever taken away. -/
theorem padded_trim (s : String) : Padded (trim s.toList) s :=
  strip_spec isBlank s.toList

/-- Nothing is left of a text exactly if it is blank. -/
theorem trim_eq_nil_iff : trim s.toList = [] ↔ isBlankText s := by
  rw [isBlankText, List.all_eq_true]
  constructor
  · intro htrim
    obtain ⟨before, after, hs, hbefore, hafter⟩ := padded_trim s
    rw [hs, htrim, List.append_nil]
    exact List.forall_mem_append.mpr ⟨hbefore, hafter⟩
  · intro hblank
    exact trim_of_padded ⟨s.toList, [], by simp, hblank, by simp⟩ (by simp)

theorem mem_of_mem_strip {c : Char} (h : c ∈ strip p cs) : c ∈ cs := by
  rw [strip, List.mem_reverse] at h
  exact (List.dropWhile_sublist p).mem (List.mem_reverse.mp ((List.dropWhile_sublist p).mem h))

end LocalChain.Text

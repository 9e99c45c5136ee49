import LocalChain.Issuance.Run

/-!
# Counting a history

What counters and tallies stand at after a history is read off the history itself: the counter of
scheduled transfers stands at the number of starts (`total_scheduled`), the counters of replies at
the numbers of arrivals that went well and that did not (`total_replied`), and the tally agrees
with them and lists the places of the latter in the order of arrival (`Tally.ofOutcomes_eq`).
-/

namespace LocalChain

@[simp] theorem Journal.total_append (j k : Journal) (c : Counter) :
    total (j ++ k) c = total j c + total k c := by
  simp [total, counted]

/-- **A tally counts outcomes of both kinds** and lists the places of the failed ones. -/
theorem Tally.ofOutcomes_eq (os : List Outcome) :
    ofOutcomes os =
      { sent := os.countP Outcome.isSent
        failed := os.countP (!·.isSent)
        failedIndices := (os.filter (!·.isSent)).map Outcome.index } := by
  suffices gathered : ∀ t : Tally, os.foldl record t =
      { sent := t.sent + os.countP Outcome.isSent
        failed := t.failed + os.countP (!·.isSent)
        failedIndices := t.failedIndices ++ (os.filter (!·.isSent)).map Outcome.index } by
    simpa [ofOutcomes] using gathered {}
  induction os with
  | nil => simp
  | cons o os ih =>
    intro t
    rw [List.foldl_cons, ih]
    cases h : o.isSent with
    | true => simp [record, h, Nat.add_assoc, Nat.add_comm 1]
    | false => simp [record, h, Nat.add_assoc, Nat.add_comm 1]

namespace Issuance

theorem starts_append (h k : List Moment) : starts (h ++ k) = starts h ++ starts k :=
  List.filterMap_append

theorem arrivals_append (h k : List Moment) : arrivals (h ++ k) = arrivals h ++ arrivals k :=
  List.filterMap_append

theorem journal_cons (listening : Bool) (m : Moment) (h : List Moment) :
    journal listening (m :: h) = m.entries listening ++ journal listening h := rfl

/-- **Every start is counted once**, whether or not anybody listens to outcomes. -/
theorem total_scheduled (listening : Bool) (h : List Moment) :
    (journal listening h).total .scheduled = (starts h).length := by
  induction h with
  | nil => rfl
  | cons m h ih =>
    rw [journal_cons, Journal.total_append, ih]
    cases m with
    | started atMs index transfer => exact Nat.add_comm _ _
    | resolved atMs outcome => cases listening <;> exact Nat.zero_add _
    | nonceUnknown _ | sending _ _ | allStarted _ => exact Nat.zero_add _

theorem total_entries (o : Outcome) (sent : Bool) :
    Journal.total o.entries (.replied sent) = if o.isSent = sent then 1 else 0 := by
  simp [Journal.total, Journal.counted, Outcome.entries, List.count_singleton, beq_iff_eq]

/-- **Every arrival is counted once**, by whether the transfer was taken, when somebody listens. -/
theorem total_replied (sent : Bool) (h : List Moment) :
    (journal true h).total (.replied sent) = (arrivals h).countP (·.2.isSent = sent) := by
  induction h with
  | nil => rfl
  | cons m h ih =>
    rw [journal_cons, Journal.total_append, ih]
    cases m with
    | resolved atMs outcome =>
      rw [show (Moment.resolved atMs outcome).entries true = outcome.entries from rfl,
        total_entries, show arrivals (.resolved atMs outcome :: h) =
          (atMs, outcome) :: arrivals h from rfl, List.countP_cons, Nat.add_comm]
      simp
    | started _ _ _ | nonceUnknown _ | sending _ _ | allStarted _ => exact Nat.zero_add _

theorem total_sent (h : List Moment) :
    (journal true h).total (.replied true) = (tally h).sent := by
  simp only [total_replied, tally, Tally.ofOutcomes_eq, List.countP_map]
  exact List.countP_congr fun a _ => by simp

theorem total_failed (h : List Moment) :
    (journal true h).total (.replied false) = (tally h).failed := by
  simp only [total_replied, tally, Tally.ofOutcomes_eq, List.countP_map]
  exact List.countP_congr fun a _ => by simp

theorem sent_add_failed (h : List Moment) :
    (tally h).sent + (tally h).failed = (arrivals h).length := by
  have hlength : (arrivals h).length = ((arrivals h).map (·.2)).length := List.length_map .. |>.symm
  rw [hlength, tally, Tally.ofOutcomes_eq, List.length_eq_countP_add_countP Outcome.isSent]
  simp

theorem failedIndices_tally (h : List Moment) :
    (tally h).failedIndices =
      ((arrivals h).filter (!·.2.isSent)).map (·.2.index) := by
  rw [tally, Tally.ofOutcomes_eq, List.filter_map, List.map_map]
  rfl

end Issuance
end LocalChain

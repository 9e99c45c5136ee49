import LocalChain.Issuance.NonceCounter

/-!
# The nonces that a counter hands out

A counter is told by its base and by how many nonces it has been asked for (`advanced`).  As long
as 64 bits go, a call takes it from one such state to the next and gives the nonce that far above
the base (`take_advanced`); from then on it stays where it is and every call fails
(`take_exhausted`).  What a loop over calls does thus needs no more than the number of the call.

The answers to calls one after the other are those to the numbers of the calls (`takeMany_advanced`), and
the nonces among them are the numbers from the base on, as many as there are (`toNat_handedOut`).  So no
nonce is left out or handed out twice, and nothing comes after an error (`nonces_of_calls`).
-/

namespace LocalChain.NonceCounter

/-- The counter that started with `base` and has been asked for `calls` nonces. -/
def advanced (base : UInt64) (calls : Nat) : NonceCounter where
  base
  next := if base.toNat + calls < UInt64.size then some (.ofNat (base.toNat + calls)) else none

@[simp] theorem advanced_base (base : UInt64) (calls : Nat) :
    (advanced base calls).base = base := rfl

theorem advanced_zero (base : UInt64) : advanced base 0 = start base := by
  have h : base.toNat < UInt64.size := base.toNat_lt
  simp [advanced, start, h]

theorem successor_ofNat {n : Nat} (h : n < UInt64.size) :
    successor (.ofNat n) = if n + 1 < UInt64.size then some (.ofNat (n + 1)) else none := by
  have hn : (UInt64.ofNat n).toNat = n := UInt64.toNat_ofNat_of_lt' h
  have hs : UInt64.ofNat n + 1 = UInt64.ofNat (n + 1) := (UInt64.ofNat_add n 1).symm
  rw [successor, hn, hs]

/-- **A call gives the next nonce**, while there is one. -/
theorem take_advanced {base : UInt64} {calls : Nat} (h : base.toNat + calls < UInt64.size) :
    (advanced base calls).take =
      (.ok (.ofNat (base.toNat + calls)), advanced base (calls + 1)) := by
  have hnext : (advanced base calls).next = some (.ofNat (base.toNat + calls)) := if_pos h
  rw [take, hnext]
  simp only [successor_ofNat h]
  rfl

/-- **After the last nonce every call fails**, and the counter stays as it is. -/
theorem take_exhausted {base : UInt64} {calls : Nat} (h : UInt64.size ≤ base.toNat + calls) :
    (advanced base calls).take = (.error .nonceExhausted, advanced base calls) := by
  have hnext : (advanced base calls).next = none := if_neg (by omega)
  rw [take, hnext]

/-! ## Calls one after the other -/

/-- What a call gives, by its number counted from zero. -/
def answer (base : UInt64) (call : Nat) : Except ChainError UInt64 :=
  if base.toNat + call < UInt64.size then .ok (.ofNat (base.toNat + call))
  else .error .nonceExhausted

/-- The nonces among some answers. -/
def handedOut (answers : List (Except ChainError UInt64)) : List UInt64 :=
  answers.filterMap Except.toOption

variable (base : UInt64)

/-- A counter that has been asked for too many nonces is told by its base alone. -/
theorem advanced_succ_of_exhausted {calls : Nat} (h : UInt64.size ≤ base.toNat + calls) :
    advanced base (calls + 1) = advanced base calls := by
  rw [advanced, advanced, if_neg (by omega), if_neg (by omega)]

/-- **One call**, whether or not a nonce is left. -/
theorem take_eq (calls : Nat) :
    (advanced base calls).take = (answer base calls, advanced base (calls + 1)) := by
  by_cases h : base.toNat + calls < UInt64.size
  · rw [take_advanced h, answer, if_pos h]
  · have hfull : UInt64.size ≤ base.toNat + calls := Nat.le_of_not_lt h
    rw [take_exhausted hfull, answer, if_neg h, advanced_succ_of_exhausted base hfull]

/-- **Calls one after the other.** -/
theorem takeMany_advanced (calls more : Nat) : takeMany more (advanced base calls) =
    ((List.range' calls more).map (answer base), advanced base (calls + more)) := by
  induction more generalizing calls with
  | zero => rfl
  | succ more ih =>
    rw [takeMany, take_eq]
    dsimp only
    rw [ih, List.range'_succ, List.map_cons, Nat.add_assoc, Nat.add_comm 1]

theorem takeMany_start (calls : Nat) : takeMany calls (start base) =
    ((List.range calls).map (answer base), advanced base calls) := by
  rw [← advanced_zero, takeMany_advanced, ← List.range_eq_range', Nat.zero_add]

/-- **The nonces that calls hand out** are the numbers from the base on, one for each call as long as
64 bits go. -/
theorem toNat_handedOut (calls : Nat) :
    (handedOut ((List.range calls).map (answer base))).map UInt64.toNat =
      List.range' base.toNat (min calls (UInt64.size - base.toNat)) := by
  induction calls with
  | zero => rfl
  | succ calls ih =>
    have hlast : handedOut ((List.range (calls + 1)).map (answer base)) =
        handedOut ((List.range calls).map (answer base)) ++ handedOut [answer base calls] := by
      rw [List.range_succ, List.map_append, handedOut, List.filterMap_append]
      rfl
    rw [hlast, List.map_append, ih]
    by_cases h : base.toNat + calls < UInt64.size
    · have hnonce : (handedOut [answer base calls]).map UInt64.toNat = [base.toNat + calls] := by
        rw [answer, if_pos h]
        exact congrArg (fun n => [n]) (UInt64.toNat_ofNat_of_lt' h)
      have hbefore : min calls (UInt64.size - base.toNat) = calls := by omega
      have hafter : min (calls + 1) (UInt64.size - base.toNat) = calls + 1 := by omega
      rw [hnonce, hbefore, hafter, List.range'_concat, Nat.one_mul]
    · have hnone : (handedOut [answer base calls]).map UInt64.toNat = [] := by
        rw [answer, if_neg h]
        rfl
      have hsame : min (calls + 1) (UInt64.size - base.toNat) =
          min calls (UInt64.size - base.toNat) := by omega
      rw [hnone, hsame, List.append_nil]

theorem length_handedOut (calls : Nat) :
    (handedOut ((List.range calls).map (answer base))).length =
      min calls (UInt64.size - base.toNat) := by
  rw [← List.length_map UInt64.toNat, toNat_handedOut, List.length_range']

/-- The nonces go up from one to the next. -/
theorem increasing_handedOut (calls : Nat) :
    (handedOut ((List.range calls).map (answer base))).Pairwise (· < ·) := by
  have hnumbers := List.pairwise_lt_range' (s := base.toNat)
    (n := min calls (UInt64.size - base.toNat))
  rw [← toNat_handedOut, List.pairwise_map] at hnumbers
  exact hnumbers.imp UInt64.lt_iff_toNat_lt.mpr

/-- The last nonce there is goes out with the last call that does not fail. -/
theorem getLast?_handedOut {calls : Nat} (h : UInt64.size - base.toNat ≤ calls) :
    ∃ n, (handedOut ((List.range calls).map (answer base))).getLast? = some n ∧
      n.toNat = UInt64.size - 1 := by
  have hbase : base.toNat < UInt64.size := base.toNat_lt
  have hlast := congrArg List.getLast? (toNat_handedOut base calls)
  rw [Nat.min_eq_right h, List.getLast?_map, List.getLast?_range', if_neg (by omega)] at hlast
  obtain ⟨n, hn, hvalue⟩ := Option.map_eq_some_iff.mp hlast
  exact ⟨n, hn, by omega⟩

theorem answer_eq_ok_iff {call : Nat} {n : UInt64} :
    answer base call = .ok n ↔ n.toNat = base.toNat + call := by
  have hn : n.toNat < UInt64.size := n.toNat_lt
  rw [answer]
  by_cases h : base.toNat + call < UInt64.size
  · rw [if_pos h, Except.ok.injEq, ← UInt64.toNat_inj, UInt64.toNat_ofNat_of_lt' h, eq_comm]
  · rw [if_neg h]
    refine iff_of_false nofun ?_
    omega

theorem answer_eq_error_iff {call : Nat} {e : ChainError} :
    answer base call = .error e ↔ UInt64.size ≤ base.toNat + call ∧ e = .nonceExhausted := by
  rw [answer]
  by_cases h : base.toNat + call < UInt64.size
  · rw [if_pos h]
    refine iff_of_false nofun ?_
    omega
  · rw [if_neg h, Except.error.injEq, eq_comm, and_iff_right (Nat.le_of_not_lt h)]

/-- **A counter hands out every nonce from its base on, once each and in order, and then fails for
good.**  Of some calls the one with number `i` gives the nonce `i` above the base, or the error when that
does not fit 64 bits.  So the nonces are the numbers from the base on without a gap; there are never more
of them than are left from the base on, and when there are as many, the last one is the largest number of
64 bits.

After an error no call gives a nonce, and the base stays what it was.  Calls that come after others go on
where these end. -/
theorem nonces_of_calls (calls : Nat) :
    let given := (takeMany calls (start base)).1
    let counter := (takeMany calls (start base)).2
    (given.length = calls ∧ ∀ i < calls,
      (base.toNat + i < UInt64.size →
        ∃ n, given[i]? = some (.ok n) ∧ n.toNat = base.toNat + i) ∧
      (UInt64.size ≤ base.toNat + i →
        given[i]? = some (.error (.nonce "nonce space exhausted")))) ∧
    (handedOut given).map UInt64.toNat =
      List.range' base.toNat (min calls (UInt64.size - base.toNat)) ∧
    (handedOut given).Pairwise (· < ·) ∧
    (handedOut given).length ≤ UInt64.size - base.toNat ∧
    (UInt64.size - base.toNat ≤ calls → (handedOut given).length = UInt64.size - base.toNat ∧
      ∃ n, (handedOut given).getLast? = some n ∧ n.toNat = UInt64.size - 1) ∧
    (∀ (i j : Nat) (e : ChainError) (n : UInt64), i ≤ j →
      given[i]? = some (.error e) → given[j]? ≠ some (.ok n)) ∧
    counter.base = base ∧
    ∀ more, takeMany (calls + more) (start base) =
      (given ++ (takeMany more counter).1, (takeMany more counter).2) := by
  rw [takeMany_start]
  intro given counter
  have hat {i : Nat} (hi : i < calls) : given[i]? = some (answer base i) := by
    simp [given, hi]
  have hsome {i : Nat} {x : Except ChainError UInt64} (hx : given[i]? = some x) :
      answer base i = x := by
    have hi : i < calls := by
      obtain ⟨hi, -⟩ := List.getElem?_eq_some_iff.mp hx
      simpa [given] using hi
    exact Option.some.inj ((hat hi).symm.trans hx)
  refine ⟨⟨by simp [given], fun i hi => ⟨fun hfits => ?_, fun hfull => ?_⟩⟩,
    toNat_handedOut base calls, increasing_handedOut base calls, ?_, fun hall => ⟨?_, ?_⟩, ?_, rfl,
    fun more => ?_⟩
  · rw [hat hi]
    exact ⟨_, congrArg some (if_pos hfits), UInt64.toNat_ofNat_of_lt' hfits⟩
  · rw [hat hi]
    exact congrArg some ((answer_eq_error_iff base).mpr ⟨hfull, rfl⟩)
  · rw [length_handedOut]
    exact Nat.min_le_right _ _
  · rw [length_handedOut, Nat.min_eq_right hall]
  · exact getLast?_handedOut base hall
  · intro i j e n hij herror hok
    have hfull := ((answer_eq_error_iff base).mp (hsome herror)).1
    have hn := (answer_eq_ok_iff base).mp (hsome hok)
    have hlt : n.toNat < UInt64.size := n.toNat_lt
    omega
  · rw [takeMany_start, takeMany_advanced, List.range_eq_range', ← List.range'_append_1,
      List.map_append, ← List.range_eq_range', Nat.zero_add]

example : (takeMany 4 (start 18446744073709551614)).1 =
    [.ok 18446744073709551614, .ok 18446744073709551615, .error .nonceExhausted,
      .error .nonceExhausted] := by
  rfl

end LocalChain.NonceCounter

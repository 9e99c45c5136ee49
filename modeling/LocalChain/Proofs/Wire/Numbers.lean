import LocalChain.Bytes
import Mathlib.Data.List.Induction
import Mathlib.Tactic.Ring

/-!
# Numbers as bytes

What is written as digits or bytes reads back as the number it was.  The shortest form has no zero
in front, and no more digits than the number needs; and digits or bytes without a zero in front are
the shortest form of the number that they spell (`Digits.shortest_value`, `Bytes.shortest_toNat`).
-/

namespace LocalChain

namespace Digits

variable {base : Nat}

theorem value_append (ds es : List Nat) :
    value base (ds ++ es) = value base ds * base ^ es.length + value base es := by
  induction es using List.reverseRecOn with
  | nil => simp [value]
  | append_singleton es e ih =>
    rw [← List.append_assoc, value_concat, ih, value_concat, List.length_append,
      List.length_singleton, Nat.pow_succ]
    ring

theorem value_cons (d : Nat) (ds : List Nat) :
    value base (d :: ds) = d * base ^ ds.length + value base ds := by
  rw [← List.singleton_append, value_append]
  simp [value]

/-! ## Shortest forms -/

@[simp] theorem above_zero (fuel : Nat) (low : List Nat) : above base fuel 0 low = low := by
  cases fuel <;> rfl

theorem above_of_ne_zero {n : Nat} (hn : n ≠ 0) (fuel : Nat) (low : List Nat) :
    above base (fuel + 1) n low = above base fuel (n / base) (n % base :: low) :=
  if_neg hn

theorem value_above (hbase : 2 ≤ base) {fuel n : Nat} (hn : n ≤ fuel) (low : List Nat) :
    value base (above base fuel n low) = n * base ^ low.length + value base low := by
  induction fuel generalizing n low with
  | zero =>
    obtain rfl : n = 0 := by omega
    simp
  | succ fuel ih =>
    by_cases hzero : n = 0
    · simp [hzero]
    · have hdiv : n / base < n := Nat.div_lt_self (by omega) hbase
      rw [above_of_ne_zero hzero, ih (by omega), value_cons, List.length_cons, Nat.pow_succ]
      calc n / base * (base ^ low.length * base) + (n % base * base ^ low.length + value base low)
          = (base * (n / base) + n % base) * base ^ low.length + value base low := by ring
        _ = n * base ^ low.length + value base low := by rw [Nat.div_add_mod]

theorem above_eq_cons (hbase : 2 ≤ base) {fuel n : Nat} (hn : n ≤ fuel) (hzero : n ≠ 0)
    (low : List Nat) : ∃ d ds, above base fuel n low = d :: ds ∧ d ≠ 0 := by
  induction fuel generalizing n low with
  | zero => omega
  | succ fuel ih =>
    rw [above_of_ne_zero hzero]
    by_cases hlast : n / base = 0
    · -- the last digit to be written is the number itself
      have hsmall : n < base := (Nat.div_eq_zero_iff_lt (by omega)).mp hlast
      rw [hlast, above_zero]
      exact ⟨n % base, low, rfl, by rwa [Nat.mod_eq_of_lt hsmall]⟩
    · have hdiv : n / base < n := Nat.div_lt_self (by omega) hbase
      exact ih (by omega) hlast _

theorem length_above_le (fuel : Nat) {n k : Nat} (hn : n < base ^ k) (low : List Nat) :
    (above base fuel n low).length ≤ low.length + k := by
  induction fuel generalizing n k low with
  | zero => simp [above]
  | succ fuel ih =>
    by_cases hzero : n = 0
    · simp [hzero]
    · obtain ⟨j, rfl⟩ : ∃ j, k = j + 1 := by
        cases k with
        | zero => exact absurd (by simpa using hn) hzero
        | succ j => exact ⟨j, rfl⟩
      have hdiv : n / base < base ^ j :=
        Nat.div_lt_of_lt_mul (by rwa [Nat.pow_succ, mul_comm] at hn)
      have hrest := ih hdiv (n % base :: low)
      rw [above_of_ne_zero hzero]
      rw [List.length_cons] at hrest
      omega

theorem lt_of_mem_above (hbase : 0 < base) {fuel n d : Nat} {low : List Nat}
    (hlow : ∀ e ∈ low, e < base) (hd : d ∈ above base fuel n low) : d < base := by
  induction fuel generalizing n low with
  | zero => exact hlow d hd
  | succ fuel ih =>
    by_cases hzero : n = 0
    · rw [hzero, above_zero] at hd
      exact hlow d hd
    · rw [above_of_ne_zero hzero] at hd
      refine ih ?_ hd
      exact List.forall_mem_cons.mpr ⟨Nat.mod_lt _ hbase, hlow⟩

/-- **The shortest digits of a number spell it.** -/
theorem value_shortest (hbase : 2 ≤ base) (n : Nat) : value base (shortest base n) = n := by
  rw [shortest, value_above hbase (Nat.le_refl n)]
  simp [value]

/-- Digits of fixed width spell what the width leaves of the number. -/
theorem value_fixed (width n : Nat) : value base (fixed base width n) = n % base ^ width := by
  induction width generalizing n with
  | zero => simp [fixed, value, Nat.mod_one]
  | succ width ih =>
    rw [fixed, value_concat, ih, Nat.pow_succ, mul_comm (base ^ width), Nat.mod_mul]
    ring

/-- Digits spell a number that has no more of them. -/
theorem value_lt {ds : List Nat} (hds : ∀ d ∈ ds, d < base) : value base ds < base ^ ds.length := by
  induction ds with
  | nil => simp [value]
  | cons d ds ih =>
    obtain ⟨hd, hds⟩ := List.forall_mem_cons.mp hds
    rw [value_cons, List.length_cons, Nat.pow_succ]
    calc d * base ^ ds.length + value base ds
        < d * base ^ ds.length + base ^ ds.length := Nat.add_lt_add_left (ih hds) _
      _ = (d + 1) * base ^ ds.length := (Nat.succ_mul ..).symm
      _ ≤ base * base ^ ds.length := Nat.mul_le_mul_right _ hd
      _ = base ^ ds.length * base := mul_comm ..

/-- They are the digits of that number in their width. -/
theorem fixed_value {ds : List Nat} (hds : ∀ d ∈ ds, d < base) :
    fixed base ds.length (value base ds) = ds := by
  induction ds using List.reverseRecOn with
  | nil => rfl
  | append_singleton ds d ih =>
    obtain ⟨hds, hd⟩ : (∀ e ∈ ds, e < base) ∧ d < base := by
      simpa [or_imp, forall_and] using hds
    have hdiv : (value base ds * base + d) / base = value base ds := by
      rw [mul_comm, Nat.mul_add_div (by omega), Nat.div_eq_of_lt hd, Nat.add_zero]
    have hmod : (value base ds * base + d) % base = d := by
      rw [mul_comm, Nat.mul_add_mod, Nat.mod_eq_of_lt hd]
    rw [value_concat, List.length_append, List.length_singleton, fixed, hdiv, hmod, ih hds]

/-! ## Digits that are the shortest already -/

theorem shortest_zero : shortest base 0 = [] := rfl

/-- The digits of a number stand in front of those already written, whatever the fuel. -/
theorem above_eq_append (hbase : 2 ≤ base) {n fuel : Nat} (hn : n ≤ fuel) (low : List Nat) :
    above base fuel n low = shortest base n ++ low := by
  induction n using Nat.strongRecOn generalizing fuel low with
  | ind n ih =>
    by_cases hzero : n = 0
    · rw [hzero, above_zero, shortest_zero, List.nil_append]
    · obtain ⟨fuel, rfl⟩ : ∃ f, fuel = f + 1 := ⟨fuel - 1, by omega⟩
      obtain ⟨m, rfl⟩ : ∃ m, n = m + 1 := ⟨n - 1, by omega⟩
      have hdiv : (m + 1) / base < m + 1 := Nat.div_lt_self (by omega) hbase
      have hall : shortest base (m + 1) = shortest base ((m + 1) / base) ++ [(m + 1) % base] := by
        rw [shortest, above_of_ne_zero hzero, ih _ hdiv (by omega)]
      rw [above_of_ne_zero hzero, ih _ hdiv (by omega), hall, List.append_assoc,
        List.singleton_append]

/-- One more digit at the end of a number is one more digit of its shortest form. -/
theorem shortest_concat (hbase : 2 ≤ base) {n d : Nat} (hd : d < base) (hne : n * base + d ≠ 0) :
    shortest base (n * base + d) = shortest base n ++ [d] := by
  obtain ⟨m, hm⟩ : ∃ m, n * base + d = m + 1 := ⟨n * base + d - 1, by omega⟩
  have hdiv : (n * base + d) / base = n := by
    rw [mul_comm, Nat.mul_add_div (by omega), Nat.div_eq_of_lt hd, Nat.add_zero]
  have hmod : (n * base + d) % base = d := by
    rw [mul_comm, Nat.mul_add_mod, Nat.mod_eq_of_lt hd]
  have hle : n ≤ m := by
    have := Nat.div_lt_self (n := n * base + d) (by omega) hbase
    omega
  rw [shortest, hm, above_of_ne_zero (by omega), ← hm, hdiv, hmod, above_eq_append hbase hle]

/-- **Digits without a zero in front are the shortest of the number that they spell.** -/
theorem shortest_value (hbase : 2 ≤ base) {ds : List Nat} (hds : ∀ d ∈ ds, d < base)
    (hhead : ds.head? ≠ some 0) : shortest base (value base ds) = ds := by
  induction ds using List.reverseRecOn with
  | nil => rfl
  | append_singleton ds d ih =>
    have hd : d < base := hds d (by simp)
    have hfront : ∀ e ∈ ds, e < base := fun e he => hds e (List.mem_append_left _ he)
    cases ds with
    | nil =>
      have hne : d ≠ 0 := by simpa using hhead
      have hone := shortest_concat hbase (n := 0) hd (by simpa using hne)
      simpa [value, shortest_zero] using hone
    | cons e es =>
      have hes : shortest base (value base (e :: es)) = e :: es := ih hfront (by simpa using hhead)
      have hvalue : value base (e :: es) ≠ 0 := by
        intro hzero
        rw [hzero] at hes
        cases hes
      have hne : value base (e :: es) * base + d ≠ 0 := by
        have := Nat.mul_ne_zero hvalue (by omega : base ≠ 0)
        omega
      rw [value_concat, shortest_concat hbase hd hne, hes]

/-! ## Decimal text -/

/-- The character of a decimal digit. -/
theorem char_digit {d : Nat} (hd : d < 10) :
    ('0' ≤ char d ∧ char d ≤ '9') ∧ (char d).toNat - '0'.toNat = d ∧
      (char d = '0' → d = 0) := by
  have hall : ∀ e ∈ List.range 10, ('0' ≤ char e ∧ char e ≤ '9') ∧
      (char e).toNat - '0'.toNat = e ∧ (char e = '0' → e = 0) := by decide
  exact hall d (List.mem_range.mpr hd)

/-- The decimal text of a number has a zero alone, or digits with none in front. -/
theorem decimal_digits (n : Nat) :
    ∃ ds, decimal n = ds.map char ∧ (∀ d ∈ ds, d < 10) ∧ value 10 ds = n ∧
      (ds = [0] ∨ ∃ d es, ds = d :: es ∧ d ≠ 0) := by
  by_cases hn : n = 0
  · subst hn
    exact ⟨[0], rfl, by simp, rfl, .inl rfl⟩
  · have hbase : 2 ≤ 10 := by decide
    obtain ⟨d, es, hds, hd⟩ := above_eq_cons hbase (Nat.le_refl n) hn []
    exact ⟨shortest 10 n, if_neg hn,
      fun d hd => lt_of_mem_above (by decide) (by simp) hd,
      value_shortest hbase n, .inr ⟨d, es, hds, hd⟩⟩

end Digits

namespace Bytes

theorem map_toNat_map_ofNat {ds : List Nat} (hds : ∀ d ∈ ds, d < 256) :
    (ds.map UInt8.ofNat).map UInt8.toNat = ds := by
  rw [List.map_map]
  refine (List.map_congr_left fun d hd => ?_).trans (List.map_id ds)
  exact UInt8.toNat_ofNat_of_lt' (hds d hd)

/-- **The shortest bytes of a number spell it.** -/
@[simp] theorem toNat_shortest (n : Nat) : toNat (shortest n) = n := by
  rw [toNat, shortest, map_toNat_map_ofNat, Digits.value_shortest (by decide)]
  exact fun d hd => Digits.lt_of_mem_above (by decide) (by simp) hd

/-- So do as many bytes as the number has room in. -/
theorem toNat_ofNat {width n : Nat} (hn : n < 256 ^ width) : toNat (ofNat width n) = n := by
  rw [toNat, ofNat, map_toNat_map_ofNat, Digits.value_fixed, Nat.mod_eq_of_lt hn]
  exact fun d hd => Digits.lt_of_mem_fixed (by decide) hd

theorem shortest_eq_cons {n : Nat} (hn : n ≠ 0) : ∃ b bs, shortest n = b :: bs ∧ b ≠ 0 := by
  have hbase : 2 ≤ 256 := by decide
  obtain ⟨d, ds, hds, hd⟩ := Digits.above_eq_cons hbase (Nat.le_refl n) hn []
  have hlt : d < 256 :=
    Digits.lt_of_mem_above (by decide) (by simp) (hds ▸ List.mem_cons_self ..)
  refine ⟨UInt8.ofNat d, ds.map UInt8.ofNat, by rw [shortest, Digits.shortest, hds]; rfl, ?_⟩
  intro hzero
  have hnat := congrArg UInt8.toNat hzero
  rw [UInt8.toNat_ofNat_of_lt' hlt] at hnat
  exact hd hnat

/-- The shortest bytes have no zero in front. -/
theorem head?_shortest (n : Nat) : (shortest n).head? ≠ some 0 := by
  by_cases hn : n = 0
  · rw [hn]
    exact nofun
  · obtain ⟨b, bs, hbs, hb⟩ := shortest_eq_cons hn
    rw [hbs, List.head?_cons]
    exact fun h => hb (Option.some_inj.mp h)

theorem length_shortest_le {n k : Nat} (hn : n < 256 ^ k) : (shortest n).length ≤ k := by
  have hlength := Digits.length_above_le n hn []
  rw [shortest, Digits.shortest, List.length_map]
  simpa using hlength

/-- **Bytes without a zero in front are the shortest of the number that they spell.** -/
theorem shortest_toNat {bs : Bytes} (hhead : bs.head? ≠ some 0) : shortest (toNat bs) = bs := by
  have hdigits : (bs.map UInt8.toNat).head? ≠ some 0 := by
    cases bs with
    | nil => exact nofun
    | cons b bs =>
      intro hzero
      have hb : b = 0 := UInt8.toNat_inj.mp (Option.some_inj.mp hzero)
      exact hhead (by rw [hb]; rfl)
  rw [shortest, toNat, Digits.shortest_value (by decide) ?_ hdigits, List.map_map]
  · exact (List.map_congr_left fun b _ => UInt8.ofNat_toNat).trans (List.map_id bs)
  · intro d hd
    obtain ⟨b, -, rfl⟩ := List.mem_map.mp hd
    exact b.toNat_lt

end Bytes
end LocalChain

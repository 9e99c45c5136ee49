import LocalChain.Digits
import LocalChain.Proofs.Wire.Numbers
import Mathlib.Data.Rat.Floor
import Mathlib.Tactic.FieldSimp
import Mathlib.Tactic.Linarith

/-!
# Decimal numerals

A numeral is one or more decimal digits, with one point or none in front of them, among them or behind
them.  It denotes a rational number (`Numeral.Denotes`): the digits before the point spell a whole
number, and each digit behind it counts a tenth of what it would one place to the left.

A number is cut to some decimal places by cutting its numeral: what the digits spell then, without the
point, is the number in units of the last place, rounded down (`Numeral.floor_scaled`).
-/

namespace LocalChain.Numeral

/-- The number that digits spell. -/
def natural (ds : List Char) : Nat :=
  Digits.value 10 (ds.map Digits.ofChar)

/-- The number that digits denote behind a point. -/
def fraction : List Char → ℚ
  | [] => 0
  | c :: cs => (Digits.ofChar c + fraction cs) / 10

/-- **The text is a numeral that denotes the number.** -/
inductive Denotes : List Char → ℚ → Prop
  /-- A numeral without a point. -/
  | whole {ds : List Char} (hds : ∀ c ∈ ds, c.isDigit) (hsome : ds ≠ []) : Denotes ds (natural ds)
  /-- A numeral with a point, and digits on one side of it at least. -/
  | point {ds fs : List Char} (hds : ∀ c ∈ ds, c.isDigit) (hfs : ∀ c ∈ fs, c.isDigit)
      (hsome : ds ++ fs ≠ []) : Denotes (ds ++ '.' :: fs) (natural ds + fraction fs)

/-- The text is a numeral: there are digits and one point at most, at least one digit, and nothing
else. -/
structure IsNumeral (cs : List Char) : Prop where
  characters : ∀ c ∈ cs, c.isDigit ∨ c = '.'
  points : cs.count '.' ≤ 1
  digits : ∃ c ∈ cs, c.isDigit

instance (cs : List Char) : Decidable (IsNumeral cs) :=
  decidable_of_iff (cs.all (fun c => c.isDigit || c == '.') ∧ cs.count '.' ≤ 1 ∧
      cs.any Char.isDigit)
    ⟨fun ⟨hcharacters, hpoints, hdigits⟩ =>
        ⟨by simpa using hcharacters, hpoints, by simpa using hdigits⟩,
      fun h => ⟨by simpa using h.characters, h.points, by simpa using h.digits⟩⟩

variable {cs ds fs front rest : List Char} {x : ℚ}

/-! ## Digits -/

theorem isDigit_iff {c : Char} : c.isDigit ↔ '0' ≤ c ∧ c ≤ '9' := by
  simp [Char.isDigit, Char.le_def]

theorem ofChar_of_isDigit {c : Char} (hc : c.isDigit) :
    Digits.ofChar c = c.toNat - '0'.toNat :=
  if_pos (isDigit_iff.mp hc).2

theorem ofChar_lt_ten {c : Char} (hc : c.isDigit) : Digits.ofChar c < 10 := by
  have hle : c.toNat ≤ '9'.toNat := (isDigit_iff.mp hc).2
  rw [ofChar_of_isDigit hc]
  have h0 : '0'.toNat = 48 := rfl
  have h9 : '9'.toNat = 57 := rfl
  omega

/-- The point is no digit. -/
theorem point_not_mem (hds : ∀ c ∈ ds, c.isDigit) : '.' ∉ ds :=
  fun h => absurd (hds '.' h) (by decide)

theorem natural_append (ds es : List Char) :
    natural (ds ++ es) = natural ds * 10 ^ es.length + natural es := by
  simp [natural, Digits.value_append]

/-! ## Fractions -/

/-- Digits behind others behind the point count as much less as there are of those. -/
theorem fraction_append (front rest : List Char) :
    fraction (front ++ rest) = (natural front + fraction rest) / 10 ^ front.length := by
  induction front with
  | nil => simp [natural, Digits.value]
  | cons c front ih =>
    have hvalue : natural (c :: front) = Digits.ofChar c * 10 ^ front.length + natural front := by
      simp [natural, Digits.value_cons]
    rw [List.cons_append, fraction, ih, hvalue, List.length_cons, pow_succ]
    push_cast
    field_simp
    ring

/-- A numeral denotes what its digits spell without the point, over a power of ten. -/
theorem natural_add_fraction (ds fs : List Char) :
    natural ds + fraction fs = (natural (ds ++ fs) : ℚ) / 10 ^ fs.length := by
  have hfraction := fraction_append fs []
  rw [List.append_nil, fraction, add_zero] at hfraction
  rw [hfraction, natural_append]
  push_cast
  field_simp

theorem fraction_nonneg (fs : List Char) : 0 ≤ fraction fs := by
  induction fs with
  | nil => exact le_refl _
  | cons c fs ih =>
    rw [fraction]
    positivity

theorem fraction_lt_one (hfs : ∀ c ∈ fs, c.isDigit) : fraction fs < 1 := by
  induction fs with
  | nil => exact zero_lt_one
  | cons c fs ih =>
    obtain ⟨hc, hfs⟩ := List.forall_mem_cons.mp hfs
    have hdigit : (Digits.ofChar c : ℚ) ≤ 9 := by
      exact_mod_cast Nat.le_of_lt_succ (ofChar_lt_ten hc)
    have hrest := ih hfs
    rw [fraction, div_lt_one (by norm_num)]
    linarith

/-- **A number is cut to `k` places by cutting its numeral.**  What is cut off counts less than one
unit of the last place. -/
theorem floor_scaled (hrest : ∀ c ∈ rest, c.isDigit) {k : Nat} (hk : front.length ≤ k)
    (hcut : rest = [] ∨ front.length = k) :
    ⌊(natural ds + fraction (front ++ rest)) * 10 ^ k⌋₊ =
      natural (ds ++ front) * 10 ^ (k - front.length) := by
  have hscaled : ((natural ds : ℚ) + fraction (front ++ rest)) * 10 ^ k =
      (natural (ds ++ front) + fraction rest) * 10 ^ (k - front.length) := by
    have hpow : (10 : ℚ) ^ k = 10 ^ front.length * 10 ^ (k - front.length) := by
      rw [← pow_add, Nat.add_sub_cancel' hk]
    rw [fraction_append, natural_append, hpow]
    push_cast
    field_simp
    ring
  rw [hscaled]
  -- nothing is cut off, or there is no place left for what is cut off
  rcases hcut with rfl | rfl
  · rw [fraction, add_zero]
    exact_mod_cast Nat.floor_natCast _
  · rw [Nat.sub_self, pow_zero, pow_zero, mul_one, mul_one,
      Nat.floor_eq_iff (by have := fraction_nonneg rest; positivity)]
    have hnonneg := fraction_nonneg rest
    have hlt := fraction_lt_one hrest
    constructor <;> linarith

/-! ## Numerals -/

/-- The number of a numeral, by what its digits spell. -/
theorem Denotes.of_natural (ds fs : List Char) {n : Nat} (hdigits : (ds ++ fs).all Char.isDigit)
    (hsome : ds ++ fs ≠ []) (hn : natural (ds ++ fs) = n) :
    Denotes (ds ++ '.' :: fs) (n / 10 ^ fs.length) := by
  have hall := List.all_eq_true.mp hdigits
  rw [← hn, ← natural_add_fraction]
  exact .point (fun c hc => hall c (List.mem_append_left _ hc))
    (fun c hc => hall c (List.mem_append_right _ hc)) hsome

/-- A numeral without a point is one with nothing behind it. -/
theorem Denotes.exists_parts (h : Denotes cs x) : ∃ ds fs, (∀ c ∈ ds, c.isDigit) ∧
    (∀ c ∈ fs, c.isDigit) ∧ ds ++ fs ≠ [] ∧ x = natural ds + fraction fs ∧
      (cs = ds ++ '.' :: fs ∨ fs = [] ∧ cs = ds) := by
  cases h with
  | whole hds hsome =>
    exact ⟨cs, [], hds, by simp, by simpa using hsome, by simp [fraction], .inr ⟨rfl, rfl⟩⟩
  | point hds hfs hsome => exact ⟨_, _, hds, hfs, hsome, rfl, .inl rfl⟩

/-- Without a point, numerals are digits. -/
theorem isNumeral_iff_of_no_point (hpoint : '.' ∉ ds) :
    IsNumeral ds ↔ (∀ c ∈ ds, c.isDigit) ∧ ds ≠ [] := by
  constructor
  · rintro ⟨hcharacters, -, c, hc, -⟩
    exact ⟨fun d hd => (hcharacters d hd).resolve_right fun h => hpoint (h ▸ hd),
      List.ne_nil_of_mem hc⟩
  · rintro ⟨hds, hsome⟩
    obtain ⟨c, hc⟩ := List.exists_mem_of_ne_nil ds hsome
    exact ⟨fun d hd => .inl (hds d hd), by simp [List.count_eq_zero.mpr hpoint], c, hc, hds c hc⟩

/-- With a point, numerals are digits on its two sides. -/
theorem isNumeral_point_iff (hpoint : '.' ∉ ds) :
    IsNumeral (ds ++ '.' :: fs) ↔ (∀ c ∈ ds ++ fs, c.isDigit) ∧ ds ++ fs ≠ [] := by
  have hcount : (ds ++ '.' :: fs).count '.' = fs.count '.' + 1 := by
    simp [List.count_eq_zero.mpr hpoint]
  have hmem (c : Char) : c ∈ ds ++ '.' :: fs ↔ c = '.' ∨ c ∈ ds ++ fs := by
    simp only [List.mem_append, List.mem_cons]
    exact or_left_comm
  constructor
  · rintro ⟨hcharacters, hpoints, c, hc, hdigit⟩
    have hbehind : '.' ∉ fs := List.count_eq_zero.mp (by omega)
    have hne : ∀ d ∈ ds ++ fs, d ≠ '.' := by
      rintro _ hd rfl
      exact (List.mem_append.mp hd).elim hpoint hbehind
    refine ⟨fun d hd => (hcharacters d ((hmem d).mpr (.inr hd))).resolve_right (hne d hd), ?_⟩
    rcases (hmem c).mp hc with rfl | hc
    · exact absurd hdigit (by decide)
    · exact List.ne_nil_of_mem hc
  · rintro ⟨hdigits, hsome⟩
    obtain ⟨c, hc⟩ := List.exists_mem_of_ne_nil _ hsome
    have hbehind : fs.count '.' = 0 :=
      List.count_eq_zero.mpr (point_not_mem fun d hd => hdigits d (List.mem_append_right _ hd))
    exact ⟨fun d hd => ((hmem d).mp hd).symm.imp_left (hdigits d), by omega, c,
      (hmem c).mpr (.inr hc), hdigits c hc⟩

/-- **What denotes a number is a numeral, and the other way round.** -/
theorem isNumeral_iff : IsNumeral cs ↔ ∃ x, Denotes cs x := by
  constructor
  · intro h
    by_cases hpoint : '.' ∈ cs
    · obtain ⟨ds, fs, rfl, hds⟩ := List.eq_append_cons_of_mem hpoint
      obtain ⟨hdigits, hsome⟩ := (isNumeral_point_iff hds).mp h
      exact ⟨_, .point (fun c hc => hdigits c (List.mem_append_left _ hc))
        (fun c hc => hdigits c (List.mem_append_right _ hc)) hsome⟩
    · obtain ⟨hdigits, hsome⟩ := (isNumeral_iff_of_no_point hpoint).mp h
      exact ⟨_, .whole hdigits hsome⟩
  · rintro ⟨x, h⟩
    cases h with
    | whole hds hsome => exact (isNumeral_iff_of_no_point (point_not_mem hds)).mpr ⟨hds, hsome⟩
    | point hds hfs hsome =>
      exact (isNumeral_point_iff (point_not_mem hds)).mpr
        ⟨fun c hc => (List.mem_append.mp hc).elim (hds c) (hfs c), hsome⟩

theorem Denotes.ne_nil (h : Denotes cs x) : cs ≠ [] := by
  obtain ⟨c, hc, -⟩ := (isNumeral_iff.mpr ⟨x, h⟩).digits
  exact List.ne_nil_of_mem hc

end LocalChain.Numeral

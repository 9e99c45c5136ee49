import LocalChain.Json.Literal
import LocalChain.Json.Printer
import LocalChain.Proofs.Text.Hexadecimal
import Mathlib.Data.List.TakeDrop

/-!
# Literals read back

A string literal is read as its text (`Parser.text_literal`): each character has a written form of
its own, also a quote, a backslash and a control, and no character is half of a surrogate pair.  An
integer is read as itself when no number goes on with what follows it (`Parser.number_integer`).
-/

namespace LocalChain.Json.Parser

/-! ## Strings -/

/-- The four digits of an escape spell the number that they are written for. -/
theorem escapeNumber_fixed {n : Nat} (hn : n < 0x10000) :
    ∃ a b c d, (Digits.fixed 16 4 n).map Digits.char = [a, b, c, d] ∧
      escapeNumber a b c d = some n := by
  refine ⟨_, _, _, _, rfl, ?_⟩
  have hdigit (m : Nat) : Hex.digit? (Digits.char (m % 16)) = some (m % 16) :=
    Hex.digit?_char (Nat.mod_lt _ (by decide))
  have hvalue : Digits.value 16 (Digits.fixed 16 4 n) = n :=
    (Digits.value_fixed 4 n).trans (Nat.mod_eq_of_lt hn)
  rw [escapeNumber, hdigit, hdigit, hdigit, hdigit]
  exact congrArg some hvalue

/-- A backslash and a letter are read as the character that the letter stands for. -/
theorem units_letter {e c : Char} (he : e ≠ 'u') (hc : escapeLetter e = some c)
    (rest : List Char) :
    units ('\\' :: e :: rest) = (units rest).map fun (ns, rest) => (c.toNat :: ns, rest) := by
  rw [units]
  · rw [hc]
    cases units rest <;> rfl
  · rintro a b c d rest rfl
    exact fun _ => he rfl

/-- **A character is read back from its written form.** -/
theorem units_escaped (c : Char) (rest : List Char) :
    units (escaped c ++ rest) = (units rest).map fun (ns, rest) => (c.toNat :: ns, rest) := by
  unfold escaped
  split
  case h_8 hquote hbackslash _ _ _ _ _ =>
    split
    · rename_i hcontrol
      obtain ⟨a, b, d, e, hdigits, hnumber⟩ := escapeNumber_fixed (by omega : c.toNat < 0x10000)
      rw [hdigits]
      show units ('\\' :: 'u' :: a :: b :: d :: e :: rest) = _
      rw [units, hnumber]
      cases units rest <;> rfl
    · rename_i hcontrol
      have hplain : 0x20 ≤ c.toNat ∧ c ≠ '\\' := ⟨by omega, hbackslash⟩
      rw [List.singleton_append, units]
      · rw [guard, if_pos hplain]
        cases units rest <;> rfl
      · exact hquote
      · exact fun _ _ _ _ _ h => (hbackslash h).elim
      · exact fun _ _ h => (hbackslash h).elim
  -- the other forms are a backslash and a letter
  all_goals exact units_letter (by decide) rfl rest

theorem units_literal (cs rest : List Char) :
    units (cs.flatMap escaped ++ '"' :: rest) = some (cs.map Char.toNat, rest) := by
  induction cs with
  | nil => rfl
  | cons c cs ih =>
    rw [List.flatMap_cons, List.append_assoc, units_escaped, ih]
    rfl

/-- No half of a surrogate pair is a character. -/
theorem characters_map_toNat (cs : List Char) : characters (cs.map Char.toNat) = .ok cs := by
  induction cs with
  | nil => rfl
  | cons c cs ih =>
    have hvalid : c.toNat < 0xD800 ∨ 0xDFFF < c.toNat ∧ c.toNat < 0x110000 := c.valid
    have hleading : isLeading c.toNat = false := by simp [isLeading]; omega
    have htrailing : isTrailing c.toNat = false := by simp [isTrailing]; omega
    rw [List.map_cons, characters.eq_def]
    simp [hleading, htrailing, ih, Except.map, Char.ofNat_toNat]

/-- **A string literal spells its text.** -/
theorem text_literal (s : String) (rest : List Char) :
    text (s.toList.flatMap escaped ++ '"' :: rest) = some (.ok s, rest) := by
  rw [text, units_literal]
  simp [characters_map_toNat, Except.map, String.ofList_toList]

/-! ## Integers -/

/-- No number goes on with these characters. -/
def Delimits : List Char → Prop
  | [] => True
  | c :: _ => ¬('0' ≤ c ∧ c ≤ '9') ∧ c ≠ '.' ∧ c ≠ 'e' ∧ c ≠ 'E'

variable {rest : List Char}

theorem digitRun_append {ds : List Char} (hds : ∀ c ∈ ds, '0' ≤ c ∧ c ≤ '9')
    (hrest : Delimits rest) : digitRun (ds ++ rest) = (ds, rest) := by
  have hall : ∀ c ∈ ds, decide ('0' ≤ c ∧ c ≤ '9') = true := by simpa using hds
  rw [digitRun, List.span_eq_takeWhile_dropWhile, List.takeWhile_append_of_pos hall,
    List.dropWhile_append_of_pos hall]
  cases rest with
  | nil => simp
  | cons c rest =>
    rw [List.takeWhile_cons_of_neg (by simpa using hrest.1),
      List.dropWhile_cons_of_neg (by simpa using hrest.1), List.append_nil]

theorem fractionPart_of_delimits (hrest : Delimits rest) : fractionPart rest = some ([], rest) := by
  cases rest with
  | nil => rfl
  | cons c rest =>
    rw [fractionPart]
    rintro cs ⟨⟩
    exact hrest.2.1 rfl

theorem exponentPart_of_delimits (hrest : Delimits rest) : exponentPart rest = some ([], rest) := by
  cases rest with
  | nil => rfl
  | cons c rest => rw [exponentPart, if_neg (not_or.mpr hrest.2.2)]

theorem wholePart_decimal (n : Nat) (hrest : Delimits rest) :
    wholePart (Digits.decimal n ++ rest) = some (Digits.decimal n, rest) := by
  obtain ⟨ds, hdecimal, hdigits, -, hfirst⟩ := Digits.decimal_digits n
  have hchars : ∀ c ∈ ds.map Digits.char, '0' ≤ c ∧ c ≤ '9' := by
    intro c hc
    obtain ⟨d, hd, rfl⟩ := List.mem_map.mp hc
    exact (Digits.char_digit (hdigits d hd)).1
  rw [hdecimal, wholePart, digitRun_append hchars hrest]
  rcases hfirst with rfl | ⟨d, es, rfl, hd⟩
  · rfl
  · have hne : Digits.char d ≠ '0' := fun h => hd ((Digits.char_digit (hdigits d (by simp))).2.2 h)
    cases es <;> simp [hne]

theorem digitsValue_decimal (n : Nat) : digitsValue (Digits.decimal n) = n := by
  obtain ⟨ds, hdecimal, hdigits, hvalue, -⟩ := Digits.decimal_digits n
  have hback : (ds.map Digits.char).map (fun c => c.toNat - '0'.toNat) = ds := by
    rw [List.map_map]
    refine (List.map_congr_left fun d hd => ?_).trans (List.map_id ds)
    exact (Digits.char_digit (hdigits d hd)).2.1
  rw [digitsValue, hdecimal, hback, hvalue]

/-- An integer begins with its sign or with a digit. -/
theorem integer_eq_cons (n : Int) :
    ∃ c cs, integer n = c :: cs ∧ (n < 0 ∧ c = '-' ∨ 0 ≤ n ∧ ∃ d < 10, c = Digits.char d) := by
  cases n with
  | ofNat n =>
    have hn : 0 ≤ Int.ofNat n := Int.natCast_nonneg n
    obtain ⟨ds, hdecimal, hdigits, -, rfl | ⟨d, es, rfl, -⟩⟩ := Digits.decimal_digits n
    · exact ⟨_, _, hdecimal, .inr ⟨hn, 0, by decide, rfl⟩⟩
    · exact ⟨_, _, hdecimal, .inr ⟨hn, d, hdigits d (by simp), rfl⟩⟩
  | negSucc n => exact ⟨_, _, rfl, .inl ⟨Int.negSucc_lt_zero n, rfl⟩⟩

/-- **An integer is read as itself.** -/
theorem number_integer (n : Int) (hrest : Delimits rest) :
    number (integer n ++ rest) = some (.int n, rest) := by
  have hwhole (m : Nat) := wholePart_decimal m hrest
  have hfraction := fractionPart_of_delimits hrest
  have hexponent := exponentPart_of_delimits hrest
  obtain ⟨c, cs, hinteger, hsign⟩ := integer_eq_cons n
  cases n with
  | ofNat n =>
    have hminus : ∀ tail, integer (.ofNat n) ++ rest = '-' :: tail → False := by
      rw [hinteger]
      rintro _ ⟨⟩
      obtain ⟨hneg, -⟩ | ⟨-, d, hd, hchar⟩ := hsign
      · exact absurd hneg (by simp)
      · exact absurd (hchar ▸ (Digits.char_digit hd).1) (by decide)
    rw [number]
    · simp [integer, hwhole, hfraction, hexponent, digitsValue_decimal]
    · exact hminus
  | negSucc n =>
    rw [integer, List.cons_append, number]
    simp [hwhole, hfraction, hexponent, digitsValue_decimal, Int.negSucc_eq]

end LocalChain.Json.Parser

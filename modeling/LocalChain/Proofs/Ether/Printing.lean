import LocalChain.Proofs.Ether.Reading

/-!
# Amounts as they are written

An amount is written as a number of ether with all of its places: the whole part, with no zero in front of
other digits, a point, and eighteen digits (`Ether.Written`).  This text is a numeral of the number
(`Ether.Written.denotes`), and so is read back as the amount (`Ether.parse_format`).
-/

namespace LocalChain.Ether

open Numeral (Denotes natural)

/-- The text is the amount in ether: the digits of the whole part, a point, and the digits of the rest,
of which there are as many as there are places. -/
inductive Written (w : Word) : List Char → Prop
  | mk {ds fs : List Char} (hds : ∀ c ∈ ds, c.isDigit) (hsome : ds ≠ [])
      (hfirst : ds = ['0'] ∨ ds.head? ≠ some '0') (hwhole : natural ds = w.toNat / 10 ^ places)
      (hfs : ∀ c ∈ fs, c.isDigit) (hlength : fs.length = places)
      (hrest : natural fs = w.toNat % 10 ^ places) : Written w (ds ++ '.' :: fs)

variable {w w' : Word} {cs : List Char}

theorem isDigit_of_mem_map_char {ds : List Nat} (hds : ∀ d ∈ ds, d < 10) :
    ∀ c ∈ ds.map Digits.char, c.isDigit := by
  intro c hc
  obtain ⟨d, hd, rfl⟩ := List.mem_map.mp hc
  exact Numeral.isDigit_iff.mpr (Digits.char_digit (hds d hd)).1

/-- Digits that are written are read as the digits they were. -/
theorem natural_map_char {ds : List Nat} (hds : ∀ d ∈ ds, d < 10) :
    natural (ds.map Digits.char) = Digits.value 10 ds := by
  have hback : (ds.map Digits.char).map Digits.ofChar = ds := by
    rw [List.map_map]
    refine (List.map_congr_left fun d hd => ?_).trans (List.map_id ds)
    exact Digits.ofChar_char (Nat.lt_trans (hds d hd) (by decide))
  rw [natural, hback]

/-- **An amount is written with all of its places.** -/
theorem written_format (w : Word) : Written w (format w).toList := by
  obtain ⟨ds, hdecimal, hds, hwhole, hfirst⟩ := Digits.decimal_digits (w.toNat / 10 ^ places)
  have hfs : ∀ d ∈ Digits.fixed 10 places w.toNat, d < 10 :=
    fun d hd => Digits.lt_of_mem_fixed (by decide) hd
  have hform : (format w).toList =
      ds.map Digits.char ++ '.' :: (Digits.fixed 10 places w.toNat).map Digits.char := by
    rw [← hdecimal]
    exact String.toList_ofList
  rw [hform]
  refine .mk (isDigit_of_mem_map_char hds) ?_ ?_ ?_ (isDigit_of_mem_map_char hfs) ?_ ?_
  · rcases hfirst with rfl | ⟨d, es, rfl, -⟩ <;> simp
  · rcases hfirst with rfl | ⟨d, es, rfl, hd⟩
    · exact .inl rfl
    · refine .inr fun hzero => hd ?_
      exact (Digits.char_digit (hds d (by simp))).2.2 (Option.some.inj hzero)
  · rw [natural_map_char hds, hwhole]
  · simp
  · rw [natural_map_char hfs, Digits.value_fixed]

/-- **The text of an amount is a numeral** of the number of ether. -/
theorem Written.denotes (h : Written w cs) : Denotes cs (w.toNat / 10 ^ places) := by
  obtain ⟨hds, hsome, -, hwhole, hfs, hlength, hrest⟩ := h
  rename_i ds fs
  have hall : (ds ++ fs).all Char.isDigit := by
    rw [List.all_append, Bool.and_eq_true, List.all_eq_true, List.all_eq_true]
    exact ⟨hds, hfs⟩
  have hvalue : natural (ds ++ fs) = w.toNat := by
    rw [Numeral.natural_append, hlength, hwhole, hrest, Nat.div_add_mod']
  rw [← hlength]
  exact .of_natural ds fs hall (List.append_ne_nil_of_left_ne_nil hsome fs) hvalue

/-- In wei it is the amount. -/
theorem floor_scaled_wei (w : Word) : ⌊(w.toNat / 10 ^ places : ℚ) * 10 ^ places⌋₊ = w.toNat := by
  rw [div_mul_cancel₀ _ (by positivity), Nat.floor_natCast]

/-- **The text of an amount is read back as the amount.** -/
theorem parse_format (w : Word) : parse (format w).toList = .wei w := by
  rw [parse_of_denotes (written_format w).denotes, floor_scaled_wei]
  exact fitted_eq_wei_iff.mpr rfl

/-- Different amounts have different texts. -/
theorem format_injective : Function.Injective format := by
  intro w w' h
  have hread := parse_format w
  rw [h, parse_format w'] at hread
  exact (Reading.wei.inj hread).symm

end LocalChain.Ether

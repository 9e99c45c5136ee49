import Mathlib.Data.List.Forall2
import LocalChain.Proofs.Text.Hexadecimal
import LocalChain.Text.Basic

/-!
# Bytes in hexadecimal digits

A text spells bytes when it is their written form but for the case of its letters (`Hex.Spells`).  What
a text is decoded to are the bytes that it spells after its mark (`Hex.decode_eq_ok_iff`), and a text
that spells none is refused.  A number of fixed width is read in the same way (`Hex.number_eq_ok_iff`).
-/

namespace LocalChain

theorem except_map_eq_ok_iff {ε α β : Type} {f : α → β} {x : Except ε α} {b : β} :
    x.map f = .ok b ↔ ∃ a, x = .ok a ∧ f a = b := by
  cases x <;> simp [Except.map]

namespace Hex

variable {c : Char} {d : Nat} {cs : List Char} {ds : List Nat} {bs : Bytes}

/-! ## Digits in either case -/

theorem digit?_eq_none_of_large (hc : 128 ≤ c.toNat) : digit? c = none := by
  have hle (a : Char) (ha : a.toNat < 128) : ¬c ≤ a := by
    intro h
    have : c.toNat ≤ a.toNat := h
    omega
  rw [digit?, if_neg, if_neg, if_neg]
  · exact fun h => hle 'F' (by decide) h.2
  · exact fun h => hle 'f' (by decide) h.2
  · exact fun h => hle '9' (by decide) h.2

theorem toLower_eq_self_of_large (hc : 128 ≤ c.toNat) : c.toLower = c := by
  have hval : ¬c.val ≤ 90 := by
    intro h
    have : c.toNat ≤ 90 := h
    omega
  exact dif_neg fun h => hval h.2

/-- **A character is read as the digit that it is in lower case.** -/
theorem digit?_eq_some_iff : digit? c = some d ↔ d < 16 ∧ c.toLower = Digits.char d := by
  rcases Nat.lt_or_ge c.toNat 128 with hascii | hlarge
  · have hall : ∀ n ∈ List.range 128, ∀ e ∈ List.range 16,
        digit? (Char.ofNat n) = some e ↔ (Char.ofNat n).toLower = Digits.char e := by
      decide +kernel
    have hbelow : ∀ n ∈ List.range 128, ∀ e ∈ digit? (Char.ofNat n), e < 16 := by decide +kernel
    have hread := hall c.toNat (List.mem_range.mpr hascii)
    have hdigit := hbelow c.toNat (List.mem_range.mpr hascii)
    rw [Char.ofNat_toNat] at hread hdigit
    constructor
    · intro h
      have hd := hdigit d h
      exact ⟨hd, (hread d (List.mem_range.mpr hd)).mp h⟩
    · rintro ⟨hd, h⟩
      exact (hread d (List.mem_range.mpr hd)).mpr h
  · have hchar : ∀ e ∈ List.range 16, (Digits.char e).toNat < 128 := by decide
    rw [digit?_eq_none_of_large hlarge, toLower_eq_self_of_large hlarge]
    refine iff_of_false (by simp) ?_
    rintro ⟨hd, rfl⟩
    have := hchar d (List.mem_range.mpr hd)
    omega

/-- A digit is one byte in either case. -/
theorem utf8Size_of_digit (h : digit? c = some d) : c.utf8Size = 1 := by
  have hascii : c.toNat < 128 := by
    refine Nat.lt_of_not_le fun hlarge => ?_
    rw [digit?_eq_none_of_large hlarge] at h
    cases h
  exact Char.utf8Size_eq_one_iff.mpr (Nat.le_of_lt_succ hascii)

/-- A digit is no blank. -/
theorem isBlank_of_isDigit (h : (digit? c).isSome) : Text.isBlank c = false := by
  have hall : ∀ n ∈ List.range 128, (digit? (Char.ofNat n)).isSome →
      Text.isBlank (Char.ofNat n) = false := by decide +kernel
  have hascii : c.toNat < 128 := by
    refine Nat.lt_of_not_le fun hlarge => ?_
    rw [digit?_eq_none_of_large hlarge] at h
    cases h
  have hc := hall c.toNat (List.mem_range.mpr hascii)
  rw [Char.ofNat_toNat] at hc
  exact hc h

/-- The characters are read as the digits, one by one. -/
def AreDigits (cs : List Char) (ds : List Nat) : Prop :=
  List.Forall₂ (fun c d => digit? c = some d) cs ds

theorem digitsFrom_eq_ok_iff {position : Nat} :
    digitsFrom position cs = .ok ds ↔ AreDigits cs ds := by
  induction cs generalizing position ds with
  | nil => simp [digitsFrom, AreDigits, eq_comm]
  | cons c cs ih =>
    rw [digitsFrom, AreDigits, List.forall₂_cons_left_iff]
    cases digit? c with
    | none => simp
    | some e =>
      simp only [except_map_eq_ok_iff, ih, Option.some.injEq]
      constructor
      · rintro ⟨es, hes, rfl⟩
        exact ⟨e, es, rfl, hes, rfl⟩
      · rintro ⟨_, es, rfl, hes, rfl⟩
        exact ⟨es, hes, rfl⟩

theorem areDigits_iff (hds : ∀ d ∈ ds, d < 16) :
    AreDigits cs ds ↔ cs.map Char.toLower = ds.map Digits.char := by
  rw [AreDigits, ← List.forall₂_eq_eq_eq, List.forall₂_map_left_iff, List.forall₂_map_right_iff]
  induction cs generalizing ds with
  | nil => cases ds <;> simp
  | cons c cs ih =>
    cases ds with
    | nil => simp
    | cons d ds =>
      obtain ⟨hd, hds⟩ := List.forall_mem_cons.mp hds
      rw [List.forall₂_cons, List.forall₂_cons, digit?_eq_some_iff, and_iff_right hd, ih hds]

theorem AreDigits.utf8Length (h : AreDigits cs ds) : Text.utf8Length cs = cs.length := by
  induction h with
  | nil => rfl
  | cons hc _ ih => rw [Text.utf8Length, utf8Size_of_digit hc, ih, List.length_cons, Nat.add_comm]

theorem AreDigits.isDigit (h : AreDigits cs ds) : ∀ c ∈ cs, (digit? c).isSome := by
  intro c hc
  obtain ⟨i, hi, rfl⟩ := List.getElem_of_mem hc
  exact Option.isSome_of_eq_some (h.get hi (h.length_eq ▸ hi))

theorem AreDigits.lt (h : AreDigits cs ds) : ∀ d ∈ ds, d < 16 := by
  intro d hd
  obtain ⟨i, hi, rfl⟩ := List.getElem_of_mem hd
  exact (digit?_eq_some_iff.mp (h.get (h.length_eq ▸ hi) hi)).1

/-! ## Numbers -/

/-- **A text of so many bytes is read as the number whose digits it is after its mark**, in either
case. -/
theorem number_eq_ok_iff {size n : Nat} : number size cs = .ok n ↔
    n < 16 ^ (2 * size) ∧
      (dropMark cs).map Char.toLower = (Digits.fixed 16 (2 * size) n).map Digits.char := by
  rw [number, except_map_eq_ok_iff, ← areDigits_iff fun d => Digits.lt_of_mem_fixed (by decide)]
  simp only [digitsSized]
  generalize dropMark cs = cs
  constructor
  · rintro ⟨ds, hread, rfl⟩
    split at hread
    · cases hread
    split at hread
    · cases hread
    rename_i hsize
    have hdigits := digitsFrom_eq_ok_iff.mp hread
    have hlength : ds.length = 2 * size := by
      rw [← hdigits.length_eq, ← hdigits.utf8Length]
      exact Decidable.of_not_not hsize
    rw [← hlength, Digits.fixed_value hdigits.lt]
    exact ⟨Digits.value_lt hdigits.lt, hdigits⟩
  · rintro ⟨hn, hdigits⟩
    have hsize : Text.utf8Length cs = 2 * size := by
      rw [hdigits.utf8Length, hdigits.length_eq, Digits.length_fixed]
    refine ⟨_, ?_, (Digits.value_fixed ..).trans (Nat.mod_eq_of_lt hn)⟩
    rw [if_neg (by omega), if_neg (by omega)]
    exact digitsFrom_eq_ok_iff.mpr hdigits

/-! ## Marks -/

theorem dropMark_cases (cs : List Char) : dropMark cs = cs ∨
    ∃ x, (x = 'x' ∨ x = 'X') ∧ cs = '0' :: x :: dropMark cs := by
  rw [dropMark.eq_def]
  split
  · exact .inr ⟨'x', .inl rfl, rfl⟩
  · exact .inr ⟨'X', .inr rfl, rfl⟩
  · exact .inl rfl

/-- Digits have no mark in front. -/
theorem AreDigits.ne_mark (h : AreDigits cs ds) {x : Char} (hx : digit? x = none)
    (rest : List Char) : cs ≠ '0' :: x :: rest := by
  rintro rfl
  rw [AreDigits, List.forall₂_cons_left_iff] at h
  obtain ⟨_, _, -, h, -⟩ := h
  rw [List.forall₂_cons_left_iff] at h
  obtain ⟨d, _, hd, -⟩ := h
  rw [hx] at hd
  cases hd

theorem AreDigits.dropMark_eq_self (h : AreDigits cs ds) : dropMark cs = cs := by
  rcases dropMark_cases cs with hcs | ⟨x, rfl | rfl, hcs⟩
  · exact hcs
  · exact (h.ne_mark (by decide) _ hcs).elim
  · exact (h.ne_mark (by decide) _ hcs).elim

/-- What a reader passes over is one of three marks. -/
theorem exists_mark (cs : List Char) :
    ∃ mark ∈ ["", "0x", "0X"], cs = mark.toList ++ dropMark cs := by
  rcases dropMark_cases cs with h | ⟨x, rfl | rfl, h⟩
  · exact ⟨"", by simp, h.symm⟩
  · exact ⟨"0x", by simp, h⟩
  · exact ⟨"0X", by simp, h⟩

/-- Each of them is passed over in front of digits. -/
theorem AreDigits.dropMark_mark (h : AreDigits cs ds) {mark : String}
    (hmark : mark ∈ ["", "0x", "0X"]) : dropMark (mark.toList ++ cs) = cs := by
  simp only [List.mem_cons, List.not_mem_nil, or_false] at hmark
  rcases hmark with rfl | rfl | rfl
  · exact h.dropMark_eq_self
  · rfl
  · rfl

theorem isBlank_of_mem_mark {mark : String} (hmark : mark ∈ ["", "0x", "0X"]) :
    ∀ c ∈ mark.toList, Text.isBlank c = false := by
  simp only [List.mem_cons, List.not_mem_nil, or_false] at hmark
  rcases hmark with rfl | rfl | rfl <;> simp [Text.isBlank]

/-! ## Two digits for each byte -/

/-- The two digits of a byte. -/
def halves (b : UInt8) : List Nat :=
  Digits.fixed 16 2 b.toNat

theorem encode_eq_map (bs : Bytes) : encode bs = (bs.flatMap halves).map Digits.char := by
  rw [encode, List.map_flatMap]
  rfl

theorem lt_of_mem_halves (hd : d ∈ bs.flatMap halves) : d < 16 := by
  obtain ⟨b, -, hb⟩ := List.mem_flatMap.mp hd
  exact Digits.lt_of_mem_fixed (by decide) hb

theorem length_halves (bs : Bytes) : (bs.flatMap halves).length = 2 * bs.length := by
  induction bs with
  | nil => rfl
  | cons b bs ih =>
    rw [List.flatMap_cons, List.length_append, ih, halves, Digits.length_fixed, List.length_cons]
    omega

theorem halves_ofNat {a b : Nat} (ha : a < 16) (hb : b < 16) :
    halves (UInt8.ofNat (16 * a + b)) = [a, b] := by
  have hn : (UInt8.ofNat (16 * a + b)).toNat = 16 * a + b :=
    UInt8.toNat_ofNat_of_lt' (show 16 * a + b < 256 by omega)
  simp only [halves, hn, Digits.fixed, List.nil_append, List.cons_append, List.cons.injEq, and_true]
  omega

theorem pairs_halves (bs : Bytes) : pairs (bs.flatMap halves) = bs := by
  induction bs with
  | nil => rfl
  | cons b bs ih =>
    have hb : b.toNat < 256 := b.toNat_lt
    have hvalue : 16 * (b.toNat / 16 % 16) + b.toNat % 16 = b.toNat := by omega
    have hpair : pairs ((b :: bs).flatMap halves) =
        UInt8.ofNat (16 * (b.toNat / 16 % 16) + b.toNat % 16) :: pairs (bs.flatMap halves) := rfl
    rw [hpair, ih, hvalue, UInt8.ofNat_toNat]

theorem halves_pairs (heven : ds.length % 2 = 0) (hds : ∀ d ∈ ds, d < 16) :
    (pairs ds).flatMap halves = ds := by
  induction ds using pairs.induct with
  | case1 a b rest ih =>
    obtain ⟨ha, hb, hrest⟩ : a < 16 ∧ b < 16 ∧ ∀ d ∈ rest, d < 16 := by simpa using hds
    have heven' : rest.length % 2 = 0 := by
      simp only [List.length_cons] at heven
      omega
    rw [pairs, List.flatMap_cons, halves_ofNat ha hb, ih heven' hrest]
    rfl
  | case2 ds hds' =>
    match ds with
    | [] => rfl
    | [_] => simp at heven
    | a :: b :: rest => exact (hds' a b rest rfl).elim

theorem halves_ofNat_mod (n : Nat) : halves (UInt8.ofNat (n % 256)) = [n / 16 % 16, n % 16] := by
  have hsplit : n % 256 = 16 * (n / 16 % 16) + n % 16 := by omega
  rw [hsplit]
  exact halves_ofNat (Nat.mod_lt _ (by decide)) (Nat.mod_lt _ (by decide))

/-- A number in bytes has two digits for each of them. -/
theorem halves_ofNat_bytes (size n : Nat) :
    (Bytes.ofNat size n).flatMap halves = Digits.fixed 16 (2 * size) n := by
  induction size generalizing n with
  | zero => rfl
  | succ size ih =>
    have hbytes : Bytes.ofNat (size + 1) n =
        Bytes.ofNat size (n / 256) ++ [UInt8.ofNat (n % 256)] := by
      simp [Bytes.ofNat, Digits.fixed]
    have hdigits : Digits.fixed 16 (2 * (size + 1)) n =
        Digits.fixed 16 (2 * size) (n / 256) ++ [n / 16 % 16, n % 16] := by
      rw [Nat.mul_succ, Digits.fixed, Digits.fixed, Nat.div_div_eq_div_mul, List.append_assoc]
      rfl
    rw [hbytes, hdigits, List.flatMap_append, ih, List.flatMap_singleton, halves_ofNat_mod]

theorem encode_ofNat (size n : Nat) :
    encode (Bytes.ofNat size n) = (Digits.fixed 16 (2 * size) n).map Digits.char := by
  rw [encode_eq_map, halves_ofNat_bytes]

/-! ## Spelling -/

/-- Hexadecimal digits in any case, two for each byte: the written form but for the case. -/
def Spells (cs : List Char) (bs : Bytes) : Prop :=
  cs.map Char.toLower = encode bs

instance : Decidable (Spells cs bs) :=
  inferInstanceAs (Decidable (_ = _))

theorem spells_iff : Spells cs bs ↔ AreDigits cs (bs.flatMap halves) := by
  rw [Spells, encode_eq_map, areDigits_iff fun d => lt_of_mem_halves]

theorem Spells.length (h : Spells cs bs) : cs.length = 2 * bs.length := by
  rw [← length_halves]
  exact (spells_iff.mp h).length_eq

theorem Spells.isDigit (h : Spells cs bs) : ∀ c ∈ cs, (digit? c).isSome :=
  (spells_iff.mp h).isDigit

/-- **What a text is decoded to is what it spells after its mark.** -/
theorem decode_eq_ok_iff : decode cs = .ok bs ↔ Spells (dropMark cs) bs := by
  rw [decode, except_map_eq_ok_iff, spells_iff]
  simp only [digits]
  generalize dropMark cs = cs
  constructor
  · rintro ⟨ds, hread, rfl⟩
    split at hread
    · cases hread
    · rename_i hodd
      have hdigits := digitsFrom_eq_ok_iff.mp hread
      have heven : ds.length % 2 = 0 := by
        rw [hdigits.utf8Length, hdigits.length_eq] at hodd
        omega
      rwa [halves_pairs heven hdigits.lt]
  · intro hdigits
    have hlength := hdigits.length_eq
    rw [length_halves] at hlength
    refine ⟨_, ?_, pairs_halves bs⟩
    rw [if_neg (by rw [hdigits.utf8Length, hlength]; omega)]
    exact digitsFrom_eq_ok_iff.mpr hdigits

end Hex
end LocalChain

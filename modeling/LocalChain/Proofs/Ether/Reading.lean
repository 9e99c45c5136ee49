import LocalChain.Ether
import LocalChain.Proofs.Ether.Numerals
import Mathlib.Data.List.TakeWhile

/-!
# How amounts are read

A text is cut at its first point and behind the last place of an ether (`Ether.Cut`), or this place lies
inside a character (`Ether.Splits`).  Digits are read of the two parts, and underscores among them are
passed over; what is behind the last place is not looked at.

So a numeral is read as the number it denotes, in wei and rounded down, when this fits 256 bits, and is
refused when it does not (`Ether.parse_of_denotes`).  But not only numerals are read
(`Ether.parse_eq_wei_iff`).
-/

namespace LocalChain.Ether

open Numeral (natural)

/-! ## Parts of a text -/

/-- The text is cut into what is before its first point, what is behind it as far as the last place, and
what is behind that. -/
inductive Cut : (cs whole fraction rest : List Char) → Prop
  | whole {whole : List Char} (hwhole : '.' ∉ whole) : Cut whole whole [] []
  | point {whole fraction rest : List Char} (hwhole : '.' ∉ whole)
      (hlength : Text.utf8Length fraction ≤ places)
      (hrest : rest = [] ∨ Text.utf8Length fraction = places) :
      Cut (whole ++ '.' :: (fraction ++ rest)) whole fraction rest

/-- The last place lies inside a character. -/
def Splits (cs : List Char) : Prop :=
  ∃ whole front c rest, cs = whole ++ '.' :: (front ++ c :: rest) ∧ '.' ∉ whole ∧
    Text.utf8Length front < places ∧ places < Text.utf8Length front + c.utf8Size

/-- What the parts come to. -/
def readParts (whole fraction : List Char) : Reading :=
  match readDigits (whole ++ fraction) with
  | none => .invalid
  | some n =>
    let wei := n * Nat.pow 10 (places - Text.utf8Length fraction)
    if wei < Nat.pow 2 256 then .wei (BitVec.ofNat 256 wei) else .invalid

variable {cs whole fraction rest : List Char} {x : ℚ} {w : Word}

/-! ## Cutting -/

@[simp] theorem takeBytes_zero (cs : List Char) : takeBytes 0 cs = some [] := by
  cases cs <;> rfl

@[simp] theorem takeBytes_nil (n : Nat) : takeBytes n [] = some [] := by
  cases n <;> rfl

theorem takeBytes_cons {n : Nat} {c : Char} (hc : c.utf8Size ≤ n) (cs : List Char) :
    takeBytes n (c :: cs) = (takeBytes (n - c.utf8Size) cs).map (c :: ·) := by
  obtain ⟨m, rfl⟩ : ∃ m, n = m + 1 := Nat.exists_eq_add_of_le' (Nat.le_trans c.utf8Size_pos hc)
  rw [takeBytes, if_pos hc]

theorem takeBytes_cons_of_lt {n : Nat} {c : Char} (hn : 0 < n) (hc : n < c.utf8Size)
    (cs : List Char) : takeBytes n (c :: cs) = none := by
  obtain ⟨m, rfl⟩ : ∃ m, n = m + 1 := Nat.exists_eq_add_of_le' hn
  rw [takeBytes, if_neg (Nat.not_le.mpr hc)]

/-- Characters that fit are taken, and what follows them as far as there is room left. -/
theorem takeBytes_append {n : Nat} {front : List Char} (hfront : Text.utf8Length front ≤ n)
    (rest : List Char) : takeBytes n (front ++ rest) =
      (takeBytes (n - Text.utf8Length front) rest).map (front ++ ·) := by
  induction front generalizing n with
  | nil => simp [Text.utf8Length]
  | cons c front ih =>
    rw [Text.utf8Length] at hfront
    rw [List.cons_append, takeBytes_cons (by omega), ih (by omega), Text.utf8Length,
      Nat.sub_add_eq, Option.map_map]
    rfl

/-- A text ends with `n` bytes or before, or these end a character, or they end inside one. -/
theorem takeBytes_cases (n : Nat) (cs : List Char) :
    (∃ fraction rest, cs = fraction ++ rest ∧ Text.utf8Length fraction ≤ n ∧
      (rest = [] ∨ Text.utf8Length fraction = n)) ∨
    ∃ front c rest, cs = front ++ c :: rest ∧ Text.utf8Length front < n ∧
      n < Text.utf8Length front + c.utf8Size := by
  induction cs generalizing n with
  | nil => exact .inl ⟨[], [], rfl, Nat.zero_le n, .inl rfl⟩
  | cons c cs ih =>
    rcases Nat.eq_zero_or_pos n with rfl | hn
    · exact .inl ⟨[], c :: cs, rfl, Nat.le_refl 0, .inr rfl⟩
    -- the first character goes beyond the bytes, or the rest has as many fewer
    rcases Nat.lt_or_ge n c.utf8Size with hc | hc
    · exact .inr ⟨[], c, cs, rfl, hn, by rwa [Text.utf8Length, Nat.zero_add]⟩
    · rcases ih (n - c.utf8Size) with ⟨fraction, rest, rfl, hlength, hrest⟩ |
        ⟨front, d, rest, rfl, hlt, hgt⟩
      · refine .inl ⟨c :: fraction, rest, rfl, ?_, hrest.imp_right fun h => ?_⟩ <;>
          rw [Text.utf8Length] <;> omega
      · refine .inr ⟨c :: front, d, rest, rfl, ?_, ?_⟩ <;> rw [Text.utf8Length] <;> omega

theorem ne_point_of_not_mem (h : '.' ∉ cs) : ∀ c ∈ cs, (c != '.') = true := by
  intro c hc
  simpa using fun heq : c = '.' => h (heq ▸ hc)

theorem parse_of_no_point (h : '.' ∉ cs) : parse cs = readParts cs [] := by
  have hall := ne_point_of_not_mem h
  rw [parse, List.takeWhile_eq_self_iff.mpr hall, List.dropWhile_eq_nil_iff.mpr hall]
  rfl

theorem parse_of_point (hwhole : '.' ∉ whole) (behind : List Char) :
    parse (whole ++ '.' :: behind) = match takeBytes places behind with
      | none => .splitCharacter
      | some fraction => readParts whole fraction := by
  have hall := ne_point_of_not_mem hwhole
  rw [parse, List.takeWhile_append_of_pos hall, List.dropWhile_append_of_pos hall,
    List.takeWhile_cons_of_neg (by simp), List.dropWhile_cons_of_neg (by simp), List.append_nil]
  rfl

/-- What is behind the last place is not looked at. -/
theorem parse_of_cut (h : Cut cs whole fraction rest) : parse cs = readParts whole fraction := by
  cases h with
  | whole hwhole => exact parse_of_no_point hwhole
  | point hwhole hlength hrest =>
    have htaken : takeBytes places (fraction ++ rest) = some fraction := by
      rw [takeBytes_append hlength]
      rcases hrest with rfl | hrest
      · simp
      · simp [hrest]
    rw [parse_of_point hwhole, htaken]

theorem parse_of_splits (h : Splits cs) : parse cs = .splitCharacter := by
  obtain ⟨whole, front, c, rest, rfl, hwhole, hlt, hgt⟩ := h
  have hnone : takeBytes places (front ++ c :: rest) = none := by
    rw [takeBytes_append (Nat.le_of_lt hlt), takeBytes_cons_of_lt (by omega) (by omega)]
    rfl
  rw [parse_of_point hwhole, hnone]

theorem cut_or_splits (cs : List Char) :
    (∃ whole fraction rest, Cut cs whole fraction rest) ∨ Splits cs := by
  by_cases hpoint : '.' ∈ cs
  · obtain ⟨whole, behind, rfl, hwhole⟩ := List.eq_append_cons_of_mem hpoint
    rcases takeBytes_cases places behind with ⟨fraction, rest, rfl, hlength, hrest⟩ |
      ⟨front, c, rest, rfl, hlt, hgt⟩
    · exact .inl ⟨whole, fraction, rest, .point hwhole hlength hrest⟩
    · exact .inr ⟨whole, front, c, rest, rfl, hwhole, hlt, hgt⟩
  · exact .inl ⟨cs, [], [], .whole hpoint⟩

theorem readParts_ne_splitCharacter : readParts whole fraction ≠ .splitCharacter := by
  rw [readParts]
  split
  · exact nofun
  · dsimp only
    split <;> exact nofun

/-- **Reading breaks off when the last place lies inside a character**, and only then. -/
theorem parse_eq_splitCharacter_iff : parse cs = .splitCharacter ↔ Splits cs := by
  refine ⟨fun h => (cut_or_splits cs).resolve_left ?_, parse_of_splits⟩
  rintro ⟨whole, fraction, rest, hcut⟩
  exact readParts_ne_splitCharacter ((parse_of_cut hcut).symm.trans h)

/-! ## Digits -/

/-- The character can stand among the digits that are read. -/
def IsRead (c : Char) : Prop :=
  c.isDigit ∨ c = '_'

theorem ne_underscore {c : Char} (hc : c.isDigit) : c ≠ '_' := by
  rintro rfl
  exact absurd hc (by decide)

theorem IsRead.utf8Size {c : Char} (hc : IsRead c) : c.utf8Size = 1 := by
  rcases hc with hc | rfl
  · have hle : c.val ≤ '9'.val := (Numeral.isDigit_iff.mp hc).2
    exact Char.utf8Size_eq_one_iff.mpr (UInt32.le_trans hle (by decide))
  · rfl

/-- The digits of what is read. -/
def digits (cs : List Char) : List Char :=
  cs.filter (· != '_')

theorem digits_cons {c : Char} (hc : c.isDigit) (cs : List Char) :
    digits (c :: cs) = c :: digits cs :=
  List.filter_cons_of_pos (by simpa using ne_underscore hc)

theorem readDigit_eq_some_iff {n m : Nat} {c : Char} : readDigit n c = some m ↔
    c = '_' ∧ m = n ∨ c.isDigit ∧ m = n * 10 + Digits.ofChar c := by
  rw [readDigit]
  split
  · rename_i hc
    subst hc
    simp [eq_comm (a := n), show '_'.isDigit = false from rfl]
  · rename_i hc
    split
    · rename_i hdigit
      have hdigit : c.isDigit := Numeral.isDigit_iff.mpr hdigit
      simp [hc, hdigit, Numeral.ofChar_of_isDigit hdigit, eq_comm (a := m)]
    · rename_i hdigit
      simp [hc, mt Numeral.isDigit_iff.mp hdigit]

theorem foldlM_readDigit_eq_some_iff {n m : Nat} : cs.foldlM readDigit n = some m ↔
    (∀ c ∈ cs, IsRead c) ∧
      m = ((digits cs).map Digits.ofChar).foldl (fun n d => n * 10 + d) n := by
  induction cs generalizing n with
  | nil => simp [digits, eq_comm]
  | cons c cs ih =>
    simp only [List.foldlM_cons, Option.bind_eq_bind, Option.bind_eq_some_iff,
      readDigit_eq_some_iff, ih, List.forall_mem_cons]
    constructor
    · rintro ⟨k, ⟨rfl, rfl⟩ | ⟨hc, rfl⟩, hcs, rfl⟩
      · exact ⟨⟨.inr rfl, hcs⟩, rfl⟩
      · refine ⟨⟨.inl hc, hcs⟩, ?_⟩
        rw [digits_cons hc]
        rfl
    · rintro ⟨⟨hc | rfl, hcs⟩, rfl⟩
      · refine ⟨_, .inr ⟨hc, rfl⟩, hcs, ?_⟩
        rw [digits_cons hc]
        rfl
      · exact ⟨n, .inl ⟨rfl, rfl⟩, hcs, rfl⟩

theorem readDigits_eq_some_iff {n : Nat} :
    readDigits cs = some n ↔ (∀ c ∈ cs, IsRead c) ∧ n = natural (digits cs) :=
  foldlM_readDigit_eq_some_iff

/-- Characters that are read are one byte each. -/
theorem utf8Length_of_isRead (h : ∀ c ∈ cs, IsRead c) : Text.utf8Length cs = cs.length := by
  induction cs with
  | nil => rfl
  | cons c cs ih =>
    obtain ⟨hc, hcs⟩ := List.forall_mem_cons.mp h
    rw [Text.utf8Length, hc.utf8Size, ih hcs, List.length_cons, Nat.add_comm]

/-- The amount, when it fits 256 bits. -/
def fitted (n : Nat) : Reading :=
  if n < 2 ^ 256 then .wei (BitVec.ofNat 256 n) else .invalid

theorem fitted_eq_wei_iff {n : Nat} : fitted n = .wei w ↔ w.toNat = n := by
  rw [fitted]
  split
  · rename_i hn
    rw [Reading.wei.injEq, BitVec.toNat_eq, BitVec.toNat_ofNat, Nat.mod_eq_of_lt hn, eq_comm]
  · rename_i hn
    have hw : w.toNat < 2 ^ 256 := w.isLt
    simp only [reduceCtorEq, false_iff]
    omega

/-- Digits are worth the more, the fewer of them are behind the point. -/
theorem readParts_of_isRead (h : ∀ c ∈ whole ++ fraction, IsRead c) :
    readParts whole fraction =
      fitted (natural (digits (whole ++ fraction)) * 10 ^ (places - fraction.length)) := by
  have hfraction : ∀ c ∈ fraction, IsRead c := fun c hc => h c (List.mem_append_right _ hc)
  rw [readParts, readDigits_eq_some_iff.mpr ⟨h, rfl⟩, utf8Length_of_isRead hfraction]
  rfl

theorem readParts_eq_wei_iff : readParts whole fraction = .wei w ↔
    (∀ c ∈ whole ++ fraction, IsRead c) ∧
      w.toNat = natural (digits (whole ++ fraction)) * 10 ^ (places - fraction.length) := by
  by_cases h : ∀ c ∈ whole ++ fraction, IsRead c
  · rw [readParts_of_isRead h, fitted_eq_wei_iff, and_iff_right h]
  · have hnone : readDigits (whole ++ fraction) = none :=
      Option.eq_none_iff_forall_ne_some.mpr fun n hn => h (readDigits_eq_some_iff.mp hn).1
    rw [readParts, hnone]
    exact iff_of_false nofun fun hread => h hread.1

/-- **What is read as an amount**: digits and underscores, of which there may be none, with one point
or none; behind the last place, when there are so many characters behind the point, anything. -/
theorem parse_eq_wei_iff : parse cs = .wei w ↔ ∃ whole fraction rest,
    Cut cs whole fraction rest ∧ (∀ c ∈ whole ++ fraction, IsRead c) ∧
      w.toNat = natural (digits (whole ++ fraction)) * 10 ^ (places - fraction.length) := by
  constructor
  · intro h
    rcases cut_or_splits cs with ⟨whole, fraction, rest, hcut⟩ | hsplits
    · rw [parse_of_cut hcut, readParts_eq_wei_iff] at h
      exact ⟨whole, fraction, rest, hcut, h⟩
    · cases (parse_of_splits hsplits).symm.trans h
  · rintro ⟨whole, fraction, rest, hcut, h⟩
    rw [parse_of_cut hcut]
    exact readParts_eq_wei_iff.mpr h

/-! ## Numerals -/

theorem digits_of_isDigit (h : ∀ c ∈ cs, c.isDigit) : digits cs = cs :=
  List.filter_eq_self.mpr fun c hc => by simpa using ne_underscore (h c hc)

/-- Digits behind the point are cut behind the last place. -/
theorem cut_point {ds fs : List Char} (hds : ∀ c ∈ ds, c.isDigit) (hfs : ∀ c ∈ fs, c.isDigit) :
    Cut (ds ++ '.' :: fs) ds (fs.take places) (fs.drop places) := by
  have hlength : Text.utf8Length (fs.take places) = min places fs.length := by
    rw [utf8Length_of_isRead fun c hc => .inl (hfs c (List.mem_of_mem_take hc)), List.length_take]
  have hcut : Cut (ds ++ '.' :: (fs.take places ++ fs.drop places)) ds (fs.take places)
      (fs.drop places) := by
    refine .point (Numeral.point_not_mem hds) (by omega) ?_
    rw [List.drop_eq_nil_iff]
    omega
  rwa [List.take_append_drop] at hcut

theorem exists_cut_of_denotes (h : Numeral.Denotes cs x) : ∃ ds front rest,
    (∀ c ∈ ds ++ front, c.isDigit) ∧ Cut cs ds front rest ∧
      ⌊x * 10 ^ places⌋₊ = natural (ds ++ front) * 10 ^ (places - front.length) := by
  obtain ⟨ds, fs, hds, hfs, -, rfl, hcs⟩ := h.exists_parts
  have hfront : ∀ c ∈ fs.take places, c.isDigit := fun c hc => hfs c (List.mem_of_mem_take hc)
  have hrest : ∀ c ∈ fs.drop places, c.isDigit := fun c hc => hfs c (List.mem_of_mem_drop hc)
  refine ⟨ds, fs.take places, fs.drop places, fun c hc => ?_, ?_, ?_⟩
  · exact (List.mem_append.mp hc).elim (hds c) (hfront c)
  · rcases hcs with rfl | ⟨rfl, rfl⟩
    · exact cut_point hds hfs
    · rw [List.take_nil, List.drop_nil]
      exact .whole (Numeral.point_not_mem hds)
  · rw [← Numeral.floor_scaled hrest (by simp) (by simp; omega), List.take_append_drop]

/-- **A numeral is read as its number in wei, rounded down**, when this fits 256 bits, and is refused
when it does not. -/
theorem parse_of_denotes (h : Numeral.Denotes cs x) : parse cs = fitted ⌊x * 10 ^ places⌋₊ := by
  obtain ⟨ds, front, rest, hdigits, hcut, hfloor⟩ := exists_cut_of_denotes h
  rw [parse_of_cut hcut, readParts_of_isRead fun c hc => .inl (hdigits c hc),
    digits_of_isDigit hdigits, hfloor]

end LocalChain.Ether

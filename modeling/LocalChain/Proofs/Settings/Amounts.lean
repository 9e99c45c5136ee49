import LocalChain.Proofs.Ether.Reading
import LocalChain.Proofs.Settings.Layering
import LocalChain.Proofs.Text.Trimming

/-!
# Amounts in settings

The text of an amount is read without the blanks around it, and what comes of it does not depend on the
field (`readAmount_cases`): an amount, a problem with the field and the text as it was given, or nothing
at all.

A numeral is read exactly (`amounts_of_numeral`), unless it is too large for 256 bits; then it is a
problem, and settings that use it are not right (`refused_of_too_large`).  Other texts are amounts too,
and `accepted_iff` says which.  When the last place of an amount lies inside a character there is no
answer, and no verdict on the settings that use the text (`verdict_unless_split`).
-/

namespace LocalChain

open Ether (places Cut Splits digits)
open Numeral (Denotes IsNumeral natural)

variable {field value : String} {w : Word} {cs : List Char} {x : ℚ}

/-! ## Single amounts -/

/-- The last place of the amount lies inside a character. -/
def SplitsAmount (value : String) : Prop :=
  (Text.trim value.toList).head? ≠ some '-' ∧ Splits (Text.trim value.toList)

theorem Ether.Splits.ne_nil (h : Splits cs) : cs ≠ [] := by
  obtain ⟨whole, front, c, rest, rfl, -, -, -⟩ := h
  simp

/-- Nothing with a sign in front is read. -/
theorem Ether.parse_ne_wei_of_minus (h : cs.head? = some '-') : parse cs ≠ .wei w := by
  intro hread
  obtain ⟨whole, fraction, rest, hcut, hparts, -⟩ := parse_eq_wei_iff.mp hread
  have hsign : ¬IsRead '-' := by simp [IsRead, show '-'.isDigit = false from rfl]
  cases hcut with
  | whole hwhole =>
    exact hsign (hparts '-' (by simpa using List.mem_of_mem_head? h))
  | point hwhole =>
    cases whole with
    | nil => simp at h
    | cons c whole =>
      obtain rfl : c = '-' := by simpa using h
      exact hsign (hparts '-' (by simp))

theorem readAmount_eq_ok_iff : readAmount field value = some (.ok w) ↔
    Text.trim value.toList ≠ [] ∧ Ether.parse (Text.trim value.toList) = .wei w := by
  rw [readAmount]
  generalize Text.trim value.toList = cs
  split
  · rename_i hrefused
    refine iff_of_false (by simp) ?_
    rintro ⟨hne, hread⟩
    rcases hrefused with hempty | hminus
    · exact hne (List.isEmpty_iff.mp hempty)
    · exact Ether.parse_ne_wei_of_minus hminus hread
  · rename_i hread
    have hne : cs ≠ [] := fun h => hread (.inl (List.isEmpty_iff.mpr h))
    rw [and_iff_right hne]
    cases Ether.parse cs <;> simp

theorem readAmount_eq_none_iff : readAmount field value = none ↔ SplitsAmount value := by
  rw [readAmount, SplitsAmount, ← Ether.parse_eq_splitCharacter_iff]
  generalize Text.trim value.toList = cs
  split
  · rename_i hrefused
    refine iff_of_false (by simp) ?_
    rintro ⟨hsign, hread⟩
    rcases hrefused with hempty | hminus
    · exact (Ether.parse_eq_splitCharacter_iff.mp hread).ne_nil (List.isEmpty_iff.mp hempty)
    · exact hsign hminus
  · rename_i hread
    rw [and_iff_right fun h => hread (.inr h)]
    cases Ether.parse cs <;> simp

/-- The one problem with a text that is no amount. -/
theorem eq_of_readAmount_eq_error {p : Problem} (h : readAmount field value = some (.error p)) :
    p = .invalidAmount field value := by
  rw [readAmount] at h
  split at h
  · cases h
    rfl
  · cases hread : Ether.parse (Text.trim value.toList) <;> rw [hread] at h <;> cases h
    rfl

/-- **There are three things that can come of a text**, the same in every field. -/
theorem readAmount_cases (value : String) :
    (∃ w, ∀ field, readAmount field value = some (.ok w)) ∨
    (∀ field, readAmount field value = some (.error (.invalidAmount field value))) ∨
    SplitsAmount value ∧ ∀ field, readAmount field value = none := by
  rcases hread : readAmount "" value with _ | p | w
  · have hsplits := readAmount_eq_none_iff.mp hread
    exact .inr (.inr ⟨hsplits, fun _ => readAmount_eq_none_iff.mpr hsplits⟩)
  · refine .inr (.inl fun field => ?_)
    rcases hfield : readAmount field value with _ | q | w
    · rw [readAmount_eq_none_iff.mpr (readAmount_eq_none_iff.mp hfield)] at hread
      cases hread
    · rw [eq_of_readAmount_eq_error hfield]
    · rw [readAmount_eq_ok_iff.mpr (readAmount_eq_ok_iff.mp hfield)] at hread
      cases hread
  · exact .inl ⟨w, fun _ => readAmount_eq_ok_iff.mpr (readAmount_eq_ok_iff.mp hread)⟩

/-! ## Numerals -/

/-- A numeral has no blanks. -/
theorem Numeral.Denotes.isBlank_eq_false (h : Denotes cs x) : ∀ c ∈ cs, Text.isBlank c = false := by
  intro c hc
  rcases (Numeral.isNumeral_iff.mpr ⟨x, h⟩).characters c hc with hdigit | rfl
  · obtain ⟨hlow, hhigh⟩ := isDigit_iff.mp hdigit
    have hlow : 48 ≤ c.toNat := hlow
    have hhigh : c.toNat ≤ 57 := hhigh
    simp [Text.isBlank]
    omega
  · rfl

/-- **A numeral is read exactly, or is a problem when it is too large.** -/
theorem readAmount_of_denotes (hvalue : Text.Padded cs value) (hx : Denotes cs x) (field : String) :
    readAmount field value = some (if ⌊x * 10 ^ places⌋₊ < 2 ^ 256
      then .ok (BitVec.ofNat 256 ⌊x * 10 ^ places⌋₊) else .error (.invalidAmount field value)) := by
  have htrim := Text.trim_of_padded hvalue (hx.isBlank_eq_false)
  have hread := Ether.parse_of_denotes hx
  rw [Ether.fitted] at hread
  split at hread
  · rename_i hfits
    rw [if_pos hfits, readAmount_eq_ok_iff, htrim]
    exact ⟨hx.ne_nil, hread⟩
  · rename_i hlarge
    rw [if_neg hlarge]
    rcases readAmount_cases value with ⟨w, hok⟩ | herror | ⟨⟨-, hsplits⟩, -⟩
    · have hwei := (readAmount_eq_ok_iff.mp (hok field)).2
      rw [htrim, hread] at hwei
      cases hwei
    · exact herror field
    · rw [← Ether.parse_eq_splitCharacter_iff, htrim, hread] at hsplits
      cases hsplits

/-! ## Settings -/

/-- The text is the value of a transfer, the supply of a token or the liquidity. -/
def Settings.Uses (c : Settings) (value : String) : Prop :=
  c.load.value = value ∨ (∃ t ∈ c.deploy.tokens, t.supply = value) ∨
    c.deploy.liquidityAmount = value

open Settings (amountProblems)

theorem amountProblems_eq_none_iff (field value : String) :
    amountProblems field value = none ↔ SplitsAmount value := by
  rw [amountProblems, Option.map_eq_none_iff, readAmount_eq_none_iff]

namespace TokenSettings

variable {ts : List TokenSettings} {i : Nat} {ps : List Problem}

theorem problemsFrom_eq_none_iff :
    problemsFrom i ts = none ↔ ∃ t ∈ ts, SplitsAmount t.supply := by
  induction ts generalizing i with
  | nil => simp [problemsFrom]
  | cons t ts ih =>
    rw [problemsFrom, problems, List.exists_mem_cons_iff, ← ih (i := i + 1),
      ← amountProblems_eq_none_iff ("deploy.tokens[" ++ toString i ++ "].supply")]
    cases amountProblems ("deploy.tokens[" ++ toString i ++ "].supply") t.supply <;>
      cases problemsFrom (i + 1) ts <;> simp

/-- What is wrong with a supply is among the problems of the tokens. -/
theorem subset_problemsFrom (h : problemsFrom i ts = some ps) {t : TokenSettings} (ht : t ∈ ts) :
    ∃ field qs, amountProblems field t.supply = some qs ∧ qs ⊆ ps := by
  induction ts generalizing i ps with
  | nil => cases ht
  | cons first ts ih =>
    rw [problemsFrom, problems] at h
    simp only [Option.bind_eq_bind, Option.bind_eq_some_iff, Option.pure_def,
      Option.some.injEq] at h
    obtain ⟨_, ⟨supply, hsupply, rfl⟩, others, hothers, rfl⟩ := h
    rcases List.mem_cons.mp ht with rfl | ht
    · exact ⟨_, supply, hsupply, fun p hp => by simp [hp]⟩
    · obtain ⟨field, qs, hqs, hsubset⟩ := ih hothers ht
      exact ⟨field, qs, hqs, fun p hp => by simp [hsubset hp]⟩

end TokenSettings

namespace Settings

variable {c : Settings} {ps : List Problem}

theorem load_problems_eq_none_iff {l : LoadSettings} :
    l.problems = none ↔ SplitsAmount l.value := by
  rw [LoadSettings.problems, ← amountProblems_eq_none_iff "load.value"]
  cases amountProblems "load.value" l.value <;> simp

theorem deploy_problems_eq_none_iff {d : DeploySettings} : d.problems = none ↔
    (∃ t ∈ d.tokens, SplitsAmount t.supply) ∨ SplitsAmount d.liquidityAmount := by
  rw [DeploySettings.problems, ← TokenSettings.problemsFrom_eq_none_iff (i := 0),
    ← amountProblems_eq_none_iff "deploy.liquidity_amount"]
  cases TokenSettings.problemsFrom 0 d.tokens <;>
    cases amountProblems "deploy.liquidity_amount" d.liquidityAmount <;> simp

/-- **There is no verdict on settings when an amount of theirs is split**, and only then. -/
theorem problems_eq_none_iff : c.problems = none ↔ ∃ value, c.Uses value ∧ SplitsAmount value := by
  have hparts : c.problems = none ↔ c.load.problems = none ∨ c.deploy.problems = none := by
    rw [problems]
    cases c.load.problems <;> cases c.deploy.problems <;> simp
  rw [hparts, load_problems_eq_none_iff, deploy_problems_eq_none_iff]
  constructor
  · rintro (h | ⟨t, ht, h⟩ | h)
    · exact ⟨_, .inl rfl, h⟩
    · exact ⟨_, .inr (.inl ⟨t, ht, rfl⟩), h⟩
    · exact ⟨_, .inr (.inr rfl), h⟩
  · rintro ⟨_, rfl | ⟨t, ht, rfl⟩ | rfl, h⟩
    · exact .inl h
    · exact .inr (.inl ⟨t, ht, h⟩)
    · exact .inr (.inr h)

/-- What is wrong with an amount is among the problems of the settings. -/
theorem Uses.subset_problems (huses : c.Uses value) (h : c.problems = some ps) :
    ∃ field qs, amountProblems field value = some qs ∧ qs ⊆ ps := by
  rw [problems, LoadSettings.problems, DeploySettings.problems] at h
  simp only [Option.bind_eq_bind, Option.bind_eq_some_iff, Option.pure_def,
    Option.some.injEq] at h
  obtain ⟨_, ⟨load, hload, rfl⟩, _, ⟨tokens, htokens, liquidity, hliquidity, rfl⟩, rfl⟩ := h
  rcases huses with rfl | ⟨t, ht, rfl⟩ | rfl
  · exact ⟨_, load, hload, fun p hp => by simp [hp]⟩
  · obtain ⟨field, qs, hqs, hsubset⟩ := TokenSettings.subset_problemsFrom htokens ht
    exact ⟨field, qs, hqs, fun p hp => by simp [hsubset hp]⟩
  · exact ⟨_, liquidity, hliquidity, fun p hp => by simp [hp]⟩

/-- A text that is no amount is reported where it is used. -/
theorem Uses.reported (huses : c.Uses value)
    (hvalue : ∀ field, readAmount field value = some (.error (.invalidAmount field value)))
    (h : c.problems = some ps) : ∃ field, .invalidAmount field value ∈ ps := by
  obtain ⟨field, qs, hqs, hsubset⟩ := huses.subset_problems h
  rw [amountProblems, hvalue field] at hqs
  obtain rfl := Option.some.inj hqs
  exact ⟨field, hsubset List.mem_cons_self⟩

end Settings

/-! ## Numerals are read exactly -/

/-- **Amounts are read exactly.**  Every numeral of a number is read as the number in wei, rounded
down, whatever its digits, its zeros and the blanks around it, and whatever the field. -/
theorem amounts_of_numeral (x : ℚ) (hfits : ⌊x * 10 ^ 18⌋₊ < 2 ^ 256) :
    ∃ w : Word, w.toNat = ⌊x * 10 ^ 18⌋₊ ∧ ∀ field value cs, Text.Padded cs value →
      Denotes cs x → readAmount field value = some (.ok w) := by
  refine ⟨BitVec.ofNat 256 ⌊x * 10 ^ 18⌋₊, ?_, fun field value cs hvalue hx => ?_⟩
  · rw [BitVec.toNat_ofNat, Nat.mod_eq_of_lt hfits]
  · rw [readAmount_of_denotes hvalue hx field]
    exact congrArg some (if_pos hfits)

/-- Two numerals of one number, which has more places than an ether. -/
theorem amounts_of_long_numerals :
    ⌊(123456789012345678999 / 10 ^ 20 : ℚ) * 10 ^ 18⌋₊ < 2 ^ 256 ∧
    ∃ w : Word, w.toNat = 1234567890123456789 ∧
      readAmount "load.value" "1.23456789012345678999" = some (.ok w) ∧
      readAmount "deploy.liquidity_amount" " 001.2345678901234567899900" = some (.ok w) := by
  have hfloor : ⌊(123456789012345678999 / 10 ^ 20 : ℚ) * 10 ^ 18⌋₊ = 1234567890123456789 := by
    rw [Nat.floor_eq_iff (by norm_num)]
    norm_num
  have hfits : ⌊(123456789012345678999 / 10 ^ 20 : ℚ) * 10 ^ 18⌋₊ < 2 ^ 256 :=
    hfloor.trans_lt (by norm_num)
  have hshort : Denotes "1.23456789012345678999".toList (123456789012345678999 / 10 ^ 20) :=
    .of_natural "1".toList "23456789012345678999".toList (by decide) (by decide)
      (by decide +kernel)
  have hlong : Denotes "001.2345678901234567899900".toList (123456789012345678999 / 10 ^ 20) := by
    have h := Denotes.of_natural "001".toList "2345678901234567899900".toList
      (n := 12345678901234567899900) (by decide) (by decide) (by decide +kernel)
    have hplaces : "2345678901234567899900".toList.length = 22 := by decide
    have hx : ((12345678901234567899900 : Nat) : ℚ) / 10 ^ 22 =
        123456789012345678999 / 10 ^ 20 := by norm_num
    rwa [hplaces, hx] at h
  obtain ⟨w, hw, hread⟩ := amounts_of_numeral _ hfits
  exact ⟨hfits, w, hw.trans hfloor, hread _ _ _ (Text.padded_self _) hshort,
    hread _ _ _ ⟨[' '], [], rfl, by simp [Text.isBlank], by simp⟩ hlong⟩

/-- **Amounts that are too large are refused.** -/
theorem refused_of_too_large (field : String) (hvalue : Text.Padded cs value) (hx : Denotes cs x)
    (hlarge : 2 ^ 256 ≤ ⌊x * 10 ^ 18⌋₊) :
    readAmount field value = some (.error (.invalidAmount field value)) ∧
    ∀ c : Settings, c.Uses value →
      (∀ ps, c.problems = some ps → ∃ field, .invalidAmount field value ∈ ps) ∧
      c.problems ≠ some [] ∧
      ∀ files path key o, Settings.resolve files path key o ≠ some (.ok c) := by
  have hrefused (field : String) :
      readAmount field value = some (.error (.invalidAmount field value)) := by
    rw [readAmount_of_denotes hvalue hx field]
    exact congrArg some (if_neg (Nat.not_lt.mpr hlarge))
  refine ⟨hrefused field, fun c huses => ?_⟩
  have hreported (ps : List Problem) (h : c.problems = some ps) :
      ∃ field, .invalidAmount field value ∈ ps := huses.reported hrefused h
  have hproblems : c.problems ≠ some [] := fun h =>
    (hreported [] h).elim fun _ hp => List.not_mem_nil hp
  refine ⟨hreported, hproblems, fun files path key o hresolve => ?_⟩
  obtain ⟨_, _, _, h⟩ := Settings.resolve_eq_ok_iff.mp hresolve
  exact hproblems h

/-- The first amount that is too large: 2^256 wei. -/
theorem refused_of_first_too_large :
    2 ^ 256 ≤ ⌊(2 ^ 256 / 10 ^ 18 : ℚ) * 10 ^ 18⌋₊ ∧
    readAmount "load.value"
        "115792089237316195423570985008687907853269984665640564039457.584007913129639936" =
      some (.error (.invalidAmount "load.value"
        "115792089237316195423570985008687907853269984665640564039457.584007913129639936")) := by
  have hlarge : 2 ^ 256 ≤ ⌊(2 ^ 256 / 10 ^ 18 : ℚ) * 10 ^ 18⌋₊ := by
    rw [div_mul_cancel₀ _ (by norm_num)]
    exact Nat.le_floor (by norm_num)
  have hx : Denotes
      "115792089237316195423570985008687907853269984665640564039457.584007913129639936".toList
      (2 ^ 256 / 10 ^ 18) := by
    have hcut :
        "115792089237316195423570985008687907853269984665640564039457.584007913129639936".toList =
          "115792089237316195423570985008687907853269984665640564039457".toList ++
            '.' :: "584007913129639936".toList := by decide
    have h := Denotes.of_natural
      "115792089237316195423570985008687907853269984665640564039457".toList
      "584007913129639936".toList (n := 2 ^ 256) (by decide) (by decide)
      (by decide +kernel)
    rw [Nat.cast_pow] at h
    rw [hcut]
    exact h
  exact ⟨hlarge, (refused_of_too_large "load.value" (Text.padded_self _) hx hlarge).1⟩

/-! ## What else is read -/

theorem forall_isDigit_iff (h : ∀ c ∈ cs, Ether.IsRead c) : (∀ c ∈ cs, c.isDigit) ↔ '_' ∉ cs := by
  constructor
  · exact fun hdigits hmem => absurd (hdigits _ hmem) (by decide)
  · exact fun hmem c hc => (h c hc).resolve_right fun heq => hmem (heq ▸ hc)

/-- **What is read is a numeral but for three things**: a digit is missing, there are underscores, or
something else than digits is behind the last place. -/
theorem isNumeral_of_cut {whole fraction rest : List Char} (hcut : Cut cs whole fraction rest)
    (hparts : ∀ c ∈ whole ++ fraction, Ether.IsRead c) : IsNumeral cs ↔
      (∃ c ∈ whole ++ fraction, c.isDigit) ∧ '_' ∉ whole ++ fraction ∧ ∀ c ∈ rest, c.isDigit := by
  have hsome (hdigits : ∀ c ∈ whole ++ fraction, c.isDigit) :
      (∃ c ∈ whole ++ fraction, c.isDigit) ↔ whole ++ fraction ≠ [] := by
    constructor
    · rintro ⟨c, hc, -⟩
      exact List.ne_nil_of_mem hc
    · intro hne
      obtain ⟨c, hc⟩ := List.exists_mem_of_ne_nil _ hne
      exact ⟨c, hc, hdigits c hc⟩
  rw [← forall_isDigit_iff hparts]
  cases hcut with
  | whole hwhole =>
    rw [List.append_nil] at hsome ⊢
    rw [Numeral.isNumeral_iff_of_no_point hwhole]
    constructor
    · rintro ⟨hdigits, hne⟩
      exact ⟨(hsome hdigits).mpr hne, hdigits, by simp⟩
    · rintro ⟨hdigit, hdigits, -⟩
      exact ⟨hdigits, (hsome hdigits).mp hdigit⟩
  | point hwhole hlength hrest =>
    rw [Numeral.isNumeral_point_iff hwhole, ← List.append_assoc]
    constructor
    · rintro ⟨hall, hne⟩
      have hdigits : ∀ c ∈ whole ++ fraction, c.isDigit := fun c hc =>
        hall c (List.mem_append_left _ hc)
      refine ⟨(hsome hdigits).mpr fun hnone => ?_, hdigits, fun c hc =>
        hall c (List.mem_append_right _ hc)⟩
      -- there is nothing behind the last place when there is nothing as far as it
      obtain ⟨rfl, rfl⟩ := List.append_eq_nil_iff.mp hnone
      rcases hrest with rfl | hrest
      · exact hne rfl
      · cases hrest
    · rintro ⟨hdigit, hdigits, hbehind⟩
      exact ⟨fun c hc => (List.mem_append.mp hc).elim (hdigits c) (hbehind c),
        List.append_ne_nil_of_left_ne_nil ((hsome hdigits).mp hdigit) rest⟩

/-- **What is read as an amount.**  There is something but blanks, and before the point and behind it,
as far as the last place, there are digits and underscores alone.  The digits are what is read; each
underscore behind the point takes up a place, and what is behind the last place is not looked at.

So an amount is a numeral unless it has no digit, or an underscore, or something else than digits behind
the last place.  Settings without problems have no other amounts. -/
theorem accepted_iff (field value : String) :
    (∀ w, readAmount field value = some (.ok w) ↔
      Text.trim value.toList ≠ [] ∧ ∃ whole fraction rest,
        Cut (Text.trim value.toList) whole fraction rest ∧
        (∀ c ∈ whole ++ fraction, c.isDigit ∨ c = '_') ∧
        w.toNat = natural (digits (whole ++ fraction)) * 10 ^ (18 - fraction.length)) ∧
    (∀ whole fraction rest, Cut (Text.trim value.toList) whole fraction rest →
      (∀ c ∈ whole ++ fraction, c.isDigit ∨ c = '_') →
      (IsNumeral (Text.trim value.toList) ↔ (∃ c ∈ whole ++ fraction, c.isDigit) ∧
        '_' ∉ whole ++ fraction ∧ ∀ c ∈ rest, c.isDigit)) ∧
    ∀ c : Settings, c.Uses value → c.problems = some [] →
      ∃ w, readAmount field value = some (.ok w) := by
  refine ⟨fun w => ?_, fun _ _ _ => isNumeral_of_cut, fun c huses hproblems => ?_⟩
  · rw [readAmount_eq_ok_iff, Ether.parse_eq_wei_iff]
    rfl
  · rcases readAmount_cases value with ⟨w, hok⟩ | hrefused | ⟨hsplits, -⟩
    · exact ⟨w, hok field⟩
    · obtain ⟨_, hp⟩ := huses.reported hrefused hproblems
      exact absurd hp List.not_mem_nil
    · rw [Settings.problems_eq_none_iff.mpr ⟨value, huses, hsplits⟩] at hproblems
      cases hproblems

/-- A point alone is read as nothing, an underscore behind the point makes an amount ten times smaller,
and any letter may stand behind the last place. -/
theorem accepts_other_texts :
    readAmount "load.value" "." = some (.ok 0) ∧
    readAmount "load.value" "1_000" = some (.ok 1000000000000000000000) ∧
    readAmount "load.value" "1._5" = some (.ok 150000000000000000) ∧
    readAmount "load.value" "1.0000000000000000000a" = some (.ok 1000000000000000000) ∧
    ∀ value ∈ [".", "1_000", "1._5", "1.0000000000000000000a"],
      ¬IsNumeral (Text.trim value.toList) := by
  decide +kernel

/-! ## Texts without an answer -/

/-- **There is a verdict unless the last place of an amount lies inside a character.**  A text is an
amount, or a problem with its field that quotes it as it was given; nothing is said of it when it is
split, and then nothing of the settings that use it.  No text of one-byte characters is split. -/
theorem verdict_unless_split (field value : String) (c : Settings) (files : Files)
    (path key : Option String) (o : Overrides) :
    (readAmount field value = none ↔ SplitsAmount value) ∧
    (∀ p, readAmount field value = some (.error p) → p = .invalidAmount field value) ∧
    (c.problems = none ↔ ∃ value, c.Uses value ∧ SplitsAmount value) ∧
    (Settings.resolve files path key o = none ↔
      ∃ base c, Settings.Base files path base ∧ Settings.Layered base key o c ∧
        ∃ value, c.Uses value ∧ SplitsAmount value) ∧
    ((∀ d ∈ value.toList, d.utf8Size = 1) → ¬SplitsAmount value) := by
  refine ⟨readAmount_eq_none_iff, fun p => eq_of_readAmount_eq_error,
    Settings.problems_eq_none_iff, ?_, fun hsize hsplits => ?_⟩
  · simp only [Settings.resolve_eq_none_iff, Settings.problems_eq_none_iff]
  · obtain ⟨-, whole, front, d, rest, htrim, -, hlt, hgt⟩ := hsplits
    have hmem : d ∈ Text.trim value.toList := by simp [htrim]
    have hone := hsize d (Text.mem_of_mem_strip hmem)
    omega

/-- Seventeen places and a character of four bytes. -/
def splitText : String :=
  "0.00000000000000000😀"

/-- There is no answer on an amount, and no verdict on the settings with it. -/
theorem no_verdict_on_split_text :
    readAmount "load.value" splitText = none ∧
    ({ load := { value := splitText } } : Settings).problems = none ∧
    Settings.resolve Files.empty none none { value := some splitText } = none := by
  have hsplits : SplitsAmount splitText :=
    ⟨by decide, ['0'], List.replicate 17 '0', '😀', [], by decide, by decide, by decide, by decide⟩
  have hproblems (c : Settings) (hc : c.load.value = splitText) : c.problems = none :=
    Settings.problems_eq_none_iff.mpr ⟨splitText, .inl hc, hsplits⟩
  refine ⟨readAmount_eq_none_iff.mpr hsplits, hproblems _ rfl, ?_⟩
  exact Settings.resolve_eq_none_iff.mpr
    ⟨{}, _, rfl, Settings.layered_override .., hproblems _ rfl⟩

end LocalChain

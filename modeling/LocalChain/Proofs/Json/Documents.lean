import LocalChain.Json.Parser
import LocalChain.Proofs.Json.Literals

/-!
# Documents read back

A value that is made of words, integers and texts (`Json.isPlain`) is read back from the text that
has one item or member a line (`Json.parse_pretty`).

The readers are given fuel, which bounds nesting and neighbours together.  `ReadsBack` says what
they read with some fuel, before any characters that delimit it: a value, the items of an array and
the members of an object, each from its written form.  One step of the readers takes this from
`fuel` to `fuel + 1`.
-/

namespace LocalChain.Json

mutual

/-- The value is made of words, integers and texts. -/
def isPlain : Json → Bool
  | decimal _ | unpaired _ | cut _ => false
  | arr items => arePlain items
  | obj members => membersPlain members
  | _ => true

/-- All of the items are plain. -/
def arePlain : List Json → Bool
  | [] => true
  | j :: js => isPlain j && arePlain js

/-- The values of all of the members are plain. -/
def membersPlain : List (String × Json) → Bool
  | [] => true
  | (_, j) :: ms => isPlain j && membersPlain ms

end

namespace Parser

/-! ## Space between tokens -/

theorem skip_cons {c : Char} (hc : isSpace c = false) (cs : List Char) : skip (c :: cs) = c :: cs :=
  List.dropWhile_cons_of_neg (by simp [hc])

theorem skip_newline (level : Nat) (cs : List Char) : skip (newline level ++ cs) = skip cs := by
  have hspaces : ∀ c ∈ newline level, isSpace c = true := by
    intro c hc
    rcases List.mem_cons.mp hc with rfl | hc
    · rfl
    · rw [List.eq_of_mem_replicate hc]
      rfl
  exact List.dropWhile_append_of_pos hspaces

theorem value_newline (fuel level : Nat) (cs : List Char) :
    value fuel (newline level ++ cs) = value fuel cs := by
  cases fuel with
  | zero => rfl
  | succ fuel => rw [value, value, skip_newline]

theorem value_blank (fuel : Nat) (cs : List Char) : value fuel (' ' :: cs) = value fuel cs := by
  cases fuel with
  | zero => rfl
  | succ fuel => rw [value, value]; rfl

theorem items_newline (fuel level : Nat) (cs : List Char) :
    items fuel (newline level ++ cs) = items fuel cs := by
  cases fuel with
  | zero => rfl
  | succ fuel => rw [items, items, value_newline, skip_newline]

theorem members_newline (fuel level : Nat) (cs : List Char) :
    members fuel (newline level ++ cs) = members fuel cs := by
  cases fuel with
  | zero => rfl
  | succ fuel => rw [members, members, skip_newline]

/-! ## Scalars -/

/-- What begins with no other kind of value is a number. -/
theorem value_number {c : Char} (hspace : isSpace c = false)
    (hother : c ∉ ['n', 't', 'f', '"', '[', '\x7b']) (fuel : Nat) (cs : List Char) :
    value (fuel + 1) (c :: cs) = number (c :: cs) := by
  simp only [List.mem_cons, not_or] at hother
  obtain ⟨hnull, htrue, hfalse, hquote, hbracket, hbrace, -⟩ := hother
  rw [value, skip_cons hspace]
  split
  · exact (hnull (List.cons.inj ‹_›).1).elim
  · exact (htrue (List.cons.inj ‹_›).1).elim
  · exact (hfalse (List.cons.inj ‹_›).1).elim
  · exact (hquote (List.cons.inj ‹_›).1).elim
  · exact (hbracket (List.cons.inj ‹_›).1).elim
  · exact (hbrace (List.cons.inj ‹_›).1).elim
  · rfl

/-- An integer begins as no other kind of value does, nor as the end of an array. -/
theorem integer_begins (n : Int) :
    ∃ c cs, integer n = c :: cs ∧ isSpace c = false ∧ c ≠ ']' ∧
      c ∉ ['n', 't', 'f', '"', '[', '\x7b'] := by
  obtain ⟨c, cs, hinteger, ⟨-, rfl⟩ | ⟨-, d, hd, rfl⟩⟩ := integer_eq_cons n
  · exact ⟨_, _, hinteger, by decide⟩
  · have hall : ∀ e ∈ List.range 10, isSpace (Digits.char e) = false ∧ Digits.char e ≠ ']' ∧
        Digits.char e ∉ ['n', 't', 'f', '"', '[', '\x7b'] := by decide
    exact ⟨_, _, hinteger, hall d (List.mem_range.mpr hd)⟩

section Scalars

variable {rest : List Char}

theorem value_integer (n : Int) (hrest : Delimits rest) (fuel : Nat) :
    value (fuel + 1) (integer n ++ rest) = some (.int n, rest) := by
  obtain ⟨c, cs, hinteger, hspace, -, hother⟩ := integer_begins n
  rw [← number_integer n hrest, hinteger]
  exact value_number hspace hother fuel _

theorem value_literal (s : String) (fuel : Nat) :
    value (fuel + 1) (literal s ++ rest) = some (.str s, rest) := by
  have htext := text_literal s rest
  rw [literal, List.cons_append, List.cons_append, value, skip_cons rfl]
  simp only [List.append_assoc, List.singleton_append]
  rw [htext]
  rfl

end Scalars

/-! ## Items and members one by one -/

section Parts

variable {j : Json} {js : List Json} {key : String} {ms : List (String × Json)} {fuel : Nat}
  {cs rest tail : List Char}

/-- The last item of an array. -/
theorem items_last (hvalue : value fuel cs = some (j, rest)) (hend : skip rest = ']' :: tail) :
    items (fuel + 1) cs = some ([j], false, tail) := by
  simp only [items, hvalue, hend]

/-- An item that is followed by others. -/
theorem items_next (hvalue : value fuel cs = some (j, ',' :: rest))
    (hitems : items fuel rest = some (js, false, tail)) :
    items (fuel + 1) cs = some (j :: js, false, tail) := by
  have hcomma : skip (',' :: rest) = ',' :: rest := skip_cons rfl rest
  simp only [items, hvalue, hcomma, hitems]
  rfl

/-- A key is read up to the value behind it. -/
theorem members_key (key : String) (fuel : Nat) (cs : List Char) :
    members (fuel + 1) (literal key ++ ':' :: cs) = (do
      let (j, rest) ← value fuel cs
      match skip rest with
      | ',' :: rest => do
        let (ms, rest) ← members fuel rest
        return ((do return (key, j) :: (← ms)), rest)
      | '\x7d' :: rest => return (some [(key, j)], rest)
      | _ => none) := by
  have hquote : skip (literal key ++ ':' :: cs) = literal key ++ ':' :: cs := skip_cons rfl _
  have htext := text_literal key (':' :: cs)
  have hcolon : skip (':' :: cs) = ':' :: cs := skip_cons rfl _
  rw [members, hquote, literal, List.cons_append, List.cons_append, List.append_assoc,
    List.singleton_append]
  simp only [htext, hcolon, Option.bind_eq_bind, Option.bind_some]
  rfl

/-- The last member of an object. -/
theorem members_last (hvalue : value fuel cs = some (j, rest)) (hend : skip rest = '\x7d' :: tail) :
    members (fuel + 1) (literal key ++ ':' :: cs) = some (some [(key, j)], tail) := by
  simp only [members_key, hvalue, hend, Option.bind_eq_bind, Option.bind_some]
  rfl

/-- A member that is followed by others. -/
theorem members_next (hvalue : value fuel cs = some (j, ',' :: rest))
    (hmembers : members fuel rest = some (some ms, tail)) :
    members (fuel + 1) (literal key ++ ':' :: cs) = some (some ((key, j) :: ms), tail) := by
  have hcomma : skip (',' :: rest) = ',' :: rest := skip_cons rfl rest
  simp only [members_key, hvalue, hcomma, hmembers, Option.bind_eq_bind, Option.bind_some]
  rfl

end Parts

/-! ## Written forms -/

section Written

variable (level : Nat) (j : Json) (js : List Json) (key : String) (ms : List (String × Json))
  (rest : List Char)

theorem pretty_array :
    pretty level (arr (j :: js)) ++ rest =
      '[' :: newline (level + 1) ++ (pretty (level + 1) j ++ (prettyItems level js ++ rest)) := by
  simp [pretty]

theorem prettyItems_cons :
    prettyItems level (j :: js) ++ rest =
      ',' :: (newline (level + 1) ++ (pretty (level + 1) j ++ (prettyItems level js ++ rest))) := by
  simp [prettyItems]

theorem pretty_object :
    pretty level (obj ((key, j) :: ms)) ++ rest =
      '\x7b' :: newline (level + 1) ++ (literal key ++
        ':' :: ' ' :: (pretty (level + 1) j ++ (prettyMembers level ms ++ rest))) := by
  simp [pretty]

theorem prettyMembers_cons :
    prettyMembers level ((key, j) :: ms) ++ rest =
      ',' :: (newline (level + 1) ++ (literal key ++
        ':' :: ' ' :: (pretty (level + 1) j ++ (prettyMembers level ms ++ rest)))) := by
  simp [prettyMembers]

theorem delimits_prettyItems : Delimits (prettyItems level js ++ rest) := by
  cases js with
  | nil => exact (by decide : ¬('0' ≤ '\n' ∧ '\n' ≤ '9') ∧ '\n' ≠ '.' ∧ '\n' ≠ 'e' ∧ '\n' ≠ 'E')
  | cons => exact (by decide : ¬('0' ≤ ',' ∧ ',' ≤ '9') ∧ ',' ≠ '.' ∧ ',' ≠ 'e' ∧ ',' ≠ 'E')

theorem delimits_prettyMembers : Delimits (prettyMembers level ms ++ rest) := by
  cases ms with
  | nil => exact (by decide : ¬('0' ≤ '\n' ∧ '\n' ≤ '9') ∧ '\n' ≠ '.' ∧ '\n' ≠ 'e' ∧ '\n' ≠ 'E')
  | cons => exact (by decide : ¬('0' ≤ ',' ∧ ',' ≤ '9') ∧ ',' ≠ '.' ∧ ',' ≠ 'e' ∧ ',' ≠ 'E')

end Written

/-- A written value begins neither with space nor as the end of an array. -/
theorem pretty_begins {j : Json} (hj : j.isPlain) (level : Nat) :
    ∃ c cs, pretty level j = c :: cs ∧ isSpace c = false ∧ c ≠ ']' := by
  cases j with
  | null | str => exact ⟨_, _, rfl, by decide⟩
  | bool b => cases b <;> exact ⟨_, _, rfl, by decide⟩
  | int n =>
    obtain ⟨c, cs, hinteger, hspace, hbracket, -⟩ := integer_begins n
    exact ⟨c, cs, hinteger, hspace, hbracket⟩
  | arr items => cases items <;> exact ⟨_, _, rfl, by decide⟩
  | obj members => cases members <;> exact ⟨_, _, rfl, by decide⟩
  | decimal | unpaired | cut => cases hj

/-- An array is its items after its bracket. -/
theorem value_array {j : Json} (hj : j.isPlain) (fuel level : Nat) (cs : List Char) :
    value (fuel + 1) ('[' :: newline level ++ (pretty level j ++ cs)) =
      (items fuel (pretty level j ++ cs)).map fun (items, isCut, rest) =>
        (if isCut then .cut items else .arr items, rest) := by
  obtain ⟨c, text, hpretty, hspace, hbracket⟩ := pretty_begins hj level
  have hskip : skip (newline level ++ (pretty level j ++ cs)) = pretty level j ++ cs := by
    rw [skip_newline, hpretty]
    exact skip_cons hspace _
  rw [List.cons_append, value, skip_cons rfl]
  simp only [hskip]
  split
  · rename_i heq
    rw [hpretty] at heq
    exact (hbracket (List.cons.inj heq).1).elim
  · cases items fuel (pretty level j ++ cs) <;> rfl

/-- An object is its members after its brace. -/
theorem value_object (key : String) (fuel level : Nat) (cs : List Char) :
    value (fuel + 1) ('\x7b' :: newline level ++ (literal key ++ cs)) =
      (members fuel (literal key ++ cs)).map fun (members, rest) =>
        (members.elim (.unpaired false) .obj, rest) := by
  have hskip : skip (newline level ++ (literal key ++ cs)) = literal key ++ cs := by
    rw [skip_newline]
    exact skip_cons rfl _
  rw [List.cons_append, value, skip_cons rfl]
  simp only [hskip]
  show (do
    let (members, rest) ← members fuel (literal key ++ cs)
    return (members.elim (Json.unpaired false) Json.obj, rest)) = _
  cases members fuel (literal key ++ cs) <;> rfl

/-! ## One step of the readers -/

/-- With this fuel, what is written is read back: a value, the items of an array and the members of
an object. -/
structure ReadsBack (fuel : Nat) : Prop where
  value {j : Json} {level : Nat} {rest : List Char} (hj : j.isPlain)
    (hfuel : (pretty level j).length < fuel) (hrest : Delimits rest) :
    value fuel (pretty level j ++ rest) = some (j, rest)
  items {j : Json} {js : List Json} {level : Nat} {rest : List Char} (hjs : arePlain (j :: js))
    (hfuel : (pretty (level + 1) j).length + (prettyItems level js).length ≤ fuel) :
    items fuel (pretty (level + 1) j ++ (prettyItems level js ++ rest)) =
      some (j :: js, false, rest)
  members {key : String} {j : Json} {ms : List (String × Json)} {level : Nat} {rest : List Char}
    (hms : membersPlain ((key, j) :: ms))
    (hfuel : (pretty (level + 1) j).length + (prettyMembers level ms).length ≤ fuel) :
    members fuel (literal key ++
        ':' :: ' ' :: (pretty (level + 1) j ++ (prettyMembers level ms ++ rest))) =
      some (some ((key, j) :: ms), rest)

namespace ReadsBack

variable {fuel level : Nat} {rest : List Char}

theorem value_succ (ih : ReadsBack fuel) {j : Json} (hj : j.isPlain)
    (hfuel : (pretty level j).length < fuel + 1) (hrest : Delimits rest) :
    Parser.value (fuel + 1) (pretty level j ++ rest) = some (j, rest) := by
  match j with
  | null => rfl
  | bool true => rfl
  | bool false => rfl
  | int n => exact value_integer n hrest fuel
  | str s => exact value_literal s fuel
  | arr [] => rfl
  | arr (j :: js) =>
    have hlength : (pretty (level + 1) j).length + (prettyItems level js).length ≤ fuel := by
      simp [pretty] at hfuel
      omega
    have hfirst : j.isPlain ∧ arePlain js := by
      rwa [isPlain, arePlain, Bool.and_eq_true] at hj
    rw [pretty_array, value_array hfirst.1, ih.items hj hlength]
    rfl
  | obj [] => rfl
  | obj ((key, j) :: ms) =>
    have hlength : (pretty (level + 1) j).length + (prettyMembers level ms).length ≤ fuel := by
      simp [pretty] at hfuel
      omega
    rw [pretty_object, value_object, ih.members hj hlength]
    rfl
  | decimal _ | unpaired _ | cut _ => cases hj

theorem items_succ (ih : ReadsBack fuel) {j : Json} {js : List Json} (hjs : arePlain (j :: js))
    (hfuel : (pretty (level + 1) j).length + (prettyItems level js).length ≤ fuel + 1) :
    Parser.items (fuel + 1) (pretty (level + 1) j ++ (prettyItems level js ++ rest)) =
      some (j :: js, false, rest) := by
  rw [arePlain, Bool.and_eq_true] at hjs
  -- the end of the array alone takes two characters
  have hmore : 1 < (prettyItems level js).length := by cases js <;> simp [prettyItems, newline]
  have hvalue : Parser.value fuel (pretty (level + 1) j ++ (prettyItems level js ++ rest)) =
      some (j, prettyItems level js ++ rest) :=
    ih.value hjs.1 (by omega) (delimits_prettyItems level js rest)
  cases js with
  | nil =>
    refine items_last hvalue ?_
    rw [prettyItems, List.append_assoc, skip_newline]
    rfl
  | cons k js =>
    have hlength : (pretty (level + 1) k).length + (prettyItems level js).length ≤ fuel := by
      simp [prettyItems] at hfuel
      omega
    rw [prettyItems_cons] at hvalue ⊢
    refine items_next hvalue ?_
    rw [items_newline, ih.items hjs.2 hlength]

theorem members_succ (ih : ReadsBack fuel) {key : String} {j : Json} {ms : List (String × Json)}
    (hms : membersPlain ((key, j) :: ms))
    (hfuel : (pretty (level + 1) j).length + (prettyMembers level ms).length ≤ fuel + 1) :
    Parser.members (fuel + 1) (literal key ++
        ':' :: ' ' :: (pretty (level + 1) j ++ (prettyMembers level ms ++ rest))) =
      some (some ((key, j) :: ms), rest) := by
  rw [membersPlain, Bool.and_eq_true] at hms
  have hmore : 1 < (prettyMembers level ms).length := by
    cases ms <;> simp [prettyMembers, newline]
  have hvalue : Parser.value fuel (' ' :: (pretty (level + 1) j ++ (prettyMembers level ms ++ rest))) =
      some (j, prettyMembers level ms ++ rest) := by
    rw [value_blank]
    exact ih.value hms.1 (by omega) (delimits_prettyMembers level ms rest)
  cases ms with
  | nil =>
    refine members_last hvalue ?_
    rw [prettyMembers, List.append_assoc, skip_newline]
    rfl
  | cons m ms =>
    have hlength : (pretty (level + 1) m.2).length + (prettyMembers level ms).length ≤ fuel := by
      simp [prettyMembers] at hfuel
      omega
    rw [prettyMembers_cons] at hvalue ⊢
    refine members_next hvalue ?_
    rw [members_newline, ih.members hms.2 hlength]

end ReadsBack

/-- **What is written is read back** with any fuel that the text does not exhaust. -/
theorem readsBack (fuel : Nat) : ReadsBack fuel := by
  induction fuel with
  | zero =>
    have hitems (level : Nat) (js : List Json) : (prettyItems level js).length ≠ 0 := by
      cases js <;> simp [prettyItems]
    have hmembers (level : Nat) (ms : List (String × Json)) :
        (prettyMembers level ms).length ≠ 0 := by
      cases ms <;> simp [prettyMembers]
    refine ⟨fun _ hfuel _ => ?_, fun _ hfuel => ?_, fun _ hfuel => ?_⟩
    · exact absurd hfuel (Nat.not_lt_zero _)
    · exact absurd (Nat.add_eq_zero_iff.mp (Nat.le_zero.mp hfuel)).2 (hitems _ _)
    · exact absurd (Nat.add_eq_zero_iff.mp (Nat.le_zero.mp hfuel)).2 (hmembers _ _)
  | succ fuel ih => exact ⟨ih.value_succ, ih.items_succ, ih.members_succ⟩

end Parser

/-! ## Whole texts -/

mutual

theorem isWhole_of_isPlain (j : Json) (hj : j.isPlain) : j.isWhole := by
  match j with
  | null | bool _ | int _ | str _ => rfl
  | arr items => exact areWhole_of_arePlain items hj
  | obj members => exact membersWhole_of_membersPlain members hj
  | decimal _ | unpaired _ | cut _ => cases hj

theorem areWhole_of_arePlain (js : List Json) (hjs : arePlain js) : areWhole js := by
  match js with
  | [] => rfl
  | j :: js =>
    rw [arePlain, Bool.and_eq_true] at hjs
    rw [areWhole, isWhole_of_isPlain j hjs.1, areWhole_of_arePlain js hjs.2]
    rfl

theorem membersWhole_of_membersPlain (ms : List (String × Json)) (hms : membersPlain ms) :
    membersWhole ms := by
  match ms with
  | [] => rfl
  | (_, j) :: ms =>
    rw [membersPlain, Bool.and_eq_true] at hms
    rw [membersWhole, isWhole_of_isPlain j hms.1, membersWhole_of_membersPlain ms hms.2]
    rfl

end

/-- **A plain value is read back from its text.** -/
theorem parseLoose_pretty {j : Json} (hj : j.isPlain) :
    parseLoose (String.ofList (j.pretty 0)) = some j := by
  have hvalue : Parser.value ((j.pretty 0).length + 1) (j.pretty 0 ++ []) = some (j, []) :=
    (Parser.readsBack _).value hj (Nat.lt_succ_self _) trivial
  rw [List.append_nil] at hvalue
  rw [parseLoose, String.toList_ofList, hvalue]
  rfl

theorem parse_pretty {j : Json} (hj : j.isPlain) : parse (String.ofList (j.pretty 0)) = some j := by
  rw [parse, parseLoose_pretty hj, Option.filter_some, if_pos (isWhole_of_isPlain j hj)]

end LocalChain.Json

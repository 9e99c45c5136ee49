import LocalChain.Contract.Artifact
import LocalChain.Proofs.Json.Columns

/-!
# Layouts of build artifacts

The code of a contract is written in a few ways: as a text or as the member `object` of an object, at
the top or in a section of its own (`CodeForm`, `SectionForm`).  `Outlined` says of a value what it
gives of the contract's name, of the code at the top and of the section, without a word about how it is
read.  The reader takes what is written in these ways and nothing else (`outline_iff`).
-/

namespace LocalChain

namespace Json

theorem membersWhole_iff {members : List (String × Json)} :
    membersWhole members ↔ ∀ m ∈ members, m.2.isWhole := by
  induction members with
  | nil => simp [membersWhole]
  | cons m members ih => simp [membersWhole, ih]

theorem areWhole_iff {items : List Json} : areWhole items ↔ ∀ j ∈ items, j.isWhole := by
  induction items with
  | nil => simp [areWhole]
  | cons j items ih => simp [areWhole, ih]

end Json

namespace Artifact

open Json.Reading

/-! ## Forms of code -/

/-- How the text of code is written: as a text, or in an object of which everything can be kept.
`level` objects stand around the value. -/
inductive CodeForm (level : Nat) (code : String) : Json → Prop
  | text : CodeForm level code (.str code)
  | object {members : List (String × Json)} (once : (members.map Prod.fst).count "object" ≤ 1)
      (hobject : ("object", .str code) ∈ members)
      (hdepth : level + (Json.obj members).depth ≤ depthLimit)
      (hkept : (Json.obj members).canBeKept) : CodeForm level code (.obj members)

/-- What an object gives under a key: a value of some form, or nothing.  Null is as good as nothing. -/
inductive Offers {α : Type} (form : Form α) (members : List (String × Json)) (key : String) :
    Option α → Prop
  | given {v : Json} {a : α} (hv : (key, v) ∈ members) (hform : form a v) :
      Offers form members key (some a)
  | null (hv : (key, .null) ∈ members) : Offers form members key none
  | absent (hkey : ∀ v, (key, v) ∉ members) : Offers form members key none

/-- How the section with the code is written, with code in it or without. -/
inductive SectionForm (code : Option String) : Json → Prop
  | object {members : List (String × Json)} (once : (members.map Prod.fst).count "bytecode" ≤ 1)
      (hcode : Offers (CodeForm 2) members "bytecode" code) : SectionForm code (.obj members)
  | array {item : Json} (hcode : Form.optional (CodeForm 2) code item) :
      SectionForm code (.arr [item])

/-- The keys that count. -/
def keys : List String :=
  ["contractName", "bytecode", "evm"]

/-- What a value says of a contract: its name, the code at the top, and what the section gives. -/
inductive Outlined (name top : Option String) (inner : Option (Option String)) : Json → Prop
  | object {members : List (String × Json)}
      (once : ∀ key ∈ keys, (members.map Prod.fst).count key ≤ 1)
      (hname : Offers Form.text members "contractName" name)
      (htop : Offers (CodeForm 1) members "bytecode" top)
      (hinner : Offers SectionForm members "evm" inner) : Outlined name top inner (.obj members)
  | array {a b c : Json} (hname : Form.optional Form.text name a)
      (htop : Form.optional (CodeForm 1) top b) (hinner : Form.optional SectionForm inner c) :
      Outlined name top inner (.arr [a, b, c])

/-! ## What the reader takes -/

variable {j : Json} {members : List (String × Json)} {items : List Json} {key : String}
  {given : Given} {α : Type} {form : Form α} {read : Json → Option α}

theorem codeText_iff {level : Nat} {code : String} (hlevel : level ≤ depthLimit) :
    codeText level j = some code ↔ CodeForm level code j := by
  cases j with
  | str s =>
    have hkept : level + (Json.str s).depth ≤ depthLimit ∧ (Json.str s).canBeKept :=
      ⟨hlevel, by simp [Json.canBeKept]⟩
    rw [codeText, guard, if_pos hkept]
    constructor
    · intro hs
      obtain rfl := Option.some.inj hs
      exact .text
    · rintro ⟨⟩
      rfl
  | obj members =>
    simp only [codeText, Option.bind_eq_bind, Option.bind_eq_some_iff, Option.guard_eq_some',
      text_iff]
    constructor
    · rintro ⟨_, ⟨hdepth, hkept⟩, _, hvalue, _, rfl, rfl⟩
      obtain ⟨once, hmem⟩ := member_iff.mp hvalue
      exact .object once ((hmem _).mpr rfl) hdepth hkept
    · rintro (_ | ⟨once, hobject, hdepth, hkept⟩)
      obtain ⟨value, hvalue⟩ := exists_member once
      exact ⟨(), ⟨hdepth, hkept⟩, value, hvalue, _, ((member_iff.mp hvalue).2 _).mp hobject, rfl⟩
  | _ =>
    refine iff_of_false ?_ (by rintro ⟨⟩)
    simp [codeText]

/-- A value under a key is read exactly if it has one of the forms. -/
theorem get_iff_offers {value : Option Json} {i : Nat} {o : Option α}
    (hmember : member members key = some value) (hplace : given[i]? = some value)
    (hnull : read .null = none)
    (hform : ∀ v, (key, v) ∈ members → ∀ a, read v = some a ↔ form a v) :
    given.get i (optional read) none = some o ↔ Offers form members key o := by
  obtain ⟨-, hmem⟩ := member_iff.mp hmember
  rw [Given.get, hplace]
  cases value with
  | none =>
    have hkey : ∀ v, (key, v) ∉ members := by
      intro v hv
      cases (hmem v).mp hv
    constructor
    · intro h
      obtain rfl := Option.some.inj h
      exact .absent hkey
    · rintro (⟨hv, -⟩ | hv | -)
      · exact (hkey _ hv).elim
      · exact (hkey _ hv).elim
      · rfl
  | some j =>
    have hj : (key, j) ∈ members := (hmem j).mpr rfl
    cases o with
    | none =>
      dsimp only
      rw [optional_none_iff]
      constructor
      · rintro rfl
        exact .null hj
      · rintro (_ | hv | hkey)
        · exact Option.some.inj ((hmem _).mp hv)
        · exact (hkey j hj).elim
    | some a =>
      dsimp only
      rw [optional_some_iff hnull, hform j hj]
      constructor
      · exact .given hj
      · rintro (⟨hv, ha⟩)
        rwa [Option.some.inj ((hmem _).mp hv)]

theorem allFields_array_iff {keys : List String} : allFields keys (.arr items) = some given ↔
    items.length = keys.length ∧ given = items.map some := by
  have hplaces : (List.range items.length).map (items[·]?) = items.map some := by
    refine List.ext_getElem (by simp) fun i hi _ => ?_
    simp at hi
    simp [hi]
  rw [allFields, fields]
  split
  · rename_i hlong
    have hne : items.length ≠ keys.length := Nat.ne_of_gt hlong.1
    simp [hne]
  · simp only [Option.bind_eq_bind, Option.bind_eq_some_iff, Option.guard_eq_some',
      Option.pure_def, Option.some.injEq]
    constructor
    · rintro ⟨_, rfl, _, hlength, rfl⟩
      exact ⟨hlength, by rw [← hlength, hplaces]⟩
    · rintro ⟨hlength, rfl⟩
      exact ⟨_, rfl, (), hlength, by rw [← hlength, hplaces]⟩

theorem allFields_object_iff {keys : List String} (hwhole : (Json.obj members).isWhole) :
    allFields keys (.obj members) = some given ↔
      List.Forall₂ (fun key value => member members key = some value) keys given := by
  have hfields : allFields keys (.obj members) = fields json keys (.obj members) := by
    rw [allFields]
    cases fields json keys (.obj members) <;> rfl
  rw [hfields, fields_object_iff, and_iff_right]
  exact fun m hm _ => Json.membersWhole_iff.mp hwhole m hm

theorem sectionCode_iff {code : Option String} (hwhole : j.isWhole) :
    sectionCode j = some code ↔ SectionForm code j := by
  have hcode {v : Json} {a : String} : codeText 2 v = some a ↔ CodeForm 2 a v :=
    codeText_iff (by decide)
  rw [sectionCode, Option.bind_eq_bind, Option.bind_eq_some_iff]
  cases j with
  | obj members =>
    simp only [allFields_object_iff hwhole, List.forall₂_cons_left_iff, List.forall₂_nil_left_iff]
    constructor
    · rintro ⟨_, ⟨value, _, hmember, rfl, rfl⟩, hread⟩
      refine .object (member_iff.mp hmember).1 ?_
      exact (get_iff_offers hmember rfl rfl fun _ _ _ => hcode).mp hread
    · rintro ⟨once, hoffers⟩
      obtain ⟨value, hmember⟩ := exists_member once
      refine ⟨_, ⟨value, _, hmember, rfl, rfl⟩, ?_⟩
      exact (get_iff_offers hmember rfl rfl fun _ _ _ => hcode).mpr hoffers
  | arr items =>
    simp only [allFields_array_iff]
    constructor
    · rintro ⟨_, ⟨hlength, rfl⟩, hread⟩
      obtain ⟨item, rfl⟩ := List.length_eq_one_iff.mp hlength
      exact .array ((optional_iff rfl hcode).mp hread)
    · rintro (_ | ⟨hform⟩)
      exact ⟨_, ⟨rfl, rfl⟩, (optional_iff rfl hcode).mpr hform⟩
  | _ =>
    refine iff_of_false ?_ (by rintro ⟨⟩)
    rintro ⟨_, ⟨⟩, -⟩

theorem optional_sectionCode_iff {inner : Option (Option String)} (hwhole : j.isWhole) :
    optional sectionCode j = some inner ↔ Form.optional SectionForm inner j := by
  cases inner with
  | none => exact optional_none_iff
  | some code => exact (optional_some_iff rfl).trans (sectionCode_iff hwhole)

/-- The three places of an outline, and which code is taken of them. -/
theorem outline_eq_some_iff {name code : Option String} : outline j = some (name, code) ↔
    ∃ given, allFields keys j = some given ∧
      given.get 0 (optional text) none = some name ∧
      ∃ top, given.get 1 (optional (codeText 1)) none = some top ∧
      ∃ inner, given.get 2 (optional sectionCode) none = some inner ∧
        (top <|> inner.join) = code := by
  simp only [outline, keys, Option.bind_eq_bind, Option.bind_eq_some_iff, Option.pure_def,
    Option.some.injEq, Prod.mk.injEq]
  constructor
  · rintro ⟨given, hgiven, name, hname, top, htop, inner, hinner, rfl, hcode⟩
    exact ⟨given, hgiven, hname, top, htop, inner, hinner, hcode⟩
  · rintro ⟨given, hgiven, hname, top, htop, inner, hinner, hcode⟩
    exact ⟨given, hgiven, name, hname, top, htop, inner, hinner, rfl, hcode⟩

theorem outline_object_iff {name code : Option String} (hwhole : (Json.obj members).isWhole) :
    outline (.obj members) = some (name, code) ↔
      ∃ top inner, Outlined name top inner (.obj members) ∧ code = (top <|> inner.join) := by
  have hcode {v : Json} {a : String} : codeText 1 v = some a ↔ CodeForm 1 a v :=
    codeText_iff (by decide)
  have hsection (v : Json) (hv : ("evm", v) ∈ members) (a : Option String) :
      sectionCode v = some a ↔ SectionForm a v :=
    sectionCode_iff (Json.membersWhole_iff.mp hwhole _ hv)
  simp only [outline_eq_some_iff, allFields_object_iff hwhole, keys, List.forall₂_cons_left_iff,
    List.forall₂_nil_left_iff]
  constructor
  · rintro ⟨_, ⟨a, _, ha, ⟨b, _, hb, ⟨c, _, hc, rfl, rfl⟩, rfl⟩, rfl⟩, hname, top, htop, inner,
      hinner, rfl⟩
    refine ⟨top, inner, .object ?_ ?_ ?_ ?_, rfl⟩
    · intro key hkey
      simp only [keys, List.mem_cons, List.not_mem_nil, or_false] at hkey
      rcases hkey with rfl | rfl | rfl
      · exact (member_iff.mp ha).1
      · exact (member_iff.mp hb).1
      · exact (member_iff.mp hc).1
    · exact (get_iff_offers ha rfl rfl fun _ _ _ => text_iff).mp hname
    · exact (get_iff_offers hb rfl rfl fun _ _ _ => hcode).mp htop
    · exact (get_iff_offers hc rfl rfl hsection).mp hinner
  · rintro ⟨top, inner, ⟨once, hname, htop, hinner⟩, rfl⟩
    obtain ⟨a, ha⟩ := exists_member (once "contractName" (by decide))
    obtain ⟨b, hb⟩ := exists_member (once "bytecode" (by decide))
    obtain ⟨c, hc⟩ := exists_member (once "evm" (by decide))
    refine ⟨_, ⟨a, _, ha, ⟨b, _, hb, ⟨c, _, hc, rfl, rfl⟩, rfl⟩, rfl⟩, ?_, top, ?_, inner, ?_, rfl⟩
    · exact (get_iff_offers ha rfl rfl fun _ _ _ => text_iff).mpr hname
    · exact (get_iff_offers hb rfl rfl fun _ _ _ => hcode).mpr htop
    · exact (get_iff_offers hc rfl rfl hsection).mpr hinner

theorem outline_array_iff {name code : Option String} (hwhole : (Json.arr items).isWhole) :
    outline (.arr items) = some (name, code) ↔
      ∃ top inner, Outlined name top inner (.arr items) ∧ code = (top <|> inner.join) := by
  have hcode {v : Json} {a : String} : codeText 1 v = some a ↔ CodeForm 1 a v :=
    codeText_iff (by decide)
  simp only [outline_eq_some_iff, allFields_array_iff]
  constructor
  · rintro ⟨_, ⟨hlength, rfl⟩, hname, top, htop, inner, hinner, rfl⟩
    obtain ⟨a, b, c, rfl⟩ := List.length_eq_three.mp hlength
    have hc : c.isWhole := Json.areWhole_iff.mp hwhole c (by simp)
    exact ⟨top, inner, .array ((optional_iff rfl text_iff).mp hname)
      ((optional_iff rfl hcode).mp htop) ((optional_sectionCode_iff hc).mp hinner), rfl⟩
  · rintro ⟨top, inner, _ | ⟨hname, htop, hinner⟩, rfl⟩
    rename_i a b c
    have hc : c.isWhole := Json.areWhole_iff.mp hwhole c (by simp)
    exact ⟨_, ⟨rfl, rfl⟩, (optional_iff rfl text_iff).mpr hname, top,
      (optional_iff rfl hcode).mpr htop, inner, (optional_sectionCode_iff hc).mpr hinner, rfl⟩

/-- **A value is read exactly if it is written in one of the ways.**  The code at the top is taken
before that of the section. -/
theorem outline_iff {name code : Option String} (hwhole : j.isWhole) :
    outline j = some (name, code) ↔
      ∃ top inner, Outlined name top inner j ∧ code = (top <|> inner.join) := by
  cases j with
  | obj members => exact outline_object_iff hwhole
  | arr items => exact outline_array_iff hwhole
  | _ =>
    refine iff_of_false ?_ (by rintro ⟨_, _, ⟨⟩, _⟩)
    rw [outline_eq_some_iff]
    rintro ⟨_, ⟨⟩, -⟩

end Artifact
end LocalChain

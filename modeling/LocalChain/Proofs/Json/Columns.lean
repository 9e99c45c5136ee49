import Mathlib.Data.Option.Basic
import LocalChain.Proofs.Settings.Sections

/-!
# The ways of writing a section

A section has columns: a key for each field, the form of the field's values, and the value that the
field has when it is left out.  One section can be written in many ways, as an object or as an array,
with or without the fields that have their defaults.  `Written` says which these are, without a word
about how they are read.

Reading goes by the values that are given, in the order of the columns.  `written_iff` puts the two
together once, for any columns: a section is written in a value exactly if the value gives something
for each column, or nothing, that stands for the column's field.
-/

namespace LocalChain.Json.Reading

/-- How the values of a type are written. -/
abbrev Form (α : Type) : Type := α → Json → Prop

namespace Form

def text : Form String := fun s j => j = .str s

def flag : Form Bool := fun b j => j = .bool b

def word64 : Form UInt64 := fun n j => j = .int n.toNat

def word32 : Form UInt32 := fun n j => j = .int n.toNat

/-- What is unset is null. -/
def optional {α : Type} (form : Form α) : Form (Option α)
  | none, j => j = .null
  | some a, j => form a j

/-- An array of as many items. -/
def list {α : Type} (form : Form α) : Form (List α) :=
  fun as j => ∃ items, j = .arr items ∧ List.Forall₂ (fun item a => form a item) items as

end Form

/-- A field of a section. -/
structure Column (σ : Type) where
  key : String
  Value : Type
  value : σ → Value
  form : Form Value
  /-- The value of the field when it is left out, unless it must not be. -/
  default : Option Value

namespace Column

variable {σ α : Type}

/-- A field that has its value in `d` when it is left out. -/
def field (key : String) (value : σ → α) (form : Form α) (d : σ) : Column σ :=
  ⟨key, α, value, form, some (value d)⟩

/-- A field that must not be left out. -/
def required (key : String) (value : σ → α) (form : Form α) : Column σ :=
  ⟨key, α, value, form, none⟩

section Keys

variable {key : String} {value : σ → α} {form : Form α} {d : σ}

@[simp]
theorem key_field : (field key value form d).key = key := rfl

@[simp]
theorem key_required : (required key value form).key = key := rfl

end Keys

/-- What is given for a field, if anything is, stands for its value in `s`. -/
def Stands (c : Column σ) (s : σ) : Option Json → Prop
  | none => c.default = some (c.value s)
  | some j => c.form (c.value s) j

end Column

/-- A value is given under a key: in an object by a member, in an array by the item in its place. -/
inductive Gives (keys : List String) (key : String) : Json → Json → Prop
  | member {members : List (String × Json)} {v : Json} (hv : (key, v) ∈ members) :
      Gives keys key (.obj members) v
  | item {items : List Json} {i : Nat} {v : Json} (hkey : keys[i]? = some key)
      (hv : items[i]? = some v) : Gives keys key (.arr items) v

/-- A value that can be a section: an object in which no key of the section occurs twice, or an array
with no more items than the section has keys. -/
inductive Shape (rules : Rules) (keys : List String) : Json → Prop
  | object {members : List (String × Json)}
      (once : ∀ key ∈ keys, (members.map Prod.fst).count key ≤ 1)
      (others : ∀ m ∈ members, m.1 ∉ keys → m.2.isWhole) : Shape rules keys (.obj members)
  | array {items : List Json} (length : items.length ≤ keys.length ∨ rules.surplus) :
      Shape rules keys (.arr items)

/-- A section is written in a value: what is given for a field is a form of its value, and a field
that nothing is given for has its default. -/
structure Written {σ : Type} (rules : Rules) (columns : List (Column σ)) (s : σ) (j : Json) :
    Prop where
  shape : Shape rules (columns.map Column.key) j
  given : ∀ c ∈ columns, ∀ v, Gives (columns.map Column.key) c.key j v → c.form (c.value s) v
  absent : ∀ c ∈ columns, (∀ v, ¬Gives (columns.map Column.key) c.key j v) →
    c.default = some (c.value s)

/-- What is given for the column in a place is a form of the field's value. -/
theorem Written.given_at {σ : Type} {rules : Rules} {columns : List (Column σ)} {s : σ} {j : Json}
    (h : Written rules columns s j) (i : Nat) {c : Column σ} (hc : columns[i]? = some c) {v : Json}
    (hgiven : Gives (columns.map Column.key) c.key j v) : c.form (c.value s) v :=
  h.given c (List.mem_of_getElem? hc) v hgiven

/-- Why no section is written in a value. -/
inductive Fault {σ : Type} (rules : Rules) (columns : List (Column σ)) (j : Json) : Prop
  | shape (hshape : ¬Shape rules (columns.map Column.key) j)
  /-- What is given for a field is a form of none of its values. -/
  | value {c : Column σ} {v : Json} (hc : c ∈ columns)
      (hgiven : Gives (columns.map Column.key) c.key j v) (hrefused : ∀ a, ¬c.form a v)
  /-- Nothing is given for a field that must not be left out. -/
  | missing {c : Column σ} (hc : c ∈ columns) (hrequired : c.default = none)
      (habsent : ∀ v, ¬Gives (columns.map Column.key) c.key j v)

theorem Fault.not_written {σ : Type} {rules : Rules} {columns : List (Column σ)} {j : Json}
    (h : Fault rules columns j) (s : σ) : ¬Written rules columns s j := by
  intro hwritten
  cases h with
  | shape hshape => exact hshape hwritten.shape
  | value hc hgiven hrefused => exact hrefused _ (hwritten.given _ hc _ hgiven)
  | missing hc hrequired habsent =>
    have hdefault := hwritten.absent _ hc habsent
    rw [hrequired] at hdefault
    cases hdefault

/-- A number out of range is a form of none of the numbers of a type. -/
theorem Form.number_refuses {α : Type} {toNat : α → Nat} {size : Nat}
    (hrange : ∀ a, toNat a < size) {n : Int} (hn : n < 0 ∨ size ≤ n) (a : α) :
    Json.int n ≠ .int (toNat a) := by
  intro h
  obtain rfl := Json.int.inj h
  have ha := hrange a
  omega

/-! ## What is given, in the order of the keys -/

section Given

variable {rules : Rules} {keys : List String} {key : String} {members : List (String × Json)}
  {given : Given} {j : Json}

theorem count_eq_length_filter :
    (members.map Prod.fst).count key = (members.filter (·.1 == key)).length := by
  rw [List.count_eq_countP, List.countP_map, List.countP_eq_length_filter]
  rfl

/-- A member that is asked for by its key is there once at most, and the answer is its value. -/
theorem member_iff {value : Option Json} :
    member members key = some value ↔
      (members.map Prod.fst).count key ≤ 1 ∧ ∀ v, (key, v) ∈ members ↔ value = some v := by
  have hmem (v : Json) : (key, v) ∈ members ↔ (key, v) ∈ members.filter (·.1 == key) := by simp
  have hkey : ∀ m ∈ members.filter (·.1 == key), m.1 = key := by simp
  simp only [member, count_eq_length_filter, hmem]
  -- nothing but the members with this key matters from here on
  generalize members.filter (·.1 == key) = found at hkey
  rcases found with _ | ⟨⟨k, j⟩, _ | ⟨_, _⟩⟩
  · cases value <;> simp
  · obtain rfl : k = key := hkey _ List.mem_cons_self
    constructor
    · intro h
      obtain rfl := Option.some.inj h
      simp [eq_comm]
    · rintro ⟨-, h⟩
      exact congrArg some ((h j).mp List.mem_cons_self).symm
  · simp

theorem fields_object_iff :
    fields rules keys (.obj members) = some given ↔
      (∀ m ∈ members, m.1 ∉ keys → m.2.isWhole) ∧
        List.Forall₂ (fun key value => member members key = some value) keys given := by
  simp only [fields, Option.bind_eq_bind, Option.bind_eq_some_iff, mapM_iff,
    Option.guard_eq_some', List.all_eq_true, Bool.or_eq_true, List.contains_iff_mem]
  constructor
  · rintro ⟨-, hothers, hmembers⟩
    exact ⟨fun m hm hkey => (hothers m hm).resolve_left hkey, hmembers⟩
  · rintro ⟨hothers, hmembers⟩
    exact ⟨(), fun m hm => or_iff_not_imp_left.mpr (hothers m hm), hmembers⟩

theorem exists_member (h : (members.map Prod.fst).count key ≤ 1) :
    ∃ value, member members key = some value := by
  rw [count_eq_length_filter] at h
  rw [member]
  generalize members.filter (·.1 == key) = found at h
  rcases found with _ | ⟨_, _ | ⟨_, _⟩⟩
  · exact ⟨_, rfl⟩
  · exact ⟨_, rfl⟩
  · simp at h

theorem exists_fields (h : Shape rules keys j) : ∃ given, fields rules keys j = some given := by
  cases h with
  | object once others =>
    rename_i members
    refine ⟨keys.map fun key => (member members key).join, fields_object_iff.mpr ⟨others, ?_⟩⟩
    refine List.forall₂_map_right_iff.mpr (List.forall₂_same.mpr fun key hkey => ?_)
    obtain ⟨value, hvalue⟩ := exists_member (once key hkey)
    rw [hvalue, Option.join_some]
  | array length =>
    rename_i items
    have hnot : ¬(keys.length < items.length ∧ ¬rules.surplus) := by
      rintro ⟨hlt, hsurplus⟩
      exact length.elim (Nat.not_le.mpr hlt) hsurplus
    exact ⟨_, if_neg hnot⟩

section Fields

variable (hfields : fields rules keys j = some given)
include hfields

theorem shape_of_fields : Shape rules keys j := by
  cases j with
  | obj members =>
    obtain ⟨others, hmembers⟩ := fields_object_iff.mp hfields
    refine .object (fun key hkey => ?_) others
    obtain ⟨i, hi, rfl⟩ := List.getElem_of_mem hkey
    exact (member_iff.mp (hmembers.get hi (hmembers.length_eq ▸ hi))).1
  | arr items =>
    rw [fields] at hfields
    split at hfields
    · cases hfields
    · rename_i hnot
      refine .array ?_
      by_contra hlength
      obtain ⟨hlt, hsurplus⟩ := not_or.mp hlength
      exact hnot ⟨Nat.not_le.mp hlt, hsurplus⟩
  | _ => cases hfields

/-- What is given under a key is what is listed in its place. -/
theorem gives_iff (hkeys : keys.Nodup) {i : Nat} (hkey : keys[i]? = some key) (v : Json) :
    Gives keys key j v ↔ given[i]?.join = some v := by
  obtain ⟨hi, rfl⟩ := List.getElem?_eq_some_iff.mp hkey
  cases j with
  | obj members =>
    obtain ⟨-, hmembers⟩ := fields_object_iff.mp hfields
    have hi' : i < given.length := hmembers.length_eq ▸ hi
    have hmember := member_iff.mp (hmembers.get hi hi')
    rw [List.getElem?_eq_getElem hi', Option.join_some]
    refine ⟨fun hgives => ?_, fun hgiven => .member ((hmember.2 v).mpr hgiven)⟩
    cases hgives with
    | member hv => exact (hmember.2 v).mp hv
  | arr items =>
    rw [fields] at hfields
    split at hfields
    · cases hfields
    · obtain rfl := Option.some.inj hfields
      rw [List.getElem?_map, List.getElem?_range hi, Option.map_some, Option.join_some]
      refine ⟨fun hgives => ?_, fun hv => .item hkey hv⟩
      cases hgives with
      | item hplace hv =>
        rename_i k
        obtain ⟨hk, hkeq⟩ := List.getElem?_eq_some_iff.mp hplace
        obtain rfl := (List.Nodup.getElem_inj_iff hkeys).mp hkeq
        exact hv
  | _ => cases hfields

end Fields

end Given

/-! ## Columns one after the other -/

section Columns

variable {σ : Type} {rules : Rules} {columns : List (Column σ)} {s : σ} {given : Given} {j : Json}

/-- What is listed from a place on stands for the columns, one after the other. -/
def StandFrom (s : σ) (given : Given) : Nat → List (Column σ) → Prop
  | _, [] => True
  | i, c :: columns => c.Stands s given[i]?.join ∧ StandFrom s given (i + 1) columns

theorem standFrom_iff {i : Nat} :
    StandFrom s given i columns ↔
      ∀ (k : Nat) (c : Column σ), columns[k]? = some c → c.Stands s given[i + k]?.join := by
  induction columns generalizing i with
  | nil => simp [StandFrom]
  | cons c columns ih =>
    rw [StandFrom, ih]
    constructor
    · rintro ⟨hc, hcolumns⟩ k d hd
      cases k with
      | zero =>
        obtain rfl := Option.some.inj hd
        exact hc
      | succ k =>
        rw [Nat.add_comm k, ← Nat.add_assoc]
        exact hcolumns k d hd
    · intro h
      refine ⟨h 0 c rfl, fun k d hd => ?_⟩
      rw [Nat.add_assoc, Nat.add_comm 1]
      exact h (k + 1) d hd

/-- **A section is written in a value** exactly if the value can be a section, and what it gives for
the columns, or does not give, stands for the section's fields. -/
theorem written_iff (hkeys : (columns.map Column.key).Nodup) :
    Written rules columns s j ↔
      ∃ given, fields rules (columns.map Column.key) j = some given ∧
        StandFrom s given 0 columns := by
  have hkey {k : Nat} {c : Column σ} (hc : columns[k]? = some c) :
      (columns.map Column.key)[k]? = some c.key := by
    rw [List.getElem?_map, hc, Option.map_some]
  constructor
  · intro h
    obtain ⟨given, hfields⟩ := exists_fields h.shape
    refine ⟨given, hfields, standFrom_iff.mpr fun k c hc => ?_⟩
    have hgives := gives_iff hfields hkeys (hkey hc)
    rw [Nat.zero_add]
    cases hplace : given[k]?.join with
    | none =>
      refine h.absent c (List.mem_of_getElem? hc) fun v hv => ?_
      rw [hgives v, hplace] at hv
      cases hv
    | some v => exact h.given c (List.mem_of_getElem? hc) v ((hgives v).mpr hplace)
  · rintro ⟨given, hfields, hstand⟩
    -- for each column something is listed, if only that nothing is given
    have hplace : ∀ c ∈ columns, ∃ value, c.Stands s value ∧
        ∀ v, Gives (columns.map Column.key) c.key j v ↔ value = some v := by
      intro c hc
      obtain ⟨k, hk⟩ := List.getElem?_of_mem hc
      have hstands := standFrom_iff.mp hstand k c hk
      rw [Nat.zero_add] at hstands
      exact ⟨_, hstands, gives_iff hfields hkeys (hkey hk)⟩
    refine ⟨shape_of_fields hfields, fun c hc v hv => ?_, fun c hc habsent => ?_⟩
    · obtain ⟨value, hstands, hgives⟩ := hplace c hc
      obtain rfl := (hgives v).mp hv
      exact hstands
    · obtain ⟨value, hstands, hgives⟩ := hplace c hc
      cases value with
      | none => exact hstands
      | some v => exact (habsent v ((hgives v).mpr rfl)).elim

end Columns

/-! ## A column and the reader of its field -/

/-- A form with a reader, which takes a value as something exactly if the value is a form of it. -/
class Form.Readable {α : Type} (form : Form α) where
  read : Json → Option α
  read_iff : ∀ {j : Json} {a : α}, read j = some a ↔ form a j

/-- Null is a form of nothing. -/
class Form.NonNull {α : Type} (form : Form α) : Prop where
  not_null : ∀ a, ¬form a .null

section Readers

variable {σ α : Type} {form : Form α}

theorem optional_iff {read : Json → Option α} (hnull : read .null = none)
    (hform : ∀ {j a}, read j = some a ↔ form a j) {j : Json} {o : Option α} :
    optional read j = some o ↔ Form.optional form o j := by
  cases o with
  | none => exact optional_none_iff
  | some a => exact (optional_some_iff hnull).trans hform

instance : Form.Readable Form.text := ⟨text, text_iff⟩

instance : Form.Readable Form.flag := ⟨flag, flag_iff⟩

instance : Form.Readable Form.word64 := ⟨word64, word64_iff⟩

instance : Form.Readable Form.word32 := ⟨word32, word32_iff⟩

instance : Form.NonNull Form.text := ⟨fun _ h => nomatch h⟩

instance : Form.NonNull Form.word64 := ⟨fun _ h => nomatch h⟩

instance [h : form.Readable] [form.NonNull] : (Form.optional form).Readable where
  read := optional h.read
  read_iff := by
    refine optional_iff (Option.eq_none_iff_forall_ne_some.mpr fun a ha => ?_) h.read_iff
    exact Form.NonNull.not_null a (h.read_iff.mp ha)

instance [h : form.Readable] : (Form.list form).Readable where
  read := list h.read
  read_iff := by simp only [list_iff, h.read_iff, Form.list, implies_true]

variable {key : String} {s d : σ} {value : σ → α} {given : Given} {i : Nat} [h : form.Readable]

/-- **A field with a default** is what its reader makes of what is given. -/
@[simp]
theorem stands_field :
    (Column.field key value form d).Stands s given[i]?.join ↔
      given.get i h.read (value d) = some (value s) := by
  rw [Given.get]
  generalize given[i]? = place
  rcases place with _ | _ | j
  · exact Iff.rfl
  · exact Iff.rfl
  · exact h.read_iff.symm

/-- **A field without a default** is what its reader makes of what is given, and something is. -/
@[simp]
theorem stands_required :
    (Column.required key value form).Stands s given[i]?.join ↔
      given.require i h.read = some (value s) := by
  have habsent : ¬(Column.required key value form).Stands s none := by
    intro h
    cases h
  rw [Given.require]
  generalize given[i]? = place
  rcases place with _ | _ | j
  · exact iff_of_false habsent (by rintro ⟨⟩)
  · exact iff_of_false habsent (by rintro ⟨⟩)
  · exact h.read_iff.symm

end Readers

end LocalChain.Json.Reading

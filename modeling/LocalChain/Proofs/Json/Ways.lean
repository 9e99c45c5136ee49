import LocalChain.Proofs.Json.Columns

/-!
# Ways of writing the same section

What is given for the columns of a section, or not given, settles which section it is.  It can be put
into an object in any order and among other members (`written_object`), in particular in the order of
the columns and alone (`written_members`).
-/

namespace LocalChain.Json.Reading

variable {σ : Type} {rules : Rules} {columns : List (Column σ)} {s : σ} {given : Given}
  {members others : List (String × Json)}

/-- The members of an object that has what is given, each value under its key. -/
def named (keys : List String) (given : Given) : List (String × Json) :=
  (keys.zip given).filterMap fun (key, value) => value.map (key, ·)

theorem mem_named_iff {keys : List String} {key : String} {v : Json} :
    (key, v) ∈ named keys given ↔ ∃ i : Nat, keys[i]? = some key ∧ given[i]? = some (some v) := by
  rw [named, List.mem_filterMap]
  constructor
  · rintro ⟨⟨k, value⟩, hmem, hpair⟩
    obtain ⟨w, rfl, hw⟩ := Option.map_eq_some_iff.mp hpair
    obtain ⟨rfl, rfl⟩ := Prod.mk.inj hw
    obtain ⟨i, hi⟩ := List.mem_iff_getElem?.mp hmem
    exact ⟨i, List.getElem?_zip_eq_some.mp hi⟩
  · rintro ⟨i, hplace⟩
    exact ⟨(key, some v), List.mem_of_getElem? (List.getElem?_zip_eq_some.mpr hplace), rfl⟩

theorem keys_named_sublist (keys : List String) (given : Given) :
    ((named keys given).map Prod.fst).Sublist keys := by
  induction keys generalizing given with
  | nil => exact List.Sublist.refl _
  | cons key keys ih =>
    cases given with
    | nil => exact List.nil_sublist _
    | cons value given =>
      cases value with
      | none => exact (ih given).cons _
      | some v => exact (ih given).cons_cons _

/-- Among members that have what is given, and others with other keys, each key has what is given
in its place. -/
theorem member_named {keys : List String} {key : String} {value : Option Json} {i : Nat}
    (hkeys : keys.Nodup) (hothers : ∀ m ∈ others, m.1 ∉ keys)
    (hmembers : members.Perm (named keys given ++ others)) (hkey : keys[i]? = some key)
    (hvalue : given[i]? = some value) : member members key = some value := by
  have hmem : key ∈ keys := List.mem_of_getElem? hkey
  refine member_iff.mpr ⟨?_, fun v => ?_⟩
  · have hnamed := (keys_named_sublist keys given).count_le key
    have hother : key ∉ others.map Prod.fst := by
      intro h
      obtain ⟨m, hm, rfl⟩ := List.mem_map.mp h
      exact hothers m hm hmem
    rw [(hmembers.map Prod.fst).count_eq, List.map_append, List.count_append,
      List.count_eq_zero.mpr hother]
    exact Nat.le_trans hnamed (List.nodup_iff_count_le_one.mp hkeys key)
  · rw [hmembers.mem_iff, List.mem_append, mem_named_iff]
    constructor
    · rintro (⟨k, hk, hv⟩ | hm)
      · have hlt := (List.getElem?_eq_some_iff.mp hk).1
        obtain rfl : k = i := (List.getElem?_inj hlt hkeys).mp (hk.trans hkey.symm)
        exact Option.some.inj (hvalue.symm.trans hv)
      · exact (hothers _ hm hmem).elim
    · rintro rfl
      exact .inl ⟨i, hkey, hvalue⟩

section Given

variable (hkeys : (columns.map Column.key).Nodup)
  (hgiven : List.Forall₂ (fun c value => c.Stands s value) columns given)
include hkeys hgiven

theorem written_of_fields {j : Json}
    (hfields : fields rules (columns.map Column.key) j = some given) :
    Written rules columns s j := by
  refine (written_iff hkeys).mpr ⟨given, hfields, standFrom_iff.mpr fun k c hc => ?_⟩
  obtain ⟨hk, rfl⟩ := List.getElem?_eq_some_iff.mp hc
  have hk' : k < given.length := hgiven.length_eq ▸ hk
  rw [Nat.zero_add, List.getElem?_eq_getElem hk', Option.join_some]
  exact hgiven.get hk hk'

/-- **An object** has the given members in any order, and any others besides. -/
theorem written_object (hothers : ∀ m ∈ others, m.1 ∉ columns.map Column.key ∧ m.2.isWhole)
    (hmembers : members.Perm (named (columns.map Column.key) given ++ others)) :
    Written rules columns s (.obj members) := by
  refine written_of_fields hkeys hgiven (fields_object_iff.mpr ⟨fun m hm hkey => ?_, ?_⟩)
  · rcases List.mem_append.mp (hmembers.mem_iff.mp hm) with hm | hm
    · exact (hkey ((keys_named_sublist _ given).subset (List.mem_map_of_mem hm))).elim
    · exact (hothers m hm).2
  · refine List.forall₂_iff_get.mpr ⟨?_, fun i hi hi' => ?_⟩
    · rw [List.length_map, hgiven.length_eq]
    · exact member_named hkeys (fun m hm => (hothers m hm).1) hmembers
        (List.getElem?_eq_getElem hi) (List.getElem?_eq_getElem hi')

end Given

theorem named_members (members : List (String × Json)) :
    named (members.map Prod.fst) (members.map fun m => some m.2) = members := by
  induction members with
  | nil => rfl
  | cons m members ih => exact congrArg (m :: ·) ih

/-- An object that has a member for each column, in their order. -/
theorem written_members (hkeys : (columns.map Column.key).Nodup)
    (hmembers : List.Forall₂ (fun c m => m.1 = c.key ∧ c.form (c.value s) m.2) columns members) :
    Written rules columns s (.obj members) := by
  have hgiven : List.Forall₂ (fun c value => c.Stands s value) columns
      (members.map fun m => some m.2) := by
    refine List.forall₂_map_right_iff.mpr (hmembers.imp fun c m hm => ?_)
    exact hm.2
  have hnames : columns.map Column.key = members.map Prod.fst := by
    rw [← List.forall₂_eq_eq_eq, List.forall₂_map_left_iff, List.forall₂_map_right_iff]
    exact hmembers.imp fun c m hm => hm.1.symm
  refine written_object hkeys hgiven (List.forall_mem_nil _) ?_
  rw [hnames, named_members, List.append_nil]

end LocalChain.Json.Reading

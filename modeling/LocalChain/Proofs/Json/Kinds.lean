import Mathlib.Data.List.Forall2
import LocalChain.Json.Reading

/-!
# What the readers take

A reader takes the written form of each of its values and nothing else.  So the lemmas here are
equivalences: one way they read what is written, the other way they say how it was written.
-/

namespace LocalChain.Json.Reading

variable {j : Json}

theorem text_iff {s : String} : text j = some s ↔ j = .str s := by
  cases j <;> simp [text]

theorem flag_iff {b : Bool} : flag j = some b ↔ j = .bool b := by
  cases j <;> simp [flag]

theorem natural_iff {bound n : Nat} : natural bound j = some n ↔ j = .int n ∧ n < bound := by
  constructor
  · intro h
    rw [natural.eq_def] at h
    split at h
    · split at h
      · cases h
        exact ⟨rfl, ‹_›⟩
      · cases h
    · cases h
  · rintro ⟨rfl, hn⟩
    exact if_pos hn

theorem word64_iff {n : UInt64} : word64 j = some n ↔ j = .int n.toNat := by
  rw [word64, Option.map_eq_some_iff]
  constructor
  · rintro ⟨m, hm, rfl⟩
    obtain ⟨rfl, hbound⟩ := natural_iff.mp hm
    rw [UInt64.toNat_ofNat_of_lt' hbound]
  · rintro rfl
    exact ⟨n.toNat, natural_iff.mpr ⟨rfl, n.toNat_lt⟩, UInt64.ofNat_toNat⟩

theorem word32_iff {n : UInt32} : word32 j = some n ↔ j = .int n.toNat := by
  rw [word32, Option.map_eq_some_iff]
  constructor
  · rintro ⟨m, hm, rfl⟩
    obtain ⟨rfl, hbound⟩ := natural_iff.mp hm
    rw [UInt32.toNat_ofNat_of_lt' hbound]
  · rintro rfl
    exact ⟨n.toNat, natural_iff.mpr ⟨rfl, n.toNat_lt⟩, UInt32.ofNat_toNat⟩

theorem optional_none_iff {α : Type} {read : Json → Option α} :
    optional read j = some none ↔ j = .null := by
  cases j <;> simp [optional]

theorem optional_some_iff {α : Type} {read : Json → Option α} (hnull : read .null = none) {a : α} :
    optional read j = some (some a) ↔ read j = some a := by
  cases j <;> simp [optional, hnull]

/-- What is read of a list is read item by item. -/
theorem mapM_iff {α β : Type} {f : α → Option β} {xs : List α} {ys : List β} :
    xs.mapM f = some ys ↔ List.Forall₂ (fun x y => f x = some y) xs ys := by
  induction xs generalizing ys with
  | nil => simp [eq_comm]
  | cons x xs ih =>
    simp only [List.mapM_cons, Option.bind_eq_bind, Option.bind_eq_some_iff, Option.pure_def,
      Option.some.injEq, ih, List.forall₂_cons_left_iff]
    constructor
    · rintro ⟨y, hy, ys', hys', rfl⟩
      exact ⟨y, ys', hy, hys', rfl⟩
    · rintro ⟨y, ys', hy, hys', rfl⟩
      exact ⟨y, hy, ys', hys', rfl⟩

theorem list_iff {α : Type} {read : Json → Option α} {as : List α} :
    list read j = some as ↔
      ∃ items, j = .arr items ∧ List.Forall₂ (fun item a => read item = some a) items as := by
  cases j <;> simp [list, mapM_iff]

end LocalChain.Json.Reading

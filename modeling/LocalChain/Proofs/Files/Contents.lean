import Mathlib.Data.List.DropRight
import Mathlib.Tactic.SplitIfs
import LocalChain.Files.Basic

/-!
# What is written to a file is read from it

Writing puts one file in place of whatever stood there.  No directory is replaced, so the way to any
place is the same as before (`Files.follow_put`), and the path that was written to still leads to the
new file (`Files.readText_of_write`).
-/

namespace LocalChain.Files

variable {fs fs' : Files} {place other start target : List String} {path text : String} {e : FileEntry}

/-! ## The tree after one entry is put -/

theorem put_self (hplace : place ≠ []) : entry? (fs.put place e) place = some e := by
  have hne : place.isEmpty = false := by simpa using hplace
  unfold entry? put
  simp [hne]

theorem put_of_ne (hother : other ≠ place) :
    entry? (fs.put place e) other = fs.entry? other := by
  have hnew : (place == other) = false := by simpa using Ne.symm hother
  have hrest : (fs.entries.filter (·.1 != place)).find? (·.1 == other) =
      fs.entries.find? (·.1 == other) := by
    rw [List.find?_filter]
    congr 1
    funext x
    by_cases hx : x.1 = other
    · simp [hx, hother]
    · simp [hx]
  unfold entry? put
  simp only [List.find?_cons, hnew, hrest]

/-- What is put where no directory stands is not on the way to any place. -/
theorem follow_put (hplace : fs.entry? place ≠ some .directory) {names : List String}
    (h : fs.follow start names = .ok target) :
    (fs.put place e).follow start names = .ok target := by
  induction names generalizing start with
  | nil => exact h
  | cons name names ih =>
    rw [follow] at h ⊢
    split at h
    · cases h
    · cases h
    · rename_i hdirectory
      have hstart : start ≠ place := by
        rintro rfl
        exact hplace hdirectory
      rw [put_of_ne hstart, hdirectory]
      dsimp only at h ⊢
      split_ifs at h ⊢
      · exact ih h
      · exact ih h
      · exact ih h

theorem locate_put (hplace : fs.entry? place ≠ some .directory)
    (h : fs.locate path = .ok target) : (fs.put place e).locate path = .ok target := by
  rw [locate] at h ⊢
  split_ifs at h ⊢
  all_goals exact follow_put hplace h

/-! ## Reading and writing by path -/

theorem dropSlashes_of_last (h : path.toList.getLast? ≠ some '/') : dropSlashes path = path := by
  have hdrop : (path.toList.reverse.dropWhile (· == '/')).reverse = path.toList := by
    refine List.rdropWhile_eq_self_iff.mpr fun hne hslash => h ?_
    rw [List.getLast?_eq_some_getLast hne]
    exact congrArg some (beq_iff_eq.mp hslash)
  rw [dropSlashes, hdrop, String.ofList_toList]
  split <;> rfl

/-- A path that leads to a text is read as that text. -/
theorem readText_of_entry (hlocate : fs.locate path = .ok place)
    (hentry : fs.entry? place = some (.file (Bytes.ofText text))) :
    fs.readText path = .ok text := by
  have hbytes : fs.readBytes path = .ok (Bytes.ofText text) := by
    simp only [readBytes, hlocate, bind, Except.bind, hentry]
  simp only [readText, hbytes, bind, Except.bind, Bytes.toText?_ofText]

/-- Writing puts the file where the path leads, which is no directory. -/
theorem put_of_write {content : Bytes} (h : fs.write path content = .ok fs') :
    ∃ place, fs.locate path = .ok place ∧ fs.entry? place ≠ some .directory ∧
      fs' = fs.put place (.file content) := by
  rw [write] at h
  obtain hlocate | ⟨place, hlocate⟩ : (∃ e, fs.locate (dropSlashes path) = .error e) ∨
      ∃ place, fs.locate (dropSlashes path) = .ok place := by
    cases fs.locate (dropSlashes path) <;> simp
  · obtain ⟨_, hlocate⟩ := hlocate
    rw [hlocate] at h
    cases h
  · simp only [hlocate, bind, Except.bind] at h
    split_ifs at h with hdirectory
    -- a path that ends with a slash is refused, so none was dropped
    obtain ⟨hplace, hlast⟩ := not_or.mp hdirectory
    rw [dropSlashes_of_last hlast] at hlocate
    exact ⟨place, hlocate, hplace, (Except.ok.inj h).symm⟩

/-- **What is written to a file is read from it.** -/
theorem readText_of_write (h : fs.write path (Bytes.ofText text) = .ok fs') :
    fs'.readText path = .ok text := by
  obtain ⟨place, hlocate, hplace, rfl⟩ := put_of_write h
  have hroot : place ≠ [] := by
    rintro rfl
    exact hplace rfl
  exact readText_of_entry (locate_put hplace hlocate) (put_self hroot)

end LocalChain.Files

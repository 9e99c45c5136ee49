import LocalChain.Address
import LocalChain.Proofs.Wire.Numbers

/-!
# Hexadecimal text read back

Digits that are written are read as the digits they were, so the text of an address is read as the
address (`Address.parse_text`).
-/

namespace LocalChain

namespace Hex

theorem digit?_char {d : Nat} (hd : d < 16) : digit? (Digits.char d) = some d := by
  have hall : ∀ e ∈ List.range 16, digit? (Digits.char e) = some e := by decide
  exact hall d (List.mem_range.mpr hd)

/-- A written digit is one byte. -/
theorem utf8Size_char {d : Nat} (hd : d < 16) : (Digits.char d).utf8Size = 1 := by
  have hall : ∀ e ∈ List.range 16, (Digits.char e).utf8Size = 1 := by decide
  exact hall d (List.mem_range.mpr hd)

theorem utf8Length_map_char {ds : List Nat} (hds : ∀ d ∈ ds, d < 16) :
    Text.utf8Length (ds.map Digits.char) = ds.length := by
  induction ds with
  | nil => rfl
  | cons d ds ih =>
    obtain ⟨hd, hds⟩ := List.forall_mem_cons.mp hds
    rw [List.map_cons, Text.utf8Length, utf8Size_char hd, ih hds, List.length_cons, Nat.add_comm]

theorem digitsFrom_map_char {ds : List Nat} (hds : ∀ d ∈ ds, d < 16) (position : Nat) :
    digitsFrom position (ds.map Digits.char) = .ok ds := by
  induction ds generalizing position with
  | nil => rfl
  | cons d ds ih =>
    obtain ⟨hd, hds⟩ := List.forall_mem_cons.mp hds
    rw [List.map_cons, digitsFrom, digit?_char hd]
    simp [ih hds, Except.map]

/-- **Two digits for each byte of a number, after their mark, spell the number.** -/
theorem number_fixed {size n : Nat} (hn : n < 16 ^ (2 * size)) :
    number size ('0' :: 'x' :: (Digits.fixed 16 (2 * size) n).map Digits.char) = .ok n := by
  have hdigits : ∀ d ∈ Digits.fixed 16 (2 * size) n, d < 16 :=
    fun d hd => Digits.lt_of_mem_fixed (by decide) hd
  have hlength := utf8Length_map_char hdigits
  rw [Digits.length_fixed] at hlength
  rw [number, digitsSized]
  simp only [dropMark, hlength, digitsFrom_map_char hdigits]
  rw [if_neg (by omega), if_neg (by simp)]
  simp [Except.map, Digits.value_fixed, Nat.mod_eq_of_lt hn]

end Hex

namespace Address

/-- **The text of an address is read as the address.** -/
theorem parse_text (a : Address) : parse a.text.toList = .ok a := by
  have hlt : a.val.toNat < 16 ^ (2 * 20) := a.val.isLt
  rw [parse, text, String.toList_ofList, digits, Hex.number_fixed hlt]
  simp [Except.map]

theorem text_injective : Function.Injective text := by
  intro a b h
  have hread := a.parse_text
  rw [h, b.parse_text] at hread
  exact (Except.ok.inj hread).symm

end Address

/-- So is the text of a digest. -/
theorem TxHash.parse_text (h : TxHash) : parse h.text.toList = .ok h := by
  have hlt : h.val.toNat < 16 ^ (2 * 32) := h.val.isLt
  rw [parse, text, String.toList_ofList, Hex.number_fixed hlt]
  simp [Except.map]

end LocalChain

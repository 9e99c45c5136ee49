import LocalChain.Digits

/-!
# Bytes

Byte strings as lists, with the big-endian reading of numbers and the UTF-8 reading of text.
-/

namespace LocalChain

/-- A string of bytes, first byte first. -/
abbrev Bytes := List UInt8

namespace Bytes

/-- The last `width` bytes of `n`, most significant first. -/
def ofNat (width n : Nat) : Bytes :=
  (Digits.fixed 256 width n).map UInt8.ofNat

/-- The bytes of `n` with no leading zero byte, so none at all for zero. -/
def shortest (n : Nat) : Bytes :=
  (Digits.shortest 256 n).map UInt8.ofNat

/-- The number that `bs` spell, most significant byte first. -/
def toNat (bs : Bytes) : Nat :=
  Digits.value 256 (bs.map UInt8.toNat)

/-- The UTF-8 form of a text. -/
def ofText (s : String) : Bytes :=
  s.toByteArray.data.toList

/-- The text whose UTF-8 form is `bs`, if there is one. -/
def toText? (bs : Bytes) : Option String :=
  String.fromUTF8? ⟨bs.toArray⟩

/-- `bs` with zero bytes appended up to a whole number of blocks of `size`. -/
def padRight (size : Nat) (bs : Bytes) : Bytes :=
  bs ++ List.replicate ((size - bs.length % size) % size) 0

@[simp]
theorem length_ofNat (width n : Nat) : (ofNat width n).length = width := by
  simp [ofNat]

theorem toText?_ofText (s : String) : toText? (ofText s) = some s := by
  simp [toText?, ofText, String.fromUTF8?, s.isValidUTF8]
  rfl

end Bytes
end LocalChain

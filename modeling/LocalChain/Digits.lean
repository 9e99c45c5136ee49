/-!
# Positional notation

A number and its digits in some base, most significant digit first. Three formats of this library
are instances: hexadecimal text, big-endian bytes and decimal text. `fixed` keeps leading zeros up
to a width, `shortest` writes none.
-/

namespace LocalChain.Digits

/-- The number that `ds` spell in base `base`. -/
def value (base : Nat) (ds : List Nat) : Nat :=
  ds.foldl (fun n d => n * base + d) 0

/-- The last `width` digits of `n`, leading zeros kept. -/
def fixed (base : Nat) : (width : Nat) → (n : Nat) → List Nat
  | 0, _ => []
  | width + 1, n => fixed base width (n / base) ++ [n % base]

/-- The digits of `n` above the ones `low` already written; `fuel` bounds their number. -/
def above (base : Nat) : (fuel : Nat) → (n : Nat) → (low : List Nat) → List Nat
  | 0, _, low => low
  | fuel + 1, n, low => if n = 0 then low else above base fuel (n / base) (n % base :: low)

/-- The digits of `n` with no leading zero, so none at all for zero. -/
def shortest (base n : Nat) : List Nat :=
  above base n n []

/-- The character of a digit below sixteen, letters in lower case. -/
def char (d : Nat) : Char :=
  if d < 10 then Char.ofNat ('0'.toNat + d) else Char.ofNat ('a'.toNat + (d - 10))

/-- The digit below sixteen that a character stands for, letters in lower case. -/
def ofChar (c : Char) : Nat :=
  if c ≤ '9' then c.toNat - '0'.toNat else c.toNat - 'a'.toNat + 10

/-- The decimal text of `n`: its shortest digits, and `0` for zero. -/
def decimal (n : Nat) : List Char :=
  if n = 0 then ['0'] else (shortest 10 n).map char

theorem ofChar_char {d : Nat} (h : d < 16) : ofChar (char d) = d := by
  have : ∀ e ∈ List.range 16, ofChar (char e) = e := by decide
  exact this d (List.mem_range.mpr h)

@[simp]
theorem length_fixed (base width n : Nat) : (fixed base width n).length = width := by
  induction width generalizing n with
  | zero => rfl
  | succ w ih => simp [fixed, ih]

theorem value_concat (base : Nat) (ds : List Nat) (d : Nat) :
    value base (ds ++ [d]) = value base ds * base + d := by
  simp [value]

theorem lt_of_mem_fixed {base width n d : Nat} (h : 0 < base) (hd : d ∈ fixed base width n) :
    d < base := by
  induction width generalizing n with
  | zero => simp [fixed] at hd
  | succ w ih =>
    rcases List.mem_append.mp hd with hd | hd
    · exact ih hd
    · rw [List.mem_singleton.mp hd]
      exact Nat.mod_lt _ h

end LocalChain.Digits

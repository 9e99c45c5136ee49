import LocalChain.Digits

/-!
# Numbers too large for a double

A decimal number whose double is infinite is refused where a number is expected to have a value,
whatever becomes of it afterwards. There are two ways to a double. The exact one takes the nearest, and
`isTooLarge` says when that is infinite. The quick one goes in steps that each round: as many of the
digits as a word of 64 bits holds, taken to a double, times a power of ten, taken to a double. Near the
largest double the two differ, and `isTooLargeInSteps` says when the second one is infinite.
-/

namespace LocalChain.Decimal

/-- The least number whose nearest double is infinite. -/
def overflow : Nat := Nat.pow 2 1024 - Nat.pow 2 970

/-- The double nearest to `m * 10 ^ e` is infinite. -/
def isTooLarge (m : Nat) (e : Int) : Bool :=
  let size := (Digits.shortest 10 m).length + e
  if m = 0 ∨ size < 300 then false
  else if 320 < size then true
  else match e with
    | .ofNat e => overflow ≤ m * Nat.pow 10 e
    | .negSucc e => overflow * Nat.pow 10 (e + 1) ≤ m

/-- The double nearest to `n`, of two the one with an even last bit. Doubles have 53 bits. -/
def nearest (n : Nat) : Nat :=
  let unit := Nat.pow 2 (n.log2 - 52)
  let q := n / unit
  let r := n % unit
  (if unit < 2 * r ∨ (2 * r = unit ∧ q % 2 = 1) then q + 1 else q) * unit

/-- The number of 64 bits that `n` and as many of the digits as fit spell, and the other digits. -/
def appendDigits (n : Nat) : List Nat → Nat × List Nat
  | [] => (n, [])
  | d :: ds => if n * 10 + d < UInt64.size then appendDigits (n * 10 + d) ds else (n, d :: ds)

/-- The double of a number that goes in steps is infinite. The digits before the point that a word
does not hold count as zeros, those after the point not at all. -/
def isTooLargeInSteps (whole fraction : List Nat) (exponent : Int) : Bool :=
  let (m, zeros) := appendDigits 0 whole
  let (m, left) := appendDigits m fraction
  let e := exponent + zeros.length - ((fraction.length - left.length : Nat) : Int)
  if m = 0 then false
  else match e with
    | .ofNat e => 308 < e ∨ overflow ≤ nearest m * nearest (Nat.pow 10 e)
    | .negSucc _ => false

end LocalChain.Decimal

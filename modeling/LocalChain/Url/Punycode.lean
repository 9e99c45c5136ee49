/-!
# Punycode

How the label of a domain name writes characters beyond ASCII: the plain characters, a hyphen, and
then, in increasing order of the other characters, the distance to the place where each belongs as a
number of variable length. Only reading is needed here.
-/

namespace LocalChain.Punycode

/-- The value of a digit in base thirty-six, letters in either case. -/
def digit? (c : Char) : Option Nat :=
  if 'a' ≤ c ∧ c ≤ 'z' then some (c.toNat - 'a'.toNat)
  else if 'A' ≤ c ∧ c ≤ 'Z' then some (c.toNat - 'A'.toNat)
  else if '0' ≤ c ∧ c ≤ '9' then some (c.toNat - '0'.toNat + 26)
  else none

/-- The weight step of the digit at position `k`. -/
def threshold (k bias : Nat) : Nat :=
  if k ≤ bias then 1 else if bias + 26 ≤ k then 26 else k - bias

/-- Divides a delta down to at most 455, counting the divisions in steps of thirty-six. -/
def shrink (delta k : Nat) : Nat × Nat :=
  if 455 < delta then shrink (delta / 35) (k + 36) else (delta, k)
termination_by delta

/-- The bias after a delta, when `count` characters are placed. -/
def adapt (delta count : Nat) (first : Bool) : Nat :=
  let delta := if first then delta / 700 else delta / 2
  let (delta, k) := shrink (delta + delta / count) 0
  k + 36 * delta / (delta + 38)

/-- A number of variable length: its value and the digits after it. Numbers beyond 32 bits are
refused. -/
def readDelta (bias : Nat) : (k weight sum : Nat) → List Char → Option (Nat × List Char)
  | _, _, _, [] => none
  | k, weight, sum, c :: cs => do
    let d ← digit? c
    let sum := sum + d * weight
    guard (sum < UInt32.size)
    let t := threshold k bias
    if d < t then return (sum, cs)
    else readDelta bias (k + 36) (weight * (36 - t)) sum cs

/-- Places the characters that `cs` still describes among those of `placed`; `fuel` bounds their
number. -/
def place : (fuel : Nat) → (n i bias : Nat) → (placed cs : List Char) → Option (List Char)
  | 0, _, _, _, _, _ => none
  | fuel + 1, n, i, bias, placed, cs =>
    if cs.isEmpty then some placed
    else do
      let (delta, cs) ← readDelta bias 36 1 0 cs
      let count := placed.length + 1
      let next := n + (i + delta) / count
      let spot := (i + delta) % count
      guard next.isValidChar
      place fuel next (spot + 1) (adapt delta count (i = 0))
        (placed.take spot ++ Char.ofNat next :: placed.drop spot) cs

/-- The characters before and after the last hyphen. With none before it the hyphen counts as one of
those after. -/
def splitLast (cs : List Char) : List Char × List Char :=
  let tail := (cs.reverse.takeWhile (· != '-')).reverse
  let plain := cs.take (cs.length - tail.length - 1)
  if plain.isEmpty then ([], cs) else (plain, tail)

/-- The label that an encoded one stands for. -/
def decode (cs : List Char) : Option (List Char) := do
  let (plain, rest) := splitLast cs
  guard (plain.all (·.toNat < 128))
  place (rest.length + 1) 128 0 72 plain rest

end LocalChain.Punycode

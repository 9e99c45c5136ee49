import LocalChain.Digits
import LocalChain.Text.Basic

/-!
# Amounts of ether

Amounts are counted in wei, of which 10^18 make an ether, and always fit 256 bits. `parse` reads a
decimal text and `format` writes one with all eighteen places.

Reading is lenient in two ways. Digits after the eighteenth place are dropped unread, and an
underscore counts for nothing. Since places are counted in bytes, the eighteenth may fall inside a
character; there is then no text up to it, and the reading breaks off.
-/

namespace LocalChain

/-- A number of 256 bits. -/
abbrev Word := BitVec 256

namespace Ether

/-- Decimal places of an ether. -/
def places : Nat := 18

/-- What came of reading an amount. -/
inductive Reading where
  /-- The amount in wei. -/
  | wei (amount : Word)
  /-- No decimal text, or an amount that does not fit. -/
  | invalid
  /-- The last place falls inside a character. -/
  | splitCharacter
  deriving DecidableEq

/-- The characters of `cs` within its first `n` bytes, none when the last of these bytes does not
end a character. -/
def takeBytes : (n : Nat) → List Char → Option (List Char)
  | 0, _ => some []
  | _ + 1, [] => some []
  | n + 1, c :: cs =>
    if c.utf8Size ≤ n + 1 then (takeBytes (n + 1 - c.utf8Size) cs).map (c :: ·) else none

/-- One more character of a decimal numeral with value `n` so far. -/
def readDigit (n : Nat) (c : Char) : Option Nat :=
  if c = '_' then some n
  else if '0' ≤ c ∧ c ≤ '9' then some (n * 10 + (c.toNat - '0'.toNat))
  else none

/-- The value of a decimal numeral, in which underscores count for nothing. -/
def readDigits (cs : List Char) : Option Nat :=
  cs.foldlM readDigit 0

/-- Reads an amount of ether: digits with at most one point among them. -/
def parse (cs : List Char) : Reading :=
  let whole := cs.takeWhile (· != '.')
  let fraction := (cs.dropWhile (· != '.')).drop 1
  match takeBytes places fraction with
  | none => .splitCharacter
  | some fraction =>
    match readDigits (whole ++ fraction) with
    | none => .invalid
    | some n =>
      let wei := n * Nat.pow 10 (places - Text.utf8Length fraction)
      if wei < Nat.pow 2 256 then .wei (BitVec.ofNat 256 wei) else .invalid

/-- The amount in ether with eighteen decimal places. -/
def format (wei : Word) : String :=
  let n := wei.toNat
  String.ofList (Digits.decimal (n / Nat.pow 10 places) ++
    '.' :: (Digits.fixed 10 places n).map Digits.char)

end Ether
end LocalChain

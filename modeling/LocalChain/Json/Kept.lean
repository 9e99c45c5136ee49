import LocalChain.Decimal
import LocalChain.Json.Parser

/-!
# Values that are kept

A value that is kept until it is clear what it is read as is taken in full: every text in it has to
spell something, and every number has to have a double. A value that nobody asks for may be anything.
-/

namespace LocalChain.Json

/-- The parts of a number as it is written: its whole digits, the digits after the point, and the power
of ten. -/
def numberParts (literal : String) : List Nat × List Nat × Int :=
  let cs := literal.toList.dropWhile (· == '-')
  let mantissa := cs.takeWhile fun c => c != 'e' && c != 'E'
  let whole := mantissa.takeWhile (· != '.')
  let fraction := (mantissa.dropWhile (· != '.')).drop 1
  let exponent := cs.drop (mantissa.length + 1)
  let (negative, digits) := match exponent with
    | '-' :: ds => (true, ds)
    | '+' :: ds => (false, ds)
    | ds => (false, ds)
  let e : Int := Parser.digitsValue digits
  let number (cs : List Char) := cs.map fun c => c.toNat - '0'.toNat
  (number whole, number fraction, if negative then -e else e)

mutual

/-- Every text in the value spells something and every number has a double. -/
def canBeKept : Json → Bool
  | int n => !Decimal.isTooLargeInSteps (Digits.shortest 10 n.natAbs) [] 0
  | decimal literal =>
    let (whole, fraction, exponent) := numberParts literal
    !Decimal.isTooLargeInSteps whole fraction exponent
  | unpaired _ => false
  | cut _ => false
  | arr items => canAllBeKept items
  | obj members => canMembersBeKept members
  | _ => true

/-- All of the items can be kept. -/
def canAllBeKept : List Json → Bool
  | [] => true
  | j :: js => canBeKept j && canAllBeKept js

/-- The values of all of the members can be kept. -/
def canMembersBeKept : List (String × Json) → Bool
  | [] => true
  | (_, j) :: ms => canBeKept j && canMembersBeKept ms

end

end LocalChain.Json

import LocalChain.Decimal
import LocalChain.Json.Basic
import LocalChain.Text.Hex

/-!
# Numbers of TOML

Integers have 64 bits with sign and may be written in four bases; underscores may stand between
digits. A number with a fraction or an exponent is refused when it is too large, and kept as it is
written.
-/

namespace LocalChain.Toml

/-- A digit of a base up to sixteen. -/
def isDigit (base : Nat) (c : Char) : Bool :=
  (Hex.digit? c).any (· < base)

/-- Digits, single underscores between them left out, and the rest. -/
def digitRun (base : Nat) : List Char → List Char × List Char
  | [] => ([], [])
  | '_' :: c :: rest =>
    if isDigit base c then
      let (ds, rest) := digitRun base rest
      (c :: ds, rest)
    else ([], '_' :: c :: rest)
  | c :: rest =>
    if isDigit base c then
      let (ds, rest) := digitRun base rest
      (c :: ds, rest)
    else ([], c :: rest)

/-- One digit or more. -/
def digits? (base : Nat) : List Char → Option (List Char × List Char)
  | '_' :: _ => none
  | cs =>
    match digitRun base cs with
    | ([], _) => none
    | found => some found

/-- Decimal digits with no zero in front of others. -/
def wholePart? : List Char → Option (List Char × List Char)
  | '0' :: cs => some (['0'], cs)
  | cs => digits? 10 cs

/-- The value of digits. -/
def digitsValue (base : Nat) (ds : List Char) : Nat :=
  Digits.value base (ds.map fun d => (Hex.digit? d).getD 0)

/-- An integer, unless it needs more than 64 bits. -/
def integer? (n : Int) : Option Json := do
  guard (Int64.minValue.toInt ≤ n ∧ n ≤ Int64.maxValue.toInt)
  return .int n

/-- A fraction after the whole digits, if there is one. -/
def fraction? : List Char → Option (List Char × List Char)
  | '.' :: cs => digits? 10 cs
  | cs => some ([], cs)

/-- An exponent, if there is one. -/
def exponent? : List Char → Option (Int × List Char)
  | c :: cs =>
    if c = 'e' ∨ c = 'E' then
      let (negative, cs) := match cs with
        | '-' :: cs => (true, cs)
        | '+' :: cs => (false, cs)
        | cs => (false, cs)
      (digits? 10 cs).map fun (ds, rest) =>
        let n := digitsValue 10 ds
        (if negative then -n else n, rest)
    else some (0, c :: cs)
  | [] => some (0, [])

/-- A decimal number after its sign. -/
def decimal? (negative : Bool) (cs : List Char) : Option (Json × List Char) := do
  let (whole, rest) ← wholePart? cs
  match rest with
  | c :: _ =>
    if c = '.' ∨ c = 'e' ∨ c = 'E' then
      let (fraction, rest) ← fraction? rest
      let (exponent, rest) ← exponent? rest
      let m := digitsValue 10 (whole ++ fraction)
      guard (negative ∨ ¬Decimal.isTooLarge m (exponent - fraction.length))
      let sign := if negative then ['-'] else []
      return (.decimal (String.ofList (sign ++ cs.take (cs.length - rest.length))), rest)
    else
      let n : Int := digitsValue 10 whole
      return (← integer? (if negative then -n else n), rest)
  | [] =>
    let n : Int := digitsValue 10 whole
    return (← integer? (if negative then -n else n), [])

/-- A number after its sign, which may be one of the two that are words. -/
def signed? (negative : Bool) : List Char → Option (Json × List Char)
  | 'i' :: 'n' :: 'f' :: rest => some (.decimal "inf", rest)
  | 'n' :: 'a' :: 'n' :: rest => some (.decimal "nan", rest)
  | cs => decimal? negative cs

/-- An integer in a base after the mark of the base. -/
def based? (base : Nat) (cs : List Char) : Option (Json × List Char) := do
  let (ds, rest) ← digits? base cs
  return (← integer? (digitsValue base ds), rest)

/-- A number. -/
def number? : List Char → Option (Json × List Char)
  | '0' :: 'x' :: cs => based? 16 cs
  | '0' :: 'o' :: cs => based? 8 cs
  | '0' :: 'b' :: cs => based? 2 cs
  | '+' :: cs => signed? false cs
  | '-' :: cs => signed? true cs
  | cs => signed? false cs

end LocalChain.Toml

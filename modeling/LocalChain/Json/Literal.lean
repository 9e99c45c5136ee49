import LocalChain.Digits
import LocalChain.Json.Basic
import LocalChain.Text.Hex

/-!
# Literals of JSON

Strings and numbers. Each reader takes the characters still to be read and gives its value with the rest;
`none` says that they begin with no such literal.
-/

namespace LocalChain.Json.Parser

/-- The number of the four hexadecimal digits of an escape. -/
def escapeNumber (a b c d : Char) : Option Nat := do
  return Digits.value 16 [← Hex.digit? a, ← Hex.digit? b, ← Hex.digit? c, ← Hex.digit? d]

/-- The character that a backslash and a letter stand for. -/
def escapeLetter (c : Char) : Option Char :=
  match c with
  | '"' => some '"'
  | '\\' => some '\\'
  | '/' => some '/'
  | 'b' => some '\x08'
  | 'f' => some '\x0c'
  | 'n' => some '\n'
  | 'r' => some '\r'
  | 't' => some '\t'
  | _ => none

/-- The code points and surrogate halves of a string literal after its opening quote. -/
def units : List Char → Option (List Nat × List Char)
  | [] => none
  | '"' :: rest => some ([], rest)
  | '\\' :: 'u' :: a :: b :: c :: d :: rest => do
    let n ← escapeNumber a b c d
    let (ns, rest) ← units rest
    return (n :: ns, rest)
  | '\\' :: e :: rest => do
    let c ← escapeLetter e
    let (ns, rest) ← units rest
    return (c.toNat :: ns, rest)
  | c :: rest => do
    guard (0x20 ≤ c.toNat ∧ c ≠ '\\')
    let (ns, rest) ← units rest
    return (c.toNat :: ns, rest)

/-- The first half of a surrogate pair. -/
def isLeading (n : Nat) : Bool := 0xD800 ≤ n && n < 0xDC00

/-- The second half of a surrogate pair. -/
def isTrailing (n : Nat) : Bool := 0xDC00 ≤ n && n < 0xE000

/-- The characters of code points and surrogate pairs. When half a pair stands alone there are none; the
error says that the first such half is a leading one at the end, which shows only after that end. -/
def characters : List Nat → Except Bool (List Char)
  | [] => .ok []
  | n :: ns =>
    if isLeading n then
      match ns with
      | m :: ns =>
        if isTrailing m then
          (characters ns).map (Char.ofNat (0x10000 + (n - 0xD800) * 0x400 + (m - 0xDC00)) :: ·)
        else .error false
      | [] => .error true
    else if isTrailing n then .error false
    else (characters ns).map (Char.ofNat n :: ·)

/-- A string literal after its opening quote. -/
def text (cs : List Char) : Option (Except Bool String × List Char) := do
  let (ns, rest) ← units cs
  return ((characters ns).map String.ofList, rest)

/-- The decimal digits that `cs` begins with. -/
def digitRun (cs : List Char) : List Char × List Char :=
  cs.span (fun c => '0' ≤ c ∧ c ≤ '9')

/-- The value of decimal digits. -/
def digitsValue (cs : List Char) : Nat :=
  Digits.value 10 (cs.map fun c => c.toNat - '0'.toNat)

/-- The whole digits of a number: a zero alone, or digits with none in front. -/
def wholePart (cs : List Char) : Option (List Char × List Char) :=
  match digitRun cs with
  | ([], _) => none
  | ('0' :: _ :: _, _) => none
  | (ds, rest) => some (ds, rest)

/-- A point with digits after it, if there is a point. -/
def fractionPart : List Char → Option (List Char × List Char)
  | '.' :: rest =>
    match digitRun rest with
    | ([], _) => none
    | (ds, rest) => some ('.' :: ds, rest)
  | cs => some ([], cs)

/-- The sign of an exponent, if there is one. -/
def signPart : List Char → List Char × List Char
  | '+' :: rest => (['+'], rest)
  | '-' :: rest => (['-'], rest)
  | cs => ([], cs)

/-- An exponent, if there is one. -/
def exponentPart : List Char → Option (List Char × List Char)
  | c :: rest =>
    if c = 'e' ∨ c = 'E' then
      let (sign, rest) := signPart rest
      match digitRun rest with
      | ([], _) => none
      | (ds, rest) => some (c :: sign ++ ds, rest)
    else some ([], c :: rest)
  | [] => some ([], [])

/-- A number. -/
def number (cs : List Char) : Option (Json × List Char) := do
  let (minus, cs) := match cs with
    | '-' :: rest => (true, rest)
    | cs => (false, cs)
  let (whole, cs) ← wholePart cs
  let (fraction, cs) ← fractionPart cs
  let (exponent, cs) ← exponentPart cs
  let n := digitsValue whole
  if fraction.isEmpty ∧ exponent.isEmpty ∧ ¬(minus ∧ n = 0) then
    return (.int (if minus then -n else n), cs)
  else
    let sign := if minus then ['-'] else []
    return (.decimal (String.ofList (sign ++ whole ++ fraction ++ exponent)), cs)

end LocalChain.Json.Parser

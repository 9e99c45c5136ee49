import LocalChain.Json.Fault

/-!
# Reading JSON

A recursive descent over the characters. Each reader takes the characters still to be read and gives
its value with the rest; `none` says that they begin with no such value. The fuel of the readers bounds
nesting and neighbours together, and a text never needs more of it than it has characters.
-/

namespace LocalChain.Json.Parser

/-- The four characters that may stand between tokens. -/
def isSpace (c : Char) : Bool :=
  c = ' ' || c = '\t' || c = '\n' || c = '\r'

/-- Passes over the space between tokens. -/
def skip (cs : List Char) : List Char :=
  cs.dropWhile isSpace

mutual

/-- A value. -/
def value : (fuel : Nat) → List Char → Option (Json × List Char)
  | 0, _ => none
  | fuel + 1, cs =>
    match skip cs with
    | 'n' :: 'u' :: 'l' :: 'l' :: rest => some (.null, rest)
    | 't' :: 'r' :: 'u' :: 'e' :: rest => some (.bool true, rest)
    | 'f' :: 'a' :: 'l' :: 's' :: 'e' :: rest => some (.bool false, rest)
    | '"' :: rest => do
      let (s, rest) ← text rest
      match s with
      | .ok s => return (.str s, rest)
      | .error isPassed => return (.unpaired isPassed, rest)
    | '[' :: rest =>
      match skip rest with
      | ']' :: rest => some (.arr [], rest)
      | rest => do
        let (items, isCut, rest) ← items fuel rest
        return (if isCut then .cut items else .arr items, rest)
    | '\x7b' :: rest =>
      match skip rest with
      | '\x7d' :: rest => some (.obj [], rest)
      | rest => do
        let (members, rest) ← members fuel rest
        return (members.elim (.unpaired false) .obj, rest)
    | rest => number rest

/-- The items of an array up to its closing bracket, and whether one that cannot be read stands between. -/
def items : (fuel : Nat) → List Char → Option (List Json × Bool × List Char)
  | 0, _ => none
  | fuel + 1, cs =>
    match value fuel cs with
    | none =>
      match (Fault.rest? (skip cs)).map skip with
      | some (']' :: rest) => some ([], true, rest)
      | _ => none
    | some (j, rest) =>
      match skip rest with
      | ',' :: rest => do
        let (js, isCut, rest) ← items fuel rest
        return (j :: js, isCut, rest)
      | ']' :: rest => some ([j], false, rest)
      | _ => none

/-- The members of an object up to its closing brace, none of them when a key spells no text. -/
def members : (fuel : Nat) → List Char → Option (Option (List (String × Json)) × List Char)
  | 0, _ => none
  | fuel + 1, cs =>
    match skip cs with
    | '"' :: rest => do
      let (key, rest) ← text rest
      match skip rest with
      | ':' :: rest => do
        let (j, rest) ← value fuel rest
        let first := key.toOption.map fun key => (key, j)
        match skip rest with
        | ',' :: rest => do
          let (ms, rest) ← members fuel rest
          return ((do return (← first) :: (← ms)), rest)
        | '\x7d' :: rest => return (first.map ([·]), rest)
        | _ => none
      | _ => none
    | _ => none

end

end LocalChain.Json.Parser

namespace LocalChain.Json

/-- The value that a text is, space around it aside. Arrays in it may be cut short. -/
def parseLoose (s : String) : Option Json := do
  let cs := s.toList
  let (j, rest) ← Parser.value (cs.length + 1) cs
  guard (Parser.skip rest).isEmpty
  return j

/-- The value that a text is, space around it aside. -/
def parse (s : String) : Option Json :=
  (parseLoose s).filter isWhole

end LocalChain.Json

import LocalChain.Toml.Moment
import LocalChain.Toml.Number
import LocalChain.Toml.Table
import LocalChain.Toml.Text

/-!
# Values of TOML

A value is a string, a number, a moment, a truth value, an array or a table on one line. `depth` counts
the arrays and tables around a value, which are fewer than a limit; the fuel of the readers bounds
nesting and neighbours together.
-/

namespace LocalChain.Toml

/-- A key without its last part, and that part. -/
def splitLast (parts : List String) : List String × String :=
  (parts.dropLast, parts.getLastD "")

mutual

/-- A value. -/
def value? : (fuel depth : Nat) → List Char → Option (Json × List Char)
  | 0, _, _ => none
  | fuel + 1, depth, cs =>
    match cs with
    | '"' :: _ => (string? cs).map fun (s, rest) => (.str s, rest)
    | '\'' :: _ => (string? cs).map fun (s, rest) => (.str s, rest)
    | '[' :: rest => do
      guard (depth + 1 < depthLimit)
      let (items, rest) ← items? fuel (depth + 1) rest
      return (.arr items, rest)
    | '\x7b' :: rest => do
      guard (depth + 1 < depthLimit)
      match skipSpace rest with
      | '\x7d' :: rest => return (.obj [], rest)
      | rest =>
        let (members, rest) ← members? fuel (depth + 1) [] rest
        return (.obj (Members.toJson members), rest)
    | 't' :: 'r' :: 'u' :: 'e' :: rest => some (.bool true, rest)
    | 'f' :: 'a' :: 'l' :: 's' :: 'e' :: rest => some (.bool false, rest)
    | cs => (moment? cs).orElse fun _ => number? cs

/-- The items of an array up to its closing bracket, before which a comma may stand. -/
def items? : (fuel depth : Nat) → List Char → Option (List Json × List Char)
  | 0, _, _ => none
  | fuel + 1, depth, cs =>
    match skipLines (cs.length + 1) cs with
    | ']' :: rest => some ([], rest)
    | cs => do
      let (j, rest) ← value? fuel depth cs
      match skipLines (rest.length + 1) rest with
      | ',' :: rest =>
        let (js, rest) ← items? fuel depth rest
        return (j :: js, rest)
      | ']' :: rest => return ([j], rest)
      | _ => none

/-- The members of a table on one line up to its closing brace. -/
def members? : (fuel depth : Nat) → Members → List Char → Option (Members × List Char)
  | 0, _, _, _ => none
  | fuel + 1, depth, ms, cs => do
    let (parts, rest) ← key? cs
    let (j, rest) ← value? fuel depth (skipSpace (← expect? '=' rest))
    let (path, key) := splitLast parts
    let ms ← Members.add path key j .headed ms
    match skipSpace rest with
    | ',' :: rest => members? fuel depth ms rest
    | '\x7d' :: rest => return (ms, rest)
    | _ => none

end

end LocalChain.Toml

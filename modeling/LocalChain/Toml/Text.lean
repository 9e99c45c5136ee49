import LocalChain.Digits
import LocalChain.Text.Hex
import LocalChain.Toml.Layout

/-!
# Strings and keys of TOML

A string stands between quotes, which take escapes, or between apostrophes, which take none; three of
either make a string of several lines, in which one or two may stand together. A key is a string of
one line or a bare word, and points join keys.
-/

namespace LocalChain.Toml

/-- The character with a code in hexadecimal digits, `size` of which stand here. -/
def escapeCode (size : Nat) (cs : List Char) : Option (Char × List Char) := do
  guard (size ≤ cs.length)
  let n := Digits.value 16 (← (cs.take size).mapM Hex.digit?)
  guard (n.isValidChar)
  return (Char.ofNat n, cs.drop size)

/-- The character that a backslash and what follows it stand for. -/
def escape? : List Char → Option (Char × List Char)
  | 'b' :: cs => some ('\x08', cs)
  | 't' :: cs => some ('\t', cs)
  | 'n' :: cs => some ('\n', cs)
  | 'f' :: cs => some ('\x0c', cs)
  | 'r' :: cs => some ('\r', cs)
  | '"' :: cs => some ('"', cs)
  | '\\' :: cs => some ('\\', cs)
  | 'u' :: cs => escapeCode 4 cs
  | 'U' :: cs => escapeCode 8 cs
  | _ => none

/-- A string of one line after its opening quote; `fuel` bounds its characters. -/
def basicText : (fuel : Nat) → List Char → Option (List Char × List Char)
  | 0, _ => none
  | fuel + 1, cs =>
    match cs with
    | '"' :: rest => some ([], rest)
    | '\\' :: rest => do
      let (c, rest) ← escape? rest
      let (text, rest) ← basicText fuel rest
      return (c :: text, rest)
    | c :: rest => do
      guard (isPlain c)
      let (text, rest) ← basicText fuel rest
      return (c :: text, rest)
    | [] => none

/-- A string of one line after its opening apostrophe. -/
def literalText : List Char → Option (List Char × List Char)
  | '\'' :: rest => some ([], rest)
  | c :: rest => do
    guard (isPlain c)
    let (text, rest) ← literalText rest
    return (c :: text, rest)
  | [] => none

/-- The end of a string of several lines: three to five of its mark, of which those before the last
three belong to the string. -/
def closing? (mark : Char) (cs : List Char) : Option (List Char × List Char) :=
  let run := (cs.takeWhile (· == mark)).length
  if 3 ≤ run then
    let own := min (run - 3) 2
    some (List.replicate own mark, cs.drop (own + 3))
  else none

/-- Passes over blanks and line ends. -/
def skipBlank : List Char → List Char
  | '\r' :: '\n' :: cs => skipBlank cs
  | c :: cs => if isSpace c || c = '\n' then skipBlank cs else c :: cs
  | [] => []

/-- What follows a backslash at the end of a line: the next character that is neither blank nor line
end. -/
def continued? (cs : List Char) : Option (List Char) :=
  (newline? (skipSpace cs)).map skipBlank

/-- A string of several lines after its three opening marks, with escapes when the mark is the quote;
`fuel` bounds its characters. -/
def longText (mark : Char) : (fuel : Nat) → List Char → Option (List Char × List Char)
  | 0, _ => none
  | fuel + 1, cs =>
    match closing? mark cs with
    | some found => some found
    | none =>
      match newline? cs with
      | some rest => do
        let (text, rest) ← longText mark fuel rest
        return ('\n' :: text, rest)
      | none =>
        match cs with
        | [] => none
        | c :: rest =>
          if c = '\\' ∧ mark = '"' then
            match continued? rest with
            | some rest => longText mark fuel rest
            | none => do
              let (c, rest) ← escape? rest
              let (text, rest) ← longText mark fuel rest
              return (c :: text, rest)
          else do
            guard (isPlain c)
            let (text, rest) ← longText mark fuel rest
            return (c :: text, rest)

/-- A line end right after the opening marks of a string counts for nothing. -/
def dropNewline (cs : List Char) : List Char :=
  (newline? cs).getD cs

/-- A string of any kind. -/
def string? : List Char → Option (String × List Char)
  | '"' :: '"' :: '"' :: cs =>
    (longText '"' (cs.length + 1) (dropNewline cs)).map fun (t, rest) => (String.ofList t, rest)
  | '"' :: cs => (basicText (cs.length + 1) cs).map fun (t, rest) => (String.ofList t, rest)
  | '\'' :: '\'' :: '\'' :: cs =>
    (longText '\'' (cs.length + 1) (dropNewline cs)).map fun (t, rest) => (String.ofList t, rest)
  | '\'' :: cs => (literalText cs).map fun (t, rest) => (String.ofList t, rest)
  | _ => none

/-- A character of a bare key. -/
def isBare (c : Char) : Bool :=
  c.isAlphanum || c = '-' || c = '_'

/-- One part of a key. -/
def keyPart? : List Char → Option (String × List Char)
  | '"' :: cs => (basicText (cs.length + 1) cs).map fun (t, rest) => (String.ofList t, rest)
  | '\'' :: cs => (literalText cs).map fun (t, rest) => (String.ofList t, rest)
  | cs =>
    match cs.span isBare with
    | ([], _) => none
    | (word, rest) => some (String.ofList word, rest)

/-- Parts of a key with points between them and blanks around them; `fuel` bounds their number. -/
def keyParts? : (fuel : Nat) → List Char → Option (List String × List Char)
  | 0, _ => none
  | fuel + 1, cs => do
    let (part, rest) ← keyPart? (skipSpace cs)
    match skipSpace rest with
    | '.' :: rest =>
      let (parts, rest) ← keyParts? fuel rest
      return (part :: parts, rest)
    | rest => return ([part], rest)

/-- How deep keys and values may nest, this depth excluded. -/
def depthLimit : Nat := 80

/-- A key. -/
def key? (cs : List Char) : Option (List String × List Char) := do
  let (parts, rest) ← keyParts? (cs.length + 1) cs
  guard (parts.length < depthLimit)
  return (parts, rest)

end LocalChain.Toml

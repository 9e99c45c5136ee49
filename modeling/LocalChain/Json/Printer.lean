import LocalChain.Digits
import LocalChain.Json.Basic

/-!
# Writing JSON

Two layouts of a value: on one line, and with one item a line and two blanks a level. Strings are
written as they are but for the quote, the backslash and the controls below the space.
-/

namespace LocalChain.Json

/-- The form of one character in a string literal. -/
def escaped (c : Char) : List Char :=
  match c with
  | '"' => ['\\', '"']
  | '\\' => ['\\', '\\']
  | '\x08' => ['\\', 'b']
  | '\x0c' => ['\\', 'f']
  | '\n' => ['\\', 'n']
  | '\r' => ['\\', 'r']
  | '\t' => ['\\', 't']
  | c =>
    if c.toNat < 0x20 then
      '\\' :: 'u' :: (Digits.fixed 16 4 c.toNat).map Digits.char
    else [c]

/-- A string literal. -/
def literal (s : String) : List Char :=
  '"' :: s.toList.flatMap escaped ++ ['"']

/-- An integer. -/
def integer : Int → List Char
  | .ofNat n => Digits.decimal n
  | .negSucc n => '-' :: Digits.decimal (n + 1)

mutual

/-- The value on one line, without space between tokens. -/
def compact : Json → List Char
  | null => ['n', 'u', 'l', 'l']
  | bool true => ['t', 'r', 'u', 'e']
  | bool false => ['f', 'a', 'l', 's', 'e']
  | int n => integer n
  | decimal s => s.toList
  | str s => literal s
  | unpaired _ => ['"', '\\', 'u', 'd', '8', '0', '0', '"']
  | arr [] | cut [] => ['[', ']']
  | arr (j :: js) | cut (j :: js) => '[' :: compact j ++ compactItems js
  | obj [] => ['\x7b', '\x7d']
  | obj ((k, j) :: ms) => '\x7b' :: literal k ++ ':' :: compact j ++ compactMembers ms

/-- The items after the first, with the closing bracket. -/
def compactItems : List Json → List Char
  | [] => [']']
  | j :: js => ',' :: compact j ++ compactItems js

/-- The members after the first, with the closing brace. -/
def compactMembers : List (String × Json) → List Char
  | [] => ['\x7d']
  | (k, j) :: ms => ',' :: literal k ++ ':' :: compact j ++ compactMembers ms

end

/-- The start of a line at a level. -/
def newline (level : Nat) : List Char :=
  '\n' :: List.replicate (2 * level) ' '

mutual

/-- The value with one item or member a line; `level` counts the arrays and objects around it. -/
def pretty (level : Nat) : Json → List Char
  | null => ['n', 'u', 'l', 'l']
  | bool true => ['t', 'r', 'u', 'e']
  | bool false => ['f', 'a', 'l', 's', 'e']
  | int n => integer n
  | decimal s => s.toList
  | str s => literal s
  | unpaired _ => ['"', '\\', 'u', 'd', '8', '0', '0', '"']
  | arr [] | cut [] => ['[', ']']
  | arr (j :: js) | cut (j :: js) =>
    '[' :: newline (level + 1) ++ pretty (level + 1) j ++ prettyItems level js
  | obj [] => ['\x7b', '\x7d']
  | obj ((k, j) :: ms) =>
    '\x7b' :: newline (level + 1) ++ literal k ++ ':' :: ' ' :: pretty (level + 1) j ++
      prettyMembers level ms

/-- The items after the first of an array at `level`, with the closing bracket. -/
def prettyItems (level : Nat) : List Json → List Char
  | [] => newline level ++ [']']
  | j :: js => ',' :: newline (level + 1) ++ pretty (level + 1) j ++ prettyItems level js

/-- The members after the first of an object at `level`, with the closing brace. -/
def prettyMembers (level : Nat) : List (String × Json) → List Char
  | [] => newline level ++ ['\x7d']
  | (k, j) :: ms =>
    ',' :: newline (level + 1) ++ literal k ++ ':' :: ' ' :: pretty (level + 1) j ++
      prettyMembers level ms

end

end LocalChain.Json

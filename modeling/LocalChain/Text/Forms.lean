import LocalChain.Digits
import LocalChain.Text.Hidden

/-!
# Forms for developers

A text between quotes, in which everything that would not show is written with a backslash: the
quote, the backslash, the common controls by a letter, other hidden characters by their code.

A duration of whole milliseconds, in seconds when it has one and in milliseconds otherwise, with a
decimal fraction that ends in no zero.
-/

namespace LocalChain.Text

/-! ## Quoted text -/

/-- The form of one character between quotes of the kind `quote`. -/
def quotedChar (quote c : Char) : List Char :=
  if c = '\x00' then ['\\', '0']
  else if c = '\t' then ['\\', 't']
  else if c = '\n' then ['\\', 'n']
  else if c = '\r' then ['\\', 'r']
  else if c = '\\' ∨ c = quote then ['\\', c]
  else if isHidden c then
    ['\\', 'u', '\x7b'] ++ (Digits.shortest 16 c.toNat).map Digits.char ++ ['\x7d']
  else [c]

/-- A text between double quotes. -/
def quoted (s : String) : String :=
  String.ofList ('"' :: s.toList.flatMap (quotedChar '"') ++ ['"'])

/-- A character between single quotes. -/
def quotedSingle (c : Char) : String :=
  String.ofList ('\'' :: quotedChar '\'' c ++ ['\''])

/-! ## Durations -/

/-- The thousandths `n` as a fraction without its last zeros; nothing for none. -/
def thousandths (n : Nat) : List Char :=
  if n % 1000 = 0 then []
  else
    let ds := (Digits.fixed 10 3 n).map Digits.char
    '.' :: (ds.reverse.dropWhile (· == '0')).reverse

/-- The text of a duration in milliseconds. -/
def duration (milliseconds : Nat) : String :=
  if 1000 ≤ milliseconds then
    String.ofList (Digits.decimal (milliseconds / 1000) ++ thousandths milliseconds ++ ['s'])
  else if milliseconds = 0 then "0ns"
  else String.ofList (Digits.decimal milliseconds ++ ['m', 's'])

end LocalChain.Text

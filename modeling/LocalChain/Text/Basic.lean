/-!
# Texts as lists of characters

Blanks around a text, the bytes that it takes, and its parts between separators.
-/

namespace LocalChain.Text

/-! ## Blanks -/

/-- The characters with the property `White_Space`. -/
def isBlank (c : Char) : Bool :=
  let n := c.toNat
  (9 ≤ n && n ≤ 13) || n = 0x20 || n = 0x85 || n = 0xA0 || n = 0x1680 ||
    (0x2000 ≤ n && n ≤ 0x200A) || n = 0x2028 || n = 0x2029 || n = 0x202F || n = 0x205F || n = 0x3000

/-- `cs` without the characters at either end for which `p` holds. -/
def strip (p : Char → Bool) (cs : List Char) : List Char :=
  ((cs.dropWhile p).reverse.dropWhile p).reverse

/-- `cs` without blank characters at either end. -/
def trim (cs : List Char) : List Char :=
  strip isBlank cs

/-- Nothing but blank characters. -/
def isBlankText (s : String) : Bool :=
  s.toList.all isBlank

/-! ## Lengths and parts -/

/-- The number of bytes in the UTF-8 form of a text, where a character takes one to four. -/
def utf8Length : List Char → Nat
  | [] => 0
  | c :: cs => c.utf8Size + utf8Length cs

/-- The parts of `cs` between the characters that `separates` picks, empty ones included: one more than
there are separators. -/
def parts (separates : Char → Bool) : List Char → List (List Char)
  | [] => [[]]
  | c :: cs =>
    if separates c then [] :: parts separates cs
    else match parts separates cs with
      | l :: ls => (c :: l) :: ls
      | [] => [[c]]

end LocalChain.Text

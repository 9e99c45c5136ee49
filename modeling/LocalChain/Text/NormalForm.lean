import LocalChain.Text.CombiningClass
import LocalChain.Text.Decomposition

/-!
# The composed form

Texts that mean the same are brought into one form: every character is taken apart, the marks after a
character are put in the order of their classes, and then what can be joined is joined.
-/

namespace LocalChain.Text

/-- A character taken apart; `depth` bounds how often its parts are taken apart again. -/
def decompose : (depth : Nat) → Char → List Char
  | 0, c => [c]
  | depth + 1, c =>
    match expansion? c with
    | none => [c]
    | some cs => cs.flatMap (decompose depth)

/-- No character has parts in parts more than four deep. -/
def decomposed (cs : List Char) : List Char :=
  cs.flatMap (decompose 4)

/-- A mark in its place among marks in order: after those of a lower class that come next. -/
def insertMark (c : Char) : List Char → List Char
  | [] => [c]
  | d :: ds =>
    if combiningClass d ≠ 0 ∧ combiningClass d < combiningClass c then d :: insertMark c ds
    else c :: d :: ds

/-- The marks after each character in the order of their classes, those of one class as they stand. -/
def ordered : List Char → List Char
  | [] => []
  | c :: cs => if combiningClass c = 0 then c :: ordered cs else insertMark c (ordered cs)

/-- Joins what can be joined. `start` is the character of class zero that is joined to, if there is one
yet, and `marks` are those after it which could not be joined, in reverse. A character is joined when no
mark of its own class or a higher one stands in between. -/
def joined (start : Option Char) (marks : List Char) : List Char → List Char
  | [] => start.toList ++ marks.reverse
  | c :: cs =>
    let isFree := match marks with
      | [] => true
      | m :: _ => combiningClass m < combiningClass c
    match start.bind fun s => if isFree then join? s c else none with
    | some s => joined (some s) marks cs
    | none =>
      if combiningClass c = 0 then start.toList ++ marks.reverse ++ joined (some c) [] cs
      else joined start (c :: marks) cs

/-- The composed form of a text. -/
def composed (cs : List Char) : List Char :=
  if cs.all (·.toNat < 0xC0) then cs else joined none [] (ordered (decomposed cs))

end LocalChain.Text

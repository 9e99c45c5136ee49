import LocalChain.Json.Literal

/-!
# Where reading stops

Reading something that should have been a value stops at or after the first character that shows that it
is none. What is left then matters to a reader who goes on without it.
-/

namespace LocalChain.Json.Parser.Fault

/-- What is left after a character that is not the one wanted. -/
def after : List Char → Option (List Char)
  | c :: rest => if c.toNat < 128 then some rest else none
  | [] => none

/-- What is left of `cs` when it should have gone on with a word and does not. -/
def word : (wanted : List Char) → (cs : List Char) → Option (List Char)
  | w :: ws, c :: cs => if c = w then word ws cs else after (c :: cs)
  | _, _ => none

/-- What is left after the sign of an exponent when no digit follows. -/
def exponent (cs : List Char) : Option (List Char) :=
  match digitRun cs with
  | ([], rest) => after rest
  | _ => none

/-- What is left of `cs` after the whole digits of a number that goes wrong later. -/
def fraction : List Char → Option (List Char)
  | '.' :: cs =>
    match digitRun cs with
    | ([], rest) => some rest
    | (_, c :: rest) => if c = 'e' ∨ c = 'E' then exponent (signPart rest).2 else none
    | (_, []) => none
  | c :: rest => if c = 'e' ∨ c = 'E' then exponent (signPart rest).2 else none
  | [] => none

/-- What is left of a number that goes wrong, its sign aside. -/
def number (cs : List Char) : Option (List Char) :=
  match digitRun cs with
  | ([], rest) => after rest
  | ('0' :: _ :: _, _) => none
  | (_, rest) => fraction rest

/-- What is left of a string literal that goes wrong, its opening quote aside. Half of a surrogate pair
shows to be alone at the character where the other half should begin, or after four digits that are not
those of the other half. -/
def text : List Char → Option (List Char)
  | '\\' :: 'u' :: a :: b :: c :: d :: rest =>
    if [a, b, c, d].any (128 ≤ ·.toNat) then none
    else match escapeNumber a b c d with
      | none => some rest
      | some n =>
        if isTrailing n then some rest
        else if !isLeading n then text rest
        else match rest with
          | '\\' :: 'u' :: a :: b :: c :: d :: rest =>
            if [a, b, c, d].any (128 ≤ ·.toNat) then none
            else match escapeNumber a b c d with
              | none => some rest
              | some m => if isTrailing m then text rest else some rest
          | '\\' :: rest => after rest
          | rest => after rest
  | '\\' :: e :: rest => if (escapeLetter e).isSome then text rest else after (e :: rest)
  | '"' :: _ => none
  | c :: rest => if c.toNat < 0x20 then some rest else text rest
  | [] => none

/-- What is left when `cs` should have begun with a value and does not, unless nothing is passed at all
and the text goes on with something else than the end of an array. -/
def rest? : List Char → Option (List Char)
  | ']' :: rest => some (']' :: rest)
  | 'n' :: rest => word ['u', 'l', 'l'] rest
  | 't' :: rest => word ['r', 'u', 'e'] rest
  | 'f' :: rest => word ['a', 'l', 's', 'e'] rest
  | '"' :: rest => text rest
  | '-' :: rest => number rest
  | c :: rest => if '0' ≤ c ∧ c ≤ '9' then number (c :: rest) else none
  | [] => none

end LocalChain.Json.Parser.Fault

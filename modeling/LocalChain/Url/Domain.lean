import LocalChain.Text.CombiningClass
import LocalChain.Text.Direction
import LocalChain.Text.Joining
import LocalChain.Text.NormalForm
import LocalChain.Url.NameForm
import LocalChain.Url.Punycode

/-!
# Domain names

A domain name as a person may write it is brought into the form that names are looked up in: letters in
lower case, ornate characters as plain ones, characters that do not show dropped, and what can be joined
joined. Its labels then have to be made of allowed characters in an order that reads one way only, and one
in encoded form has to stand for a label that needs it.
-/

namespace LocalChain.Domain

open LocalChain.Text

/-- The characters below 128 that no name may hold. -/
def isForbidden (c : Char) : Bool :=
  c.toNat ≤ 0x20 || c.toNat = 0x7F || "%#/:<>?@[\\]^|".toList.contains c

/-- The form of a text in a name, unless it holds a character that no name may hold. -/
def form (cs : List Char) : Option (List Char) :=
  (cs.mapM form?).map fun forms => composed forms.flatten

/-- Joiners and separators stand where they make a difference: after a virama, and a separator also
between letters that would join. What is before `cs` is given backwards. -/
def areJoinersPlaced (before : List Char) : List Char → Bool
  | [] => true
  | c :: cs =>
    (!(c = separator || c = joiner) || before.head?.any isVirama ||
        (c = separator && wouldJoin before cs)) &&
      areJoinersPlaced (c :: before) cs

/-- A label that can be looked up as it stands: made of allowed characters, with no mark in front. -/
def isPlainLabel (l : List Char) : Bool :=
  l.all (!isForbidden ·) && !l.head?.any isMark && areJoinersPlaced [] l

/-- Characters in an encoded label at most. -/
def longestEncoded : Nat := 2000

/-- Characters at most in a label that has to be encoded. -/
def longestDecoded : Nat := 1000

/-- The label that one in encoded form stands for. It holds other characters than plain ones, written as
they are looked up. -/
def decode? (l : List Char) : Option (List Char) := do
  guard (l.length ≤ longestEncoded)
  let decoded ← Punycode.decode l
  guard (isPlainLabel decoded && decoded.any (128 ≤ ·.toNat) && form decoded = some decoded)
  return decoded

/-- What a label says, if it can be looked up: itself, or what it stands for in encoded form. -/
def label? : List Char → Option (List Char)
  | 'x' :: 'n' :: '-' :: '-' :: l => if l.all (·.toNat < 128) then decode? l else none
  | l => do
    guard (isPlainLabel l && (l.all (·.toNat < 128) || l.length ≤ longestDecoded))
    return l

/-- A character that makes a name run to the left somewhere. -/
def isLeftward (c : Char) : Bool :=
  0x590 ≤ c.toNat && (direction c = .left || direction c = .arabicDigit)

/-- A label reads one way only, wherever it stands in a line. It begins with a letter, holds letters of
the same direction only and ends with a letter or a digit; one that runs to the left keeps to one family
of digits. Marks at the end do not count. -/
def hasOneDirection (l : List Char) : Bool :=
  match l.map direction with
  | [] => true
  | first :: others =>
    let others := (others.reverse.dropWhile (· == .mark)).reverse
    match first with
    | .right =>
      others.all (fun d => d != .left && d != .arabicDigit) &&
        others.getLast?.all fun d => d == .right || d == .digit
    | .left =>
      others.all (· != .right) && !(others.contains .digit && others.contains .arabicDigit) &&
        others.getLast?.all fun d => d == .left || d == .digit || d == .arabicDigit
    | _ => false

/-- The labels of a name can be looked up, and each reads one way when one of them runs to the left. -/
def isName (name : List Char) : Bool :=
  match (parts (· == '.') name).mapM label? with
  | none => false
  | some ls => !ls.any (·.any isLeftward) || ls.all hasOneDirection

/-- The form of a name that is looked up, if it has one. -/
def normalize (cs : List Char) : Option (List Char) :=
  (form cs).filter isName

end LocalChain.Domain

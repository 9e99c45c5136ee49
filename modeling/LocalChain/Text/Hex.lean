import LocalChain.Bytes
import LocalChain.Text.Basic
import LocalChain.Text.Forms

/-!
# Hexadecimal text

Two digits a byte, lower case when written and any case when read. A reader takes one `0x` or `0X`
in front as no part of the digits, and reports the first thing that is wrong: an odd number of
digits, then a wrong number of them, then the first character that is no digit.
-/

namespace LocalChain.Hex

/-- The value of a hexadecimal digit. -/
def digit? (c : Char) : Option Nat :=
  if '0' ≤ c ∧ c ≤ '9' then some (c.toNat - '0'.toNat)
  else if 'a' ≤ c ∧ c ≤ 'f' then some (c.toNat - 'a'.toNat + 10)
  else if 'A' ≤ c ∧ c ≤ 'F' then some (c.toNat - 'A'.toNat + 10)
  else none

/-- Why a text is no hexadecimal form of bytes. -/
inductive Error where
  /-- The last digit has no partner. -/
  | oddLength
  /-- The digits are not as many as the reader wants. -/
  | wrongLength
  /-- A byte of the text, at a position counted after the leading `0x`, is no digit. -/
  | badByte (byte : UInt8) (position : Nat)
  deriving DecidableEq, Repr

/-- The sentence for people. A byte that is no digit is shown as the character with its number. -/
def Error.message : Error → String
  | oddLength => "odd number of digits"
  | wrongLength => "invalid string length"
  | badByte b position =>
    "invalid character " ++ Text.quotedSingle (Char.ofNat b.toNat) ++ " at position " ++
      toString position

/-- The two digits of a byte. -/
def encodeByte (b : UInt8) : List Char :=
  (Digits.fixed 16 2 b.toNat).map Digits.char

/-- The digits of `bs`, two a byte, in lower case. -/
def encode (bs : Bytes) : List Char :=
  bs.flatMap encodeByte

/-- The digits of `bs` after `0x`. -/
def text (bs : Bytes) : String :=
  String.ofList ('0' :: 'x' :: encode bs)

/-- `cs` without one leading `0x` or `0X`. -/
def dropMark : List Char → List Char
  | '0' :: 'x' :: cs => cs
  | '0' :: 'X' :: cs => cs
  | cs => cs

/-- The digits of `cs`, whose first character stands at `position`. Characters before a wrong one
are digits and so one byte each, which makes its place a byte position too. -/
def digitsFrom (position : Nat) : List Char → Except Error (List Nat)
  | [] => .ok []
  | c :: cs =>
    match digit? c with
    | none => .error (.badByte ((String.utf8EncodeChar c).headD 0) position)
    | some d => (digitsFrom (position + 1) cs).map (d :: ·)

/-- The digits of a text after its mark, an even number of them. -/
def digits (cs : List Char) : Except Error (List Nat) :=
  let cs := dropMark cs
  if Text.utf8Length cs % 2 = 1 then .error .oddLength else digitsFrom 0 cs

/-- The digits of a text after its mark, two for each of `size` bytes. -/
def digitsSized (size : Nat) (cs : List Char) : Except Error (List Nat) :=
  let cs := dropMark cs
  if Text.utf8Length cs % 2 = 1 then .error .oddLength
  else if Text.utf8Length cs ≠ 2 * size then .error .wrongLength
  else digitsFrom 0 cs

/-- The bytes that digits spell two by two. -/
def pairs : List Nat → Bytes
  | a :: b :: rest => UInt8.ofNat (16 * a + b) :: pairs rest
  | _ => []

/-- The bytes that a text spells. -/
def decode (cs : List Char) : Except Error Bytes :=
  (digits cs).map pairs

/-- The number that a text of `size` bytes spells. -/
def number (size : Nat) (cs : List Char) : Except Error Nat :=
  (digitsSized size cs).map (Digits.value 16)

end LocalChain.Hex

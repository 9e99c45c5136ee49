import LocalChain.Json.Basic
import LocalChain.Text.Hex

/-!
# Numbers and bytes in messages

Messages to and from a node write numbers and bytes as hexadecimal text after `0x`. A number has no
leading zeros when it is written; the reader takes any, takes no digits for zero, and takes decimal text
and JSON numbers too.

The reader is for what nodes write. It takes no other spelling: no mark but `0x`, so none in upper case and
none for other bases (`0X`, `0o`, `0b`), no underscores between digits, and no number with a fraction or an
exponent. A reader of numbers of a more general kind may take some of these.
-/

namespace LocalChain.Quantity

/-- The text of a number. -/
def text (n : Nat) : String :=
  let ds := if n = 0 then [0] else Digits.shortest 16 n
  String.ofList ('0' :: 'x' :: ds.map Digits.char)

/-- A number as a value. -/
def toJson (n : Nat) : Json :=
  .str (text n)

/-- The number that digits spell in a base, zero for none. -/
def ofDigits? (base : Nat) (cs : List Char) : Option Nat := do
  let ds ← cs.mapM Hex.digit?
  guard (ds.all (· < base))
  return Digits.value base ds

/-- The number that a value is, when it is below `2 ^ bits`. -/
def ofJson? (bits : Nat) (j : Json) : Option Nat := do
  let n ← match j with
    | .int (.ofNat n) => some n
    | .str s =>
      match s.toList with
      | '0' :: 'x' :: cs => ofDigits? 16 cs
      | cs => ofDigits? 10 cs
    | _ => none
  guard (n < Nat.pow 2 bits)
  return n

/-- A number of 64 bits. -/
def word64? (j : Json) : Option UInt64 :=
  (ofJson? 64 j).map UInt64.ofNat

/-- Bytes as a value. -/
def ofBytes (bs : Bytes) : Json :=
  .str (Hex.text bs)

/-- The bytes that a value is. -/
def bytes? : Json → Option Bytes
  | .str s =>
    match Hex.decode s.toList with
    | .ok bs => some bs
    | .error _ => none
  | _ => none

end LocalChain.Quantity

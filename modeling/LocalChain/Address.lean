import LocalChain.Hash.Keccak
import LocalChain.Text.Hex

/-!
# Addresses and digests

An address is a number of 160 bits, a digest one of 256. Both are written as hexadecimal text of a
fixed width after `0x`. Where people read an address its letters carry a checksum: a letter is upper
case when the Keccak digest of the lower-case digits has a high digit in its place.
-/

namespace LocalChain

/-- The address of an account or a contract. -/
structure Address where
  val : BitVec 160
  deriving DecidableEq, Inhabited

namespace Address

/-- The address nobody has a key for; contracts answer it for "none". -/
def zero : Address := ⟨0⟩

/-- The twenty bytes. -/
def bytes (a : Address) : Bytes :=
  Bytes.ofNat 20 a.val.toNat

/-- The address whose bytes are the last twenty of `bs`. -/
def ofBytes (bs : Bytes) : Address :=
  ⟨BitVec.ofNat 160 (Bytes.toNat bs)⟩

/-- The forty digits, letters in lower case. -/
def digits (a : Address) : List Char :=
  (Digits.fixed 16 40 a.val.toNat).map Digits.char

/-- The lower-case text. -/
def text (a : Address) : String :=
  String.ofList ('0' :: 'x' :: a.digits)

/-- A digit in upper case where the digest of the lower-case digits has eight or more. -/
def checksumDigit (d : Char) (nibble : Nat) : Char :=
  if 8 ≤ nibble then d.toUpper else d

/-- The checksummed text. -/
def display (a : Address) : String :=
  let digest := Bytes.toNat (Keccak.hash (Bytes.ofText (String.ofList a.digits)))
  let nibbles := Digits.fixed 16 64 digest
  String.ofList ('0' :: 'x' :: List.zipWith checksumDigit a.digits nibbles)

/-- The address that forty hexadecimal digits spell, in any case and with or without a mark in
front. -/
def parse (cs : List Char) : Except Hex.Error Address :=
  (Hex.number 20 cs).map fun n => ⟨BitVec.ofNat 160 n⟩

/-- The address of the account with the public key `x`, `y`: the end of the key's digest. -/
def ofPublicKey (x y : Nat) : Address :=
  ofBytes ((Keccak.hash (Bytes.ofNat 32 x ++ Bytes.ofNat 32 y)).drop 12)

end Address

/-- A digest, as transactions are named by. -/
structure TxHash where
  val : BitVec 256
  deriving DecidableEq, Inhabited

namespace TxHash

/-- The digest with bytes `bs`. -/
def ofBytes (bs : Bytes) : TxHash :=
  ⟨BitVec.ofNat 256 (Bytes.toNat bs)⟩

/-- The text: sixty-four lower-case digits after `0x`. -/
def text (h : TxHash) : String :=
  String.ofList ('0' :: 'x' :: (Digits.fixed 16 64 h.val.toNat).map Digits.char)

/-- The digest that sixty-four hexadecimal digits spell. -/
def parse (cs : List Char) : Except Hex.Error TxHash :=
  (Hex.number 32 cs).map fun n => ⟨BitVec.ofNat 256 n⟩

end TxHash

end LocalChain

import LocalChain.Address
import LocalChain.Curve.Signature
import LocalChain.Ether
import LocalChain.Rlp

/-!
# Transactions

A transaction pays in one of two ways: at one gas price, or with a cap on the whole fee and one on the
part above the base fee. What is signed is the digest of its fields; what is sent is the fields with
the signature. A transaction at one gas price names its chain, if it does, through its signature.
-/

namespace LocalChain

/-- A price of gas, in wei. -/
abbrev Price := BitVec 128

/-- Whom a transaction is for. -/
inductive Destination where
  | call (target : Address)
  /-- The input is the code that makes a new contract. -/
  | create
  deriving DecidableEq, Inhabited

namespace Destination

/-- The bytes of the address, none for a creation. -/
def bytes : Destination → Bytes
  | call target => target.bytes
  | create => []

/-- The address, if there is one. -/
def address? : Destination → Option Address
  | call target => some target
  | create => none

end Destination

/-- How a transaction pays. -/
inductive Fee where
  /-- At one gas price; without a chain the transaction is valid on every one. -/
  | legacy (chainId : Option UInt64) (gasPrice : Price)
  | capped (chainId : UInt64) (maxFee maxPriorityFee : Price)
  deriving DecidableEq

/-- The chain a transaction is for. -/
def Fee.chainId? : Fee → Option UInt64
  | legacy chainId _ => chainId
  | capped chainId _ _ => some chainId

/-- A transaction before it is signed. -/
structure Transaction where
  nonce : UInt64
  gasLimit : UInt64
  destination : Destination
  value : Word
  input : Bytes
  fee : Fee
  deriving DecidableEq

namespace Transaction

/-- Destination, value and input as items. -/
def payload (t : Transaction) : List Rlp :=
  [.bytes t.destination.bytes, .ofNat t.value.toNat, .bytes t.input]

/-- The fields as items, in the order of the way it pays. -/
def fields (t : Transaction) : List Rlp :=
  match t.fee with
  | .legacy _ gasPrice =>
    [.ofNat t.nonce.toNat, .ofNat gasPrice.toNat, .ofNat t.gasLimit.toNat] ++ t.payload
  | .capped chainId maxFee maxPriorityFee =>
    [.ofNat chainId.toNat, .ofNat t.nonce.toNat, .ofNat maxPriorityFee.toNat, .ofNat maxFee.toNat,
      .ofNat t.gasLimit.toNat] ++ t.payload ++ [.list []]

/-- The byte in front of the form of a transaction with capped fees. -/
def cappedMark : UInt8 := 2

/-- Items as bytes, with a byte in front unless there is one gas price. -/
def envelope (t : Transaction) (items : List Rlp) : Bytes :=
  match t.fee with
  | .legacy .. => (Rlp.list items).encode
  | .capped .. => cappedMark :: (Rlp.list items).encode

/-- The bytes whose digest is signed. -/
def signingForm (t : Transaction) : Bytes :=
  match t.fee with
  | .legacy (some chainId) _ => t.envelope (t.fields ++ [.ofNat chainId.toNat, .ofNat 0, .ofNat 0])
  | _ => t.envelope t.fields

/-- The number that tells the parity of a signature and, at one gas price, the chain. -/
def parityNumber (t : Transaction) (odd : Bool) : Nat :=
  match t.fee with
  | .legacy none _ => 27 + odd.toNat
  | .legacy (some chainId) _ => 35 + 2 * chainId.toNat + odd.toNat
  | .capped .. => odd.toNat

/-- The bytes that are sent. -/
def signedForm (t : Transaction) (g : Signature) : Bytes :=
  t.envelope (t.fields ++ [.ofNat (t.parityNumber g.odd), .ofNat g.r, .ofNat g.s])

/-- The bytes that are sent after a key has signed. -/
def sign (t : Transaction) (key : PrivateKey) : Bytes :=
  t.signedForm (key.sign (Keccak.hash t.signingForm))

end Transaction

/-- The digest that a signed transaction is known by. -/
def TxHash.ofRaw (raw : Bytes) : TxHash :=
  TxHash.ofBytes (Keccak.hash raw)

end LocalChain

import LocalChain.Transaction.Basic

/-!
# Reading transactions

What a node reads from the bytes it is sent: the fields of a transaction and its signature, as it is
written. Signatures are not checked here.
-/

namespace LocalChain.Transaction

/-- A transaction with the numbers of its signature. -/
structure Signed where
  transaction : Transaction
  odd : Bool
  r : Nat
  s : Nat
  deriving DecidableEq

/-- The destination that an item names: twenty bytes, or none for a creation. -/
def destination? : Rlp → Option Destination
  | .bytes [] => some .create
  | .bytes bs => if bs.length = 20 then some (.call (.ofBytes bs)) else none
  | .list _ => none

/-- The bytes of an item. -/
def content? : Rlp → Option Bytes
  | .bytes bs => some bs
  | .list _ => none

/-- A number of 64 bits. -/
def word64? (r : Rlp) : Option UInt64 :=
  (r.toNat? 64).map UInt64.ofNat

/-- A price. -/
def price? (r : Rlp) : Option Price :=
  (r.toNat? 128).map (BitVec.ofNat 128)

/-- The chain and the parity that the number of a signature at one gas price tells. -/
def legacyParity? (v : Nat) : Option (Option UInt64 × Bool) :=
  if v = 27 ∨ v = 28 then some (none, v = 28)
  else if 35 ≤ v ∧ (v - 35) / 2 < UInt64.size then
    some (some (UInt64.ofNat ((v - 35) / 2)), (v - 35) % 2 = 1)
  else none

/-- The transaction at one gas price that some items are. -/
def ofLegacyItems : List Rlp → Option Signed
  | [nonce, gasPrice, gasLimit, destination, value, input, v, r, s] => do
    let (chainId, odd) ← legacyParity? (← v.toNat? 128)
    return {
      transaction := {
        nonce := ← word64? nonce
        gasLimit := ← word64? gasLimit
        destination := ← destination? destination
        value := BitVec.ofNat 256 (← value.toNat? 256)
        input := ← content? input
        fee := .legacy chainId (← price? gasPrice) }
      odd
      r := ← r.toNat? 256
      s := ← s.toNat? 256 }
  | _ => none

/-- The transaction with capped fees that some items are. -/
def ofCappedItems : List Rlp → Option Signed
  | [chainId, nonce, maxPriorityFee, maxFee, gasLimit, destination, value, input, .list [], parity,
      r, s] => do
    return {
      transaction := {
        nonce := ← word64? nonce
        gasLimit := ← word64? gasLimit
        destination := ← destination? destination
        value := BitVec.ofNat 256 (← value.toNat? 256)
        input := ← content? input
        fee := .capped (← word64? chainId) (← price? maxFee) (← price? maxPriorityFee) }
      odd := (← parity.toNat? 1) = 1
      r := ← r.toNat? 256
      s := ← s.toNat? 256 }
  | _ => none

/-- The transaction that some bytes are. -/
def decode (bs : Bytes) : Option Signed := do
  match bs with
  | [] => none
  | b :: rest =>
    if b = cappedMark then
      match ← Rlp.decode rest with
      | .list items => ofCappedItems items
      | .bytes _ => none
    else
      match ← Rlp.decode bs with
      | .list items => ofLegacyItems items
      | .bytes _ => none

end LocalChain.Transaction

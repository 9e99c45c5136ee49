import LocalChain.Address
import LocalChain.Node.Quantity

/-!
# Receipts

What a node says about a transaction once it is in a block.

Of the members of a receipt only the five that are used are read. Nodes give more, such as the logs and the
sender, and a reader of whole receipts may refuse one that lacks some of them or has them in another form;
here they are passed over.
-/

namespace LocalChain

/-- The receipt of a transaction. -/
structure Receipt where
  /-- The transaction did what it was sent for. -/
  succeeded : Bool
  block : Option UInt64
  /-- The contract that the transaction created. -/
  contract : Option Address
  gasUsed : UInt64
  hash : TxHash
  deriving DecidableEq

/-- The digest that a value is. -/
def TxHash.ofJson? : Json → Option TxHash
  | .str s =>
    match TxHash.parse s.toList with
    | .ok h => some h
    | .error _ => none
  | _ => none

/-- The address that a value is. -/
def Address.ofJson? : Json → Option Address
  | .str s =>
    match Address.parse s.toList with
    | .ok a => some a
    | .error _ => none
  | _ => none

namespace Receipt

/-- The receipt as a value. -/
def toJson (r : Receipt) : Json :=
  .obj [
    ("status", Quantity.toJson r.succeeded.toNat),
    ("blockNumber", r.block.elim .null fun b => Quantity.toJson b.toNat),
    ("contractAddress", r.contract.elim .null fun a => .str a.text),
    ("gasUsed", Quantity.toJson r.gasUsed.toNat),
    ("transactionHash", .str r.hash.text)]

/-- A member that may be absent or null. -/
def optional? {α : Type} (read : Json → Option α) (key : String) (j : Json) : Option (Option α) :=
  match j.get? key with
  | none | some .null => some none
  | some v => (read v).map some

/-- The receipt that a value is. -/
def ofJson? (j : Json) : Option Receipt := do
  return {
    succeeded := (← j.get? "status" >>= Quantity.ofJson? 64) ≠ 0
    block := ← optional? Quantity.word64? "blockNumber" j
    contract := ← optional? Address.ofJson? "contractAddress" j
    gasUsed := ← j.get? "gasUsed" >>= Quantity.word64?
    hash := ← j.get? "transactionHash" >>= TxHash.ofJson? }

/-- The receipt that a value is, none when it is null. -/
def ofAnswer? : Json → Option (Option Receipt)
  | .null => some none
  | j => (ofJson? j).map some

end Receipt
end LocalChain

import LocalChain.Node.Basic
import LocalChain.Node.Receipt
import LocalChain.Transaction.Decoding

/-!
# Scripted nodes

A node that does what it is told. Replies that are listed for a method are used up in order; after that
the node behaves like a small chain of its own: it takes every transaction it can read, puts it into the
first block at once, and gives each new contract the next address.
-/

namespace LocalChain

/-- A reply that is listed for a method. -/
inductive ScriptedReply where
  | answer (a : Answer)
  /-- What the node would do without a list. -/
  | usual

/-- What a node is told to do. -/
structure NodeScript where
  chainId : Nat := 31337
  gasPrice : Nat := 1000000000
  blockNumber : Nat := 1
  baseFee : Nat := 1000000000
  rewards : List Nat := [1000000000]
  /-- The nonce of the next transaction; unknown when none. -/
  transactionCount : Option Nat := some 0
  /-- Nonces whose transactions are refused, with the error. -/
  reject : List (UInt64 × Int × String) := []
  /-- Nonces whose transactions fail when they are in a block. -/
  revertNonces : List UInt64 := []
  /-- Nonces whose transactions are never answered. -/
  hangNonces : List UInt64 := []
  /-- Nonces whose transactions create contracts without an address. -/
  noAddressNonces : List UInt64 := []
  /-- How often a receipt is asked for in vain. -/
  pending : Nat := 0
  /-- What calls return, by the first four bytes of their input. -/
  calls : List (Bytes × Bytes) := []
  callError : Option (Int × String) := none
  replies : List (String × List ScriptedReply) := []

/-- A transaction that a node took, with the bytes it was sent as. -/
structure TakenTransaction where
  content : Transaction
  raw : Bytes
  hash : TxHash

/-- What happened at a scripted node. -/
structure NodeState where
  /-- The replies left for each method. -/
  replies : List (String × List ScriptedReply)
  transactionCount : Option Nat
  /-- Receipts, each with how often it will still be asked for in vain. -/
  receipts : List (TxHash × Receipt × Nat) := []
  /-- How many contracts have been created. -/
  created : Nat := 0
  /-- Transactions that arrived, the last first. -/
  arrived : List TakenTransaction := []

namespace NodeScript

/-- The address of the `n`-th contract that a node creates. -/
def contractAddress (n : Nat) : Address :=
  .ofBytes (0xc0 :: List.replicate 11 0 ++ Bytes.ofNat 8 n)

/-- The state before any request. -/
def start (script : NodeScript) : NodeState :=
  { replies := script.replies, transactionCount := script.transactionCount }

/-- The history of fees: the base fee for every block, and the rewards, one a block. -/
def feeHistory (script : NodeScript) : Json :=
  let blocks := script.rewards.length
  .obj [
    ("oldestBlock", Quantity.toJson 1),
    ("baseFeePerGas", .arr (List.replicate (blocks + 1) (Quantity.toJson script.baseFee))),
    ("gasUsedRatio", .arr (List.replicate blocks (.decimal "0.5"))),
    ("reward", .arr (script.rewards.map fun r => .arr [Quantity.toJson r]))]

/-- The receipt of a transaction, and how many contracts there are then. -/
def receipt (script : NodeScript) (s : NodeState) (t : TakenTransaction) : Receipt × Nat :=
  let succeeded := !script.revertNonces.contains t.content.nonce
  let creates := t.content.destination == .create && succeeded &&
    !script.noAddressNonces.contains t.content.nonce
  let created := if creates then s.created + 1 else s.created
  ({ succeeded
     block := some 1
     contract := if creates then some (contractAddress created) else none
     gasUsed := 21000
     hash := t.hash }, created)

/-- Takes a transaction. -/
def take (script : NodeScript) (s : NodeState) (raw : Bytes) : Answer × NodeState :=
  match Transaction.decode raw with
  | none => (.error (-32602) "bad transaction" none, s)
  | some signed =>
    let t : TakenTransaction := ⟨signed.transaction, raw, TxHash.ofRaw raw⟩
    let s := { s with arrived := t :: s.arrived }
    let nonce := signed.transaction.nonce
    if script.hangNonces.contains nonce then (.silence, s)
    else
      match script.reject.find? (·.1 == nonce) with
      | some (_, code, message) => (.error code message none, s)
      | none =>
        let (receipt, created) := script.receipt s t
        (.result (.str t.hash.text),
          { s with
            transactionCount := s.transactionCount.map (· + 1)
            receipts := (t.hash, receipt, script.pending) :: s.receipts
            created })

/-- Looks for a receipt. -/
def lookUp (s : NodeState) (hash : TxHash) : Answer × NodeState :=
  match s.receipts.find? (·.1 == hash) with
  | none => (.result .null, s)
  | some (_, receipt, 0) => (.result receipt.toJson, s)
  | some (_, receipt, vain + 1) =>
    (.result .null,
      { s with receipts := (hash, receipt, vain) :: s.receipts.filter (·.1 != hash) })

/-- What a call returns. -/
def call (script : NodeScript) (request : TxRequest) : Answer :=
  match script.callError with
  | some (code, message) => .error code message none
  | none =>
    let selector := (request.input.getD []).take 4
    let data := (script.calls.find? (·.1 == selector)).elim [] (·.2)
    .result (Quantity.ofBytes data)

/-- What the node does without a list of replies. -/
def usual (script : NodeScript) (s : NodeState) : Request → Answer × NodeState
  | .chainId => (.result (Quantity.toJson script.chainId), s)
  | .gasPrice => (.result (Quantity.toJson script.gasPrice), s)
  | .blockNumber => (.result (Quantity.toJson script.blockNumber), s)
  | .transactionCount .. =>
    match s.transactionCount with
    | some n => (.result (Quantity.toJson n), s)
    | none => (.error (-32603) "internal error" none, s)
  | .receipt hash => lookUp s hash
  | .call request => (script.call request, s)
  | .feeHistory => (.result script.feeHistory, s)
  | .sendRaw raw => script.take s raw
  | r => (.error (-32601) ("method " ++ r.method ++ " not found") none, s)

/-- The next reply listed for a method, and the state without it. -/
def nextReply? (s : NodeState) (method : String) : Option (ScriptedReply × NodeState) :=
  match s.replies.find? (·.1 == method) with
  | some (_, reply :: rest) =>
    some (reply, { s with replies := (method, rest) :: s.replies.filter (·.1 != method) })
  | _ => none

/-- The node that follows the script. -/
def node (script : NodeScript) : Node NodeState where
  answer s r :=
    match nextReply? s r.method with
    | some (.answer a, s) => (a, s)
    | some (.usual, s) => script.usual s r
    | none => script.usual s r

end NodeScript
end LocalChain

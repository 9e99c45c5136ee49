import LocalChain.Node.Quantity
import LocalChain.Transaction.Request

/-!
# Requests to a node

What a node can be asked, each with the name of its method and its parameters as values.
-/

namespace LocalChain

/-- The members of a request for a transaction that are known, as a value. -/
def TxRequest.toJson (r : TxRequest) : Json :=
  let member {α : Type} (key : String) (write : α → Json) (a : Option α) : List (String × Json) :=
    a.toList.map fun a => (key, write a)
  let number {w : Nat} (n : BitVec w) : Json := Quantity.toJson n.toNat
  let word (n : UInt64) : Json := Quantity.toJson n.toNat
  .obj (
    member "from" (fun a => .str a.text) r.sender ++
    member "to" (fun d => d.address?.elim .null fun a => .str a.text) r.destination ++
    member "gasPrice" number r.gasPrice ++
    member "maxFeePerGas" number r.maxFee ++
    member "maxPriorityFeePerGas" number r.maxPriorityFee ++
    member "gas" word r.gasLimit ++
    member "value" number r.value ++
    member "input" Quantity.ofBytes r.input ++
    member "nonce" word r.nonce ++
    member "chainId" word r.chainId)

/-- A request to a node. -/
inductive Request where
  | chainId
  | gasPrice
  | blockNumber
  /-- How many transactions an account has sent, those not yet in a block included or not. -/
  | transactionCount (account : Address) (withPending : Bool)
  | receipt (hash : TxHash)
  /-- What a transaction would return. -/
  | call (request : TxRequest)
  | estimateGas (request : TxRequest)
  /-- What was paid for gas in the last blocks. -/
  | feeHistory
  /-- The last block, without its transactions. -/
  | latestBlock
  | sendRaw (raw : Bytes)

namespace Request

/-- The name of the method. -/
def method : Request → String
  | chainId => "eth_chainId"
  | gasPrice => "eth_gasPrice"
  | blockNumber => "eth_blockNumber"
  | transactionCount .. => "eth_getTransactionCount"
  | receipt _ => "eth_getTransactionReceipt"
  | call _ => "eth_call"
  | estimateGas _ => "eth_estimateGas"
  | feeHistory => "eth_feeHistory"
  | latestBlock => "eth_getBlockByNumber"
  | sendRaw _ => "eth_sendRawTransaction"

/-- Blocks in a history of fees. -/
def feeHistoryBlocks : Nat := 10

/-- The parameters; null when the method takes none. -/
def params : Request → Json
  | chainId | gasPrice | blockNumber => .null
  | transactionCount account withPending =>
    .arr [.str account.text, .str (if withPending then "pending" else "latest")]
  | receipt hash => .arr [.str hash.text]
  | call request => .arr [request.toJson, .str "latest"]
  | estimateGas request => .arr [request.toJson, .str "latest"]
  | feeHistory =>
    .arr [Quantity.toJson feeHistoryBlocks, .str "latest", .arr [.decimal "20.0"]]
  | latestBlock => .arr [.str "latest", .bool false]
  | sendRaw raw => .arr [Quantity.ofBytes raw]

end Request
end LocalChain

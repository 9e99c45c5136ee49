import LocalChain.Json.Reading
import LocalChain.Node.Script

/-!
# Scripts as JSON

A script is an object whose members may all be absent. Numbers may be given as decimal text, and bytes
with or without `0x` in front. Nonces that a transaction is refused for are keys, and so are the first
bytes of calls and the names of methods.
-/

namespace LocalChain.NodeScript

open Json.Reading

/-- A number, as such or in decimal. -/
def number? : Json → Option Nat
  | .int (.ofNat n) => some n
  | .str s => Quantity.ofDigits? 10 s.toList
  | _ => none

/-- A nonce. -/
def nonce? (j : Json) : Option UInt64 :=
  (number? j).map UInt64.ofNat

/-- An integer. -/
def integer? : Json → Option Int
  | .int n => some n
  | _ => none

/-- An error as a pair of its code and its message. -/
def errorPair? : Json → Option (Int × String)
  | .arr [code, message] => do return (← integer? code, ← text message)
  | _ => none

/-- A value that may be absent or null. -/
def given {α : Type} (j : Json) (key : String) (read : Json → Option α) (default : α) : Option α :=
  match j.get? key with
  | none | some .null => some default
  | some v => read v

/-- The members of an object, keys and values read. -/
def table? {κ α : Type} (key : String → Option κ) (value : Json → Option α) :
    Json → Option (List (κ × α))
  | .obj members => members.mapM fun (k, v) => do return (← key k, ← value v)
  | _ => none

/-- Bytes in hexadecimal text. -/
def hex? (s : String) : Option Bytes :=
  Quantity.bytes? (.str s)

/-- A reply: a result, an error, no answer, no sensible answer, or what the node does anyway. -/
def reply? : Json → Option ScriptedReply
  | .str "hang" => some (.answer .silence)
  | .str "default" => some .usual
  | .obj [("result", v)] => some (.answer (.result v))
  | .obj [("http", _)] => some (.answer .garbled)
  | .obj [("error", e)] => do
    let code ← e.get? "code" >>= integer?
    let message ← e.get? "message" >>= text
    return .answer (.error code message (e.get? "data"))
  | _ => none

/-- How many transactions the account has sent; unknown when null is given. -/
def count? (j : Json) : Option (Option Nat) :=
  match j.get? "transaction_count" with
  | none => some (some 0)
  | some .null => some none
  | some v => (number? v).map some

/-- The script that a value is. -/
def ofJson? (j : Json) : Option NodeScript := do
  return {
    chainId := ← given j "chain_id" number? 31337
    gasPrice := ← given j "gas_price" number? 1000000000
    blockNumber := ← given j "block_number" number? 1
    baseFee := ← given j "base_fee" number? 1000000000
    rewards := ← given j "rewards" (list number?) [1000000000]
    transactionCount := ← count? j
    reject := ← given j "reject" (table? (nonce? <| .str ·) errorPair?) []
    revertNonces := ← given j "revert_nonces" (list nonce?) []
    hangNonces := ← given j "hang_nonces" (list nonce?) []
    noAddressNonces := ← given j "no_address_nonces" (list nonce?) []
    pending := ← given j "pending" number? 0
    calls := ← given j "calls" (table? hex? Quantity.bytes?) []
    callError := ← given j "call_error" (fun e => (errorPair? e).map some) none
    replies := ← given j "replies" (table? some (list reply?)) [] }

end LocalChain.NodeScript

import LocalChain.Client.Basic

/-!
# Fees

What a transaction with capped fees offers: above the base fee the median of what was paid there of
late, and in all no more than twice the base fee on top of that.
-/

namespace LocalChain

/-- What was paid for gas in some blocks. -/
structure FeeHistory where
  /-- The base fee of each block, and of the next one last. -/
  baseFees : List Nat
  /-- What was paid above the base fee, block by block. -/
  rewards : List Nat
  deriving DecidableEq

/-- What a transaction offers. -/
structure Offer where
  maxFee : Price
  maxPriorityFee : Price
  deriving DecidableEq

namespace FeeHistory

/-- An array of prices. -/
def prices? : Json → Option (List Nat)
  | .arr items => items.mapM (Quantity.ofJson? 128)
  | _ => none

/-- The first price of each array of an array. -/
def firstPrices? : Json → Option (List Nat)
  | .arr items => do return (← items.mapM prices?).filterMap List.head?
  | _ => none

/-- The history that a value is. -/
def ofJson? (j : Json) : Option FeeHistory := do
  let _ ← j.get? "oldestBlock" >>= Quantity.word64?
  return {
    baseFees := ((← Receipt.optional? prices? "baseFeePerGas" j).getD [])
    rewards := ((← Receipt.optional? firstPrices? "reward" j).getD []) }

/-- The base fee of the next block, if blocks have one. -/
def nextBaseFee? (h : FeeHistory) : Option Nat :=
  h.baseFees.getLast?.filter (· ≠ 0)

/-- The number in the middle of a sorted list, or halfway between the two there, rounded down. -/
def middle (sorted : List Nat) : Option Nat := do
  let upper ← sorted[sorted.length / 2]?
  if sorted.length % 2 = 1 then return upper
  return ((← sorted[sorted.length / 2 - 1]?) + upper) / 2

/-- What to offer above the base fee, never nothing. -/
def priorityFee (h : FeeHistory) : Nat :=
  let paid := (h.rewards.filter (· ≠ 0)).mergeSort (· ≤ ·)
  max 1 ((middle paid).getD 0)

/-- What to offer over a base fee. -/
def offer (h : FeeHistory) (baseFee : Nat) : Offer where
  maxFee := BitVec.ofNat 128 (2 * baseFee + h.priorityFee)
  maxPriorityFee := BitVec.ofNat 128 h.priorityFee

end FeeHistory
end LocalChain

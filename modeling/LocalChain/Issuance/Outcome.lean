import LocalChain.Journal.Basic

/-!
# Outcomes of transfers

What became of a transfer, with its place in the run. A tally counts outcomes as they arrive and keeps
the places of those that failed.
-/

namespace LocalChain

/-- What became of one transfer. -/
structure Outcome where
  /-- Its place in the run, from zero. -/
  index : UInt64
  nonce : UInt64
  result : Except ChainError TxHash

namespace Outcome

/-- The node took the transfer. -/
def isSent (o : Outcome) : Bool :=
  match o.result with
  | .ok _ => true
  | .error _ => false

/-- The event that reports an outcome. -/
def event (o : Outcome) : Event :=
  match o.result with
  | .ok hash => .sent o.index o.nonce hash
  | .error e => .failed o.index o.nonce e

/-- What is entered for an outcome. -/
def entries (o : Outcome) : Journal :=
  [.event o.event, .count (.replied o.isSent)]

end Outcome

/-- A count of outcomes. The numbers are not bounded, and need not be: a run has fewer than 2^64 transfers
and each has one outcome at most, so they stay below 2^64 and would be the same in 64 bits. -/
structure Tally where
  sent : Nat := 0
  failed : Nat := 0
  /-- The places of failed transfers, in the order of arrival. -/
  failedIndices : List UInt64 := []
  deriving DecidableEq

namespace Tally

/-- The number of outcomes. -/
def total (t : Tally) : Nat :=
  t.sent + t.failed

/-- Counts one more outcome. -/
def record (t : Tally) (o : Outcome) : Tally :=
  if o.isSent then { t with sent := t.sent + 1 }
  else { t with failed := t.failed + 1, failedIndices := t.failedIndices ++ [o.index] }

/-- The count of outcomes in the order of arrival. -/
def ofOutcomes (os : List Outcome) : Tally :=
  os.foldl record {}

end Tally

/-- What is entered for outcomes in the order of arrival. -/
def Journal.ofOutcomes (os : List Outcome) : Journal :=
  os.flatMap Outcome.entries

end LocalChain

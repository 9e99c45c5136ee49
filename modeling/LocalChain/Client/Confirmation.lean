import LocalChain.Client.Basic

/-!
# Waiting for confirmation

A transaction is looked for at once and then at fixed times, until a look decides about it or the time
allowed to it is over. A look decides when a read fails, when the transaction failed, or when enough
blocks follow the one it is in.

The interval and the time allowed are taken as the settings give them, as all waits for a node are: neither
is cut to thirty years, as the waits between transfers are (`Issuance.waitMs`).
-/

namespace LocalChain

/-- The failure of a transaction that is in a block. -/
def ChainError.ofFailedTransaction (hash : TxHash) : ChainError :=
  .reverted ("transaction " ++ hash.text ++ " reverted")

/-- How many blocks follow a receipt's block, by the number of the last one. A block whose number is
unknown counts as the last. -/
def Receipt.confirmations (r : Receipt) (lastBlock : UInt64) : Nat :=
  lastBlock.toNat - (r.block.getD lastBlock).toNat

namespace Client

variable {σ : Type}

/-- The error when the time allowed to a confirmation is over. -/
def lateConfirmation (c : Client σ) : ChainError :=
  .confirmationTimeout c.settings.confirmationTimeoutSecs

/-- One look at a transaction: its receipt when that is enough, nothing when there will be another
look. -/
def look (c : Client σ) (hash : TxHash) (limitMs : Nat) : Talk σ ChainError (Option Receipt) := do
  let late := c.lateConfirmation
  match ← c.readBefore limitMs late (.receipt hash) Receipt.ofAnswer? with
  | none => return none
  | some r =>
    if !r.succeeded then throw (.ofFailedTransaction hash)
    let required := c.settings.confirmationBlocks.toNat
    if required = 0 then return some r
    let last ← c.readBefore limitMs late .blockNumber Quantity.word64?
    return if required ≤ r.confirmations last then some r else none

/-- Looks at a transaction up to so many times, now and after every interval. -/
def lookUntil (c : Client σ) (hash : TxHash) (limitMs : Nat) : (looks : Nat) →
    Talk σ ChainError Receipt
  | 0 => do
    Talk.waitUntil limitMs
    throw c.lateConfirmation
  | looks + 1 => do
    let nextMs := (← Talk.clockMs) + c.settings.pollIntervalMs.toNat
    match ← c.look hash limitMs with
    | some r => return r
    | none =>
      if looks ≠ 0 then Talk.waitUntil nextMs
      lookUntil c hash limitMs looks

/-- How many looks begin before the time allowed to a confirmation is over. The first does in any
case. -/
def looks (c : Client σ) : Nat :=
  let allowedMs := c.settings.confirmationTimeoutSecs.toNat * 1000
  let intervalMs := c.settings.pollIntervalMs.toNat
  max 1 ((allowedMs + intervalMs - 1) / intervalMs)

/-- Waits until a transaction is confirmed, and gives its receipt. -/
def confirm (c : Client σ) (hash : TxHash) : Talk σ (Stop ChainError) Receipt := do
  if c.settings.pollIntervalMs = 0 then throw .broken
  let limitMs := (← Talk.clockMs) + c.settings.confirmationTimeoutSecs.toNat * 1000
  (c.lookUntil hash limitMs c.looks).stoppable

end Client
end LocalChain

import LocalChain.Settings.Problem
import LocalChain.Settings.Basic
import LocalChain.Text.Forms

/-!
# What to issue

A plan says what every transfer of a run is like, how many there are and how far apart they start. The
transfers differ in their nonce only.
-/

namespace LocalChain

/-- One transfer of value, ready to be signed. -/
structure Transfer where
  recipient : Address
  value : Word
  gasLimit : UInt64
  nonce : UInt64
  deriving DecidableEq, Inhabited

/-- A run of equal transfers. -/
structure IssuancePlan where
  recipient : Address
  /-- Value of each transfer, in wei. -/
  value : Word
  gasLimit : UInt64
  count : UInt64
  /-- Time between the starts of two transfers. -/
  intervalMs : UInt64
  interval_ne_zero : intervalMs ≠ 0
  deriving DecidableEq

namespace IssuancePlan

/-- The plan that settings describe, or the first thing that is wrong with them. -/
def ofSettings (l : LoadSettings) : Option (Except Problem IssuancePlan) :=
  if l.gasLimit = 0 then some (.error (.notPositive "load.gas_limit"))
  else if h : l.intervalMs = 0 then some (.error (.notPositive "load.interval_ms"))
  else
    match readRecipient l.recipient with
    | .error p => some (.error p)
    | .ok recipient =>
      (readAmount "load.value" l.value).map fun value =>
        value.map fun value =>
          { recipient, value, gasLimit := l.gasLimit, count := l.count, intervalMs := l.intervalMs
            interval_ne_zero := h }

/-- The transfer with a nonce. -/
def transfer (p : IssuancePlan) (nonce : UInt64) : Transfer :=
  { recipient := p.recipient, value := p.value, gasLimit := p.gasLimit, nonce }

/-- The form for developers. -/
def debug (p : IssuancePlan) : String :=
  "IssuancePlan \x7b to: " ++ p.recipient.text ++ ", value: " ++ toString p.value.toNat ++
    ", gas_limit: " ++ toString p.gasLimit.toNat ++ ", count: " ++ toString p.count.toNat ++
    ", interval: " ++ Text.duration p.intervalMs.toNat ++ " \x7d"

end IssuancePlan
end LocalChain

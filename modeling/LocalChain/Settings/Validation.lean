import LocalChain.Settings.Basic
import LocalChain.Settings.Problem
import LocalChain.SocketAddress
import LocalChain.Url.Parser

/-!
# Judging settings

Settings are judged field by field, and every problem is reported, in the order of the sections and of
the fields in them. There is no verdict at all when an amount cannot be read to its end.
-/

namespace LocalChain

/-- The one problem, when there is something bad about a field. -/
def Problem.when (bad : Bool) (p : Problem) : List Problem :=
  if bad then [p] else []

namespace Settings

/-- The problems with the text of an amount. -/
def amountProblems (field value : String) : Option (List Problem) :=
  (readAmount field value).map fun
    | .ok _ => []
    | .error p => [p]

/-- The problems with the text of a recipient. -/
def recipientProblems (value : String) : List Problem :=
  match readRecipient value with
  | .ok _ => []
  | .error p => [p]

/-- The text names no URL. -/
def isNoUrl (s : String) : Bool :=
  match Url.parse s with
  | .ok _ => false
  | .error _ => true

end Settings

open Settings in
/-- The problems of the section on the node. -/
def RpcSettings.problems (r : RpcSettings) : List Problem :=
  Problem.when (isNoUrl r.url) (.invalidUrl "rpc.url" r.url) ++
  Problem.when (r.timeoutSecs = 0) (.notPositive "rpc.timeout_secs") ++
  Problem.when (r.pollIntervalMs = 0) (.notPositive "rpc.poll_interval_ms") ++
  Problem.when (r.confirmationTimeoutSecs = 0) (.notPositive "rpc.confirmation_timeout_secs")

/-- The problems of the section on the account. -/
def AccountSettings.problems (a : AccountSettings) : List Problem :=
  Problem.when (a.key?.isNone && Text.isBlankText a.mnemonic) .noSigner

open Settings in
/-- The problems of the section on transfers. -/
def LoadSettings.problems (l : LoadSettings) : Option (List Problem) := do
  let value ← amountProblems "load.value" l.value
  return recipientProblems l.recipient ++ value ++
    Problem.when (l.gasLimit = 0) (.notPositive "load.gas_limit") ++
    Problem.when (l.intervalMs = 0) (.notPositive "load.interval_ms")

open Settings in
/-- The problems of the token at position `i`. -/
def TokenSettings.problems (i : Nat) (t : TokenSettings) : Option (List Problem) := do
  let supply ← amountProblems ("deploy.tokens[" ++ toString i ++ "].supply") t.supply
  return Problem.when (Text.isBlankText t.symbol) (.empty "deploy.tokens.symbol") ++ supply

/-- The problems of tokens, the first of which stands at position `i`. -/
def TokenSettings.problemsFrom (i : Nat) : List TokenSettings → Option (List Problem)
  | [] => some []
  | t :: ts => do return (← t.problems i) ++ (← problemsFrom (i + 1) ts)

open Settings in
/-- The problems of the section on contracts. -/
def DeploySettings.problems (d : DeploySettings) : Option (List Problem) := do
  let tokens ← TokenSettings.problemsFrom 0 d.tokens
  let liquidity ← amountProblems "deploy.liquidity_amount" d.liquidityAmount
  return Problem.when (d.gasLimit = 0) (.notPositive "deploy.gas_limit") ++
    Problem.when (d.tokens.length < 2) (.tooFewTokens d.tokens.length) ++ tokens ++ liquidity

/-- The problems of the section on reports. The address counts only when it is used. -/
def ObservabilitySettings.problems (o : ObservabilitySettings) : List Problem :=
  Problem.when (o.metricsEnabled && (SocketAddress.parse? o.metricsAddress).isNone)
    (.invalidUrl "observability.metrics_address" o.metricsAddress)

/-- Everything that is wrong with some settings. -/
def Settings.problems (s : Settings) : Option (List Problem) := do
  let load ← s.load.problems
  let deploy ← s.deploy.problems
  return s.rpc.problems ++ s.account.problems ++ load ++ deploy ++ s.observability.problems

end LocalChain

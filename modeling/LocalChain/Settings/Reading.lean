import LocalChain.Json.Reading
import LocalChain.Settings.Basic

/-!
# Reading settings

Settings are read from a tree of values, whichever notation the tree was written in. Each section is a
structure whose absent fields keep their defaults. A value of the wrong kind or out of range makes the
whole reading fail.
-/

namespace LocalChain.Settings.Reading

open Json.Reading

/-- The section on the node. -/
def rpc (rules : Rules) (j : Json) : Option RpcSettings := do
  let given ← fields rules
    ["url", "chain_id", "timeout_secs", "confirmation_blocks", "poll_interval_ms",
      "confirmation_timeout_secs"] j
  let d : RpcSettings := {}
  return {
    url := ← Given.get given 0 text d.url
    chainId := ← Given.get given 1 (optional word64) d.chainId
    timeoutSecs := ← Given.get given 2 word64 d.timeoutSecs
    confirmationBlocks := ← Given.get given 3 word32 d.confirmationBlocks
    pollIntervalMs := ← Given.get given 4 word64 d.pollIntervalMs
    confirmationTimeoutSecs := ← Given.get given 5 word64 d.confirmationTimeoutSecs }

/-- The section on the account. -/
def account (rules : Rules) (j : Json) : Option AccountSettings := do
  let given ← fields rules ["mnemonic", "derivation_index", "private_key"] j
  let d : AccountSettings := {}
  return {
    mnemonic := ← Given.get given 0 text d.mnemonic
    derivationIndex := ← Given.get given 1 word32 d.derivationIndex
    privateKey := ← Given.get given 2 (optional text) d.privateKey }

/-- The section on transfers. -/
def load (rules : Rules) (j : Json) : Option LoadSettings := do
  let given ← fields rules
    ["to", "value", "gas_limit", "count", "interval_ms", "gas_price_wei", "drain_timeout_ms"] j
  let d : LoadSettings := {}
  return {
    recipient := ← Given.get given 0 text d.recipient
    value := ← Given.get given 1 text d.value
    gasLimit := ← Given.get given 2 word64 d.gasLimit
    count := ← Given.get given 3 word64 d.count
    intervalMs := ← Given.get given 4 word64 d.intervalMs
    gasPriceWei := ← Given.get given 5 (optional word64) d.gasPriceWei
    drainTimeoutMs := ← Given.get given 6 word64 d.drainTimeoutMs }

/-- One token. -/
def token (rules : Rules) (j : Json) : Option TokenSettings := do
  let given ← fields rules ["name", "symbol", "supply"] j
  let name ← Given.require given 0 text
  let symbol ← Given.require given 1 text
  let d : TokenSettings := { name, symbol }
  return { d with supply := ← Given.get given 2 text d.supply }

/-- The section on contracts. -/
def deploy (rules : Rules) (j : Json) : Option DeploySettings := do
  let given ← fields rules
    ["artifacts_dir", "weth_artifact", "factory_artifact", "router_artifact", "token_artifact",
      "gas_limit", "tokens", "liquidity_amount", "deadline_secs", "output"] j
  let d : DeploySettings := {}
  return {
    artifactsDir := ← Given.get given 0 text d.artifactsDir
    wethArtifact := ← Given.get given 1 text d.wethArtifact
    factoryArtifact := ← Given.get given 2 text d.factoryArtifact
    routerArtifact := ← Given.get given 3 text d.routerArtifact
    tokenArtifact := ← Given.get given 4 text d.tokenArtifact
    gasLimit := ← Given.get given 5 word64 d.gasLimit
    tokens := ← Given.get given 6 (list (token rules)) d.tokens
    liquidityAmount := ← Given.get given 7 text d.liquidityAmount
    deadlineSecs := ← Given.get given 8 word64 d.deadlineSecs
    output := ← Given.get given 9 (optional text) d.output }

/-- The section on reports. -/
def observability (rules : Rules) (j : Json) : Option ObservabilitySettings := do
  let given ← fields rules ["log_level", "metrics_enabled", "metrics_address"] j
  let d : ObservabilitySettings := {}
  return {
    logLevel := ← Given.get given 0 text d.logLevel
    metricsEnabled := ← Given.get given 1 flag d.metricsEnabled
    metricsAddress := ← Given.get given 2 text d.metricsAddress }

/-- All sections. -/
def settings (rules : Rules) (j : Json) : Option Settings := do
  let given ← fields rules ["rpc", "account", "load", "deploy", "observability"] j
  return {
    rpc := ← Given.get given 0 (rpc rules) {}
    account := ← Given.get given 1 (account rules) {}
    load := ← Given.get given 2 (load rules) {}
    deploy := ← Given.get given 3 (deploy rules) {}
    observability := ← Given.get given 4 (observability rules) {} }

end LocalChain.Settings.Reading

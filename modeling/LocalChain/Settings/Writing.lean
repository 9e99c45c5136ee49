import LocalChain.Json.Basic
import LocalChain.Settings.Basic

/-!
# Writing settings

Settings as a tree of values with every field, in the order of declaration; what is unset is null. This is
a way of writing a document that gives every setting, the private key included, so that reading it gives
the settings back. The program itself writes no settings, and a private key would not be among them.
-/

namespace LocalChain

/-- A number of 64 bits. -/
def Json.ofWord64 (n : UInt64) : Json :=
  .int n.toNat

/-- A number of 32 bits. -/
def Json.ofWord32 (n : UInt32) : Json :=
  .int n.toNat

/-- A value, or null. -/
def Json.ofOption {α : Type} (write : α → Json) : Option α → Json
  | none => .null
  | some a => write a

open Json

/-- The section on the node. -/
def RpcSettings.toJson (r : RpcSettings) : Json :=
  .obj [
    ("url", .str r.url),
    ("chain_id", ofOption ofWord64 r.chainId),
    ("timeout_secs", ofWord64 r.timeoutSecs),
    ("confirmation_blocks", ofWord32 r.confirmationBlocks),
    ("poll_interval_ms", ofWord64 r.pollIntervalMs),
    ("confirmation_timeout_secs", ofWord64 r.confirmationTimeoutSecs)]

/-- The section on the account. -/
def AccountSettings.toJson (a : AccountSettings) : Json :=
  .obj [
    ("mnemonic", .str a.mnemonic),
    ("derivation_index", ofWord32 a.derivationIndex),
    ("private_key", ofOption .str a.privateKey)]

/-- The section on transfers. -/
def LoadSettings.toJson (l : LoadSettings) : Json :=
  .obj [
    ("to", .str l.recipient),
    ("value", .str l.value),
    ("gas_limit", ofWord64 l.gasLimit),
    ("count", ofWord64 l.count),
    ("interval_ms", ofWord64 l.intervalMs),
    ("gas_price_wei", ofOption ofWord64 l.gasPriceWei),
    ("drain_timeout_ms", ofWord64 l.drainTimeoutMs)]

/-- One token. -/
def TokenSettings.toJson (t : TokenSettings) : Json :=
  .obj [("name", .str t.name), ("symbol", .str t.symbol), ("supply", .str t.supply)]

/-- The section on contracts. -/
def DeploySettings.toJson (d : DeploySettings) : Json :=
  .obj [
    ("artifacts_dir", .str d.artifactsDir),
    ("weth_artifact", .str d.wethArtifact),
    ("factory_artifact", .str d.factoryArtifact),
    ("router_artifact", .str d.routerArtifact),
    ("token_artifact", .str d.tokenArtifact),
    ("gas_limit", ofWord64 d.gasLimit),
    ("tokens", .arr (d.tokens.map TokenSettings.toJson)),
    ("liquidity_amount", .str d.liquidityAmount),
    ("deadline_secs", ofWord64 d.deadlineSecs),
    ("output", ofOption .str d.output)]

/-- The section on reports. -/
def ObservabilitySettings.toJson (o : ObservabilitySettings) : Json :=
  .obj [
    ("log_level", .str o.logLevel),
    ("metrics_enabled", .bool o.metricsEnabled),
    ("metrics_address", .str o.metricsAddress)]

/-- All sections. -/
def Settings.toJson (s : Settings) : Json :=
  .obj [
    ("rpc", s.rpc.toJson),
    ("account", s.account.toJson),
    ("load", s.load.toJson),
    ("deploy", s.deploy.toJson),
    ("observability", s.observability.toJson)]

end LocalChain

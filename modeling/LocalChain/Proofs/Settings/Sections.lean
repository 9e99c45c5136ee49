import Mathlib.Data.List.Nodup
import LocalChain.Settings.Layers
import LocalChain.Proofs.Json.Kinds

/-!
# Each field from its own key

A section is read by places: the values of its keys are listed in order, and each field takes the
one in its place.  What that comes to is said here by names.  A field is what the section gives
under the field's own key (`entry`), and its default when the section has no such key (`Field`).

So it is for all fields of all sections, and for the sections themselves: settings that are read
from a document are `In` it (`Settings.in_of_reading`).
-/

namespace LocalChain

namespace Json.Reading

/-- What a section gives under a key: the member with this key of an object, or the item of an array
in the place of the key. -/
def entry (keys : List String) (key : String) : Json → Option Json
  | .obj members => (members.find? (·.1 == key)).map (·.2)
  | .arr items => items[keys.idxOf key]?
  | _ => none

/-- A part of a section stands to what is given under its key as it should, or it is the default. -/
def Part {α : Type} (keys : List String) (j : Json) (key : String) (isIn : Json → α → Prop)
    (default a : α) : Prop :=
  match entry keys key j with
  | none => a = default
  | some value => isIn value a

/-- A field is what is given under its key, or else its default. -/
def Field {α : Type} (keys : List String) (j : Json) (key : String) (read : Json → Option α)
    (default a : α) : Prop :=
  Part keys j key (fun value a => read value = some a) default a

/-- A field without a default is what is given under its key. -/
def Required {α : Type} (keys : List String) (j : Json) (key : String) (read : Json → Option α)
    (a : α) : Prop :=
  ∃ value, entry keys key j = some value ∧ read value = some a

theorem Field.part {α : Type} {keys : List String} {j : Json} {key : String}
    {read : Json → Option α} {isIn : Json → α → Prop} {default a : α}
    (h : Field keys j key read default a) (hread : ∀ {value}, read value = some a → isIn value a) :
    Part keys j key isIn default a := by
  rw [Field, Part] at h
  rw [Part]
  cases hentry : entry keys key j with
  | none =>
    rw [hentry] at h
    exact h
  | some value =>
    rw [hentry] at h
    exact hread h

/-! ## Places and keys -/

/-- A member that is asked for by its key is the only one with it. -/
theorem find?_of_member {members : List (String × Json)} {key : String} {value : Option Json}
    (h : member members key = some value) :
    (members.find? (·.1 == key)).map (·.2) = value := by
  rw [← List.head?_filter]
  rw [member] at h
  split at h
  · rename_i hnone
    rw [hnone]
    exact Option.some.inj h
  · rename_i m hone
    rw [hone]
    exact Option.some.inj h
  · cases h

section Fields

variable {rules : Rules} {keys : List String} {j : Json} {given : Given}
  (hfields : fields rules keys j = some given) (hkeys : keys.Nodup)
include hfields hkeys

/-- **What stands in the place of a key is given under the key.** -/
theorem getElem?_of_fields {i : Nat} {key : String} (hkey : keys[i]? = some key) :
    given[i]? = some (entry keys key j) := by
  obtain ⟨hi, rfl⟩ := List.getElem?_eq_some_iff.mp hkey
  cases j with
  | obj members =>
    obtain ⟨-, -, hmembers⟩ := Option.bind_eq_some_iff.mp hfields
    have hall := mapM_iff.mp hmembers
    have hi' : i < given.length := hall.length_eq ▸ hi
    have hmember := find?_of_member (hall.get hi hi')
    rw [List.getElem?_eq_getElem hi']
    exact congrArg some hmember.symm
  | arr items =>
    rw [fields] at hfields
    split at hfields
    · cases hfields
    · obtain rfl := Option.some.inj hfields
      rw [List.getElem?_map, List.getElem?_range hi, entry, hkeys.idxOf_getElem i hi]
      rfl
  | _ => cases hfields

variable {α : Type} {read : Json → Option α} {default a : α}

theorem field_of_get (i : Nat) {key : String} (hkey : keys[i]? = some key)
    (hget : given.get i read default = some a) : Field keys j key read default a := by
  rw [Given.get, getElem?_of_fields hfields hkeys hkey] at hget
  rw [Field, Part]
  cases hentry : entry keys key j with
  | none =>
    rw [hentry] at hget
    exact (Option.some.inj hget).symm
  | some value =>
    rw [hentry] at hget
    exact hget

theorem required_of_require (i : Nat) {key : String} (hkey : keys[i]? = some key)
    (hget : given.require i read = some a) : Required keys j key read a := by
  rw [Given.require, getElem?_of_fields hfields hkeys hkey] at hget
  cases hentry : entry keys key j with
  | none =>
    rw [hentry] at hget
    cases hget
  | some value =>
    rw [hentry] at hget
    exact ⟨value, hentry, hget⟩

end Fields

end Json.Reading

open Json.Reading

/-! ## The sections -/

/-- The keys of the section on the node. -/
def RpcSettings.keys : List String :=
  ["url", "chain_id", "timeout_secs", "confirmation_blocks", "poll_interval_ms",
    "confirmation_timeout_secs"]

/-- The section on the node, key by key. -/
structure RpcSettings.In (j : Json) (r : RpcSettings) : Prop where
  url : Field keys j "url" text ({} : RpcSettings).url r.url
  chainId : Field keys j "chain_id" (optional word64) ({} : RpcSettings).chainId r.chainId
  timeoutSecs : Field keys j "timeout_secs" word64 ({} : RpcSettings).timeoutSecs r.timeoutSecs
  confirmationBlocks :
    Field keys j "confirmation_blocks" word32 ({} : RpcSettings).confirmationBlocks
      r.confirmationBlocks
  pollIntervalMs :
    Field keys j "poll_interval_ms" word64 ({} : RpcSettings).pollIntervalMs r.pollIntervalMs
  confirmationTimeoutSecs :
    Field keys j "confirmation_timeout_secs" word64 ({} : RpcSettings).confirmationTimeoutSecs
      r.confirmationTimeoutSecs

theorem RpcSettings.in_of_reading {rules : Rules} {j : Json} {r : RpcSettings}
    (h : Settings.Reading.rpc rules j = some r) : r.In j := by
  simp only [Settings.Reading.rpc, Option.bind_eq_bind, Option.bind_eq_some_iff,
    Option.pure_def, Option.some.injEq] at h
  obtain ⟨given, hfields, _, url, _, chainId, _, timeoutSecs, _, confirmationBlocks,
    _, pollIntervalMs, _, confirmationTimeoutSecs, rfl⟩ := h
  have hkeys : RpcSettings.keys.Nodup := by decide
  exact {
    url := field_of_get hfields hkeys 0 rfl url
    chainId := field_of_get hfields hkeys 1 rfl chainId
    timeoutSecs := field_of_get hfields hkeys 2 rfl timeoutSecs
    confirmationBlocks := field_of_get hfields hkeys 3 rfl confirmationBlocks
    pollIntervalMs := field_of_get hfields hkeys 4 rfl pollIntervalMs
    confirmationTimeoutSecs := field_of_get hfields hkeys 5 rfl confirmationTimeoutSecs }

/-- The keys of the section on the account. -/
def AccountSettings.keys : List String :=
  ["mnemonic", "derivation_index", "private_key"]

/-- The section on the account, key by key. -/
structure AccountSettings.In (j : Json) (a : AccountSettings) : Prop where
  mnemonic : Field keys j "mnemonic" text ({} : AccountSettings).mnemonic a.mnemonic
  derivationIndex :
    Field keys j "derivation_index" word32 ({} : AccountSettings).derivationIndex a.derivationIndex
  privateKey :
    Field keys j "private_key" (optional text) ({} : AccountSettings).privateKey a.privateKey

theorem AccountSettings.in_of_reading {rules : Rules} {j : Json} {a : AccountSettings}
    (h : Settings.Reading.account rules j = some a) : a.In j := by
  simp only [Settings.Reading.account, Option.bind_eq_bind, Option.bind_eq_some_iff,
    Option.pure_def, Option.some.injEq] at h
  obtain ⟨given, hfields, _, mnemonic, _, derivationIndex, _, privateKey, rfl⟩ := h
  have hkeys : AccountSettings.keys.Nodup := by decide
  exact {
    mnemonic := field_of_get hfields hkeys 0 rfl mnemonic
    derivationIndex := field_of_get hfields hkeys 1 rfl derivationIndex
    privateKey := field_of_get hfields hkeys 2 rfl privateKey }

/-- The keys of the section on transfers. -/
def LoadSettings.keys : List String :=
  ["to", "value", "gas_limit", "count", "interval_ms", "gas_price_wei", "drain_timeout_ms"]

/-- The section on transfers, key by key. -/
structure LoadSettings.In (j : Json) (l : LoadSettings) : Prop where
  recipient : Field keys j "to" text ({} : LoadSettings).recipient l.recipient
  value : Field keys j "value" text ({} : LoadSettings).value l.value
  gasLimit : Field keys j "gas_limit" word64 ({} : LoadSettings).gasLimit l.gasLimit
  count : Field keys j "count" word64 ({} : LoadSettings).count l.count
  intervalMs : Field keys j "interval_ms" word64 ({} : LoadSettings).intervalMs l.intervalMs
  gasPriceWei :
    Field keys j "gas_price_wei" (optional word64) ({} : LoadSettings).gasPriceWei l.gasPriceWei
  drainTimeoutMs :
    Field keys j "drain_timeout_ms" word64 ({} : LoadSettings).drainTimeoutMs l.drainTimeoutMs

theorem LoadSettings.in_of_reading {rules : Rules} {j : Json} {l : LoadSettings}
    (h : Settings.Reading.load rules j = some l) : l.In j := by
  simp only [Settings.Reading.load, Option.bind_eq_bind, Option.bind_eq_some_iff,
    Option.pure_def, Option.some.injEq] at h
  obtain ⟨given, hfields, _, recipient, _, value, _, gasLimit, _, count, _, intervalMs,
    _, gasPriceWei, _, drainTimeoutMs, rfl⟩ := h
  have hkeys : LoadSettings.keys.Nodup := by decide
  exact {
    recipient := field_of_get hfields hkeys 0 rfl recipient
    value := field_of_get hfields hkeys 1 rfl value
    gasLimit := field_of_get hfields hkeys 2 rfl gasLimit
    count := field_of_get hfields hkeys 3 rfl count
    intervalMs := field_of_get hfields hkeys 4 rfl intervalMs
    gasPriceWei := field_of_get hfields hkeys 5 rfl gasPriceWei
    drainTimeoutMs := field_of_get hfields hkeys 6 rfl drainTimeoutMs }

/-- The keys of one token. -/
def TokenSettings.keys : List String :=
  ["name", "symbol", "supply"]

/-- One token, key by key. -/
structure TokenSettings.In (j : Json) (t : TokenSettings) : Prop where
  name : Required keys j "name" text t.name
  symbol : Required keys j "symbol" text t.symbol
  supply : Field keys j "supply" text "9999999999999999999" t.supply

theorem TokenSettings.in_of_reading {rules : Rules} {j : Json} {t : TokenSettings}
    (h : Settings.Reading.token rules j = some t) : t.In j := by
  simp only [Settings.Reading.token, Option.bind_eq_bind, Option.bind_eq_some_iff,
    Option.pure_def, Option.some.injEq] at h
  obtain ⟨given, hfields, _, name, _, symbol, _, supply, rfl⟩ := h
  have hkeys : TokenSettings.keys.Nodup := by decide
  exact {
    name := required_of_require hfields hkeys 0 rfl name
    symbol := required_of_require hfields hkeys 1 rfl symbol
    supply := field_of_get hfields hkeys 2 rfl supply }

/-- The tokens of a list, one after the other. -/
def TokenSettings.AllIn (j : Json) (ts : List TokenSettings) : Prop :=
  ∃ items, j = .arr items ∧ List.Forall₂ TokenSettings.In items ts

theorem TokenSettings.allIn_of_reading {rules : Rules} {j : Json} {ts : List TokenSettings}
    (h : list (Settings.Reading.token rules) j = some ts) : AllIn j ts := by
  cases j with
  | arr items => exact ⟨items, rfl, (mapM_iff.mp h).imp fun _ _ => TokenSettings.in_of_reading⟩
  | _ => cases h

/-- The keys of the section on contracts. -/
def DeploySettings.keys : List String :=
  ["artifacts_dir", "weth_artifact", "factory_artifact", "router_artifact", "token_artifact",
    "gas_limit", "tokens", "liquidity_amount", "deadline_secs", "output"]

/-- The section on contracts, key by key. -/
structure DeploySettings.In (j : Json) (d : DeploySettings) : Prop where
  artifactsDir :
    Field keys j "artifacts_dir" text ({} : DeploySettings).artifactsDir d.artifactsDir
  wethArtifact :
    Field keys j "weth_artifact" text ({} : DeploySettings).wethArtifact d.wethArtifact
  factoryArtifact :
    Field keys j "factory_artifact" text ({} : DeploySettings).factoryArtifact d.factoryArtifact
  routerArtifact :
    Field keys j "router_artifact" text ({} : DeploySettings).routerArtifact d.routerArtifact
  tokenArtifact :
    Field keys j "token_artifact" text ({} : DeploySettings).tokenArtifact d.tokenArtifact
  gasLimit : Field keys j "gas_limit" word64 ({} : DeploySettings).gasLimit d.gasLimit
  tokens : Part keys j "tokens" TokenSettings.AllIn ({} : DeploySettings).tokens d.tokens
  liquidityAmount :
    Field keys j "liquidity_amount" text ({} : DeploySettings).liquidityAmount d.liquidityAmount
  deadlineSecs :
    Field keys j "deadline_secs" word64 ({} : DeploySettings).deadlineSecs d.deadlineSecs
  output : Field keys j "output" (optional text) ({} : DeploySettings).output d.output

theorem DeploySettings.in_of_reading {rules : Rules} {j : Json} {d : DeploySettings}
    (h : Settings.Reading.deploy rules j = some d) : d.In j := by
  simp only [Settings.Reading.deploy, Option.bind_eq_bind, Option.bind_eq_some_iff,
    Option.pure_def, Option.some.injEq] at h
  obtain ⟨given, hfields, _, artifactsDir, _, wethArtifact, _, factoryArtifact,
    _, routerArtifact, _, tokenArtifact, _, gasLimit, _, tokens, _, liquidityAmount,
    _, deadlineSecs, _, output, rfl⟩ := h
  have hkeys : DeploySettings.keys.Nodup := by decide
  exact {
    artifactsDir := field_of_get hfields hkeys 0 rfl artifactsDir
    wethArtifact := field_of_get hfields hkeys 1 rfl wethArtifact
    factoryArtifact := field_of_get hfields hkeys 2 rfl factoryArtifact
    routerArtifact := field_of_get hfields hkeys 3 rfl routerArtifact
    tokenArtifact := field_of_get hfields hkeys 4 rfl tokenArtifact
    gasLimit := field_of_get hfields hkeys 5 rfl gasLimit
    tokens := (field_of_get hfields hkeys 6 rfl tokens).part TokenSettings.allIn_of_reading
    liquidityAmount := field_of_get hfields hkeys 7 rfl liquidityAmount
    deadlineSecs := field_of_get hfields hkeys 8 rfl deadlineSecs
    output := field_of_get hfields hkeys 9 rfl output }

/-- The keys of the section on reports. -/
def ObservabilitySettings.keys : List String :=
  ["log_level", "metrics_enabled", "metrics_address"]

/-- The section on reports, key by key. -/
structure ObservabilitySettings.In (j : Json) (o : ObservabilitySettings) : Prop where
  logLevel : Field keys j "log_level" text ({} : ObservabilitySettings).logLevel o.logLevel
  metricsEnabled :
    Field keys j "metrics_enabled" flag ({} : ObservabilitySettings).metricsEnabled
      o.metricsEnabled
  metricsAddress :
    Field keys j "metrics_address" text ({} : ObservabilitySettings).metricsAddress
      o.metricsAddress

theorem ObservabilitySettings.in_of_reading {rules : Rules} {j : Json} {o : ObservabilitySettings}
    (h : Settings.Reading.observability rules j = some o) : o.In j := by
  simp only [Settings.Reading.observability, Option.bind_eq_bind, Option.bind_eq_some_iff,
    Option.pure_def, Option.some.injEq] at h
  obtain ⟨given, hfields, _, logLevel, _, metricsEnabled, _, metricsAddress, rfl⟩ := h
  have hkeys : ObservabilitySettings.keys.Nodup := by decide
  exact {
    logLevel := field_of_get hfields hkeys 0 rfl logLevel
    metricsEnabled := field_of_get hfields hkeys 1 rfl metricsEnabled
    metricsAddress := field_of_get hfields hkeys 2 rfl metricsAddress }

/-- The keys of a document. -/
def Settings.keys : List String :=
  ["rpc", "account", "load", "deploy", "observability"]

/-- All sections, key by key. A section that is not given has all its defaults. -/
structure Settings.In (document : Json) (s : Settings) : Prop where
  rpc : Part keys document "rpc" RpcSettings.In {} s.rpc
  account : Part keys document "account" AccountSettings.In {} s.account
  load : Part keys document "load" LoadSettings.In {} s.load
  deploy : Part keys document "deploy" DeploySettings.In {} s.deploy
  observability : Part keys document "observability" ObservabilitySettings.In {} s.observability

/-- **Settings are read key by key**: each field of each section from its own. -/
theorem Settings.in_of_reading {rules : Rules} {document : Json} {s : Settings}
    (h : Reading.settings rules document = some s) : s.In document := by
  simp only [Reading.settings, Option.bind_eq_bind, Option.bind_eq_some_iff, Option.pure_def,
    Option.some.injEq] at h
  obtain ⟨given, hfields, _, rpc, _, account, _, load, _, deploy, _, observability, rfl⟩ := h
  have hkeys : Settings.keys.Nodup := by decide
  exact {
    rpc := (field_of_get hfields hkeys 0 rfl rpc).part RpcSettings.in_of_reading
    account := (field_of_get hfields hkeys 1 rfl account).part AccountSettings.in_of_reading
    load := (field_of_get hfields hkeys 2 rfl load).part LoadSettings.in_of_reading
    deploy := (field_of_get hfields hkeys 3 rfl deploy).part DeploySettings.in_of_reading
    observability :=
      (field_of_get hfields hkeys 4 rfl observability).part ObservabilitySettings.in_of_reading }

end LocalChain

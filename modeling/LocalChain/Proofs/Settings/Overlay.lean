import LocalChain.Settings.Writing
import LocalChain.Proofs.Json.Ways

/-!
# Settings over their defaults

A file says of the settings what is not as usual.  Whatever it leaves out, a field, an item or a whole
section, has its default; what it gives is the value, and nothing is made of the two together.  In
particular the tokens of a file are all the tokens there are.

The columns of each section say how its fields are written, and the reader of the section takes what
is `Written` by them and nothing else (`RpcSettings.written_iff` and its likes).  From these the same
follows for the whole of the settings (`Settings.reading_overlays`).
-/

namespace LocalChain

open Json Json.Reading

/-! ## The columns of the sections -/

def RpcSettings.columns : List (Column RpcSettings) := [
  .field "url" RpcSettings.url Form.text {},
  .field "chain_id" RpcSettings.chainId (Form.optional Form.word64) {},
  .field "timeout_secs" RpcSettings.timeoutSecs Form.word64 {},
  .field "confirmation_blocks" RpcSettings.confirmationBlocks Form.word32 {},
  .field "poll_interval_ms" RpcSettings.pollIntervalMs Form.word64 {},
  .field "confirmation_timeout_secs" RpcSettings.confirmationTimeoutSecs Form.word64 {}]

def AccountSettings.columns : List (Column AccountSettings) := [
  .field "mnemonic" AccountSettings.mnemonic Form.text {},
  .field "derivation_index" AccountSettings.derivationIndex Form.word32 {},
  .field "private_key" AccountSettings.privateKey (Form.optional Form.text) {}]

def LoadSettings.columns : List (Column LoadSettings) := [
  .field "to" LoadSettings.recipient Form.text {},
  .field "value" LoadSettings.value Form.text {},
  .field "gas_limit" LoadSettings.gasLimit Form.word64 {},
  .field "count" LoadSettings.count Form.word64 {},
  .field "interval_ms" LoadSettings.intervalMs Form.word64 {},
  .field "gas_price_wei" LoadSettings.gasPriceWei (Form.optional Form.word64) {},
  .field "drain_timeout_ms" LoadSettings.drainTimeoutMs Form.word64 {}]

/-- The supply that is usual is that of any token, whatever its name and symbol. -/
def TokenSettings.columns : List (Column TokenSettings) := [
  .required "name" TokenSettings.name Form.text,
  .required "symbol" TokenSettings.symbol Form.text,
  .field "supply" TokenSettings.supply Form.text { name := "", symbol := "" }]

def DeploySettings.columns (rules : Rules) : List (Column DeploySettings) := [
  .field "artifacts_dir" DeploySettings.artifactsDir Form.text {},
  .field "weth_artifact" DeploySettings.wethArtifact Form.text {},
  .field "factory_artifact" DeploySettings.factoryArtifact Form.text {},
  .field "router_artifact" DeploySettings.routerArtifact Form.text {},
  .field "token_artifact" DeploySettings.tokenArtifact Form.text {},
  .field "gas_limit" DeploySettings.gasLimit Form.word64 {},
  .field "tokens" DeploySettings.tokens (Form.list (Written rules TokenSettings.columns)) {},
  .field "liquidity_amount" DeploySettings.liquidityAmount Form.text {},
  .field "deadline_secs" DeploySettings.deadlineSecs Form.word64 {},
  .field "output" DeploySettings.output (Form.optional Form.text) {}]

def ObservabilitySettings.columns : List (Column ObservabilitySettings) := [
  .field "log_level" ObservabilitySettings.logLevel Form.text {},
  .field "metrics_enabled" ObservabilitySettings.metricsEnabled Form.flag {},
  .field "metrics_address" ObservabilitySettings.metricsAddress Form.text {}]

def Settings.columns (rules : Rules) : List (Column Settings) := [
  .field "rpc" Settings.rpc (Written rules RpcSettings.columns) {},
  .field "account" Settings.account (Written rules AccountSettings.columns) {},
  .field "load" Settings.load (Written rules LoadSettings.columns) {},
  .field "deploy" Settings.deploy (Written rules (DeploySettings.columns rules)) {},
  .field "observability" Settings.observability (Written rules ObservabilitySettings.columns) {}]

section Readers

variable {rules : Rules} {j : Json}

theorem RpcSettings.written_iff {r : RpcSettings} :
    Settings.Reading.rpc rules j = some r ↔ Written rules columns r j := by
  rw [Json.Reading.written_iff (by decide)]
  obtain ⟨url, chainId, timeoutSecs, confirmationBlocks, pollIntervalMs, confirmationTimeoutSecs⟩ := r
  simp [Settings.Reading.rpc, columns, StandFrom, Form.Readable.read, Option.bind_eq_some_iff]

theorem AccountSettings.written_iff {a : AccountSettings} :
    Settings.Reading.account rules j = some a ↔ Written rules columns a j := by
  rw [Json.Reading.written_iff (by decide)]
  obtain ⟨mnemonic, derivationIndex, privateKey⟩ := a
  simp [Settings.Reading.account, columns, StandFrom, Form.Readable.read, Option.bind_eq_some_iff]

theorem LoadSettings.written_iff {l : LoadSettings} :
    Settings.Reading.load rules j = some l ↔ Written rules columns l j := by
  rw [Json.Reading.written_iff (by decide)]
  obtain ⟨recipient, value, gasLimit, count, intervalMs, gasPriceWei, drainTimeoutMs⟩ := l
  simp [Settings.Reading.load, columns, StandFrom, Form.Readable.read, Option.bind_eq_some_iff]

theorem TokenSettings.written_iff {t : TokenSettings} :
    Settings.Reading.token rules j = some t ↔ Written rules columns t j := by
  rw [Json.Reading.written_iff (by decide)]
  obtain ⟨name, symbol, supply⟩ := t
  simp [Settings.Reading.token, columns, StandFrom, Form.Readable.read, Option.bind_eq_some_iff]

instance : Form.Readable (Written rules TokenSettings.columns) := ⟨_, TokenSettings.written_iff⟩

theorem DeploySettings.written_iff {d : DeploySettings} :
    Settings.Reading.deploy rules j = some d ↔ Written rules (columns rules) d j := by
  rw [Json.Reading.written_iff (by simp [columns])]
  obtain ⟨artifactsDir, wethArtifact, factoryArtifact, routerArtifact, tokenArtifact, gasLimit,
    tokens, liquidityAmount, deadlineSecs, output⟩ := d
  simp [Settings.Reading.deploy, columns, StandFrom, Form.Readable.read, Option.bind_eq_some_iff]

theorem ObservabilitySettings.written_iff {o : ObservabilitySettings} :
    Settings.Reading.observability rules j = some o ↔ Written rules columns o j := by
  rw [Json.Reading.written_iff (by decide)]
  obtain ⟨logLevel, metricsEnabled, metricsAddress⟩ := o
  simp [Settings.Reading.observability, columns, StandFrom, Form.Readable.read,
    Option.bind_eq_some_iff, -Bool.exists_bool]

instance : Form.Readable (Written rules RpcSettings.columns) := ⟨_, RpcSettings.written_iff⟩

instance : Form.Readable (Written rules AccountSettings.columns) := ⟨_, AccountSettings.written_iff⟩

instance : Form.Readable (Written rules LoadSettings.columns) := ⟨_, LoadSettings.written_iff⟩

instance : Form.Readable (Written rules (DeploySettings.columns rules)) :=
  ⟨_, DeploySettings.written_iff⟩

instance : Form.Readable (Written rules ObservabilitySettings.columns) :=
  ⟨_, ObservabilitySettings.written_iff⟩

theorem Settings.written_iff {s : Settings} :
    Reading.settings rules j = some s ↔ Written rules (columns rules) s j := by
  rw [Json.Reading.written_iff (by simp [columns])]
  obtain ⟨rpc, account, load, deploy, observability⟩ := s
  simp [Reading.settings, columns, StandFrom, Form.Readable.read, Option.bind_eq_some_iff]

end Readers

/-! ## Settings written in full -/

section Full

variable (rules : Rules)

theorem Form.optional_ofOption {α : Type} (form : Form α) (write : α → Json)
    (hwrite : ∀ a, form a (write a)) (o : Option α) : Form.optional form o (ofOption write o) := by
  cases o with
  | none => rfl
  | some a => exact hwrite a

theorem RpcSettings.written_toJson (r : RpcSettings) : Written rules columns r r.toJson := by
  have hchain := Form.optional_ofOption Form.word64 ofWord64 (fun _ => rfl) r.chainId
  exact written_members (by decide) (by simp [columns, Column.field, Form.text, Form.word64,
    Form.word32, ofWord64, ofWord32, hchain])

theorem AccountSettings.written_toJson (a : AccountSettings) : Written rules columns a a.toJson := by
  have hkey := Form.optional_ofOption Form.text Json.str (fun _ => rfl) a.privateKey
  exact written_members (by decide) (by simp [columns, Column.field, Form.text, Form.word32,
    ofWord32, hkey])

theorem LoadSettings.written_toJson (l : LoadSettings) : Written rules columns l l.toJson := by
  have hprice := Form.optional_ofOption Form.word64 ofWord64 (fun _ => rfl) l.gasPriceWei
  exact written_members (by decide) (by simp [columns, Column.field, Form.text, Form.word64,
    ofWord64, hprice])

theorem TokenSettings.written_toJson (t : TokenSettings) : Written rules columns t t.toJson :=
  written_members (by decide) (by simp [columns, Column.field, Column.required, Form.text])

theorem DeploySettings.written_toJson (d : DeploySettings) :
    Written rules (columns rules) d d.toJson := by
  have htokens : Form.list (Written rules TokenSettings.columns) d.tokens
      (.arr (d.tokens.map TokenSettings.toJson)) := by
    refine ⟨_, rfl, List.forall₂_map_left_iff.mpr ?_⟩
    exact List.forall₂_same.mpr fun t _ => t.written_toJson rules
  have houtput := Form.optional_ofOption Form.text Json.str (fun _ => rfl) d.output
  exact written_members (by simp [columns]) (by simp [columns, Column.field, Form.text, Form.word64,
    ofWord64, htokens, houtput])

theorem ObservabilitySettings.written_toJson (o : ObservabilitySettings) :
    Written rules columns o o.toJson :=
  written_members (by decide) (by simp [columns, Column.field, Form.text, Form.flag])

theorem Settings.written_toJson (s : Settings) : Written rules (columns rules) s s.toJson := by
  have hrpc := s.rpc.written_toJson rules
  have haccount := s.account.written_toJson rules
  have hload := s.load.written_toJson rules
  have hdeploy := s.deploy.written_toJson rules
  have hobservability := s.observability.written_toJson rules
  exact written_members (by simp [columns])
    (by simp [columns, Column.field, hrpc, haccount, hload, hdeploy, hobservability])

end Full

/-! ## What no settings are written in -/

/-- Why no settings are written in a document: there is a fault in the document itself, in one of its
sections, or in one of the tokens that it gives. -/
inductive Settings.Faulty (rules : Rules) (j : Json) : Prop
  | document (hfault : Fault rules (columns rules) j)
  | rpc {v : Json} (hgiven : Gives keys "rpc" j v) (hfault : Fault rules RpcSettings.columns v)
  | account {v : Json} (hgiven : Gives keys "account" j v)
      (hfault : Fault rules AccountSettings.columns v)
  | load {v : Json} (hgiven : Gives keys "load" j v) (hfault : Fault rules LoadSettings.columns v)
  | deploy {v : Json} (hgiven : Gives keys "deploy" j v)
      (hfault : Fault rules (DeploySettings.columns rules) v)
  | observability {v : Json} (hgiven : Gives keys "observability" j v)
      (hfault : Fault rules ObservabilitySettings.columns v)
  | token {v item : Json} {items : List Json} (hgiven : Gives keys "deploy" j v)
      (htokens : Gives DeploySettings.keys "tokens" v (.arr items)) (hitem : item ∈ items)
      (hfault : Fault rules TokenSettings.columns item)

section Whole

variable {rules : Rules} {j : Json} {s : Settings}

/-- The tokens that a document gives are all the tokens. -/
theorem Settings.tokens_of_written (h : Written rules (columns rules) s j) {v : Json}
    {items : List Json} (hgiven : Gives keys "deploy" j v)
    (htokens : Gives DeploySettings.keys "tokens" v (.arr items)) :
    List.Forall₂ (fun item t => Written rules TokenSettings.columns t item) items
      s.deploy.tokens := by
  have hdeploy : Written rules (DeploySettings.columns rules) s.deploy v := h.given_at 3 rfl hgiven
  obtain ⟨items', hitems, hall⟩ := hdeploy.given_at 6 rfl htokens
  obtain rfl := Json.arr.inj hitems
  exact hall

theorem Settings.Faulty.not_written (h : Faulty rules j) (s : Settings) :
    ¬Written rules (columns rules) s j := by
  intro hwritten
  cases h with
  | document hfault => exact hfault.not_written s hwritten
  | rpc hgiven hfault => exact hfault.not_written _ (hwritten.given_at 0 rfl hgiven)
  | account hgiven hfault => exact hfault.not_written _ (hwritten.given_at 1 rfl hgiven)
  | load hgiven hfault => exact hfault.not_written _ (hwritten.given_at 2 rfl hgiven)
  | deploy hgiven hfault => exact hfault.not_written _ (hwritten.given_at 3 rfl hgiven)
  | observability hgiven hfault => exact hfault.not_written _ (hwritten.given_at 4 rfl hgiven)
  | token hgiven htokens hitem hfault =>
    have hall := tokens_of_written hwritten hgiven htokens
    obtain ⟨i, hi, rfl⟩ := List.getElem_of_mem hitem
    exact hfault.not_written _ (hall.get hi (hall.length_eq ▸ hi))

end Whole

/-- **Settings are read over their defaults.**  A document is read as some settings exactly if they
are written in it, in full or with what is usual left out.  The tokens that it gives are all the
tokens, however few they are, and one without a supply has the usual one.  Nothing is read from a
document with a fault in it, such as a number out of range. -/
theorem Settings.reading_overlays (rules : Rules) :
    (∀ j s, Reading.settings rules j = some s ↔ Written rules (columns rules) s j) ∧
    (∀ s, Reading.settings rules s.toJson = some s) ∧
    (∀ j s v items, Reading.settings rules j = some s → Gives keys "deploy" j v →
      Gives DeploySettings.keys "tokens" v (.arr items) →
      List.Forall₂ (fun item t => Reading.token rules item = some t) items s.deploy.tokens) ∧
    (∀ j t, Reading.token rules j = some t → (∀ v, ¬Gives TokenSettings.keys "supply" j v) →
      t.supply = "9999999999999999999") ∧
    (∀ j, Faulty rules j → Reading.settings rules j = none) ∧
    (∀ n : Int, n < 0 ∨ UInt64.size ≤ n → ∀ w, ¬Form.word64 w (.int n)) ∧
    (∀ n : Int, n < 0 ∨ UInt32.size ≤ n → ∀ w, ¬Form.word32 w (.int n)) := by
  refine ⟨fun j s => written_iff, fun s => written_iff.mpr (s.written_toJson rules), ?_, ?_, ?_,
    fun n hn => Form.number_refuses UInt64.toNat_lt hn,
    fun n hn => Form.number_refuses UInt32.toNat_lt hn⟩
  · intro j s v items hs hgiven htokens
    refine (tokens_of_written (written_iff.mp hs) hgiven htokens).imp fun item t ht => ?_
    exact TokenSettings.written_iff.mpr ht
  · intro j t ht habsent
    have hdefault := (TokenSettings.written_iff.mp ht).absent _
      (List.mem_of_getElem? (i := 2) rfl) habsent
    exact (Option.some.inj hdefault).symm
  · intro j hfaulty
    refine Option.eq_none_iff_forall_ne_some.mpr fun s hs => ?_
    exact hfaulty.not_written s (written_iff.mp hs)

end LocalChain

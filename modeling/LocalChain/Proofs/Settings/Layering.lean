import LocalChain.Proofs.Settings.Sections
import LocalChain.Proofs.Settings.Validity

/-!
# The settings that are judged

A file, or the defaults, lies at the bottom (`Base`).  The key of the environment and what the
command line gives lie on top, and each covers its own fields and no others (`Layered`).  Only what
is left in the end is judged (`layers_resolve`): the settings are had if the bottom can be read and
nothing is wrong with the whole, and otherwise the error is that of the file, or everything that is
wrong.

Every problem names its field (`Problem.field`), and the sections keep to their own names.  So what
is said about a covered field is said about the cover alone: what the file has there is not seen.
-/

namespace LocalChain

/-! ## What problems are about -/

namespace Problem

/-- The field, or the section, that a problem is about. -/
def field : Problem → String
  | invalidUrl f _ => f
  | invalidAddress f _ => f
  | invalidAmount f _ => f
  | notPositive f => f
  | empty f => f
  | noSigner => "account"
  | tooFewTokens _ => "deploy.tokens"

/-- **The sentence for people begins with the field.** -/
theorem exists_message_eq (p : Problem) : ∃ rest, p.message = p.field ++ (": " ++ rest) := by
  have hsplit (f given rest : String) : f ++ (": " ++ given) ++ rest
      = f ++ (": " ++ (given ++ rest)) := by
    rw [String.append_assoc, String.append_assoc]
  cases p with
  | invalidUrl f v =>
    exact ⟨_, (String.append_assoc ..).trans (hsplit f "invalid URL '" (v ++ "'"))⟩
  | invalidAddress f v =>
    exact ⟨_, (String.append_assoc ..).trans (hsplit f "invalid address '" (v ++ "'"))⟩
  | invalidAmount f v =>
    exact ⟨_, (String.append_assoc ..).trans (hsplit f "invalid ether amount '" (v ++ "'"))⟩
  | notPositive f => exact ⟨"must be greater than zero", rfl⟩
  | empty f => exact ⟨"must not be empty", rfl⟩
  | noSigner => exact ⟨"no mnemonic or private key configured", rfl⟩
  | tooFewTokens n =>
    exact ⟨_, hsplit "deploy.tokens" "at least two tokens are needed to add liquidity, got " _⟩

/-- The problems about a field. -/
def about (field : String) (ps : List Problem) : List Problem :=
  ps.filter (·.field = field)

/-- The names of all fields that something is wrong with begin in this way. -/
def Within (name : String) (ps : List Problem) : Prop :=
  ∀ p ∈ ps, name.toList <+: p.field.toList

variable {name field : String} {ps qs : List Problem} {bad : Bool} {p : Problem}

@[simp] theorem about_append : about field (ps ++ qs) = about field ps ++ about field qs :=
  List.filter_append ..

theorem about_when (bad : Bool) (p : Problem) :
    about field (when bad p) = if p.field = field then when bad p else [] := by
  cases bad
  · simp [about, when]
  · by_cases h : p.field = field <;> simp [about, when, h]

/-- Nothing is said about fields of another section. -/
theorem Within.about_eq_nil (h : Within name ps) (hfield : ¬name.toList <+: field.toList) :
    about field ps = [] := by
  refine List.filter_eq_nil_iff.mpr fun p hp heq => hfield ?_
  rw [← of_decide_eq_true heq]
  exact h p hp

/-- Everything is said about the one field that it can be about. -/
theorem about_eq_self (h : ∀ p ∈ ps, p.field = field) : about field ps = ps :=
  List.filter_eq_self.mpr fun p hp => decide_eq_true (h p hp)

theorem about_eq_nil {other : String} (h : ∀ p ∈ ps, p.field = other) (hother : other ≠ field) :
    about field ps = [] :=
  List.filter_eq_nil_iff.mpr fun p hp heq => hother ((h p hp).symm.trans (of_decide_eq_true heq))

theorem Within.append (hps : Within name ps) (hqs : Within name qs) : Within name (ps ++ qs) :=
  fun p hp => (List.mem_append.mp hp).elim (hps p) (hqs p)

theorem Within.when (field : String) (hp : p.field = field)
    (hname : name.toList <+: field.toList) : Within name (Problem.when bad p) := by
  cases bad
  · exact fun q hq => absurd hq List.not_mem_nil
  · intro q hq
    rw [List.mem_singleton.mp hq, hp]
    exact hname

theorem within_of_field (h : ∀ p ∈ ps, p.field = field) (hname : name.toList <+: field.toList) :
    Within name ps :=
  fun p hp => h p hp ▸ hname

end Problem

open Problem (about Within)

namespace Settings

theorem field_of_amountProblems {field value : String} {ps : List Problem}
    (h : amountProblems field value = some ps) : ∀ p ∈ ps, p.field = field := by
  obtain ⟨read, hread, rfl⟩ := Option.map_eq_some_iff.mp h
  cases read with
  | ok w => exact fun p hp => absurd hp List.not_mem_nil
  | error e =>
    intro p hp
    rw [List.mem_singleton.mp hp]
    rw [readAmount] at hread
    split at hread
    · cases hread
      rfl
    · split at hread
      · cases hread
      · cases hread
        rfl
      · cases hread

theorem field_of_recipientProblems {value : String} :
    ∀ p ∈ recipientProblems value, p.field = "load.to" := by
  rw [recipientProblems, readRecipient]
  split
  · exact fun p hp => absurd hp List.not_mem_nil
  · rename_i e he
    intro p hp
    rw [List.mem_singleton.mp hp]
    split at he
    · cases he
      rfl
    · split at he <;> cases he
      rfl

theorem within_of_tokens {ts : List TokenSettings} {i : Nat} {ps : List Problem}
    (h : TokenSettings.problemsFrom i ts = some ps) : Within "deploy.tokens" ps := by
  induction ts generalizing i ps with
  | nil =>
    obtain rfl := Option.some.inj h
    exact fun p hp => absurd hp List.not_mem_nil
  | cons t ts ih =>
    rw [TokenSettings.problemsFrom, TokenSettings.problems] at h
    simp only [Option.bind_eq_bind, Option.bind_eq_some_iff, Option.pure_def,
      Option.some.injEq] at h
    obtain ⟨_, ⟨supply, hsupply, rfl⟩, others, hothers, rfl⟩ := h
    have hname : "deploy.tokens".toList <+:
        ("deploy.tokens[" ++ toString i ++ "].supply").toList := by
      rw [String.toList_append, String.toList_append, List.append_assoc]
      exact ⟨"[".toList ++ ((toString i).toList ++ "].supply".toList), rfl⟩
    have hsymbol : Within "deploy.tokens" (Problem.when (Text.isBlankText t.symbol)
        (.empty "deploy.tokens.symbol")) := .when "deploy.tokens.symbol" rfl (by decide)
    have hsupplyName : Within "deploy.tokens" supply :=
      Problem.within_of_field (field_of_amountProblems hsupply) hname
    exact (hsymbol.append hsupplyName).append (ih hothers)

end Settings

open Settings (amountProblems recipientProblems isNoUrl)

/-! ## The sections keep to their names -/

theorem RpcSettings.within_problems (r : RpcSettings) : Within "rpc" r.problems :=
  (((Within.when "rpc.url" rfl (by decide)).append
    (.when "rpc.timeout_secs" rfl (by decide))).append
    (.when "rpc.poll_interval_ms" rfl (by decide))).append
    (.when "rpc.confirmation_timeout_secs" rfl (by decide))

theorem RpcSettings.about_url (r : RpcSettings) :
    about "rpc.url" r.problems = Problem.when (isNoUrl r.url) (.invalidUrl "rpc.url" r.url) := by
  simp [problems, Problem.about_when, Problem.field]

theorem AccountSettings.within_problems (a : AccountSettings) : Within "account" a.problems :=
  .when "account" rfl (by decide)

theorem AccountSettings.about_account (a : AccountSettings) :
    about "account" a.problems = a.problems := by
  rw [problems, Problem.about_when]
  exact if_pos rfl

theorem LoadSettings.within_of_problems {l : LoadSettings} {ps : List Problem}
    (h : l.problems = some ps) : Within "load" ps := by
  obtain ⟨value, hvalue, h⟩ := Option.bind_eq_some_iff.mp h
  obtain rfl := Option.some.inj h
  have hto : Within "load" (recipientProblems l.recipient) :=
    Problem.within_of_field Settings.field_of_recipientProblems (by decide)
  have hamount : Within "load" value :=
    Problem.within_of_field (Settings.field_of_amountProblems hvalue) (by decide)
  exact ((hto.append hamount).append (.when "load.gas_limit" rfl (by decide))).append
    (.when "load.interval_ms" rfl (by decide))

/-- Each field of a transfer is judged by itself, and any number of transfers will do. -/
theorem LoadSettings.about_problems {l : LoadSettings} {ps : List Problem}
    (h : l.problems = some ps) :
    about "load.count" ps = [] ∧
    about "load.interval_ms" ps
      = Problem.when (l.intervalMs = 0) (.notPositive "load.interval_ms") ∧
    about "load.to" ps = recipientProblems l.recipient ∧
    some (about "load.value" ps) = amountProblems "load.value" l.value := by
  obtain ⟨value, hvalue, h⟩ := Option.bind_eq_some_iff.mp h
  obtain rfl := Option.some.inj h
  have hto : ∀ p ∈ recipientProblems l.recipient, p.field = "load.to" :=
    Settings.field_of_recipientProblems
  have hamount := Settings.field_of_amountProblems hvalue
  simp (disch := decide) [hvalue, Problem.about_when, Problem.field, Problem.about_eq_self hto,
    Problem.about_eq_self hamount, Problem.about_eq_nil hto, Problem.about_eq_nil hamount]

/-- The problems with contracts name fields of contracts, and never the file to write. -/
theorem DeploySettings.within_of_problems {d : DeploySettings} {ps : List Problem}
    (h : d.problems = some ps) : Within "deploy" ps ∧ about "deploy.output" ps = [] := by
  obtain ⟨tokens, htokens, h⟩ := Option.bind_eq_some_iff.mp h
  obtain ⟨liquidity, hliquidity, h⟩ := Option.bind_eq_some_iff.mp h
  obtain rfl := Option.some.inj h
  have htokensName := Settings.within_of_tokens htokens
  have hliquidityName := Settings.field_of_amountProblems hliquidity
  constructor
  · have hamount : Within "deploy" liquidity :=
      Problem.within_of_field hliquidityName (by decide)
    have hothers : Within "deploy" tokens := fun p hp =>
      List.IsPrefix.trans (by decide) (htokensName p hp)
    exact (((Within.when "deploy.gas_limit" rfl (by decide)).append
      (.when "deploy.tokens" rfl (by decide))).append hothers).append hamount
  · simp (disch := decide) [Problem.about_when, Problem.field, htokensName.about_eq_nil,
      Problem.about_eq_nil hliquidityName]

theorem ObservabilitySettings.within_problems (o : ObservabilitySettings) :
    Within "observability" o.problems :=
  .when "observability.metrics_address" rfl (by decide)

/-- **What is said about the fields that can be covered**, and about the account, is what is to be
said about their values, and nothing else. -/
theorem Settings.about_problems {s : Settings} {ps : List Problem} (h : s.problems = some ps) :
    about "rpc.url" ps = Problem.when (isNoUrl s.rpc.url) (.invalidUrl "rpc.url" s.rpc.url) ∧
    about "account" ps = s.account.problems ∧
    about "load.count" ps = [] ∧
    about "load.interval_ms" ps
      = Problem.when (s.load.intervalMs = 0) (.notPositive "load.interval_ms") ∧
    about "load.to" ps = recipientProblems s.load.recipient ∧
    some (about "load.value" ps) = amountProblems "load.value" s.load.value ∧
    about "deploy.output" ps = [] := by
  obtain ⟨load, hload, h⟩ := Option.bind_eq_some_iff.mp h
  obtain ⟨deploy, hdeploy, h⟩ := Option.bind_eq_some_iff.mp h
  obtain rfl := Option.some.inj h
  have hrpc := s.rpc.within_problems
  have haccount := s.account.within_problems
  have hloadName := LoadSettings.within_of_problems hload
  obtain ⟨hdeployName, hdeployOutput⟩ := DeploySettings.within_of_problems hdeploy
  have hobservability := s.observability.within_problems
  -- each section is silent about the fields of the others
  simp (disch := decide) only [Problem.about_append, hrpc.about_eq_nil, haccount.about_eq_nil,
    hloadName.about_eq_nil, hdeployName.about_eq_nil, hobservability.about_eq_nil,
    List.append_nil, List.nil_append, s.rpc.about_url, s.account.about_account, hdeployOutput,
    true_and, and_true]
  exact LoadSettings.about_problems hload

/-! ## Layers -/

/-- What covers a field, or what lies below when nothing does. -/
def Covered {α : Type} (cover : Option α) (below a : α) : Prop :=
  match cover with
  | none => a = below
  | some x => a = x

theorem covered_iff {α : Type} {cover : Option α} {below a : α} :
    Covered cover below a ↔ a = cover.getD below := by
  cases cover <;> exact Iff.rfl

namespace Settings

/-- What lies at the bottom: the defaults without a file, and otherwise what the text of the file
says, key by key. -/
def Base (files : Files) (path : Option String) (base : Settings) : Prop :=
  match path with
  | none => base = {}
  | some p => ∃ text, files.readText p = .ok text ∧ ofToml text = some base

/-- The key that the environment gives: a text that is not blank. -/
def keyOf (key : Option String) : Option String :=
  key.filter (!Text.isBlankText ·)

/-- **The settings of all layers.**  Six fields have what the command line gives for them, and the
private key is that of the environment.  What is not given there, and everything else, is as it is
at the bottom. -/
structure Layered (base : Settings) (key : Option String) (o : Overrides) (c : Settings) :
    Prop where
  url : Covered o.rpcUrl base.rpc.url c.rpc.url
  rpc : c.rpc = { base.rpc with url := c.rpc.url }
  privateKey : Covered ((keyOf key).map some) base.account.privateKey c.account.privateKey
  account : c.account = { base.account with privateKey := c.account.privateKey }
  count : Covered o.count base.load.count c.load.count
  intervalMs : Covered o.intervalMs base.load.intervalMs c.load.intervalMs
  recipient : Covered o.recipient base.load.recipient c.load.recipient
  value : Covered o.value base.load.value c.load.value
  load : c.load = { base.load with
    count := c.load.count, intervalMs := c.load.intervalMs,
    recipient := c.load.recipient, value := c.load.value }
  output : Covered (o.deployOutput.map some) base.deploy.output c.deploy.output
  deploy : c.deploy = { base.deploy with output := c.deploy.output }
  observability : c.observability = base.observability

variable {files : Files} {path : Option String} {base c c' : Settings} {key : Option String}
  {o : Overrides}

/-- Each layer covers its fields, the command line after the environment. -/
theorem layered_override (base : Settings) (key : Option String) (o : Overrides) :
    Layered base key o ((base.withEnvironment key).override o) := by
  rw [withEnvironment]
  cases hkey : key.filter (!Text.isBlankText ·) with
  | none =>
    constructor <;> simp only [covered_iff, keyOf, hkey, override, Option.map_none,
      Option.getD_none]
    cases o.deployOutput <;> rfl
  | some k =>
    constructor <;> simp only [covered_iff, keyOf, hkey, override, Option.map_some,
      Option.getD_some]
    cases o.deployOutput <;> rfl

/-- The layers leave nothing open. -/
theorem Layered.unique (h : Layered base key o c) (h' : Layered base key o c') : c = c' := by
  have hrpc : c.rpc = c'.rpc := by
    rw [h.rpc, h'.rpc, covered_iff.mp h.url, covered_iff.mp h'.url]
  have haccount : c.account = c'.account := by
    rw [h.account, h'.account, covered_iff.mp h.privateKey, covered_iff.mp h'.privateKey]
  have hload : c.load = c'.load := by
    rw [h.load, h'.load, covered_iff.mp h.count, covered_iff.mp h'.count,
      covered_iff.mp h.intervalMs, covered_iff.mp h'.intervalMs, covered_iff.mp h.recipient,
      covered_iff.mp h'.recipient, covered_iff.mp h.value, covered_iff.mp h'.value]
  have hdeploy : c.deploy = c'.deploy := by
    rw [h.deploy, h'.deploy, covered_iff.mp h.output, covered_iff.mp h'.output]
  have hobservability : c.observability = c'.observability :=
    h.observability.trans h'.observability.symm
  calc c = ⟨c.rpc, c.account, c.load, c.deploy, c.observability⟩ := rfl
    _ = c' := by rw [hrpc, haccount, hload, hdeploy, hobservability]

theorem layered_iff : Layered base key o c ↔ c = (base.withEnvironment key).override o := by
  constructor
  · exact fun h => h.unique (layered_override base key o)
  · rintro rfl
    exact layered_override base key o

theorem override_withEnvironment (s : Settings) (key : Option String) (o : Overrides) :
    (s.withEnvironment key).override o = (s.override o).withEnvironment key := by
  rw [withEnvironment, withEnvironment]
  cases key.filter (!Text.isBlankText ·) <;> rfl

theorem withEnvironment_withEnvironment (s : Settings) (key : Option String) :
    (s.withEnvironment key).withEnvironment key = s.withEnvironment key := by
  simp only [withEnvironment]
  cases key.filter (!Text.isBlankText ·) <;> rfl

theorem override_override (s : Settings) (o : Overrides) :
    (s.override o).override o = s.override o := by
  obtain ⟨url, count, intervalMs, recipient, value, output⟩ := o
  cases url <;> cases count <;> cases intervalMs <;> cases recipient <;> cases value <;>
    cases output <;> rfl

/-! ## What comes out -/

theorem resolve_of_base (hbase : Base files path base) (h : Layered base key o c) :
    resolve files path key o = check c := by
  rw [resolve, layered_iff.mp h]
  cases path with
  | none =>
    obtain rfl : base = {} := hbase
    rfl
  | some p =>
    obtain ⟨text, htext, hbase⟩ := hbase
    have hfile : readFile files p = .ok base := by
      simp only [readFile, htext, hbase]
    rw [Option.elim_some, hfile]

theorem resolve_of_unreadable {p : String} {cause : FileError}
    (htext : files.readText p = .error cause) :
    resolve files (some p) key o = some (.error (.io cause)) := by
  have hfile : readFile files p = .error (.io cause) := by
    simp only [readFile, htext]
  rw [resolve, Option.elim_some, hfile]

theorem resolve_of_no_settings {p text : String} (htext : files.readText p = .ok text)
    (hbase : ofToml text = none) : resolve files (some p) key o = some (.error .parse) := by
  have hfile : readFile files p = .error .parse := by
    simp only [readFile, htext, hbase]
  rw [resolve, Option.elim_some, hfile]

/-- The bottom is there, or the file is at fault. -/
theorem base_cases (files : Files) (path : Option String) :
    (∃ base, Base files path base) ∨
    (∃ p cause, path = some p ∧ files.readText p = .error cause) ∨
    (∃ p text, path = some p ∧ files.readText p = .ok text ∧ ofToml text = none) := by
  cases path with
  | none => exact .inl ⟨{}, rfl⟩
  | some p =>
    cases htext : files.readText p with
    | error cause => exact .inr (.inl ⟨p, cause, rfl, htext⟩)
    | ok text =>
      cases hbase : ofToml text with
      | none => exact .inr (.inr ⟨p, text, rfl, htext, hbase⟩)
      | some base => exact .inl ⟨base, text, htext, hbase⟩

/-- **Settings are resolved in one of three ways**: they are judged, or the file cannot be read, or
what it says is no settings. -/
theorem resolve_cases (files : Files) (path key : Option String) (o : Overrides) :
    (∃ base c, Base files path base ∧ Layered base key o c ∧
      resolve files path key o = check c) ∨
    (∃ p cause, path = some p ∧ files.readText p = .error cause ∧
      resolve files path key o = some (.error (.io cause))) ∨
    (∃ p text, path = some p ∧ files.readText p = .ok text ∧ ofToml text = none ∧
      resolve files path key o = some (.error .parse)) := by
  rcases base_cases files path with ⟨base, hbase⟩ | ⟨p, cause, rfl, htext⟩ |
    ⟨p, text, rfl, htext, hbase⟩
  · have hlayered := layered_override base key o
    exact .inl ⟨base, _, hbase, hlayered, resolve_of_base hbase hlayered⟩
  · exact .inr (.inl ⟨p, cause, rfl, htext, resolve_of_unreadable htext⟩)
  · exact .inr (.inr ⟨p, text, rfl, htext, hbase, resolve_of_no_settings htext hbase⟩)

theorem check_eq_ok_iff : check c = some (.ok c') ↔ c' = c ∧ c.problems = some [] := by
  rw [check]
  rcases c.problems with _ | _ | ⟨p, ps⟩
  · simp
  · simp only [Option.map_some, List.isEmpty_nil, if_true, Option.some.injEq, Except.ok.injEq,
      and_true]
    exact eq_comm
  · simp

theorem check_eq_invalid_iff {ps : List Problem} :
    check c = some (.error (.invalid ps)) ↔ c.problems = some ps ∧ ps ≠ [] := by
  rw [check]
  rcases c.problems with _ | _ | ⟨p, qs⟩
  · simp
  · simp
  · simp only [Option.map_some, List.isEmpty_cons, Bool.false_eq_true, if_false, Option.some.injEq,
      Except.error.injEq, SettingsError.invalid.injEq]
    exact ⟨fun h => ⟨h, h ▸ List.cons_ne_nil p qs⟩, And.left⟩

theorem check_eq_none_iff : check c = none ↔ c.problems = none :=
  Option.map_eq_none_iff

/-- Judging finds no fault with a file. -/
theorem invalid_of_check {e : SettingsError} (h : check c = some (.error e)) :
    ∃ ps, e = .invalid ps := by
  obtain ⟨ps, -, h⟩ := Option.map_eq_some_iff.mp h
  split at h
  · cases h
  · cases h
    exact ⟨ps, rfl⟩

/-- **There are settings when there is nothing wrong with the whole of the layers.** -/
theorem resolve_eq_ok_iff : resolve files path key o = some (.ok c) ↔
    ∃ base, Base files path base ∧ Layered base key o c ∧ c.problems = some [] := by
  constructor
  · intro h
    rcases resolve_cases files path key o with ⟨base, c', hbase, hlayered, heq⟩ |
      ⟨p, cause, -, -, heq⟩ | ⟨p, text, -, -, -, heq⟩
    · obtain ⟨rfl, hproblems⟩ := check_eq_ok_iff.mp (heq.symm.trans h)
      exact ⟨base, hbase, hlayered, hproblems⟩
    · cases heq.symm.trans h
    · cases heq.symm.trans h
  · rintro ⟨base, hbase, hlayered, hproblems⟩
    rw [resolve_of_base hbase hlayered]
    exact check_eq_ok_iff.mpr ⟨rfl, hproblems⟩

theorem resolve_eq_io_iff {cause : FileError} :
    resolve files path key o = some (.error (.io cause)) ↔
      ∃ p, path = some p ∧ files.readText p = .error cause := by
  constructor
  · intro h
    rcases resolve_cases files path key o with ⟨base, c, -, -, heq⟩ |
      ⟨p, cause', hpath, htext, heq⟩ | ⟨p, text, -, -, -, heq⟩
    · obtain ⟨ps, hps⟩ := invalid_of_check (heq.symm.trans h)
      cases hps
    · cases heq.symm.trans h
      exact ⟨p, hpath, htext⟩
    · cases heq.symm.trans h
  · rintro ⟨p, rfl, htext⟩
    exact resolve_of_unreadable htext

theorem resolve_eq_parse_iff : resolve files path key o = some (.error .parse) ↔
    ∃ p text, path = some p ∧ files.readText p = .ok text ∧ ofToml text = none := by
  constructor
  · intro h
    rcases resolve_cases files path key o with ⟨base, c, -, -, heq⟩ |
      ⟨p, cause, -, -, heq⟩ | ⟨p, text, hpath, htext, hbase, -⟩
    · obtain ⟨ps, hps⟩ := invalid_of_check (heq.symm.trans h)
      cases hps
    · cases heq.symm.trans h
    · exact ⟨p, text, hpath, htext, hbase⟩
  · rintro ⟨p, text, rfl, htext, hbase⟩
    exact resolve_of_no_settings htext hbase

theorem resolve_eq_invalid_iff {ps : List Problem} :
    resolve files path key o = some (.error (.invalid ps)) ↔
      ∃ base c, Base files path base ∧ Layered base key o c ∧ c.problems = some ps ∧ ps ≠ [] := by
  constructor
  · intro h
    rcases resolve_cases files path key o with ⟨base, c, hbase, hlayered, heq⟩ |
      ⟨p, cause, -, -, heq⟩ | ⟨p, text, -, -, -, heq⟩
    · exact ⟨base, c, hbase, hlayered, check_eq_invalid_iff.mp (heq.symm.trans h)⟩
    · cases heq.symm.trans h
    · cases heq.symm.trans h
  · rintro ⟨base, c, hbase, hlayered, hproblems⟩
    rw [resolve_of_base hbase hlayered]
    exact check_eq_invalid_iff.mpr hproblems

/-- There is no verdict when there is none on the whole. -/
theorem resolve_eq_none_iff : resolve files path key o = none ↔
    ∃ base c, Base files path base ∧ Layered base key o c ∧ c.problems = none := by
  constructor
  · intro h
    rcases resolve_cases files path key o with ⟨base, c, hbase, hlayered, heq⟩ |
      ⟨p, cause, -, -, heq⟩ | ⟨p, text, -, -, -, heq⟩
    · exact ⟨base, c, hbase, hlayered, check_eq_none_iff.mp (heq.symm.trans h)⟩
    · cases heq.symm.trans h
    · cases heq.symm.trans h
  · rintro ⟨base, c, hbase, hlayered, hproblems⟩
    rw [resolve_of_base hbase hlayered]
    exact check_eq_none_iff.mpr hproblems

/-- A file by itself is judged as if nothing were given on the command line. -/
theorem ofFile_eq_resolve (files : Files) (p : String) (key : Option String) :
    ofFile files p key = resolve files (some p) key {} := by
  rw [ofFile, resolve, Option.elim_some]
  cases readFile files p with
  | error e => rfl
  | ok s => rfl

/-! ## What is said of it -/

/-- What is said about the fields that are covered, and what about the account. -/
structure Reported (base : Settings) (key : Option String) (o : Overrides) (ps : List Problem) :
    Prop where
  url : ∀ url, Covered o.rpcUrl base.rpc.url url →
    about "rpc.url" ps = Problem.when (isNoUrl url) (.invalidUrl "rpc.url" url)
  count : about "load.count" ps = []
  intervalMs : ∀ ms, Covered o.intervalMs base.load.intervalMs ms →
    about "load.interval_ms" ps = Problem.when (ms = 0) (.notPositive "load.interval_ms")
  recipient : ∀ recipient, Covered o.recipient base.load.recipient recipient →
    about "load.to" ps = recipientProblems recipient
  value : ∀ value, Covered o.value base.load.value value →
    amountProblems "load.value" value = some (about "load.value" ps)
  output : about "deploy.output" ps = []
  account : (keyOf key).isSome → about "account" ps = []

theorem Layered.reported {ps : List Problem} (h : Layered base key o c)
    (hproblems : c.problems = some ps) : Reported base key o ps := by
  obtain ⟨hurl, haccount, hcount, hinterval, hrecipient, hvalue, houtput⟩ :=
    about_problems hproblems
  refine ⟨fun url hcovered => ?_, hcount, fun ms hcovered => ?_, fun recipient hcovered => ?_,
    fun value hcovered => ?_, houtput, fun hkey => ?_⟩
  · rw [hurl, covered_iff.mp h.url, covered_iff.mp hcovered]
  · rw [hinterval, covered_iff.mp h.intervalMs, covered_iff.mp hcovered]
  · rw [hrecipient, covered_iff.mp h.recipient, covered_iff.mp hcovered]
  · rw [hvalue, covered_iff.mp h.value, covered_iff.mp hcovered]
  · obtain ⟨k, hk⟩ := Option.isSome_iff_exists.mp hkey
    have hprivate : c.account.privateKey = some k := by
      have hcovered := h.privateKey
      rw [hk] at hcovered
      exact hcovered
    have hgiven : c.account.key? = some k := by
      rw [AccountSettings.key?, hprivate]
      exact Option.filter_eq_some_iff.mpr ⟨rfl, (Option.filter_eq_some_iff.mp hk).2⟩
    rw [haccount, AccountSettings.problems, hgiven]
    rfl

/-- **Layers are resolved into settings exactly when the whole of them is right.**  The settings are
those of all layers, the later of which cover the earlier ones.  Otherwise the file cannot be read,
or its text is no settings, or there are problems, and these are all problems of the whole and
nothing else: a fault that is covered is not among them, and the fault of a cover is.

The bottom is read key by key.  A file by itself is judged like a file that nothing but the key of
the environment lies on, and the two layers on top may be laid in either order, and more than once.
-/
theorem layers_resolve (files : Files) (path key : Option String) (o : Overrides) :
    (∀ base, ∃! c, Layered base key o c) ∧
    (∀ c, resolve files path key o = some (.ok c) ↔
      ∃ base, Base files path base ∧ Layered base key o c ∧ c.problems = some []) ∧
    (∀ cause, resolve files path key o = some (.error (.io cause)) ↔
      ∃ p, path = some p ∧ files.readText p = .error cause) ∧
    (resolve files path key o = some (.error .parse) ↔
      ∃ p text, path = some p ∧ files.readText p = .ok text ∧ ofToml text = none) ∧
    (∀ ps, resolve files path key o = some (.error (.invalid ps)) ↔
      ∃ base c, Base files path base ∧ Layered base key o c ∧ c.problems = some ps ∧ ps ≠ []) ∧
    (resolve files path key o = none ↔
      ∃ base c, Base files path base ∧ Layered base key o c ∧ c.problems = none) ∧
    (∀ base c ps, Base files path base → Layered base key o c → c.problems = some ps →
      Reported base key o ps) ∧
    (∀ p base, path = some p → Base files path base → ∃ text document,
      files.readText p = .ok text ∧ Toml.parse text = some document ∧ base.In document) ∧
    (∀ p, ofFile files p key = resolve files (some p) key {}) ∧
    ∀ s : Settings, (s.withEnvironment key).override o = (s.override o).withEnvironment key ∧
      (s.withEnvironment key).withEnvironment key = s.withEnvironment key ∧
      (s.override o).override o = s.override o := by
  refine ⟨fun base => ⟨_, layered_override base key o, fun c h => layered_iff.mp h⟩,
    fun _ => resolve_eq_ok_iff, fun _ => resolve_eq_io_iff, resolve_eq_parse_iff,
    fun _ => resolve_eq_invalid_iff, resolve_eq_none_iff,
    fun base c ps _ hlayered hproblems => hlayered.reported hproblems, fun p base hpath hbase => ?_,
    fun p => ofFile_eq_resolve files p key,
    fun s => ⟨override_withEnvironment s key o, withEnvironment_withEnvironment s key,
      override_override s o⟩⟩
  subst hpath
  obtain ⟨text, htext, hbase⟩ := hbase
  obtain ⟨document, hdocument, hreading⟩ := Option.bind_eq_some_iff.mp hbase
  exact ⟨text, document, htext, hdocument, in_of_reading hreading⟩

/-- The text of a file whose URL is none, and whose interval will do. -/
def faultyText : String :=
  "rpc.url = \"nowhere\"\nload.interval_ms = 250\n"

/-- What the text says. -/
def faulty : Settings where
  rpc := { url := "nowhere" }
  load := { intervalMs := 250 }

/-- The text in a file. -/
def faultyFile : Files :=
  Files.empty.addFile "devnet.toml" (Bytes.ofText faultyText)

theorem base_faultyFile : Base faultyFile (some "devnet.toml") faulty := by
  have htext : faultyFile.readText "devnet.toml" = .ok faultyText := by decide +kernel
  have hbase : ofToml faultyText = some faulty := by decide +kernel
  exact ⟨faultyText, htext, hbase⟩

/-- A fault that is not covered is reported.  It is not when a URL covers it; then the interval is
at fault that covers the one in the file. -/
theorem layers_of_faulty_file :
    resolve faultyFile (some "devnet.toml") (some " ") {} =
        some (.error (.invalid [.invalidUrl "rpc.url" "nowhere"])) ∧
      resolve faultyFile (some "devnet.toml") (some " ")
          { rpcUrl := some "http://127.0.0.1:9545", intervalMs := some 0 } =
        some (.error (.invalid [.notPositive "load.interval_ms"])) := by
  constructor
  · refine ((layers_resolve ..).2.2.2.2.1 _).mpr
      ⟨faulty, _, base_faultyFile, layered_override .., ?_, List.cons_ne_nil _ _⟩
    decide +kernel
  · refine ((layers_resolve ..).2.2.2.2.1 _).mpr
      ⟨faulty, _, base_faultyFile, layered_override .., ?_, List.cons_ne_nil _ _⟩
    decide +kernel

end Settings

end LocalChain

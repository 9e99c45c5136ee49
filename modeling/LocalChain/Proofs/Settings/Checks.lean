import LocalChain.Proofs.Settings.Amounts

/-!
# The checks on settings

Settings are judged by a list of checks (`Check.all`), each with fields of its own, a condition under
which it is violated, and the problem that is reported then.  The problems of settings are those of the
checks that are violated, in the order of the list (`problems_of_checks`).  So what comes of a check is
a matter of its own fields.
-/

namespace LocalChain

/-- One check on settings.  Those on a token are on the token at a position. -/
inductive Check where
  | url
  | timeout
  | pollInterval
  | confirmationTimeout
  | account
  | recipient
  | value
  | gasLimit
  | interval
  | deployGasLimit
  | tokenCount
  | symbol (i : Nat)
  | supply (i : Nat)
  | liquidity
  | metricsAddress
  deriving DecidableEq

namespace Check

/-- The checks on the section on the node. -/
def rpc : List Check :=
  [url, timeout, pollInterval, confirmationTimeout]

/-- The checks on the section on transfers. -/
def load : List Check :=
  [recipient, value, gasLimit, interval]

/-- The checks on the token at a position. -/
def token (i : Nat) : List Check :=
  [symbol i, supply i]

/-- The checks on the section on contracts, for a number of tokens. -/
def deploy (n : Nat) : List Check :=
  [deployGasLimit, tokenCount] ++ (List.range n).flatMap token ++ [liquidity]

/-- All checks in order, for a number of tokens. -/
def all (n : Nat) : List Check :=
  rpc ++ [account] ++ load ++ deploy n ++ [metricsAddress]

theorem mem_all {k : Check} {n : Nat} (hsymbol : ∀ i, k = symbol i → i < n)
    (hsupply : ∀ i, k = supply i → i < n) : k ∈ all n := by
  simp only [all, rpc, load, deploy, token, List.mem_append, List.mem_flatMap, List.mem_range]
  cases k with
  | symbol i => simpa using hsymbol i rfl
  | supply i => simpa using hsupply i rfl
  | _ => simp

theorem nodup_all (n : Nat) : (all n).Nodup := by
  have htokens : ((List.range n).flatMap token).Nodup := by
    refine List.nodup_flatMap.mpr ⟨fun i _ => by simp [token], ?_⟩
    refine List.nodup_range.imp fun hne => ?_
    simpa [Function.onFun, token] using hne.symm
  have hlast : ∀ k i, i < n → k = symbol i ∨ k = supply i → k ≠ liquidity ∧ k ≠ metricsAddress := by
    rintro k i - (rfl | rfl) <;> exact ⟨nofun, nofun⟩
  simpa [all, rpc, load, deploy, List.nodup_append, htokens, token] using hlast

end Check

/-- The text of a field is no amount. -/
def IsNoAmount (field value : String) : Prop :=
  (readAmount field value).bind Except.toOption = none

instance (field value : String) : Decidable (IsNoAmount field value) :=
  inferInstanceAs (Decidable (_ = none))

namespace Settings

variable (c c' : Settings)

/-- The settings do not pass a check. -/
def Violated : Check → Prop
  | .url => isNoUrl c.rpc.url
  | .timeout => c.rpc.timeoutSecs = 0
  | .pollInterval => c.rpc.pollIntervalMs = 0
  | .confirmationTimeout => c.rpc.confirmationTimeoutSecs = 0
  | .account => c.account.key? = none ∧ Text.isBlankText c.account.mnemonic
  | .recipient => (readRecipient c.load.recipient).toOption = none
  | .value => IsNoAmount "load.value" c.load.value
  | .gasLimit => c.load.gasLimit = 0
  | .interval => c.load.intervalMs = 0
  | .deployGasLimit => c.deploy.gasLimit = 0
  | .tokenCount => c.deploy.tokens.length < 2
  | .symbol i => ∃ symbol ∈ c.deploy.tokens[i]?.map (·.symbol), Text.isBlankText symbol
  | .supply i => ∃ supply ∈ c.deploy.tokens[i]?.map (·.supply),
      IsNoAmount ("deploy.tokens[" ++ toString i ++ "].supply") supply
  | .liquidity => IsNoAmount "deploy.liquidity_amount" c.deploy.liquidityAmount
  | .metricsAddress => c.observability.metricsEnabled ∧
      SocketAddress.parse? c.observability.metricsAddress = none

instance : DecidablePred c.Violated
  | .url => inferInstanceAs (Decidable (_ = true))
  | .timeout | .pollInterval | .confirmationTimeout | .gasLimit | .interval | .deployGasLimit =>
    inferInstanceAs (Decidable (_ = _))
  | .account => inferInstanceAs (Decidable (_ = none ∧ _ = true))
  | .recipient => inferInstanceAs (Decidable (_ = none))
  | .value | .liquidity => inferInstanceAs (Decidable (IsNoAmount _ _))
  | .tokenCount => inferInstanceAs (Decidable (_ < 2))
  | .symbol _ => inferInstanceAs (Decidable (∃ symbol ∈ _, Text.isBlankText symbol))
  | .supply _ => inferInstanceAs (Decidable (∃ supply ∈ _, IsNoAmount _ supply))
  | .metricsAddress => inferInstanceAs (Decidable (_ = true ∧ _ = none))

/-- What is reported of a check that is violated. -/
def problem : Check → Problem
  | .url => .invalidUrl "rpc.url" c.rpc.url
  | .timeout => .notPositive "rpc.timeout_secs"
  | .pollInterval => .notPositive "rpc.poll_interval_ms"
  | .confirmationTimeout => .notPositive "rpc.confirmation_timeout_secs"
  | .account => .noSigner
  | .recipient =>
    if Text.trim c.load.recipient.toList = [] then .empty "load.to"
    else .invalidAddress "load.to" c.load.recipient
  | .value => .invalidAmount "load.value" c.load.value
  | .gasLimit => .notPositive "load.gas_limit"
  | .interval => .notPositive "load.interval_ms"
  | .deployGasLimit => .notPositive "deploy.gas_limit"
  | .tokenCount => .tooFewTokens c.deploy.tokens.length
  | .symbol _ => .empty "deploy.tokens.symbol"
  | .supply i => .invalidAmount ("deploy.tokens[" ++ toString i ++ "].supply")
      ((c.deploy.tokens[i]?.map (·.supply)).getD "")
  | .liquidity => .invalidAmount "deploy.liquidity_amount" c.deploy.liquidityAmount
  | .metricsAddress => .invalidUrl "observability.metrics_address" c.observability.metricsAddress

/-- What comes of a check. -/
def report (k : Check) : Option Problem :=
  if c.Violated k then some (c.problem k) else none

/-- What comes of all checks, each problem with its check. -/
def reports : List (Check × Problem) :=
  (Check.all c.deploy.tokens.length).filterMap fun k => (c.report k).map (k, ·)

/-! ## Fields of a check -/

/-- Two settings agree on the fields of a check. -/
def Agree : Check → Prop
  | .url => c.rpc.url = c'.rpc.url
  | .timeout => c.rpc.timeoutSecs = c'.rpc.timeoutSecs
  | .pollInterval => c.rpc.pollIntervalMs = c'.rpc.pollIntervalMs
  | .confirmationTimeout => c.rpc.confirmationTimeoutSecs = c'.rpc.confirmationTimeoutSecs
  | .account => c.account.privateKey = c'.account.privateKey ∧
      c.account.mnemonic = c'.account.mnemonic
  | .recipient => c.load.recipient = c'.load.recipient
  | .value => c.load.value = c'.load.value
  | .gasLimit => c.load.gasLimit = c'.load.gasLimit
  | .interval => c.load.intervalMs = c'.load.intervalMs
  | .deployGasLimit => c.deploy.gasLimit = c'.deploy.gasLimit
  | .tokenCount => c.deploy.tokens.length = c'.deploy.tokens.length
  | .symbol i => c.deploy.tokens[i]?.map (·.symbol) = c'.deploy.tokens[i]?.map (·.symbol)
  | .supply i => c.deploy.tokens[i]?.map (·.supply) = c'.deploy.tokens[i]?.map (·.supply)
  | .liquidity => c.deploy.liquidityAmount = c'.deploy.liquidityAmount
  | .metricsAddress => c.observability.metricsEnabled = c'.observability.metricsEnabled ∧
      c.observability.metricsAddress = c'.observability.metricsAddress

variable {c c'} {k : Check}

/-- **What comes of a check is a matter of its own fields.** -/
theorem Agree.violated_iff (h : c.Agree c' k) : c.Violated k ↔ c'.Violated k := by
  cases k with
  | account =>
    obtain ⟨hkey, hmnemonic⟩ := h
    rw [Violated, Violated, AccountSettings.key?, AccountSettings.key?, hkey, hmnemonic]
  | metricsAddress =>
    obtain ⟨henabled, haddress⟩ := h
    rw [Violated, Violated, henabled, haddress]
  | _ => rw [Violated, Violated, show _ = _ from h]

theorem Agree.problem_eq (h : c.Agree c' k) : c.problem k = c'.problem k := by
  cases k with
  | url | recipient | value | tokenCount | supply | liquidity =>
    rw [problem, problem, show _ = _ from h]
  | metricsAddress => rw [problem, problem, h.2]
  | _ => rfl

theorem Agree.report_eq (h : c.Agree c' k) : c.report k = c'.report k := by
  simp only [report, h.violated_iff, h.problem_eq]

/-! ## What the sections report -/

theorem toList_report : (c.report k).toList = if c.Violated k then [c.problem k] else [] := by
  rw [report]
  split <;> rfl

theorem when_eq_report {bad : Bool} (hbad : bad ↔ c.Violated k) :
    Problem.when bad (c.problem k) = (c.report k).toList := by
  simp only [Problem.when, toList_report, hbad]

theorem amountProblems_eq {field value : String} (h : ¬SplitsAmount value) :
    amountProblems field value =
      some (if IsNoAmount field value then [.invalidAmount field value] else []) := by
  rcases hread : readAmount field value with _ | p | w
  · exact (h (readAmount_eq_none_iff.mp hread)).elim
  · have hno : IsNoAmount field value := by
      rw [IsNoAmount, hread]
      rfl
    rw [amountProblems, hread, if_pos hno, eq_of_readAmount_eq_error hread]
    rfl
  · have hread' : ¬IsNoAmount field value := by
      rw [IsNoAmount, hread]
      exact Option.some_ne_none w
    rw [amountProblems, hread, if_neg hread']
    rfl

theorem recipientProblems_eq :
    recipientProblems c.load.recipient = (c.report .recipient).toList := by
  have hread (value : String) : recipientProblems value =
      if (readRecipient value).toOption = none then
        [if Text.trim value.toList = [] then .empty "load.to" else .invalidAddress "load.to" value]
      else [] := by
    rw [recipientProblems, readRecipient]
    cases htrim : Text.trim value.toList with
    | nil => simp [Except.toOption]
    | cons d cs =>
      cases Address.parse (d :: cs) <;> simp [Except.toOption]
  rw [hread, toList_report]
  rfl

theorem rpc_problems_eq : c.rpc.problems = Check.rpc.filterMap c.report := by
  have hurl : Problem.when (isNoUrl c.rpc.url) (c.problem .url) = (c.report .url).toList :=
    when_eq_report Iff.rfl
  have htimeout : Problem.when (c.rpc.timeoutSecs = 0) (c.problem .timeout) =
      (c.report .timeout).toList := when_eq_report decide_eq_true_iff
  have hpoll : Problem.when (c.rpc.pollIntervalMs = 0) (c.problem .pollInterval) =
      (c.report .pollInterval).toList := when_eq_report decide_eq_true_iff
  have hconfirmation : Problem.when (c.rpc.confirmationTimeoutSecs = 0)
      (c.problem .confirmationTimeout) = (c.report .confirmationTimeout).toList :=
    when_eq_report decide_eq_true_iff
  simp only [Check.rpc, List.filterMap_eq_flatMap_toList, List.flatMap_cons, List.flatMap_nil,
    List.append_nil, ← hurl, ← htimeout, ← hpoll, ← hconfirmation, ← List.append_assoc]
  rfl

theorem account_problems_eq : c.account.problems = (c.report .account).toList := by
  show Problem.when _ (c.problem .account) = _
  refine when_eq_report ?_
  rw [Bool.and_eq_true, Option.isNone_iff_eq_none]
  rfl

theorem load_problems_eq (h : ¬SplitsAmount c.load.value) :
    c.load.problems = some (Check.load.filterMap c.report) := by
  have hvalue : amountProblems "load.value" c.load.value = some (c.report .value).toList := by
    rw [amountProblems_eq h, toList_report]
    rfl
  have hgas : Problem.when (c.load.gasLimit = 0) (c.problem .gasLimit) =
      (c.report .gasLimit).toList := when_eq_report decide_eq_true_iff
  have hinterval : Problem.when (c.load.intervalMs = 0) (c.problem .interval) =
      (c.report .interval).toList := when_eq_report decide_eq_true_iff
  rw [LoadSettings.problems, hvalue, recipientProblems_eq]
  simp only [Check.load, List.filterMap_eq_flatMap_toList, List.flatMap_cons, List.flatMap_nil,
    List.append_nil, ← hgas, ← hinterval, ← List.append_assoc]
  rfl

theorem observability_problems_eq :
    c.observability.problems = (c.report .metricsAddress).toList := by
  show Problem.when _ (c.problem .metricsAddress) = _
  refine when_eq_report ?_
  rw [Bool.and_eq_true, Option.isNone_iff_eq_none]
  rfl

/-- The tokens are checked in their places, after others that stand before them. -/
theorem problemsFrom_eq {before ts : List TokenSettings} (htokens : c.deploy.tokens = before ++ ts)
    (h : ∀ t ∈ ts, ¬SplitsAmount t.supply) : TokenSettings.problemsFrom before.length ts =
      some (((List.range' before.length ts.length).flatMap Check.token).filterMap c.report) := by
  induction ts generalizing before with
  | nil => rfl
  | cons t ts ih =>
    obtain ⟨ht, hts⟩ := List.forall_mem_cons.mp h
    have hplace : c.deploy.tokens[before.length]? = some t := by simp [htokens]
    have hsupply : amountProblems ("deploy.tokens[" ++ toString before.length ++ "].supply")
        t.supply = some (c.report (.supply before.length)).toList := by
      rw [amountProblems_eq ht, toList_report]
      simp [Violated, problem, hplace]
    have hsymbol : Problem.when (Text.isBlankText t.symbol)
        (c.problem (.symbol before.length)) = (c.report (.symbol before.length)).toList := by
      refine when_eq_report ?_
      simp [Violated, hplace]
    have hothers : TokenSettings.problemsFrom (before.length + 1) ts =
        some (((List.range' (before.length + 1) ts.length).flatMap Check.token).filterMap
          c.report) := by
      have hrest : c.deploy.tokens = (before ++ [t]) ++ ts := by simp [htokens]
      simpa using ih hrest hts
    rw [TokenSettings.problemsFrom, TokenSettings.problems, hsupply, hothers, List.length_cons,
      List.range'_succ]
    simp only [Check.token, List.filterMap_eq_flatMap_toList, List.flatMap_cons, List.flatMap_nil,
      List.append_nil, List.flatMap_append, ← hsymbol]
    rfl

theorem deploy_problems_eq (htokens : ∀ t ∈ c.deploy.tokens, ¬SplitsAmount t.supply)
    (hliquidity : ¬SplitsAmount c.deploy.liquidityAmount) : c.deploy.problems =
      some ((Check.deploy c.deploy.tokens.length).filterMap c.report) := by
  have hgas : Problem.when (c.deploy.gasLimit = 0) (c.problem .deployGasLimit) =
      (c.report .deployGasLimit).toList := when_eq_report decide_eq_true_iff
  have hcount : Problem.when (c.deploy.tokens.length < 2) (c.problem .tokenCount) =
      (c.report .tokenCount).toList := when_eq_report decide_eq_true_iff
  have hamount : amountProblems "deploy.liquidity_amount" c.deploy.liquidityAmount =
      some (c.report .liquidity).toList := by
    rw [amountProblems_eq hliquidity, toList_report]
    rfl
  have hall : TokenSettings.problemsFrom 0 c.deploy.tokens =
      some (((List.range c.deploy.tokens.length).flatMap Check.token).filterMap c.report) := by
    rw [List.range_eq_range']
    exact problemsFrom_eq (List.nil_append _).symm htokens
  rw [DeploySettings.problems, hall, hamount]
  simp only [Check.deploy, List.filterMap_append, List.filterMap_eq_flatMap_toList _ [_],
    List.filterMap_eq_flatMap_toList _ [_, _], List.flatMap_cons, List.flatMap_nil,
    List.append_nil, ← hgas, ← hcount]
  rfl

/-! ## What all of them report -/

/-- Every check on which there is a report is a check on these settings. -/
theorem mem_all_of_violated (h : c.Violated k) : k ∈ Check.all c.deploy.tokens.length := by
  have hplace {α : Type} {f : TokenSettings → α} {p : α → Prop} {i : Nat}
      (h : ∃ a ∈ c.deploy.tokens[i]?.map f, p a) : i < c.deploy.tokens.length := by
    obtain ⟨a, ha, -⟩ := h
    obtain ⟨t, ht, -⟩ := Option.map_eq_some_iff.mp ha
    exact (List.getElem?_eq_some_iff.mp ht).1
  refine Check.mem_all ?_ ?_
  · rintro i rfl
    exact hplace h
  · rintro i rfl
    exact hplace h

theorem report_eq_some_iff {p : Problem} : c.report k = some p ↔ c.Violated k ∧ c.problem k = p := by
  rw [report]
  split <;> simp [*]

theorem mem_reports_iff {p : Problem} :
    (k, p) ∈ c.reports ↔ c.Violated k ∧ p = c.problem k := by
  simp only [reports, List.mem_filterMap, Option.map_eq_some_iff, report_eq_some_iff]
  constructor
  · rintro ⟨_, -, _, ⟨hviolated, rfl⟩, ⟨⟩⟩
    exact ⟨hviolated, rfl⟩
  · rintro ⟨hviolated, rfl⟩
    exact ⟨k, mem_all_of_violated hviolated, _, ⟨hviolated, rfl⟩, rfl⟩

theorem map_fst_reports :
    c.reports.map Prod.fst = (Check.all c.deploy.tokens.length).filter (c.Violated ·) := by
  rw [reports, List.map_filterMap, ← List.filterMap_eq_filter]
  refine List.filterMap_congr fun k _ => ?_
  simp only [report, Option.guard]
  split <;> simp [*]

/-- There is nothing on tokens that are not there. -/
theorem reports_eq {n : Nat} (hn : c.deploy.tokens.length ≤ n) :
    c.reports = (Check.all n).filterMap fun k => (c.report k).map (k, ·) := by
  obtain ⟨m, rfl⟩ := Nat.exists_eq_add_of_le hn
  have habsent : (((List.range m).map (c.deploy.tokens.length + ·)).flatMap Check.token).filterMap
      (fun k => (c.report k).map (k, ·)) = [] := by
    refine List.filterMap_eq_nil_iff.mpr fun k hk => ?_
    obtain ⟨_, hplace, hk⟩ := List.mem_flatMap.mp hk
    obtain ⟨i, -, rfl⟩ := List.mem_map.mp hplace
    have hnone : ¬c.Violated k := by
      simp only [Check.token, List.mem_cons, List.not_mem_nil, or_false] at hk
      rcases hk with rfl | rfl <;> simp [Violated]
    rw [report, if_neg hnone]
    rfl
  simp only [reports, Check.all, Check.deploy, List.range_add, List.flatMap_append,
    List.filterMap_append, habsent, List.append_nil]

theorem map_snd_reports {n : Nat} (hn : c.deploy.tokens.length ≤ n) :
    c.reports.map Prod.snd = (Check.all n).filterMap c.report := by
  rw [reports_eq hn, List.map_filterMap]
  refine List.filterMap_congr fun k _ => ?_
  cases c.report k <;> rfl

theorem problems_eq_reports (hreads : ∀ value, c.Uses value → ¬SplitsAmount value) :
    c.problems = some (c.reports.map Prod.snd) := by
  rw [map_snd_reports le_rfl, problems, load_problems_eq (hreads _ (.inl rfl)),
    deploy_problems_eq (fun t ht => hreads _ (.inr (.inl ⟨t, ht, rfl⟩)))
      (hreads _ (.inr (.inr rfl))), rpc_problems_eq, account_problems_eq,
    observability_problems_eq]
  simp only [Check.all, List.filterMap_append, List.filterMap_eq_flatMap_toList _ [_],
    List.flatMap_cons, List.flatMap_nil, List.append_nil]
  rfl

/-- The reports on checks whose fields stay as they are stay as they are. -/
theorem filter_reports_eq {kept : Check → Bool} (h : ∀ k, kept k → c.Agree c' k) :
    c.reports.filter (kept ·.1) = c'.reports.filter (kept ·.1) := by
  let n := max c.deploy.tokens.length c'.deploy.tokens.length
  have hfilter (d : Settings) : ((Check.all n).filterMap fun k => (d.report k).map (k, ·)).filter
      (kept ·.1) = (Check.all n).filterMap fun k =>
        if kept k then (d.report k).map (k, ·) else none := by
    rw [List.filter_filterMap]
    refine List.filterMap_congr fun k _ => ?_
    cases d.report k <;> simp [Option.filter]
  rw [reports_eq (n := n) (Nat.le_max_left ..), reports_eq (n := n) (Nat.le_max_right ..), hfilter,
    hfilter]
  refine List.filterMap_congr fun k _ => ?_
  split
  · rename_i hkept
    rw [(h k hkept).report_eq]
  · rfl

/-- A check that alone is affected has its report in one place, between those that stay. -/
theorem exists_place (h : ∀ k' ≠ k, c.Agree c' k') : ∃ before after,
    c.reports.map Prod.snd = before ++ (c.report k).toList ++ after ∧
    c'.reports.map Prod.snd = before ++ (c'.report k).toList ++ after := by
  obtain ⟨n, hn, hn', hk⟩ : ∃ n, c.deploy.tokens.length ≤ n ∧ c'.deploy.tokens.length ≤ n ∧
      k ∈ Check.all n := by
    cases k with
    | symbol i | supply i =>
      refine ⟨c.deploy.tokens.length + c'.deploy.tokens.length + i + 1, by omega, by omega, ?_⟩
      refine Check.mem_all ?_ ?_
      all_goals rintro _ ⟨⟩
      omega
    | _ =>
      exact ⟨_, Nat.le_add_right _ c'.deploy.tokens.length, Nat.le_add_left _ _,
        Check.mem_all nofun nofun⟩
  obtain ⟨before, after, hall⟩ := List.append_of_mem hk
  have hnodup := Check.nodup_all n
  rw [hall, List.nodup_middle, List.nodup_cons] at hnodup
  have hsame (ks : List Check) (hks : k ∉ ks) : ks.filterMap c'.report = ks.filterMap c.report :=
    List.filterMap_congr fun k' hk' => (h k' (ne_of_mem_of_not_mem hk' hks)).report_eq.symm
  have hbefore := hsame before fun hmem => hnodup.1 (List.mem_append_left _ hmem)
  have hafter := hsame after fun hmem => hnodup.1 (List.mem_append_right _ hmem)
  refine ⟨before.filterMap c.report, after.filterMap c.report, ?_, ?_⟩
  · rw [map_snd_reports hn, hall, List.append_cons, List.filterMap_append, List.filterMap_append,
      List.filterMap_eq_flatMap_toList _ [k], List.flatMap_singleton]
  · rw [map_snd_reports hn', hall, List.append_cons, List.filterMap_append, List.filterMap_append,
      List.filterMap_eq_flatMap_toList _ [k], List.flatMap_singleton, hbefore, hafter]

theorem problems_eq_nil_iff_checks (hreads : ∀ value, c.Uses value → ¬SplitsAmount value) :
    c.problems = some [] ↔ ∀ k, ¬c.Violated k := by
  rw [problems_eq_reports hreads, Option.some.injEq, List.map_eq_nil_iff,
    List.eq_nil_iff_forall_not_mem]
  constructor
  · exact fun h k hk => h (k, c.problem k) (mem_reports_iff.mpr ⟨hk, rfl⟩)
  · exact fun h kp hkp => h kp.1 (mem_reports_iff.mp hkp).1

/-- **Settings are judged by all of the checks, each for itself.**  If the amounts can be read at all,
the problems are those of the checks that are violated, one for each of them, in the order of the
checks; there is none exactly if no check is violated.

Whether and how a check is reported is a matter of its own fields.  Settings that differ in some fields
have the same reports on all other checks, in the same order; and when a single check is affected, its
report is put in or taken out in its place. -/
theorem problems_of_checks (c : Settings)
    (hreads : ∀ value, c.Uses value → ¬SplitsAmount value) :
    c.problems = some (c.reports.map Prod.snd) ∧
    (c.problems = some [] ↔ ∀ k, ¬c.Violated k) ∧
    c.reports.map Prod.fst = (Check.all c.deploy.tokens.length).filter (c.Violated ·) ∧
    (Check.all c.deploy.tokens.length).Nodup ∧
    (∀ k p, (k, p) ∈ c.reports ↔ c.Violated k ∧ p = c.problem k) ∧
    ∀ c' : Settings,
      (∀ k, c.Agree c' k → (c.Violated k ↔ c'.Violated k) ∧ c.problem k = c'.problem k) ∧
      (∀ kept : Check → Bool, (∀ k, kept k → c.Agree c' k) →
        c.reports.filter (kept ·.1) = c'.reports.filter (kept ·.1)) ∧
      ((∀ value, c'.Uses value → ¬SplitsAmount value) →
        ∀ k, (∀ k' ≠ k, c.Agree c' k') → ∃ before after,
          c.problems = some (before ++ (c.report k).toList ++ after) ∧
          c'.problems = some (before ++ (c'.report k).toList ++ after)) := by
  refine ⟨problems_eq_reports hreads, problems_eq_nil_iff_checks hreads, map_fst_reports,
    Check.nodup_all _, fun k p => mem_reports_iff, fun c' => ⟨?_, ?_, ?_⟩⟩
  · exact fun k h => ⟨h.violated_iff, h.problem_eq⟩
  · exact fun kept h => filter_reports_eq h
  · intro hreads' k h
    rw [problems_eq_reports hreads, problems_eq_reports hreads']
    obtain ⟨before, after, hc, hc'⟩ := exists_place h
    exact ⟨before, after, congrArg some hc, congrArg some hc'⟩

/-- Settings with something wrong in three of the sections. -/
def amiss : Settings where
  rpc := { url := "not a url", pollIntervalMs := 0 }
  load := { recipient := " ", value := "lots" }
  deploy := { tokens := [⟨"Mehmet", "MEM", "1"⟩, ⟨"New Ether", " ", "-1"⟩], liquidityAmount := "" }

theorem problems_of_amiss :
    amiss.reports.map Prod.fst =
      [.url, .pollInterval, .recipient, .value, .symbol 1, .supply 1, .liquidity] ∧
    amiss.problems = some [.invalidUrl "rpc.url" "not a url", .notPositive "rpc.poll_interval_ms",
      .empty "load.to", .invalidAmount "load.value" "lots", .empty "deploy.tokens.symbol",
      .invalidAmount "deploy.tokens[1].supply" "-1",
      .invalidAmount "deploy.liquidity_amount" ""] := by
  have hsome : amiss.problems ≠ none := by decide +kernel
  have hreads (value : String) (huses : amiss.Uses value) : ¬SplitsAmount value :=
    fun hsplits => hsome (problems_eq_none_iff.mpr ⟨value, huses, hsplits⟩)
  refine ⟨by decide +kernel, ?_⟩
  rw [(problems_of_checks amiss hreads).1]
  decide +kernel

end Settings
end LocalChain

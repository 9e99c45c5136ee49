import LocalChain.Proofs.Deployment.InHand
import LocalChain.Proofs.Deployment.Looks
import LocalChain.Proofs.Deployment.Sequence

/-!
# Adding liquidity

Liquidity is added in three stages.  Two tokens and an amount have to be there before the node is asked
anything (`Ready`); then four calls are confirmed one after the other (`Funded`); then the pair is looked
up and what it holds is read (`Found`).  The record in hand is changed after all of it, in its pair and
in nothing else (`addLiquidity_all_or_nothing`).
-/

namespace LocalChain

namespace Deployment

variable {σ : Type} (d : Deployment σ) (r : DeploymentRecord) {s s' : Session σ}

/-! ## The stages -/

/-- There are two tokens, and the amount of the settings is this one. -/
def Ready (a b : Address) (desired : Word) : Prop :=
  (∃ x y rest, r.tokens = x :: y :: rest ∧ x.address = a ∧ y.address = b) ∧
    readAmount "liquidity_amount" d.settings.liquidityAmount = some (.ok desired)

/-- There are no two tokens or no amount, and this is said. -/
inductive Unready : Stop DeployError → Prop
  | few (htokens : r.tokens.length < 2) : Unready (.failed (.amount
      ("need two tokens to add liquidity, have " ++ toString r.tokens.length)))
  | unread {p : Problem} (htokens : 2 ≤ r.tokens.length)
      (hamount : readAmount "liquidity_amount" d.settings.liquidityAmount = some (.error p)) :
      Unready (.failed (.amount p.message))
  | broken (htokens : 2 ≤ r.tokens.length)
      (hamount : readAmount "liquidity_amount" d.settings.liquidityAmount = none) : Unready .broken

/-- The router may spend an amount of each of the tokens. -/
inductive Approved (router : Address) (desired : Word) :
    List Address → Session σ → Session σ → Prop
  | nil {s : Session σ} : Approved router desired [] s s
  | cons {token : Address} {tokens : List Address} {s approved s' : Session σ}
      (htoken : d.deployer.Confirmed ("approve " ++ token.display) token (.approve router desired) s
        approved)
      (htokens : Approved router desired tokens approved s') :
      Approved router desired (token :: tokens) s s'

/-- The router may spend both tokens and wrapped ether, and has put them into the pair. -/
inductive Funded (a b : Address) (desired : Word) (s s' : Session σ) : Prop
  | mk {approved : Session σ} (happroved : d.Approved r.router desired [a, b, r.weth] s approved)
      (hadded : d.deployer.Confirmed "addLiquidity" r.router
        (.addLiquidity (d.terms a b desired approved.nowSecs)) approved s')

/-- The look for the pair. -/
def lookForPair (a b : Address) : Request :=
  Deployer.look d.deployer.account r.factory (.getPair a b)

/-- The look at what a pair holds. -/
def lookAtPair (pair : Address) : Request :=
  Deployer.look d.deployer.account pair .getReserves

/-- The factory names a pair, and the pair returns what it holds, in this transcript. -/
inductive Found (a b : Address) (n : σ) (state : PairState) : Transcript → Prop
  | mk {named held : Answer} {n₁ n₂ : σ} {reserves : Contract.Reserves}
      (hnamed : d.deployer.connection.client.node.answer n (d.lookForPair r a b) = (named, n₁))
      (hpair : named.Returns Contract.pair? state.pair) (hnonzero : state.pair ≠ .zero)
      (hheld : d.deployer.connection.client.node.answer n₁ (d.lookAtPair state.pair) = (held, n₂))
      (hreserves : held.Returns Contract.reserves? reserves)
      (hreserve0 : state.reserve0.toNat = reserves.reserve0.toNat)
      (hreserve1 : state.reserve1.toNat = reserves.reserve1.toNat) :
      Found a b n state [(d.lookForPair r a b, named), (d.lookAtPair state.pair, held)]

/-! ## What the stages come to -/

variable {a b : Address} {desired : Word} {state : PairState}

theorem approve_eq_ok_iff {router token : Address} :
    (d.approve router desired token).runFrom s = (.ok (), s') ↔
      d.deployer.Confirmed ("approve " ++ token.display) token (.approve router desired) s s' := by
  rw [approve, Talk.runFrom_bind_eq_ok_iff, ← Deployer.runFrom_call_eq_ok_iff]
  constructor
  · rintro ⟨receipt, _, hcall, ⟨⟩⟩
    exact ⟨receipt, hcall⟩
  · rintro ⟨receipt, hcall⟩
    exact ⟨receipt, s', hcall, rfl⟩

theorem forM_approve_eq_ok_iff {router : Address} {tokens : List Address} :
    (tokens.forM (d.approve router desired)).runFrom s = (.ok (), s') ↔
      d.Approved router desired tokens s s' := by
  induction tokens generalizing s with
  | nil =>
    constructor
    · rintro ⟨⟩
      exact .nil
    · rintro ⟨⟩
      rfl
  | cons token tokens ih =>
    have hcons : (token :: tokens).forM (d.approve router desired) = (do
        d.approve router desired token
        tokens.forM (d.approve router desired)) := rfl
    rw [hcons, Talk.runFrom_bind_eq_ok_iff]
    constructor
    · rintro ⟨_, approved, htoken, htokens⟩
      exact .cons (d.approve_eq_ok_iff.mp htoken) (ih.mp htokens)
    · rintro (_ | ⟨htoken, htokens⟩)
      exact ⟨(), _, d.approve_eq_ok_iff.mpr htoken, ih.mpr htokens⟩

/-- The calls that put an amount of both tokens into the pair. -/
def fund (a b : Address) (desired : Word) : Talk σ (Stop DeployError) Unit := do
  [a, b, r.weth].forM (d.approve r.router desired)
  let terms := d.terms a b desired (← get).nowSecs
  let _ ← d.deployer.call "addLiquidity" r.router (.addLiquidity terms)

theorem fund_eq_ok_iff :
    (d.fund r a b desired).runFrom s = (.ok (), s') ↔ d.Funded r a b desired s s' := by
  have hadd (approved : Session σ) : (do
      let terms := d.terms a b desired (← get).nowSecs
      let _ ← d.deployer.call "addLiquidity" r.router (.addLiquidity terms) :
        Talk σ (Stop DeployError) Unit).runFrom approved = (.ok (), s') ↔
      d.deployer.Confirmed "addLiquidity" r.router
        (.addLiquidity (d.terms a b desired approved.nowSecs)) approved s' := by
    rw [Talk.runFrom_get_bind, Talk.runFrom_bind_eq_ok_iff, ← Deployer.runFrom_call_eq_ok_iff]
    constructor
    · rintro ⟨receipt, _, hcall, hend⟩
      obtain rfl := congrArg Prod.snd hend
      exact ⟨receipt, hcall⟩
    · rintro ⟨receipt, hcall⟩
      exact ⟨receipt, s', hcall, rfl⟩
  rw [fund, Talk.runFrom_bind_eq_ok_iff]
  constructor
  · rintro ⟨_, approved, happroved, hadded⟩
    exact .mk (d.forM_approve_eq_ok_iff.mp happroved) ((hadd approved).mp hadded)
  · rintro ⟨happroved, hadded⟩
    exact ⟨(), _, d.forM_approve_eq_ok_iff.mpr happroved, (hadd _).mpr hadded⟩

theorem blind_fund (a b : Address) (desired : Word) : (d.fund r a b desired).Blind := by
  have happrove (token : Address) : (d.approve r.router desired token).Blind :=
    (d.deployer.blind_call _ _ _).bind fun _ => .pure
  refine Talk.Blind.bind ?_ fun _ => ?_
  · refine (happrove _).bind fun _ => ?_
    refine (happrove _).bind fun _ => ?_
    exact (happrove _).bind fun _ => .pure
  · refine Talk.Blind.bind Talk.consults_get.blind fun now => ?_
    exact (d.deployer.blind_call _ _ _).bind fun _ => .pure

theorem addLiquidity_of_tokens {x y : DeployedToken} {rest : List DeployedToken}
    (htokens : r.tokens = x :: y :: rest) :
    d.addLiquidity r = (do
      let desired ← amount "liquidity_amount" d.settings.liquidityAmount
      d.fund r x.address y.address desired
      let state ← (d.checkPair r.factory x.address y.address).stoppable
      return ({ r with pair := some state.pair }, state)) := by
  rw [addLiquidity, htokens]
  simp only [fund, bind_assoc, pure_bind]

theorem addLiquidity_of_ready (h : d.Ready r a b desired) :
    d.addLiquidity r = (do
      d.fund r a b desired
      let state ← (d.checkPair r.factory a b).stoppable
      return ({ r with pair := some state.pair }, state)) := by
  obtain ⟨⟨x, y, rest, htokens, rfl, rfl⟩, hamount⟩ := h
  have hdesired : (amount "liquidity_amount" d.settings.liquidityAmount :
      Talk σ (Stop DeployError) Word) = pure desired := by
    rw [amount, hamount]
  rw [d.addLiquidity_of_tokens r htokens, hdesired, pure_bind]

/-! ## The pair -/

theorem pairState_eq_iff {pair : Address} {x y : BitVec 112} :
    PairState.mk pair (x.setWidth 256) (y.setWidth 256) = state ↔
      pair = state.pair ∧ state.reserve0.toNat = x.toNat ∧ state.reserve1.toNat = y.toNat := by
  have hwide (x : BitVec 112) (w : Word) : x.setWidth 256 = w ↔ w.toNat = x.toNat := by
    rw [← BitVec.toNat_inj, BitVec.toNat_setWidth_of_le (by decide), eq_comm]
  cases state
  rw [PairState.mk.injEq, hwide, hwide]

/-- Reads what a pair holds. -/
def holdings (pair : Address) : Talk σ DeployError PairState := do
  let reserves ← d.deployer.read pair .getReserves Contract.reserves?
  let state : PairState := ⟨pair, reserves.reserve0.setWidth 256, reserves.reserve1.setWidth 256⟩
  Talk.report (.pairReserves pair state.reserve0 state.reserve1)
  return state

/-- The pair is what it returns of itself, in one look. -/
theorem runFrom_holdings {pair : Address} {held : Answer} {n : σ}
    (hheld : d.deployer.connection.client.node.answer s.node (d.lookAtPair pair) = (held, n)) :
    ∃ x s', (d.holdings pair).runFrom s = (x, s') ∧
      s'.requests = s.requests ++ [(d.lookAtPair pair, held)] ∧
      ∀ state, x = .ok state ↔ ∃ reserves, held.Returns Contract.reserves? reserves ∧
        pair = state.pair ∧ state.reserve0.toNat = reserves.reserve0.toNat ∧
        state.reserve1.toNat = reserves.reserve1.toNat := by
  obtain ⟨s₁, hread, -, hrequests⟩ :=
    d.deployer.runFrom_read Contract.reserves? hheld
  cases hresult : d.deployer.readResult .getReserves Contract.reserves? held with
  | error e =>
    rw [hresult] at hread
    refine ⟨.error e, s₁, Talk.runFrom_bind_error hread, hrequests, fun state => ?_⟩
    refine iff_of_false nofun ?_
    rintro ⟨reserves, hreturns, -⟩
    rw [d.deployer.readResult_eq_ok_iff.mpr hreturns] at hresult
    cases hresult
  | ok reserves =>
    have hreturns := d.deployer.readResult_eq_ok_iff.mp hresult
    rw [hresult] at hread
    refine ⟨_, _, (Talk.runFrom_bind_ok hread).trans rfl, hrequests, fun state => ?_⟩
    rw [Except.ok.injEq, pairState_eq_iff]
    constructor
    · exact fun hstate => ⟨reserves, hreturns, hstate⟩
    · rintro ⟨reserves', hreturns', hstate⟩
      have hsame := (d.deployer.readResult_eq_ok_iff.mpr hreturns').symm.trans hresult
      rwa [Except.ok.inj hsame] at hstate

/-- A pair that the factory names is looked at, unless it is zero, which is none. -/
theorem runFrom_checkPair {named : Answer} {n : σ}
    (hnamed : d.deployer.connection.client.node.answer s.node (d.lookForPair r a b) = (named, n)) :
    ∃ s₁, s₁.node = n ∧ s₁.requests = s.requests ++ [(d.lookForPair r a b, named)] ∧
      (∀ pair, named.Returns Contract.pair? pair →
        (d.checkPair r.factory a b).runFrom s =
          if pair = .zero then
            (.error (.missingAddress ("pair " ++ a.display ++ "/" ++ b.display)), s₁)
          else (d.holdings pair).runFrom s₁) ∧
      ((∀ pair, ¬named.Returns Contract.pair? pair) →
        ∃ e, (d.checkPair r.factory a b).runFrom s = (.error e, s₁)) := by
  obtain ⟨s₁, hread, hnode, hrequests⟩ := d.deployer.runFrom_read Contract.pair? hnamed
  refine ⟨s₁, hnode, hrequests, fun pair hpair => ?_, fun hnone => ?_⟩
  · rw [d.deployer.readResult_eq_ok_iff.mpr hpair] at hread
    rw [checkPair, Talk.runFrom_bind_ok hread]
    split
    · rfl
    · rfl
  · cases hresult : d.deployer.readResult (.getPair a b) Contract.pair? named with
    | error e =>
      rw [hresult] at hread
      exact ⟨e, Talk.runFrom_bind_error hread⟩
    | ok pair => exact (hnone pair (d.deployer.readResult_eq_ok_iff.mp hresult)).elim

theorem found_of_checkPair
    (hrun : (d.checkPair r.factory a b).runFrom s = (.ok state, s')) :
    ∃ h, s'.requests = s.requests ++ h ∧ d.Found r a b s.node state h := by
  obtain ⟨named, n, hanswer⟩ : ∃ named n, d.deployer.connection.client.node.answer s.node
      (d.lookForPair r a b) = (named, n) := ⟨_, _, rfl⟩
  obtain ⟨s₁, rfl, hrequests, hnamed, hunnamed⟩ := d.runFrom_checkPair r hanswer
  by_cases hpair : ∃ pair, named.Returns Contract.pair? pair
  · obtain ⟨pair, hpair⟩ := hpair
    rw [hnamed pair hpair] at hrun
    split at hrun
    · cases hrun
    · rename_i hnonzero
      obtain ⟨held, n₂, hanswer₂⟩ : ∃ held n₂, d.deployer.connection.client.node.answer s₁.node
          (d.lookAtPair pair) = (held, n₂) := ⟨_, _, rfl⟩
      obtain ⟨x, s₂, hheld, hmore, hx⟩ := d.runFrom_holdings hanswer₂
      rw [hheld] at hrun
      obtain ⟨rfl, rfl⟩ := Prod.mk.inj hrun
      obtain ⟨reserves, hreserves, rfl, hreserve0, hreserve1⟩ := (hx state).mp rfl
      refine ⟨_, ?_, .mk hanswer hpair hnonzero hanswer₂ hreserves hreserve0 hreserve1⟩
      rw [hmore, hrequests, List.append_assoc]
      rfl
  · obtain ⟨e, hfail⟩ := hunnamed fun pair hreturns => hpair ⟨pair, hreturns⟩
    rw [hfail] at hrun
    cases hrun

theorem exists_checkPair_of_found {h : Transcript} (hfound : d.Found r a b s.node state h) :
    ∃ s', (d.checkPair r.factory a b).runFrom s = (.ok state, s') := by
  obtain ⟨hnamed, hpair, hnonzero, hheld, hreserves, hreserve0, hreserve1⟩ := hfound
  obtain ⟨s₁, hnode, -, hrun, -⟩ := d.runFrom_checkPair r hnamed
  rw [← hnode] at hheld
  obtain ⟨x, s₂, hheld, -, hx⟩ := d.runFrom_holdings hheld
  obtain rfl := (hx state).mpr ⟨_, hreserves, rfl, hreserve0, hreserve1⟩
  exact ⟨s₂, by rw [hrun _ hpair, if_neg hnonzero, hheld]⟩

/-! ## All or nothing -/

/-- Adds liquidity for the first two tokens of the record in hand, and puts their pair into it. -/
def addLiquidityInHand : InHand σ (Stop DeployError) PairState := do
  let r ← InHand.record
  match r.tokens with
  | a :: b :: _ =>
    let desired ← .talk (amount "liquidity_amount" d.settings.liquidityAmount)
    .talk ([a.address, b.address, r.weth].forM (d.approve r.router desired))
    let now ← .talk get
    let terms := d.terms a.address b.address desired now.nowSecs
    let _ ← .talk (d.deployer.call "addLiquidity" r.router (.addLiquidity terms))
    let state ← .talk (d.checkPair r.factory a.address b.address).stoppable
    .setPair state.pair
    return state
  | few =>
    .talk (throw (.failed (.amount
      ("need two tokens to add liquidity, have " ++ toString few.length))))

/-- **The record in hand is what is given in its place.** -/
theorem does_addLiquidity : d.addLiquidityInHand.Does r (d.addLiquidity r) := by
  refine InHand.Does.record_bind ?_
  rw [addLiquidity]
  obtain ⟨chainId, deployer, weth, factory, router, tokens, pair⟩ := r
  rcases tokens with _ | ⟨a, _ | ⟨b, rest⟩⟩
  · exact fun _ => rfl
  · exact fun _ => rfl
  · refine .talk_bind fun desired => ?_
    refine .talk_bind fun _ => ?_
    refine .talk_bind fun now => ?_
    refine .talk_bind fun receipt => ?_
    refine .talk_bind fun state => ?_
    exact fun _ => rfl

theorem ready_or_unready : (∃ a b desired, d.Ready r a b desired) ∨ ∃ e, d.Unready r e := by
  match htokens : r.tokens with
  | x :: y :: rest =>
    have hlength : 2 ≤ r.tokens.length := by simp [htokens]
    match hamount : readAmount "liquidity_amount" d.settings.liquidityAmount with
    | some (.ok desired) => exact .inl ⟨_, _, desired, ⟨x, y, rest, htokens, rfl, rfl⟩, hamount⟩
    | some (.error p) => exact .inr ⟨_, .unread hlength hamount⟩
    | none => exact .inr ⟨_, .broken hlength hamount⟩
  | [] | [_] => exact .inr ⟨_, .few (by simp [htokens])⟩

theorem runFrom_of_unready {e : Stop DeployError} (h : d.Unready r e) :
    (d.addLiquidity r).runFrom s = (.error e, s) := by
  -- what the amount fails with, all of it fails with
  have hfails {e : Stop DeployError} (htokens : 2 ≤ r.tokens.length)
      (hthrow : (amount "liquidity_amount" d.settings.liquidityAmount :
        Talk σ (Stop DeployError) Word) = throw e) :
      (d.addLiquidity r).runFrom s = (.error e, s) := by
    match hlist : r.tokens with
    | x :: y :: rest =>
      rw [d.addLiquidity_of_tokens r hlist, hthrow]
      exact Talk.runFrom_bind_error rfl
    | [] | [_] => simp [hlist] at htokens
  cases h with
  | few htokens =>
    obtain ⟨chainId, deployer, weth, factory, router, tokens, pair⟩ := r
    match tokens with
    | x :: y :: rest =>
      simp only [List.length_cons] at htokens
      omega
    | [] | [_] => rfl
  | unread htokens hamount => exact hfails htokens (by rw [amount, hamount])
  | broken htokens hamount => exact hfails htokens (by rw [amount, hamount])

theorem runFrom_of_funded {funded : Session σ} (hready : d.Ready r a b desired)
    (hfunded : d.Funded r a b desired s funded) :
    (d.addLiquidity r).runFrom s = (do
      let state ← (d.checkPair r.factory a b).stoppable
      return ({ r with pair := some state.pair }, state) : Talk σ (Stop DeployError) _).runFrom
        funded := by
  rw [d.addLiquidity_of_ready r hready]
  exact Talk.runFrom_bind_ok ((d.fund_eq_ok_iff r).mpr hfunded)

theorem found_of_addLiquidity {r' : DeploymentRecord}
    (hrun : (d.addLiquidity r).runFrom s = (.ok (r', state), s')) :
    r' = { r with pair := some state.pair } ∧ ∃ a b desired funded h, d.Ready r a b desired ∧
      d.Funded r a b desired s funded ∧ d.Found r a b funded.node state h ∧
      s'.requests = funded.requests ++ h := by
  obtain ⟨a, b, desired, hready⟩ | ⟨e, hunready⟩ := d.ready_or_unready r
  · rw [d.addLiquidity_of_ready r hready] at hrun
    obtain ⟨_, funded, hfund, hrest⟩ := Talk.runFrom_bind_eq_ok_iff.mp hrun
    obtain ⟨found, s₁, hpair, hend⟩ := Talk.runFrom_bind_eq_ok_iff.mp hrest
    obtain ⟨hgiven, rfl⟩ := Prod.mk.inj hend
    obtain ⟨rfl, rfl⟩ := Prod.mk.inj (Except.ok.inj hgiven)
    obtain ⟨h, hrequests, hfound⟩ := d.found_of_checkPair r (Talk.runFrom_stoppable_eq_ok.mp hpair)
    exact ⟨rfl, a, b, desired, funded, h, hready, (d.fund_eq_ok_iff r).mp hfund, hfound, hrequests⟩
  · rw [d.runFrom_of_unready r hunready] at hrun
    cases hrun

theorem exists_addLiquidity_of_found {funded : Session σ} {h : Transcript}
    (hready : d.Ready r a b desired) (hfunded : d.Funded r a b desired s funded)
    (hfound : d.Found r a b funded.node state h) : ∃ s', (d.addLiquidity r).runFrom s =
      (.ok ({ r with pair := some state.pair }, state), s') := by
  obtain ⟨s', hpair⟩ := d.exists_checkPair_of_found r hfound
  refine ⟨s', ?_⟩
  rw [d.runFrom_of_funded r hready hfunded]
  exact Talk.runFrom_bind_ok (Talk.runFrom_stoppable_eq_ok.mpr hpair)

theorem runFrom_of_zero {funded : Session σ} {named : Answer} {n : σ} (hready : d.Ready r a b desired)
    (hfunded : d.Funded r a b desired s funded)
    (hnamed : d.deployer.connection.client.node.answer funded.node (d.lookForPair r a b) =
      (named, n)) (hzero : named.Returns Contract.pair? .zero) :
    ∃ s', (d.addLiquidity r).runFrom s =
        (.error (.failed (.missingAddress ("pair " ++ a.display ++ "/" ++ b.display))), s') ∧
      s'.requests = funded.requests ++ [(d.lookForPair r a b, named)] := by
  obtain ⟨s', -, hrequests, hpair, -⟩ := d.runFrom_checkPair r hnamed
  refine ⟨s', ?_, hrequests⟩
  have hfails := hpair .zero hzero
  rw [if_pos rfl] at hfails
  rw [d.runFrom_of_funded r hready hfunded]
  refine Talk.runFrom_bind_error ?_
  rw [Talk.stoppable, Talk.runFrom_mapError, hfails]
  rfl

/-- **No pair is looked at before both tokens are in it**, whatever becomes of it. -/
theorem looks_addLiquidity (s : Session σ) :
    ∃ h, ((d.addLiquidity r).runFrom s).2.requests = s.requests ++ h ∧
      ∀ h₁ e h₂, h = h₁ ++ e :: h₂ → e.1.isLook → ∃ a b desired funded before,
        d.Ready r a b desired ∧ d.Funded r a b desired s funded ∧
        funded.requests = s.requests ++ before ∧ before <+: h₁ := by
  obtain ⟨a, b, desired, hready⟩ | ⟨e, hunready⟩ := d.ready_or_unready r
  · obtain ⟨g, hg, hblind⟩ := d.blind_fund r a b desired s
    rcases hfund : (d.fund r a b desired).runFrom s with ⟨e | _, funded⟩
    · rw [hfund] at hg
      rw [d.addLiquidity_of_ready r hready, Talk.runFrom_bind_error hfund]
      refine ⟨g.asked, hg.requests_eq, ?_⟩
      rintro h₁ e h₂ hsplit hlook
      rw [hblind e (by simp [hsplit])] at hlook
      cases hlook
    · rw [hfund] at hg
      have hfunded := (d.fund_eq_ok_iff r).mp hfund
      have hrest : (do
          let state ← (d.checkPair r.factory a b).stoppable
          return ({ r with pair := some state.pair }, state) :
            Talk σ (Stop DeployError) (DeploymentRecord × PairState)).Quiet :=
        (d.quiet_checkPair r.factory a b).mapError.bind fun _ => .pure
      obtain ⟨g', hg', -⟩ := hrest funded
      refine ⟨g.asked ++ g'.asked, ?_, ?_⟩
      · rw [d.runFrom_of_funded r hready hfunded, (hg.trans hg').requests_eq]
        rfl
      rintro h₁ e h₂ hsplit hlook
      exact ⟨a, b, desired, funded, g.asked, hready, hfunded, hg.requests_eq,
        Transcript.isPrefix_of_isLook hblind hsplit hlook⟩
  · rw [d.runFrom_of_unready r hunready]
    refine ⟨[], (List.append_nil _).symm, ?_⟩
    rintro h₁ e h₂ hsplit
    simp at hsplit

/-- **Liquidity is added altogether or not at all, as far as the record goes.**  The record in hand
becomes what is given for it, and stays as it is, its pair included, when adding fails.

Nothing is asked without two tokens and an amount.  It succeeds exactly if then the router may spend
both tokens and wrapped ether and has added them, all of which is confirmed, and after that the factory
of the record names a pair that is not zero and returns what it holds; these two looks are all that is
asked then, and the pair is all that changes in the record.  A pair that is zero is an error at once.
However adding ends, no contract is looked at before all four calls are confirmed. -/
theorem addLiquidity_all_or_nothing (d : Deployment σ) (r : DeploymentRecord) (s : Session σ) :
    d.addLiquidityInHand.Does r (d.addLiquidity r) ∧
    (∀ e r' s', d.addLiquidityInHand.runOn r s = (.error e, r', s') → r' = r) ∧
    (∀ state r' s', d.addLiquidityInHand.runOn r s = (.ok state, r', s') →
      r' = { r with pair := some state.pair } ∧ ∃ a b desired funded h, d.Ready r a b desired ∧
        d.Funded r a b desired s funded ∧ d.Found r a b funded.node state h ∧
        s'.requests = funded.requests ++ h) ∧
    (∀ a b desired funded state h, d.Ready r a b desired → d.Funded r a b desired s funded →
      d.Found r a b funded.node state h → ∃ s', d.addLiquidityInHand.runOn r s =
        (.ok state, { r with pair := some state.pair }, s')) ∧
    (∀ e, d.Unready r e → d.addLiquidityInHand.runOn r s = (.error e, r, s)) ∧
    (∀ a b desired funded named n, d.Ready r a b desired → d.Funded r a b desired s funded →
      d.deployer.connection.client.node.answer funded.node (d.lookForPair r a b) = (named, n) →
      named.Returns Contract.pair? .zero → ∃ s', d.addLiquidityInHand.runOn r s =
          (.error (.failed (.missingAddress ("pair " ++ a.display ++ "/" ++ b.display))), r, s') ∧
        s'.requests = funded.requests ++ [(d.lookForPair r a b, named)]) ∧
    ∃ h, (d.addLiquidityInHand.runOn r s).2.2.requests = s.requests ++ h ∧
      ∀ h₁ e h₂, h = h₁ ++ e :: h₂ → e.1.isLook → ∃ a b desired funded before,
        d.Ready r a b desired ∧ d.Funded r a b desired s funded ∧
        funded.requests = s.requests ++ before ∧ before <+: h₁ := by
  have hdoes := d.does_addLiquidity r
  refine ⟨hdoes, fun e r' s' hrun => (hdoes.eq_error_iff.mp hrun).2, ?_, ?_, ?_, ?_, ?_⟩
  · intro state r' s' hrun
    exact d.found_of_addLiquidity r (hdoes.eq_ok_iff.mp hrun)
  · intro a b desired funded state h hready hfunded hfound
    obtain ⟨s', hrun⟩ := d.exists_addLiquidity_of_found r hready hfunded hfound
    exact ⟨s', hdoes.eq_ok_iff.mpr hrun⟩
  · intro e hunready
    exact hdoes.eq_error_iff.mpr ⟨d.runFrom_of_unready r hunready, rfl⟩
  · intro a b desired funded named n hready hfunded hnamed hzero
    obtain ⟨s', hrun, hrequests⟩ := d.runFrom_of_zero r hready hfunded hnamed hzero
    exact ⟨s', hdoes.eq_error_iff.mpr ⟨hrun, rfl⟩, hrequests⟩
  · rw [hdoes.session_eq]
    exact d.looks_addLiquidity r s

end Deployment
end LocalChain

import LocalChain.Proofs.Deployment.Sequence
import Mathlib.Data.List.Forall2

/-!
# The transactions of a plan

When it is given what became of its transactions, a plan is a list of them with a result, its course.
What is broadcast while a plan is carried is such a course (`Plan.Carried.signs_course`).  A course
may be cut short: `Plan.Lists` says which transactions it begins with, and the transactions of a
deployment are the list that one expects (`Plan.lists_deployment`).

So a deployment broadcasts a first part of this list, and all of it when it ends well
(`Deploy.carried_run`).
-/

namespace LocalChain
namespace Plan

variable {α β : Type}

/-- The transactions that a plan comes to when this becomes of them, and its result if it has one.
Nothing follows a transaction that is not confirmed. -/
def course : Plan α → List Sending → List PlannedTransaction × Option α
  | done a, _ => ([], some a)
  | stop, _ => ([], none)
  | send _ _, [] => ([], none)
  | send t next, sent :: rest =>
    match sent.receipt with
    | none => ([t sent.atSecs], none)
    | some receipt =>
      let (ts, a) := course (next receipt) rest
      (t sent.atSecs :: ts, a)

section Course

variable {p : Plan α} {k : α → Plan β} {sent : List Sending} {ts ts' : List PlannedTransaction}
  {a : α} {b : Option β}

/-- **The course of one plan after the other.** -/
theorem course_bind (hp : p.course sent = (ts, some a))
    (hk : (k a).course (sent.drop ts.length) = (ts', b)) :
    (p >>= k).course sent = (ts ++ ts', b) := by
  induction p generalizing sent ts with
  | done a' =>
    cases hp
    exact hk
  | stop => cases hp
  | send t next ih =>
    show (send t fun receipt => next receipt >>= k).course sent = _
    match sent with
    | [] => cases hp
    | ⟨secs, none⟩ :: rest => cases hp
    | ⟨secs, some receipt⟩ :: rest =>
      rcases hnext : (next receipt).course rest with ⟨later, a'⟩
      simp only [course, hnext] at hp
      obtain ⟨rfl, rfl⟩ := Prod.mk.inj hp
      have hrest := ih receipt hnext hk
      simp only [course, hrest, List.cons_append]

/-- A course without a result has nothing behind it. -/
theorem course_bind_none (hp : p.course sent = (ts, none)) :
    (p >>= k).course sent = (ts, none) := by
  induction p generalizing sent ts with
  | done a' => cases hp
  | stop =>
    cases hp
    rfl
  | send t next ih =>
    show (send t fun receipt => next receipt >>= k).course sent = _
    match sent with
    | [] =>
      cases hp
      rfl
    | ⟨secs, none⟩ :: rest =>
      cases hp
      rfl
    | ⟨secs, some receipt⟩ :: rest =>
      rcases hnext : (next receipt).course rest with ⟨later, a'⟩
      simp only [course, hnext] at hp
      obtain ⟨rfl, rfl⟩ := Prod.mk.inj hp
      have hrest := ih receipt hnext
      simp only [course, hrest]

end Course

theorem course_nil (p : Plan α) : (p.course []).1 = [] := by
  cases p <;> rfl

/-- **What is broadcast while a plan is carried** is, transaction by transaction, its course, which
has a result when the plan is carried to one. -/
theorem Carried.signs_course {s : Sender} {now : Clock} {p : Plan α} {h : Transcript}
    {sent : List Sending} {result : Option (α × Clock)} (hp : p.Carried s now h sent result) :
    List.Forall₂ s.Signs (p.course sent).1 h.broadcasts ∧
      ∀ y ∈ result, (p.course sent).2 = some y.1 := by
  induction hp with
  | finished quiet =>
    rw [quiet]
    refine ⟨.nil, ?_⟩
    rintro _ ⟨⟩
    rfl
  | stopped quiet =>
    rw [quiet, course_nil]
    exact ⟨.nil, fun y hy => nomatch hy⟩
  | @unconfirmed now t next before after raw answer quiet signed quietAfter =>
    have hbroadcasts : (before ++ (.sendRaw raw, answer) :: after :
        Transcript).broadcasts = [raw] := by
      simp [quiet, quietAfter, Request.raw?]
    rw [hbroadcasts]
    exact ⟨.cons signed .nil, fun y hy => nomatch hy⟩
  | @confirmed now t next before looks rest raw answer hash receipt sent result quiet signed taken
      seen carried ih =>
    obtain ⟨hsigned, hresult⟩ := ih
    have hbroadcasts : (before ++ (.sendRaw raw, answer) :: (looks ++ rest) :
        Transcript).broadcasts = raw :: rest.broadcasts := by
      simp [quiet, seen.quiet, Request.raw?]
    rw [hbroadcasts]
    exact ⟨.cons signed hsigned, hresult⟩

/-! ## Courses that are cut short -/

section Lists

variable (sent : List Sending)

/-- The address that the receipt of the transaction at a place names; nought if it names none. -/
def created (place : Nat) : Address :=
  ((sent[place]?.bind (·.receipt)).bind (·.contract)).getD .zero

/-- The second at which the transaction at a place was sent; nought if it was not. -/
def secondOf (place : Nat) : Nat :=
  (sent[place]?.map (·.atSecs)).getD 0

/-- From a place on, a plan comes to these transactions and this result, or it stops on the way. -/
def Lists (place : Nat) (p : Plan α) (ts : List PlannedTransaction) (a : α) : Prop :=
  p.course (sent.drop place) = (ts, some a) ∨
    ∃ first, first <+: ts ∧ p.course (sent.drop place) = (first, none)

variable {sent} {place : Nat} {p : Plan α} {k : α → Plan β} {ts ts' : List PlannedTransaction}
  {a : α} {b : β}

theorem Lists.bind (hp : Lists sent place p ts a)
    (hk : Lists sent (place + ts.length) (k a) ts' b) :
    Lists sent place (p >>= k) (ts ++ ts') b := by
  rcases hp with hp | ⟨first, hfirst, hp⟩
  · rw [Lists, ← List.drop_drop] at hk
    rcases hk with hk | ⟨first, hfirst, hk⟩
    · exact .inl (course_bind hp hk)
    · exact .inr ⟨ts ++ first, (List.prefix_append_right_inj ts).mpr hfirst, course_bind hp hk⟩
  · exact .inr ⟨first, hfirst.trans (List.prefix_append ts ts'), course_bind_none hp⟩

/-- A plan after one that sends nothing. -/
theorem Lists.bind_nil (hp : Lists sent place p [] a) (hk : Lists sent place (k a) ts b) :
    Lists sent place (p >>= k) ts b :=
  hp.bind hk

/-- A plan after one that sends one transaction. -/
theorem Lists.bind_one {t : PlannedTransaction} (hp : Lists sent place p [t] a)
    (hk : Lists sent (place + 1) (k a) ts b) : Lists sent place (p >>= k) (t :: ts) b :=
  hp.bind hk

theorem Lists.pure : Lists sent place (pure a) [] a :=
  .inl rfl

theorem Lists.map (f : α → β) (hp : Lists sent place p ts a) :
    Lists sent place (p >>= fun a => Pure.pure (f a)) ts (f a) := by
  have hbind := hp.bind (k := fun a => Pure.pure (f a)) (Lists.pure (a := f a))
  rwa [List.append_nil] at hbind

theorem Lists.stop : Lists sent place stop ts a :=
  .inr ⟨[], List.nil_prefix, rfl⟩

/-- However it ends, a course begins with what is listed. -/
theorem Lists.isPrefix (hp : Lists sent place p ts a) : (p.course (sent.drop place)).1 <+: ts := by
  rcases hp with hp | ⟨first, hfirst, hp⟩
  · simp only [hp, List.prefix_rfl]
  · rwa [hp]

/-- A course with a result is all that is listed. -/
theorem Lists.eq_of_result {a' : α} (hp : Lists sent place p ts a)
    (hresult : (p.course (sent.drop place)).2 = some a') : (p.course (sent.drop place)).1 = ts := by
  rcases hp with hp | ⟨first, hfirst, hp⟩
  · rw [hp]
  · rw [hp] at hresult
    cases hresult

/-- One transaction, and what its receipt leads to. -/
theorem lists_send {t : Nat → PlannedTransaction} {next : Receipt → Plan β}
    (hnext : ∀ receipt, sent[place]?.bind (·.receipt) = some receipt →
      Lists sent (place + 1) (next receipt) ts b) :
    Lists sent place (send t next) (t (secondOf sent place) :: ts) b := by
  cases hat : sent[place]? with
  | none =>
    have hdrop : sent.drop place = [] :=
      List.drop_eq_nil_of_le (List.getElem?_eq_none_iff.mp hat)
    exact .inr ⟨[], List.nil_prefix, by rw [hdrop]; rfl⟩
  | some sending =>
    obtain ⟨hplace, rfl⟩ := List.getElem?_eq_some_iff.mp hat
    have hdrop := List.drop_eq_getElem_cons hplace
    have hsecond : secondOf sent place = sent[place].atSecs := by rw [secondOf, hat]; rfl
    rw [hsecond]
    cases hreceipt : sent[place].receipt with
    | none =>
      refine .inr ⟨[t sent[place].atSecs], List.cons_prefix_cons.mpr ⟨rfl, List.nil_prefix⟩, ?_⟩
      simp only [hdrop, course, hreceipt]
    | some receipt =>
      have hnext := hnext receipt (by rw [hat, Option.bind_some, hreceipt])
      rcases hnext with hnext | ⟨first, hfirst, hnext⟩
      · exact .inl (by simp only [hdrop, course, hreceipt, hnext])
      · refine .inr ⟨t sent[place].atSecs :: first, List.cons_prefix_cons.mpr ⟨rfl, hfirst⟩, ?_⟩
        simp only [hdrop, course, hreceipt, hnext]

theorem lists_create (artifact : Artifact) (arguments : Bytes) :
    Lists sent place (create artifact arguments) [⟨.create, artifact.bytecode ++ arguments⟩]
      (created sent place) := by
  refine lists_send (t := fun _ => ⟨.create, artifact.bytecode ++ arguments⟩) ?_
  intro receipt hreceipt
  rw [created, hreceipt, Option.bind_some]
  dsimp only [Plan.bind]
  cases receipt.contract with
  | none => exact .stop
  | some address => exact .pure

theorem lists_call (contract : Address) (call : Nat → Contract.Call) :
    Lists sent place (Plan.call contract call)
      [⟨.call contract, (call (secondOf sent place)).input⟩] () :=
  lists_send (t := fun nowSecs => ⟨.call contract, (call nowSecs).input⟩) fun _ _ => .pure

theorem lists_forM {γ : Type} {f : γ → Plan Unit} {t : γ → PlannedTransaction}
    (hf : ∀ c place, Lists sent place (f c) [t c] ()) (cs : List γ) :
    Lists sent place (cs.forM f) (cs.map t) () := by
  induction cs generalizing place with
  | nil => exact .pure
  | cons c cs ih => exact (hf c place).bind_one ih

/-- The amount that a text gives; nought if it gives none. -/
def amountOf (value : String) : Word :=
  (wei? value).getD 0

theorem lists_amount (value : String) : Lists sent place (amount value) [] (amountOf value) := by
  rw [amount, amountOf]
  cases wei? value with
  | none => exact .stop
  | some w => exact .pure

end Lists

/-! ## The transactions of a deployment -/

section Deployment

variable (artifacts : ArtifactSet) (d : DeploySettings) (me : Address) (sent : List Sending)

/-- The creation of a token. -/
def tokenCreation (t : TokenSettings) : PlannedTransaction :=
  ⟨.create, artifacts.token.bytecode ++ Contract.tokenArguments t.name t.symbol (amountOf t.supply) me⟩

/-- The creations of the contracts and of the tokens after them. -/
def creations : List PlannedTransaction :=
  [⟨.create, artifacts.weth.bytecode⟩,
    ⟨.create, artifacts.factory.bytecode ++ Contract.factoryArguments me⟩,
    ⟨.create, artifacts.router.bytecode ++
      Contract.routerArguments (created sent 1) (created sent 0)⟩] ++
  d.tokens.map (tokenCreation artifacts me)

/-- The contracts that these creations create, by the places of the creations. -/
def createdContracts : DeployedContracts where
  weth := created sent 0
  factory := created sent 1
  router := created sent 2
  tokens := (List.range' 3 d.tokens.length).map (created sent)

/-- The approval that lets the router spend a token. -/
def approval (c : DeployedContracts) (token : Address) : PlannedTransaction :=
  ⟨.call token, Contract.Call.input (.approve c.router (amountOf d.liquidityAmount))⟩

/-- The transactions that add liquidity for the first two tokens; none without two tokens.  The terms
are those for the second at which the last of them is sent. -/
def funding (c : DeployedContracts) : List PlannedTransaction :=
  match c.tokens with
  | tokenA :: tokenB :: _ =>
    [tokenA, tokenB, c.weth].map (approval d c) ++
    [⟨.call c.router, Contract.Call.input (.addLiquidity
      (liquidityTerms d me tokenA tokenB (amountOf d.liquidityAmount)
        (secondOf sent (d.tokens.length + 6))))⟩]
  | _ => []

/-- **The transactions of a deployment**, by what became of those before: the contracts, the tokens
one after the other, and, unless that is skipped, what it takes to add liquidity for the first two of
them.  Transactions are counted from nought, and a contract has the address that the receipt of its
creation names. -/
def transactions (skipLiquidity : Bool) : List PlannedTransaction :=
  creations artifacts d me sent ++
    if skipLiquidity then [] else funding d me sent (createdContracts d sent)

theorem lists_tokens (ts : List TokenSettings) (place : Nat) :
    Lists sent place (tokens artifacts me ts) (ts.map (tokenCreation artifacts me))
      ((List.range' place ts.length).map (created sent)) := by
  induction ts generalizing place with
  | nil => exact .pure
  | cons t ts ih =>
    have htoken : Lists sent place (token artifacts me t) [tokenCreation artifacts me t]
        (created sent place) :=
      (lists_amount t.supply).bind_nil (lists_create _ _)
    exact htoken.bind_one ((ih (place + 1)).map _)

theorem lists_contracts :
    Lists sent 0 (contracts artifacts d me) (creations artifacts d me sent)
      (createdContracts d sent) := by
  have hweth : Lists sent 0 (create artifacts.weth []) [⟨.create, artifacts.weth.bytecode ++ []⟩]
      (created sent 0) :=
    lists_create artifacts.weth []
  rw [List.append_nil] at hweth
  refine hweth.bind_one ?_
  refine (lists_create _ _).bind_one ?_
  refine (lists_create _ _).bind_one ?_
  exact (lists_tokens artifacts me sent d.tokens 3).map _

theorem lists_liquidity (c : DeployedContracts) :
    Lists sent (d.tokens.length + 3) (liquidity d me c) (funding d me sent c) () := by
  rw [liquidity, funding]
  rcases c.tokens with _ | ⟨tokenA, _ | ⟨tokenB, _⟩⟩
  · exact .stop
  · exact .stop
  · refine (lists_amount _).bind_nil ?_
    have happrove (token : Address) (place : Nat) :
        Lists sent place (call token fun _ => .approve c.router (amountOf d.liquidityAmount))
          [approval d c token] () :=
      lists_call _ _
    exact (lists_forM happrove _).bind (lists_call _ _)

/-- **A deployment comes to its transactions**, or to a first part of them. -/
theorem lists_deployment (skipLiquidity : Bool) :
    Lists sent 0 (deployment artifacts d me skipLiquidity)
      (transactions artifacts d me sent skipLiquidity) () := by
  refine (lists_contracts artifacts d me sent).bind ?_
  cases skipLiquidity with
  | true => exact .pure
  | false =>
    have hlength : 0 + (creations artifacts d me sent).length = d.tokens.length + 3 := by
      simp only [creations, List.length_append, List.length_cons, List.length_nil, List.length_map]
      omega
    rw [hlength]
    exact lists_liquidity d me sent _

end Deployment

end Plan

namespace Deploy

/-- **A deployment broadcasts the first transactions of its plan**, against any node, in any
session.  Without its artifacts or a wallet nothing is asked at all.

Each transaction is planned for the second at which it is broadcast, which is the second in the
session then.  What is broadcast is, transaction by transaction, signed, a first part of what one
expects of a deployment, with the addresses that the receipts name, and all of it when the deployment
ends well. -/
theorem carried_run {σ : Type} (node : Node σ) (s : Settings) (files : Files) (skipLiquidity : Bool)
    (session : Session σ) :
    let ended := (run node s files skipLiquidity).runFrom session
    ∃ asked : Transcript, ended.2.requests = session.requests ++ asked ∧
      match ArtifactSet.ofFiles files s.deploy, s.account.wallet with
      | .ok artifacts, .ok wallet => ∃ sent : List Sending,
        (Plan.deployment artifacts s.deploy wallet.address skipLiquidity).Carried (sender s wallet)
          session.clock asked sent (ended.1.toOption.map fun _ => ((), ended.2.clock)) ∧
        let expected := Plan.transactions artifacts s.deploy wallet.address sent skipLiquidity
        ∃ broadcast, broadcast <+: expected ∧
          List.Forall₂ (sender s wallet).Signs broadcast asked.broadcasts ∧
          ∀ written, ended.1 = .ok written → broadcast = expected
      | _, _ => asked = [] := by
  intro ended
  cases hartifacts : ArtifactSet.ofFiles files s.deploy with
  | error e =>
    have hended : ended = (.error (.failed (.deployment e)), session) := by
      show (run node s files skipLiquidity).runFrom session = _
      rw [run, hartifacts]
      rfl
    exact ⟨[], by rw [hended, List.append_nil], rfl⟩
  | ok artifacts =>
    cases hwallet : s.account.wallet with
    | error e =>
      obtain ⟨g, hg, hnone⟩ :=
        ensures_run_of_no_wallet node s files skipLiquidity hartifacts hwallet session
      exact ⟨g.asked, hg.requests_eq, hnone⟩
    | ok w =>
      obtain ⟨g, hg, sent, hcarried⟩ :=
        pursues_run node s files skipLiquidity hartifacts hwallet session.clock session rfl
      rw [Option.map_map] at hcarried
      obtain ⟨hsigned, hresult⟩ := hcarried.signs_course
      refine ⟨g.asked, hg.requests_eq, sent, hcarried, _, ?_, hsigned, ?_⟩
      · exact (Plan.lists_deployment artifacts s.deploy w.address sent skipLiquidity).isPrefix
      · intro written hwritten
        have hdone := hresult ((), ended.2.clock)
        rw [show (run node s files skipLiquidity).runFrom session = ended from rfl, hwritten] at hdone
        exact (Plan.lists_deployment artifacts s.deploy w.address sent skipLiquidity).eq_of_result
          (hdone rfl)

end Deploy
end LocalChain

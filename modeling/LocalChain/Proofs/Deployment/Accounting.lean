import LocalChain.Proofs.Deployment.Bookkeeping
import LocalChain.Proofs.Deployment.Sequence

/-!
# Accounting for a deployment

The contracts of a deployment are booked in the order in which the record names them, each with the
artifact that it is planned with, and the record has the addresses that their receipts name
(`Deployment.books_deployContracts`).  Approvals and the addition of liquidity are booked after
them, without artifacts, and the pair of the record is the one that the factory names in the end
(`Deployment.books_addLiquidity`).
-/

namespace LocalChain

open Talk (Books)

variable {σ : Type}

/-! ## Contracts -/

namespace DeploymentRecord

/-- The addresses that a record has from receipts, in the order of the creations. -/
def addresses (r : DeploymentRecord) : List Address :=
  r.weth :: r.factory :: r.router :: r.tokens.map (·.address)

/-- What a record states of transactions that are booked: the contracts first, and some calls after
them. -/
structure Tells (r : DeploymentRecord) (chainId : UInt64) (account : Address)
    (tokens : List TokenSettings) (bs : List Booking) (calls : Nat) : Prop where
  chainId_eq : r.chainId = chainId
  deployer_eq : r.deployer = account
  tokens_eq : r.tokens.map (fun t => (t.name, t.symbol)) = tokens.map fun t => (t.name, t.symbol)
  addresses_eq : bs.map Booking.address? = r.addresses.map some ++ List.replicate calls none

variable {r : DeploymentRecord} {chainId : UInt64} {account : Address}
  {tokens : List TokenSettings} {bs cs : List Booking} {calls : Nat}

/-- Calls, and a pair, change nothing in what a record states of the contracts. -/
theorem Tells.append (hr : r.Tells chainId account tokens bs 0)
    (hcs : cs.map Booking.address? = List.replicate calls none) (pair : Option Address) :
    { r with pair }.Tells chainId account tokens (bs ++ cs) calls where
  chainId_eq := hr.chainId_eq
  deployer_eq := hr.deployer_eq
  tokens_eq := hr.tokens_eq
  addresses_eq := by
    rw [List.map_append, hr.addresses_eq, hcs, List.replicate_zero, List.append_nil]
    rfl

/-- A transcript ends with two looks: the first is at the pair of two tokens, and the answer to it
names the pair. -/
def NamesPair (account factory tokenA tokenB pair : Address) (h : Transcript) : Prop :=
  ∃ (before : Transcript) (answer : Answer) (last : Exchange),
    h = before ++ [(Deployer.look account factory (.getPair tokenA tokenB), answer), last] ∧
      (answer.value? Quantity.bytes?).bind Contract.pair? = some pair

theorem NamesPair.after {account factory tokenA tokenB pair : Address} {h : Transcript}
    (hh : NamesPair account factory tokenA tokenB pair h) (g : Transcript) :
    NamesPair account factory tokenA tokenB pair (g ++ h) := by
  obtain ⟨before, answer, last, rfl, hpair⟩ := hh
  exact ⟨g ++ before, answer, last, (List.append_assoc ..).symm, hpair⟩

/-- The pair of a record is the one that the factory names for the first two tokens at the end of a
transcript. -/
def HasPair (r : DeploymentRecord) (h : Transcript) : Prop :=
  ∃ tokenA tokenB others pair, r.tokens = tokenA :: tokenB :: others ∧ r.pair = some pair ∧
    NamesPair r.deployer r.factory tokenA.address tokenB.address pair h

theorem HasPair.after {h : Transcript} (hr : r.HasPair h) (g : Transcript) :
    r.HasPair (g ++ h) := by
  obtain ⟨a, b, others, pair, htokens, hpair, hh⟩ := hr
  exact ⟨a, b, others, pair, htokens, hpair, hh.after g⟩

end DeploymentRecord

namespace Deployment

variable (d : Deployment σ)

theorem books_amount (who : Sender) (field value : String) :
    (amount field value : Talk σ _ _).Books who [] fun _ bs _ => bs = [] := by
  rw [amount]
  rcases readAmount field value with _ | problem | w
  · exact .throw
  · exact .throw
  · exact .pure rfl

theorem books_deployToken (t : TokenSettings) :
    (d.deployToken t).Books d.deployer.sender [some d.artifacts.token] fun _ bs token =>
      bs.map Booking.address? = [some token.address] ∧
        token.name = t.name ∧ token.symbol = t.symbol := by
  refine Books.before (books_amount _ _ _) ?_
  rintro _ _ supply rfl
  refine Books.followed (d.deployer.books_deploy _ _) ?_
  intro _ bs address haddress
  refine Books.followed (Talk.books_report _) ?_
  rintro _ _ _ ⟨-, rfl⟩
  exact .pure ⟨by simpa using haddress, rfl, rfl⟩

/-- **Each token is booked with the artifact of tokens**, in the order of the settings. -/
theorem books_deployTokens (ts : List TokenSettings) :
    (d.deployTokens ts).Books d.deployer.sender (ts.map fun _ => some d.artifacts.token)
      fun _ bs tokens =>
        bs.map Booking.address? = tokens.map (some ·.address) ∧
          tokens.map (fun t => (t.name, t.symbol)) = ts.map fun t => (t.name, t.symbol) := by
  induction ts with
  | nil => exact .pure ⟨rfl, rfl⟩
  | cons t ts ih =>
    refine Books.bind (d.books_deployToken t) ?_
    rintro _ bs token ⟨haddress, hname, hsymbol⟩
    refine Books.followed ih ?_
    rintro _ cs tokens ⟨haddresses, htokens⟩
    exact .pure ⟨by simp [haddress, haddresses], by simp [hname, hsymbol, htokens]⟩

/-- The artifacts of the contracts in the order of their creation. -/
def created (artifacts : ArtifactSet) (tokens : List TokenSettings) : List (Option Artifact) :=
  some artifacts.weth :: some artifacts.factory :: some artifacts.router ::
    tokens.map fun _ => some artifacts.token

/-- **The contracts are booked with their artifacts**, and the record has the addresses that their
receipts name. -/
theorem books_deployContracts :
    d.deployContracts.Books d.deployer.sender (created d.artifacts d.settings.tokens)
      fun _ bs r =>
        r.Tells d.deployer.connection.chainId d.deployer.account d.settings.tokens bs 0 ∧
        r.pair = none := by
  refine Books.before (Talk.books_report _) ?_
  rintro _ _ _ ⟨-, rfl⟩
  refine Books.bind (d.deployer.books_deploy _ _) ?_
  intro _ bs weth hweth
  refine Books.bind (d.deployer.books_deploy _ _) ?_
  intro _ cs factory hfactory
  refine Books.bind (d.deployer.books_deploy _ _) ?_
  intro _ ds router hrouter
  refine Books.followed (d.books_deployTokens _) ?_
  rintro _ es tokens ⟨haddresses, htokens⟩
  refine .pure ⟨⟨rfl, rfl, htokens, ?_⟩, rfl⟩
  simp [hweth, hfactory, hrouter, haddresses, DeploymentRecord.addresses]

/-! ## Liquidity -/

theorem books_checkPair (factory tokenA tokenB : Address) :
    (d.checkPair factory tokenA tokenB).Books d.deployer.sender [] fun g bs state => bs = [] ∧
      DeploymentRecord.NamesPair d.deployer.account factory tokenA tokenB state.pair g.asked := by
  refine Books.before (d.deployer.books_read _ _ _) ?_
  rintro g _ pair ⟨rfl, answer, hasked, hpair⟩
  dsimp only
  split
  · exact .throw
  · refine Books.before (d.deployer.books_read _ _ _) ?_
    rintro h _ reserves ⟨rfl, last, hasked', -⟩
    refine Books.before (Talk.books_report _) ?_
    rintro k _ _ ⟨hasked'', rfl⟩
    exact .pure ⟨rfl, [], answer, _, by simp [hasked, hasked', hasked'']; rfl, hpair⟩

theorem books_approve (router : Address) (desired : Word) (token : Address) :
    (d.approve router desired token).Books d.deployer.sender [none] fun _ bs _ =>
      bs.map Booking.address? = [none] := by
  refine Books.followed (d.deployer.books_call _ _ _) ?_
  intro _ bs _ haddress
  exact .pure (by simpa using haddress)

theorem books_approvals (router : Address) (desired : Word) (tokens : List Address) :
    (tokens.forM (d.approve router desired)).Books d.deployer.sender (tokens.map fun _ => none)
      fun _ bs _ => bs.map Booking.address? = tokens.map fun _ => none := by
  induction tokens with
  | nil => exact .pure rfl
  | cons token tokens ih =>
    refine Books.bind (d.books_approve router desired token) ?_
    intro _ bs _ haddress
    refine ih.mono ?_
    intro _ cs _ haddresses
    rw [List.map_append, haddress, haddresses]
    rfl

/-- **The addition of liquidity is booked without artifacts**, and the record gets the pair that the
factory names. -/
theorem books_addLiquidity (r : DeploymentRecord) (hr : r.deployer = d.deployer.account) :
    (d.addLiquidity r).Books d.deployer.sender (List.replicate 4 none) fun g bs out =>
      bs.map Booking.address? = List.replicate 4 none ∧
        (∃ pair, out.1 = { r with pair }) ∧ out.1.HasPair g.asked := by
  obtain ⟨chainId, deployer, weth, factory, router, tokens, pair⟩ := r
  obtain rfl : deployer = _ := hr
  match tokens with
  | [] => exact .throw
  | [_] => exact .throw
  | a :: b :: others =>
    refine Books.before (books_amount _ _ _) ?_
    rintro _ _ desired rfl
    refine Books.bind (d.books_approvals router desired [_, _, _]) ?_
    intro _ bs _ happrovals
    refine Books.before Talk.books_get ?_
    rintro _ _ session rfl
    refine Books.followed (d.deployer.books_call _ _ _) ?_
    intro _ cs _ haddition
    refine Books.before (d.books_checkPair _ _ _).mapError ?_
    rintro g _ state ⟨rfl, hpair⟩
    refine .pure ⟨?_, ⟨_, rfl⟩, a, b, others, state.pair, rfl, rfl, ?_⟩
    · simp [happrovals, haddition, List.replicate]
    · simp only [Growth.append_empty, Growth.asked_append]
      exact (((hpair.after _).after _).after _).after _

end Deployment

/-! ## The command -/

namespace Deploy

theorem books_reporting {α : Type} {t : Talk σ (Stop DeployError) α} {who : Sender}
    {artifacts : List (Option Artifact)} {given : Growth → List Booking → α → Prop}
    (event : String → Event) (ht : t.Books who artifacts given) :
    (reporting event t).Books who artifacts given := by
  refine Talk.Posts.recover ht (fun _ => rfl) (fun _ _ _ h => h) ?_ ?_ ?_
  · rintro (e | _ | _)
    · exact (Talk.consults_report _).bind fun _ => .throw
    · exact .throw
    · exact .throw
  · rintro (e | _ | _)
    · refine (Talk.ensures_report _).bind_ok ?_
      rintro _ _ -
      exact .throw rfl
    · exact .throw rfl
    · exact .throw rfl
  · rintro g bs e h e' ⟨hcounted, -⟩ hcounted'
    refine ⟨?_, by rintro _ ⟨⟩⟩
    rw [Growth.entered_append, Journal.counted_append, hcounted, hcounted', List.append_nil]

/-- Calls among the transactions of a deployment. -/
def calls (skipLiquidity : Bool) : Nat :=
  if skipLiquidity then 0 else 4

/-- The artifacts of the transactions of a deployment: of the contracts, and none for the calls. -/
def planned (artifacts : ArtifactSet) (tokens : List TokenSettings) (skipLiquidity : Bool) :
    List (Option Artifact) :=
  Deployment.created artifacts tokens ++ List.replicate (calls skipLiquidity) none

/-- What a record states of its pair: there is none without liquidity, and otherwise the one that
the factory names. -/
def PairIn (skipLiquidity : Bool) (r : DeploymentRecord) (h : Transcript) : Prop :=
  if skipLiquidity then r.pair = none else r.HasPair h

theorem PairIn.after {skipLiquidity : Bool} {r : DeploymentRecord} {h : Transcript}
    (hr : PairIn skipLiquidity r h) (g : Transcript) : PairIn skipLiquidity r (g ++ h) := by
  cases skipLiquidity with
  | true => exact hr
  | false => exact DeploymentRecord.HasPair.after hr g

/-- **The transactions of a deployment are booked with the artifacts that are planned**, and the
record tells what is booked. -/
theorem books_deploy (d : Deployment σ) (skipLiquidity : Bool) :
    (deploy d skipLiquidity).Books d.deployer.sender
      (planned d.artifacts d.settings.tokens skipLiquidity) fun g bs r =>
        r.Tells d.deployer.connection.chainId d.deployer.account d.settings.tokens bs
          (calls skipLiquidity) ∧ PairIn skipLiquidity r g.asked := by
  refine Books.bind (books_reporting _ d.books_deployContracts) ?_
  rintro g bs r ⟨hr, hnone⟩
  cases skipLiquidity with
  | true => exact .pure ⟨by rwa [List.append_nil], hnone⟩
  | false =>
    refine Books.followed (books_reporting _ (d.books_addLiquidity r hr.deployer_eq)) ?_
    rintro h cs ⟨r', state⟩ ⟨hcalls, ⟨pair, rfl⟩, hpair⟩
    refine .pure ⟨?_, ?_⟩
    · rw [List.append_nil]
      exact hr.append hcalls pair
    · rw [Growth.append_empty]
      exact hpair.after g.asked

end Deploy
end LocalChain

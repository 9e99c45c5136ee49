import LocalChain.Proofs.Deployment.Steps
import LocalChain.Proofs.Session.Consultations
import LocalChain.Proofs.Session.Ledger

/-!
# Accounts of a deployment

A step of a deployment is booked when its transaction is broadcast: the artifact that it is made
from, if it is a creation, the transaction itself, and the receipt that confirms it, if there is one
(`Booking`).  A talk posts bookings (`Talk.Posts`) when they are the broadcasts of its transcript as
the ledger shows them, when their artifacts are the first of a list, all of it if the talk ends
well, and when each is signed for the chain that the session knows in the end.

The chain of a session is the one that it knew before, or else the first that the node has named
since (`Learning`).  A talk keeps books (`Talk.Books`) when, besides, the counters go up for the
creations that were confirmed with an address, and for nothing else.
-/

namespace LocalChain

/-! ## What a session knows of its chain -/

/-- The chain that an exchange names. -/
def Exchange.chain? : Exchange → Option UInt64
  | (.chainId, a) => a.value? Quantity.word64?
  | _ => none

/-- The first chain that a transcript names. -/
def Transcript.chain? (h : Transcript) : Option UInt64 :=
  h.findSome? Exchange.chain?

theorem Transcript.chain?_append (h h' : Transcript) :
    chain? (h ++ h') = (chain? h).or (chain? h') :=
  List.findSome?_append

/-- The request is neither about the chain, nor a look for a receipt, nor a broadcast. -/
def Request.isAside : Request → Bool
  | chainId | receipt _ | sendRaw _ => false
  | _ => true

theorem Request.isPlain_of_isAside {r : Request} (h : r.isAside = true) : r.isPlain = true := by
  cases r with
  | chainId | receipt | sendRaw => cases h
  | _ => rfl

theorem Request.ne_chainId_of_isAside {r : Request} (h : r.isAside = true) : r ≠ .chainId := by
  rintro rfl
  cases h

theorem Transcript.chain?_eq_none {h : Transcript} (hh : ∀ e ∈ h, e.1 ≠ .chainId) :
    h.chain? = none := by
  refine List.findSome?_eq_none_iff.mpr fun e he => ?_
  have hne := hh e he
  obtain ⟨r, a⟩ := e
  cases r with
  | chainId => exact absurd rfl hne
  | _ => rfl

namespace Talk

variable {σ ε α β : Type} {s s' s'' : Session σ} {g h : Growth} {t : Talk σ ε α}
  {f : α → Talk σ ε β} {known : Option UInt64} {given : Option UInt64 → α → Prop}

/-- A session goes on, counts nothing, and knows the chain that it knew before or else the first
that is named since. -/
structure Learning (s s' : Session σ) (g : Growth) : Prop where
  grows : s.GrowsBy g s'
  counted : g.entered.counted = []
  chainId_eq : s'.chainId = s.chainId.or g.asked.chain?

theorem Learning.trans (hg : Learning s s' g) (hh : Learning s' s'' h) :
    Learning s s'' (g ++ h) where
  grows := hg.grows.trans hh.grows
  counted := by rw [Growth.entered_append, Journal.counted_append, hg.counted, hh.counted]; rfl
  chainId_eq := by
    rw [hh.chainId_eq, hg.chainId_eq, Growth.asked_append, Transcript.chain?_append,
      Option.or_assoc]

theorem Consultation.learning {allowed : Request → Prop} (hg : Consultation allowed s s' g)
    (hother : ∀ r, allowed r → r ≠ .chainId) : Learning s s' g where
  grows := hg.grows
  counted := hg.counted
  chainId_eq := by
    rw [Transcript.chain?_eq_none fun e he => hother _ (hg.asked e he), Option.or_none,
      hg.chainId_eq]

/-- From a session that knows a chain, or none, the talk books nothing, and its value fits the chain
that is known in the end. -/
def Learns (t : Talk σ ε α) (known : Option UInt64) (given : Option UInt64 → α → Prop) : Prop :=
  ∀ s : Session σ, s.chainId = known → ∃ g, Learning s (t.runFrom s).2 g ∧ g.asked.Plain ∧
    ∀ a, (t.runFrom s).1 = .ok a → given (t.runFrom s).2.chainId a

theorem Consultation.plain (hg : Consultation (·.isAside = true) s s' g) : g.asked.Plain :=
  fun e he => Request.isPlain_of_isAside (hg.asked e he)

theorem Learns.pure {a : α} (h : given known a) : (pure a : Talk σ ε α).Learns known given := by
  rintro s rfl
  refine ⟨{}, ⟨.refl s, rfl, Option.or_none.symm⟩, .nil, ?_⟩
  rintro _ ⟨⟩
  exact h

/-- **One talk after the other**, from the chain that is known by then. -/
theorem Learns.bind {given' : Option UInt64 → β → Prop} (ht : t.Learns known given)
    (hf : ∀ now a, given now a → (f a).Learns now given') : (t >>= f).Learns known given' := by
  intro s hs
  obtain ⟨g, hg, hplain, ha⟩ := ht s hs
  rw [runFrom_bind]
  rcases hrun : t.runFrom s with ⟨e | a, s'⟩
  · rw [hrun] at hg
    exact ⟨g, hg, hplain, by rintro _ ⟨⟩⟩
  · rw [hrun] at hg ha
    obtain ⟨h, hh, hplain', hb⟩ := hf _ a (ha a rfl) s' rfl
    exact ⟨g ++ h, hg.trans hh, hplain.append hplain', hb⟩

/-- Nothing is learned aside. -/
theorem Consults.learns (ht : t.Consults (·.isAside = true)) :
    t.Learns known fun now _ => now = known := by
  rintro s rfl
  obtain ⟨g, hg⟩ := ht s
  exact ⟨g, hg.learning fun _ => Request.ne_chainId_of_isAside, hg.plain, fun _ _ => hg.chainId_eq⟩

end Talk

/-! ## Bookings -/

/-- A transaction is made from an artifact, whose code it begins with, or creates nothing. -/
def MadeFrom (artifact : Option Artifact) (destination : Destination) (input : Bytes) : Prop :=
  match artifact with
  | some a => destination = .create ∧ a.bytecode <+: input
  | none => destination ≠ .create

/-- A transaction that was broadcast. -/
structure Booking where
  /-- The artifact of a creation. -/
  artifact : Option Artifact
  transaction : Transaction
  /-- The receipt that confirms it. -/
  receipt : Option Receipt
  made : MadeFrom artifact transaction.destination transaction.input

namespace Booking

/-- The entry of the ledger for a booking. -/
def entry (key : PrivateKey) (b : Booking) : Bytes × Option Receipt :=
  (b.transaction.sign key, b.receipt)

/-- The address in the receipt of a creation. -/
def address? (b : Booking) : Option Address := do
  let _ ← b.artifact
  (← b.receipt).contract

/-- The counter that goes up for a creation with an address. -/
def counter? (b : Booking) : Option Counter := do
  let artifact ← b.artifact
  let _ ← b.address?
  return .deployed artifact.name

/-- The transaction is signed for a chain. -/
def IsFor (b : Booking) (chainId : Option UInt64) : Prop :=
  ∃ id, chainId = some id ∧ b.transaction.fee.chainId? = some id

/-- A chain that is known is not forgotten for one that is named later. -/
theorem IsFor.or {b : Booking} {known : Option UInt64} (hb : b.IsFor known)
    (later : Option UInt64) : b.IsFor (known.or later) := by
  obtain ⟨id, rfl, hid⟩ := hb
  exact ⟨id, rfl, hid⟩

theorem counter?_of_unconfirmed {b : Booking} (h : b.receipt = none) : b.counter? = none := by
  simp [counter?, address?, h]

/-- Nothing is counted that was not confirmed. -/
theorem counters_of_unconfirmed {bs : List Booking} (h : ∀ b ∈ bs, b.receipt = none) :
    bs.filterMap counter? = [] :=
  List.filterMap_eq_nil_iff.mpr fun b hb => counter?_of_unconfirmed (h b hb)

end Booking

namespace Talk

variable {σ ε ε' α β : Type}

/-- Bookings as far as they go: with the first of some artifacts, and in the ledger unless another
receipt is looked for. -/
structure Begun (who : Sender) (artifacts : List (Option Artifact)) (g : Growth)
    (bs : List Booking) : Prop where
  artifacts_prefix : bs.map Booking.artifact <+: artifacts
  ledger_eq : ∀ k, Transcript.Plain k →
    (g.asked ++ k).ledger who.required = bs.map (Booking.entry who.wallet.key)

/-- Bookings that are complete: with all of some artifacts, and in the ledger whatever follows. -/
structure Complete (who : Sender) (artifacts : List (Option Artifact)) (g : Growth)
    (bs : List Booking) : Prop where
  artifacts_eq : bs.map Booking.artifact = artifacts
  ledger_eq : ∀ k, (g.asked ++ k).ledger who.required =
    bs.map (Booking.entry who.wallet.key) ++ Transcript.ledger who.required k

variable {who : Sender} {artifacts artifacts' : List (Option Artifact)} {g h : Growth}
  {bs cs : List Booking}

theorem Complete.begun (hg : Complete who artifacts g bs) : Begun who artifacts g bs where
  artifacts_prefix := hg.artifacts_eq ▸ List.prefix_refl _
  ledger_eq k hk := by rw [hg.ledger_eq, hk.ledger_eq_nil, List.append_nil]

theorem Complete.append (hg : Complete who artifacts g bs) (hh : Complete who artifacts' h cs) :
    Complete who (artifacts ++ artifacts') (g ++ h) (bs ++ cs) where
  artifacts_eq := by rw [List.map_append, hg.artifacts_eq, hh.artifacts_eq]
  ledger_eq k := by
    rw [Growth.asked_append, List.append_assoc, hg.ledger_eq, hh.ledger_eq, List.map_append,
      List.append_assoc]

theorem Complete.append_begun (hg : Complete who artifacts g bs)
    (hh : Begun who artifacts' h cs) :
    Begun who (artifacts ++ artifacts') (g ++ h) (bs ++ cs) where
  artifacts_prefix := by
    rw [List.map_append, hg.artifacts_eq]
    exact (List.prefix_append_right_inj _).mpr hh.artifacts_prefix
  ledger_eq k hk := by
    rw [Growth.asked_append, List.append_assoc, hg.ledger_eq, hh.ledger_eq k hk, List.map_append]

theorem Begun.append (hg : Begun who artifacts g bs) :
    Begun who (artifacts ++ artifacts') g bs where
  artifacts_prefix := hg.artifacts_prefix.trans (List.prefix_append _ _)
  ledger_eq := hg.ledger_eq

/-- Nothing is booked when nothing is broadcast. -/
theorem Complete.of_quiet (hg : g.asked.broadcasts = []) : Complete who [] g [] where
  artifacts_eq := rfl
  ledger_eq _ := Transcript.ledger_append_of_quiet hg

theorem Begun.of_quiet (hg : g.asked.broadcasts = []) : Begun who artifacts g [] :=
  (Complete.of_quiet hg).begun.append

/-- What is asked aside takes nothing from the bookings before it. -/
theorem Begun.append_plain (hg : Begun who artifacts g bs) (hh : h.asked.Plain) :
    Begun who artifacts (g ++ h) bs where
  artifacts_prefix := hg.artifacts_prefix
  ledger_eq k hk := by rw [Growth.asked_append, List.append_assoc, hg.ledger_eq _ (hh.append hk)]

section Broadcast

variable {b : Booking} {before after : Transcript} {answer : Answer} {hash : TxHash}

/-- A broadcast whose answer names no transaction is booked without a receipt. -/
theorem Begun.of_unnamed
    (hasked : g.asked = before ++ [(.sendRaw (b.transaction.sign who.wallet.key), answer)])
    (hbefore : before.Plain) (hname : answer.value? TxHash.ofJson? = none)
    (hreceipt : b.receipt = none) : Begun who [b.artifact] g [b] where
  artifacts_prefix := List.prefix_refl _
  ledger_eq k hk := by
    rw [hasked, List.append_assoc, List.singleton_append,
      Transcript.ledger_broadcast hbefore.quiet, hname, hk.ledger_eq_nil]
    simp [Booking.entry, hreceipt]

/-- A broadcast that is looked for in vain is booked without a receipt. -/
theorem Begun.of_unsettled
    (hasked : g.asked = before ++ (.sendRaw (b.transaction.sign who.wallet.key), answer) :: after)
    (hbefore : before.Plain) (hname : answer.value? TxHash.ofJson? = some hash)
    (hafter : after.Settles who.required hash none) (hreceipt : b.receipt = none) :
    Begun who [b.artifact] g [b] where
  artifacts_prefix := List.prefix_refl _
  ledger_eq k hk := by
    rw [hasked, List.append_assoc, List.cons_append,
      Transcript.ledger_settled hbefore.quiet hname hafter, hk.confirmation?_eq_none,
      hk.ledger_eq_nil]
    simp [Booking.entry, hreceipt]

/-- A broadcast is booked with the receipt that is found for it. -/
theorem Complete.of_settled {receipt : Receipt}
    (hasked : g.asked = before ++ (.sendRaw (b.transaction.sign who.wallet.key), answer) :: after)
    (hbefore : before.Plain) (hname : answer.value? TxHash.ofJson? = some hash)
    (hafter : after.Settles who.required hash (some receipt))
    (hreceipt : b.receipt = some receipt) : Complete who [b.artifact] g [b] where
  artifacts_eq := rfl
  ledger_eq k := by
    rw [hasked, List.append_assoc, List.cons_append,
      Transcript.ledger_settled hbefore.quiet hname hafter]
    simp [Booking.entry, hreceipt]

end Broadcast

/-- What is booked in one session. -/
structure Posting (who : Sender) (artifacts : List (Option Artifact)) (s s' : Session σ)
    (g : Growth) (bs : List Booking) (x : Except ε α) : Prop where
  grows : s.GrowsBy g s'
  chainId_eq : s'.chainId = s.chainId.or g.asked.chain?
  signed : ∀ b ∈ bs, b.IsFor s'.chainId
  booked : match x with
    | .ok _ => Complete who artifacts g bs
    | .error _ => Begun who artifacts g bs

theorem Posting.begun {s s' : Session σ} {x : Except ε α}
    (hg : Posting who artifacts s s' g bs x) : Begun who artifacts g bs := by
  have hbooked := hg.booked
  cases x with
  | ok a => exact hbooked.begun
  | error e => exact hbooked

/-- In whatever session it starts, the talk books transactions that are made from some artifacts,
and what it adds, what it books and what it ends with satisfy a condition. -/
def Posts (t : Talk σ ε α) (who : Sender) (artifacts : List (Option Artifact))
    (post : Growth → List Booking → Except ε α → Prop) : Prop :=
  ∀ s, ∃ g bs, Posting who artifacts s (t.runFrom s).2 g bs (t.runFrom s).1 ∧
    post g bs (t.runFrom s).1

variable {t : Talk σ ε α} {f : α → Talk σ ε β}
  {post post' : Growth → List Booking → Except ε α → Prop}

theorem Posts.mono (ht : t.Posts who artifacts post) (h : ∀ g bs x, post g bs x → post' g bs x) :
    t.Posts who artifacts post' := by
  intro s
  obtain ⟨g, bs, hg, hx⟩ := ht s
  exact ⟨g, bs, hg, h g bs _ hx⟩

theorem Posts.pure {a : α} {post : Growth → List Booking → Except ε α → Prop}
    (h : post {} [] (.ok a)) : (pure a : Talk σ ε α).Posts who [] post :=
  fun s => ⟨{}, [], ⟨.refl s, (Option.or_none).symm, by simp, .of_quiet rfl⟩, h⟩

theorem Posts.throw {e : ε} {post : Growth → List Booking → Except ε α → Prop}
    (h : post {} [] (.error e)) : (throw e : Talk σ ε α).Posts who artifacts post :=
  fun s => ⟨{}, [], ⟨.refl s, (Option.or_none).symm, by simp, .of_quiet rfl⟩, h⟩

theorem posts_enter (e : Entry) :
    (enter e : Talk σ ε Unit).Posts who [] fun g bs x =>
      g = { entered := [e] } ∧ bs = [] ∧ x = .ok () :=
  fun _ => ⟨{ entered := [e] }, [], ⟨⟨rfl, rfl⟩, (Option.or_none).symm, by simp,
    .of_quiet rfl⟩, rfl, rfl, rfl⟩

/-- **One talk after the other**: the bookings of the second follow those of the first. -/
theorem Posts.bind {all : Growth → List Booking → Except ε β → Prop}
    (ht : t.Posts who artifacts post)
    (hok : ∀ g bs a, post g bs (.ok a) →
      (f a).Posts who artifacts' fun h cs x => all (g ++ h) (bs ++ cs) x)
    (herror : ∀ g bs e, post g bs (.error e) → all g bs (.error e)) :
    (t >>= f).Posts who (artifacts ++ artifacts') all := by
  intro s
  obtain ⟨g, bs, hg, hx⟩ := ht s
  rw [runFrom_bind]
  rcases hrun : t.runFrom s with ⟨e | a, s'⟩
  · rw [hrun] at hg hx
    exact ⟨g, bs, ⟨hg.grows, hg.chainId_eq, hg.signed, hg.booked.append⟩, herror g bs e hx⟩
  · rw [hrun] at hg hx
    obtain ⟨h, cs, hh, hy⟩ := hok g bs a hx s'
    dsimp only
    refine ⟨g ++ h, bs ++ cs, ⟨hg.grows.trans hh.grows, ?_, ?_, ?_⟩, hy⟩
    · rw [hh.chainId_eq, hg.chainId_eq, Growth.asked_append, Transcript.chain?_append,
        Option.or_assoc]
    · intro b hb
      rcases List.mem_append.mp hb with hb | hb
      · rw [hh.chainId_eq]
        exact Booking.IsFor.or (hg.signed b hb) _
      · exact hh.signed b hb
    · have hbooked := hh.booked
      rcases hrest : (f a).runFrom s' with ⟨e | b, s''⟩
      · rw [hrest] at hbooked
        exact hg.booked.append_begun hbooked
      · rw [hrest] at hbooked
        exact hg.booked.append hbooked

/-- A talk is followed by another that books nothing. -/
theorem Posts.followed {all : Growth → List Booking → Except ε β → Prop}
    (ht : t.Posts who artifacts post)
    (hok : ∀ g bs a, post g bs (.ok a) →
      (f a).Posts who [] fun h cs x => all (g ++ h) (bs ++ cs) x)
    (herror : ∀ g bs e, post g bs (.error e) → all g bs (.error e)) :
    (t >>= f).Posts who artifacts all := by
  rw [← List.append_nil artifacts]
  exact ht.bind hok herror

/-- What is entered first is no booking. -/
theorem Posts.enter_bind {e : Entry} {f : Unit → Talk σ ε α}
    (hf : (f ()).Posts who artifacts fun g bs x => post ({ entered := [e] } ++ g) bs x) :
    (enter e >>= f).Posts who artifacts post := by
  refine Posts.bind (posts_enter e) ?_ ?_
  · rintro _ _ _ ⟨rfl, rfl, -⟩
    exact hf
  · rintro _ _ _ ⟨-, -, ⟨⟩⟩

/-- A talk that only looks books nothing. -/
theorem Consults.posts (ht : t.Consults (·.isAside = true)) {post : Growth → Except ε α → Prop}
    (hpost : t.Ensures post) :
    t.Posts who [] fun g bs x => bs = [] ∧ g.entered.counted = [] ∧ post g x := by
  intro s
  obtain ⟨g, hg, hx⟩ := ht.and hpost s
  have hlearning := hg.learning fun _ => Request.ne_chainId_of_isAside
  have hcomplete : Complete who [] g [] := .of_quiet hg.plain.quiet
  refine ⟨g, [], ⟨hg.grows, hlearning.chainId_eq, by simp, ?_⟩, rfl, hg.counted, hx⟩
  cases (t.runFrom s).1 with
  | ok a => exact hcomplete
  | error e => exact hcomplete.begun

/-- A talk that looks into a failure before it fails too books no more than before. -/
theorem Posts.recover {f : Except ε α → Talk σ ε' α} (ht : t.Posts who artifacts post)
    {post' : Growth → List Booking → Except ε' α → Prop}
    (hok : ∀ a, f (.ok a) = Pure.pure a) (hpost : ∀ g bs a, post g bs (.ok a) → post' g bs (.ok a))
    (hconsults : ∀ e, (f (.error e)).Consults (·.isAside = true))
    (hfails : ∀ e, (f (.error e)).Ensures fun _ x => x.toOption = none)
    (herror : ∀ g bs e h e', post g bs (.error e) → h.entered.counted = [] →
      post' (g ++ h) bs (.error e')) :
    (t.attempt >>= f).Posts who artifacts post' := by
  intro s
  obtain ⟨g, bs, hg, hx⟩ := ht s
  rw [runFrom_attempt_bind]
  rcases hrun : t.runFrom s with ⟨e | a, s'⟩
  · rw [hrun] at hg hx
    obtain ⟨h, hh, hnone⟩ := (hconsults e).and (hfails e) s'
    have hlearning := hh.learning fun _ => Request.ne_chainId_of_isAside
    dsimp only
    rcases hend : (f (.error e)).runFrom s' with ⟨e' | a, s''⟩
    · rw [hend] at hh hlearning
      refine ⟨g ++ h, bs, ⟨hg.grows.trans hh.grows, ?_, ?_, hg.booked.append_plain hh.plain⟩,
        herror g bs e h e' hx hh.counted⟩
      · rw [hlearning.chainId_eq, hg.chainId_eq, Growth.asked_append, Transcript.chain?_append,
          Option.or_assoc]
      · rw [hh.chainId_eq]
        exact hg.signed
    · rw [hend] at hnone
      cases hnone
  · rw [hrun] at hg hx
    dsimp only
    rw [hok]
    exact ⟨g, bs, ⟨hg.grows, hg.chainId_eq, hg.signed, hg.booked⟩, hpost g bs a hx⟩

/-! ## Books -/

/-- The talk books transactions that are made from some artifacts; the counters go up for the
creations with an address, and for nothing else; and when it ends with a value, what it adds, what
it books and the value satisfy a condition. -/
def Books (t : Talk σ ε α) (who : Sender) (artifacts : List (Option Artifact))
    (given : Growth → List Booking → α → Prop) : Prop :=
  t.Posts who artifacts fun g bs x =>
    g.entered.counted = bs.filterMap Booking.counter? ∧ ∀ a ∈ x.toOption, given g bs a

variable {given : Growth → List Booking → α → Prop}

theorem Books.mono {given' : Growth → List Booking → α → Prop} (ht : t.Books who artifacts given)
    (h : ∀ g bs a, given g bs a → given' g bs a) : t.Books who artifacts given' :=
  Posts.mono ht fun g bs _ hx => ⟨hx.1, fun a ha => h g bs a (hx.2 a ha)⟩

theorem Books.pure {a : α} (h : given {} [] a) : (pure a : Talk σ ε α).Books who [] given :=
  Posts.pure ⟨rfl, by rintro _ ⟨⟩; exact h⟩

theorem Books.throw {e : ε} : (throw e : Talk σ ε α).Books who artifacts given :=
  Posts.throw ⟨rfl, by rintro _ ⟨⟩⟩

/-- **One talk after the other** keeps books if both do. -/
theorem Books.bind {given' : Growth → List Booking → β → Prop} (ht : t.Books who artifacts given)
    (hf : ∀ g bs a, given g bs a →
      (f a).Books who artifacts' fun h cs b => given' (g ++ h) (bs ++ cs) b) :
    (t >>= f).Books who (artifacts ++ artifacts') given' := by
  refine Posts.bind ht ?_ ?_
  · rintro g bs a ⟨hcounted, ha⟩
    refine Posts.mono (hf g bs a (ha a rfl)) ?_
    rintro h cs x ⟨hcounted', hx⟩
    refine ⟨?_, hx⟩
    rw [Growth.entered_append, Journal.counted_append, hcounted, hcounted', List.filterMap_append]
  · rintro g bs e ⟨hcounted, -⟩
    exact ⟨hcounted, by rintro _ ⟨⟩⟩

/-- A talk goes before another without a booking of its own. -/
theorem Books.before {given' : Growth → List Booking → β → Prop} (ht : t.Books who [] given)
    (hf : ∀ g bs a, given g bs a →
      (f a).Books who artifacts fun h cs b => given' (g ++ h) (bs ++ cs) b) :
    (t >>= f).Books who artifacts given' :=
  ht.bind hf

/-- A talk is followed by another that books nothing. -/
theorem Books.followed {given' : Growth → List Booking → β → Prop}
    (ht : t.Books who artifacts given)
    (hf : ∀ g bs a, given g bs a →
      (f a).Books who [] fun h cs b => given' (g ++ h) (bs ++ cs) b) :
    (t >>= f).Books who artifacts given' := by
  rw [← List.append_nil artifacts]
  exact ht.bind hf

/-- A talk that only looks keeps books: there is nothing to be kept. -/
theorem Consults.books (ht : t.Consults (·.isAside = true)) {post : Growth → α → Prop}
    (hpost : t.Ensures fun g x => ∀ a ∈ x.toOption, post g a) :
    t.Books who [] fun g bs a => bs = [] ∧ post g a := by
  refine Posts.mono (ht.posts hpost) ?_
  rintro g bs x ⟨rfl, hcounted, hx⟩
  exact ⟨hcounted, fun a ha => ⟨rfl, hx a ha⟩⟩

theorem books_report (e : Event) :
    (report e : Talk σ ε Unit).Books who [] fun g bs _ => g.asked = [] ∧ bs = [] := by
  refine Posts.mono (posts_enter (.event e)) ?_
  rintro _ _ _ ⟨rfl, rfl, rfl⟩
  exact ⟨rfl, fun _ _ => ⟨rfl, rfl⟩⟩

theorem books_get : (get : Talk σ ε (Session σ)).Books who [] fun _ bs _ => bs = [] := by
  have hget : (get : Talk σ ε (Session σ)).Ensures fun _ x => ∀ _ ∈ x.toOption, True :=
    quiet_get.mono fun _ _ _ _ _ => trivial
  exact (consults_get.books hget).mono fun _ _ _ h => h.1

theorem Books.mapError {h : ε → ε'} (ht : t.Books who artifacts given) :
    (t.mapError h).Books who artifacts given := by
  intro s
  obtain ⟨g, bs, hg, hcounted, hx⟩ := ht s
  rw [runFrom_mapError]
  rcases hrun : t.runFrom s with ⟨e | a, s'⟩
  · rw [hrun] at hg
    exact ⟨g, bs, ⟨hg.grows, hg.chainId_eq, hg.signed, hg.booked⟩, hcounted, by rintro _ ⟨⟩⟩
  · rw [hrun] at hg hx
    exact ⟨g, bs, ⟨hg.grows, hg.chainId_eq, hg.signed, hg.booked⟩, hcounted, hx⟩

end Talk
end LocalChain

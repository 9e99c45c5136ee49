import LocalChain.Proofs.Session.Consultations

/-!
# Inquiries and dealings

Most of what a client asks only tells it something: these are inquiries.  The rest of a transcript are
its `dealings`, transactions that are sent and calls.  A client inquires when it completes a request
and when it waits for a confirmation, so a request leads to one dealing at most, which is a transaction
that the request describes (`Client.dealings_send`).
-/

namespace LocalChain

/-- The request neither sends a transaction nor makes a call. -/
def Request.isInquiry : Request → Bool
  | call _ | sendRaw _ => false
  | _ => true

/-- What was asked apart from inquiries, in order. -/
def Transcript.dealings (h : Transcript) : Transcript :=
  h.filter (!·.1.isInquiry)

namespace Transcript

theorem dealings_append (h h' : Transcript) :
    dealings (h ++ h') = dealings h ++ dealings h' :=
  List.filter_append ..

theorem dealings_broadcast {h : Transcript} (hh : h.dealings = []) (raw : Bytes) (a : Answer) :
    dealings (h ++ [(.sendRaw raw, a)]) = [(.sendRaw raw, a)] := by
  rw [dealings_append, hh]
  rfl

theorem dealings_eq_nil {h : Transcript} (hh : ∀ e ∈ h, e.1.isInquiry = true) :
    h.dealings = [] := by
  refine List.filter_eq_nil_iff.mpr ?_
  intro e he
  rw [hh e he]
  exact Bool.false_ne_true

end Transcript

/-! ## What a request describes -/

/-- The transaction is one that the request describes, for a wallet: in everything that the request
names, apart from nonce, chain and fees. -/
structure TxRequest.Describes (r : TxRequest) (w : Wallet) (t : Transaction) : Prop where
  sender : ∀ account ∈ r.sender, account = w.address
  destination : r.destination = some t.destination
  value : r.value.getD 0 = t.value
  input : r.input.getD [] = t.input
  gasLimit : ∀ gas ∈ r.gasLimit, gas = t.gasLimit

/-- What is signed for a request is described by it. -/
theorem TxRequest.describes_of_sign {r : TxRequest} {w : Wallet} {raw : Bytes}
    (h : r.sign w = .ok raw) : ∃ t, r.Describes w t ∧ t.sign w.key = raw := by
  rw [sign, prepare] at h
  cases hbuild : r.build? with
  | none =>
    rw [hbuild] at h
    cases h
  | some t =>
    rw [hbuild] at h
    dsimp only at h
    split at h
    · rename_i hsender
      refine ⟨t, ?_, Except.ok.inj h⟩
      simp only [build?, Option.bind_eq_bind, Option.bind_eq_some_iff] at hbuild
      obtain ⟨nonce, -, gas, hgas, destination, hdestination, fee, -, hfields⟩ := hbuild
      obtain rfl := Option.some.inj hfields
      refine ⟨?_, hdestination, rfl, rfl, ?_⟩
      · intro account haccount
        rw [Option.mem_def.mp haccount] at hsender
        exact of_decide_eq_true hsender
      · intro gas' hgas'
        exact Option.some.inj (hgas'.symm.trans hgas)
    · cases h

/-! ## Talks that inquire -/

namespace Talk

variable {σ ε ε' α β : Type}

/-- The talk only inquires, and what it gives is of some kind. -/
def Inquires (t : Talk σ ε α) (given : α → Prop) : Prop :=
  t.Ensures fun g x => g.asked.dealings = [] ∧ ∀ a ∈ x.toOption, given a

variable {t : Talk σ ε α} {f : α → Talk σ ε β} {given : α → Prop} {given' : β → Prop}

theorem Inquires.pure {a : α} (ha : given a) : Inquires (pure a : Talk σ ε α) given := by
  refine Ensures.pure ⟨rfl, ?_⟩
  rintro _ ⟨⟩
  exact ha

theorem Inquires.bind (ht : t.Inquires given) (hf : ∀ a, given a → (f a).Inquires given') :
    (t >>= f).Inquires given' := by
  refine Ensures.bind ht ?_ ?_
  · rintro g a ⟨hg, ha⟩
    refine (hf a (ha a rfl)).mono ?_
    rintro h x ⟨hh, hx⟩
    exact ⟨by rw [Growth.asked_append, Transcript.dealings_append, hg, hh]; rfl, hx⟩
  · rintro g e ⟨hg, -⟩
    exact ⟨hg, fun _ hb => nomatch hb⟩

theorem Consults.inquires (ht : t.Consults (·.isInquiry = true)) : t.Inquires fun _ => True := by
  intro s
  obtain ⟨g, hg⟩ := ht s
  exact ⟨g, hg.grows, Transcript.dealings_eq_nil hg.asked, fun _ _ => trivial⟩

end Talk

namespace Client

variable {σ ε α : Type} (c : Client σ)

theorem inquires_need {r : Request} (hr : r.isInquiry = true) (decode : Json → Option α) :
    (c.need r decode).Inquires fun _ => True := by
  have hneed : (c.need r decode).Consults (·.isInquiry = true) := c.consults_need hr decode
  exact hneed.inquires

theorem inquires_takeNonce : c.takeNonce.Inquires fun _ => True := by
  have hnonce : c.takeNonce.Consults (·.isInquiry = true) := c.consults_takeNonce fun _ => rfl
  exact hnonce.inquires

theorem inquires_offer : c.offer.Inquires fun _ => True := by
  have hoffer : c.offer.Consults (·.isInquiry = true) := c.consults_offer rfl rfl
  exact hoffer.inquires

theorem inquires_confirm (hash : TxHash) : (c.confirm hash).Inquires fun _ => True := by
  have hconfirm : (c.confirm hash).Consults (·.isInquiry = true) := c.consults_confirm rfl rfl
  exact hconfirm.inquires

theorem inquires_ownChainId : c.ownChainId.Inquires fun _ => True := by
  refine Talk.consults_get.inquires.bind fun s _ => ?_
  cases s.chainId with
  | some id => exact .pure trivial
  | none =>
    refine (c.inquires_need rfl _).bind fun id _ => ?_
    exact fun s => ⟨{}, ⟨rfl, rfl⟩, rfl, fun _ _ => trivial⟩

/-- What is there already is not asked for. -/
theorem inquires_orElse {t : Talk σ ε α} (a : Option α) (ht : t.Inquires fun _ => True) :
    (orElse a t).Inquires fun b => ∀ a' ∈ a, a' = b := by
  cases a with
  | some a =>
    refine .pure ?_
    rintro _ ⟨⟩
    rfl
  | none =>
    refine ht.mono ?_
    rintro g x ⟨hg, -⟩
    exact ⟨hg, fun _ _ _ h => nomatch h⟩

/-- **A request is completed by inquiries**, and what it describes then, it describes before. -/
theorem inquires_complete (r : TxRequest) :
    (c.complete r).Inquires fun r' => ∀ t, r'.Describes c.wallet t → r.Describes c.wallet t := by
  refine (inquires_orElse _ c.inquires_takeNonce).bind fun nonce _ => ?_
  refine (inquires_orElse _ c.inquires_ownChainId).bind fun chainId _ => ?_
  have hsender : ∀ a ∈ r.sender, a ∈ (r.sender <|> some c.wallet.address) := by
    intro a ha
    rw [Option.mem_def.mp ha]
    rfl
  -- the gas limit comes last, whatever the fees are
  have hgas (q : TxRequest) (hq : ∀ t, q.Describes c.wallet t → r.Describes c.wallet t) : (do
      let gasLimit ← orElse q.gasLimit (c.need (.estimateGas q) Quantity.word64?)
      return { q with gasLimit := some gasLimit } : Talk σ (Stop ChainError) TxRequest).Inquires
        fun r' => ∀ t, r'.Describes c.wallet t → r.Describes c.wallet t := by
    refine (inquires_orElse _ (c.inquires_need rfl _)).bind fun gas hgas => .pure ?_
    intro t ht
    refine hq t ⟨ht.sender, ht.destination, ht.value, ht.input, ?_⟩
    intro gas' hgas'
    exact (hgas gas' hgas').trans (ht.gasLimit gas rfl)
  dsimp only
  split
  · refine hgas _ fun t ht => ?_
    exact ⟨fun a ha => ht.sender a (hsender a ha), ht.destination, ht.value, ht.input, ht.gasLimit⟩
  · refine c.inquires_offer.bind fun o _ => hgas _ fun t ht => ?_
    exact ⟨fun a ha => ht.sender a (hsender a ha), ht.destination, ht.value, ht.input, ht.gasLimit⟩

/-- The one dealing of a transcript is a broadcast of a transaction that the request describes, and
this is the answer to it. -/
def Deals (c : Client σ) (r : TxRequest) (h : Transcript) (answer : Answer) : Prop :=
  ∃ t, r.Describes c.wallet t ∧ h.dealings = [(.sendRaw (t.sign c.wallet.key), answer)]

/-- **A request leads to one dealing at most**, the broadcast of a transaction that it describes. -/
theorem dealings_send (r : TxRequest) :
    (c.send r).Ensures fun g x =>
      g.asked.dealings = [] ∧ x.toOption = none ∨
        ∃ answer, c.Deals r g.asked answer ∧ x.toOption = answer.value? TxHash.ofJson? := by
  refine Talk.Ensures.bind (c.inquires_complete r) ?_ ?_
  · rintro g r' ⟨hg, hr'⟩
    cases hsign : r'.sign c.wallet with
    | error e =>
      refine .throw (.inl ⟨?_, rfl⟩)
      rw [Growth.append_empty, hg]
    | ok raw =>
      obtain ⟨t, ht, rfl⟩ := TxRequest.describes_of_sign hsign
      have ht := hr' r' rfl t ht
      -- whatever comes back, this was put to the node
      refine (c.ensures_sendRaw _).mapError.bind ?_ ?_
      · rintro _ hash ⟨_ | x, ⟨answer, rfl, hanswer⟩, ⟨⟩⟩
        have hdealings := Transcript.dealings_broadcast hg (t.sign c.wallet.key) answer
        cases hash with
        | none => exact .throw (.inr ⟨answer, ⟨t, ht, hdealings⟩, hanswer⟩)
        | some hash => exact .pure (.inr ⟨answer, ⟨t, ht, hdealings⟩, hanswer⟩)
      · rintro _ e ⟨_ | x, ⟨answer, rfl, hanswer⟩, ⟨⟩⟩
        exact .inr ⟨answer, ⟨t, ht, Transcript.dealings_broadcast hg _ _⟩, hanswer⟩
  · rintro g e ⟨hg, -⟩
    exact .inl ⟨hg, rfl⟩

end Client
end LocalChain

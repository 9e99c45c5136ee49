import LocalChain.Proofs.Deployment.Accounts

/-!
# Bookkeeping of the steps

A client learns the chain once, and completes a transaction for the chain that it knows then.  So
each step of a deployment books one transaction at most: a creation with its artifact, and a call
without one.  A creation is counted when the receipt that confirms it names an address, and a call
is never counted.
-/

namespace LocalChain

/-! ## Completing and sending -/

namespace Client

open Talk (Learning)

variable {σ : Type} (c : Client σ)

/-- **The chain of a transaction is the one that the session knows then**: from before, or because
the node has named it. -/
theorem learns_ownChainId (known : Option UInt64) :
    c.ownChainId.Learns known fun now id => now = some id := by
  rintro s rfl
  rw [ownChainId, Talk.runFrom_bind, show (get : Talk σ (Stop ChainError) _).runFrom s = (.ok s, s)
    from rfl]
  dsimp only
  cases hchain : s.chainId with
  | some id =>
    refine ⟨{}, ⟨.refl s, rfl, ?_⟩, .nil, ?_⟩
    · exact Option.or_none.symm
    · rintro _ ⟨⟩
      exact hchain
  | none =>
    have hneed : (c.need .chainId Quantity.word64?).Consults (· = .chainId) :=
      c.consults_need (by rfl) _
    obtain ⟨g, hg, a, hasked, hvalue⟩ := hneed.and (c.ensures_need _ _) s
    have hplain : g.asked.Plain := by rw [hasked]; exact .singleton rfl
    have hnamed : g.asked.chain? = a.value? Quantity.word64? := by
      rw [hasked, Transcript.chain?, List.findSome?_singleton]
      rfl
    dsimp only
    rw [Talk.runFrom_bind]
    rcases hrun : (c.need .chainId Quantity.word64?).runFrom s with ⟨e | id, s'⟩
    · rw [hrun] at hg hvalue
      refine ⟨g, ⟨hg.grows, hg.counted, ?_⟩, hplain, ?_⟩
      · rw [hnamed, ← hvalue, hg.chainId_eq]
        exact Option.or_none.symm
      · rintro _ ⟨⟩
    · rw [hrun] at hg hvalue
      refine ⟨g, ⟨⟨hg.grows.asked, hg.grows.entered⟩, hg.counted, ?_⟩, hplain, ?_⟩
      · rw [hnamed, ← hvalue, hchain]
        rfl
      · rintro _ ⟨⟩
        rfl

/-- The broadcast of a transaction, which has to be answered. -/
def sendSigned (raw : Bytes) : Talk σ (Stop ChainError) TxHash := do
  match ← (c.sendRaw raw).stoppable with
  | some hash => return hash
  | none => throw .stuck

theorem consults_sendSigned (raw : Bytes) : (c.sendSigned raw).Consults (· = .sendRaw raw) := by
  have hsend : (c.sendRaw raw).Consults (· = .sendRaw raw) := c.consults_sendRaw rfl
  refine hsend.mapError.bind fun hash => ?_
  cases hash with
  | some hash => exact .pure
  | none => exact .throw

theorem ensures_sendSigned (raw : Bytes) :
    (c.sendSigned raw).Ensures fun g x =>
      ∃ a, g.asked = [(.sendRaw raw, a)] ∧ x.toOption = a.value? TxHash.ofJson? := by
  refine (c.ensures_sendRaw raw).mapError.bind ?_ ?_
  · rintro _ hash ⟨_ | x, ⟨answer, rfl, hanswer⟩, ⟨⟩⟩
    cases hash with
    | some hash => exact .pure ⟨answer, rfl, hanswer⟩
    | none => exact .throw ⟨answer, rfl, hanswer⟩
  · rintro _ e ⟨_ | x, ⟨answer, rfl, hanswer⟩, ⟨⟩⟩
    exact ⟨answer, rfl, hanswer⟩

end Client

namespace Deployer

open Talk (Learning)

variable {σ : Type} (d : Deployer σ) (t : PlannedTransaction)

/-- The planned transaction with what is asked for it. -/
def transaction (nonce chainId : UInt64) (o : Offer) : Transaction where
  nonce
  gasLimit := d.gasLimit
  destination := t.destination
  value := 0
  input := t.input
  fee := .capped chainId o.maxFee o.maxPriorityFee

theorem sign_completedRequest (nonce chainId : UInt64) (o : Offer) :
    (d.completedRequest t nonce chainId o).sign d.connection.client.wallet =
      .ok ((d.transaction t nonce chainId o).sign d.connection.client.wallet.key) := by
  simp [completedRequest, request, account, Connection.account, transaction, TxRequest.sign,
    TxRequest.prepare, TxRequest.build?, TxRequest.fee?, Except.map]

/-- **A transaction is completed for the chain that the session knows then.** -/
theorem learns_complete (known : Option UInt64) :
    (d.connection.client.complete (d.request t)).Learns known fun now r =>
      ∃ nonce chainId o, r = d.completedRequest t nonce chainId o ∧ now = some chainId := by
  have hnonce : d.connection.client.takeNonce.Consults (·.isAside = true) :=
    d.connection.client.consults_takeNonce fun _ => rfl
  have hoffer : d.connection.client.offer.Consults (·.isAside = true) :=
    d.connection.client.consults_offer rfl rfl
  rw [complete_request]
  refine hnonce.learns.bind fun before nonce _ => ?_
  refine (d.connection.client.learns_ownChainId before).bind fun known chainId hknown => ?_
  refine hoffer.learns.bind fun now o hnow => ?_
  exact .pure ⟨nonce, chainId, o, rfl, hnow.trans hknown⟩

/-- A request is sent in one broadcast of the completed transaction, if it is sent at all. -/
theorem learning_send (s : Session σ) :
    let ended := (d.connection.client.send (d.request t)).runFrom s
    ∃ g, Learning s ended.2 g ∧
      (g.asked.Plain ∧ ended.1.toOption = none ∨
        ∃ (before : Transcript) (answer : Answer) (nonce chainId : UInt64) (o : Offer),
          g.asked = before ++ [(.sendRaw ((d.transaction t nonce chainId o).sign
            d.connection.client.wallet.key), answer)] ∧
          before.Plain ∧ ended.2.chainId = some chainId ∧
          ended.1.toOption = answer.value? TxHash.ofJson?) := by
  intro ended
  obtain ⟨g, hg, hplain, hr⟩ := d.learns_complete t s.chainId s rfl
  have hended : ended = _ := Talk.runFrom_bind _ _ s
  rcases hrun : (d.connection.client.complete (d.request t)).runFrom s with ⟨e | r, s'⟩
  · rw [hrun] at hg hended
    rw [hended]
    exact ⟨g, hg, .inl ⟨hplain, rfl⟩⟩
  rw [hrun] at hg hr hended
  obtain ⟨nonce, chainId, o, rfl, hknown⟩ := hr r rfl
  simp only [d.sign_completedRequest] at hended
  -- what is left is the broadcast, and what its answer says
  replace hended : ended = (d.connection.client.sendSigned _).runFrom s' := hended
  obtain ⟨h, hh, answer, hasked, hanswer⟩ :=
    (d.connection.client.consults_sendSigned _).and
      (d.connection.client.ensures_sendSigned _) s'
  rw [← hended] at hh hanswer
  have hsent := hh.learning (by rintro _ rfl; exact nofun)
  refine ⟨g ++ h, hg.trans hsent, .inr ⟨g.asked, answer, nonce, chainId, o, ?_, hplain, ?_,
    hanswer⟩⟩
  · rw [Growth.asked_append, hasked]
  · rw [hh.chainId_eq, hknown]

/-! ## Steps -/

/-- One booking at most: with the receipt that a step ends with, and without one if it fails. -/
def Posted {ε : Type} (artifact : Option Artifact) (bs : List Booking) : Except ε Receipt → Prop
  | .ok receipt => ∃ b, bs = [b] ∧ b.artifact = artifact ∧ b.receipt = some receipt
  | .error _ => ∀ b ∈ bs, b.receipt = none

/-- The booking of a completed transaction. -/
def booking {artifact : Option Artifact} (hmade : MadeFrom artifact t.destination t.input)
    (nonce chainId : UInt64) (o : Offer) (receipt : Option Receipt) : Booking :=
  ⟨artifact, d.transaction t nonce chainId o, receipt, hmade⟩

/-- **A transaction that is sent and confirmed is booked**, with the receipt that it is confirmed
by. -/
theorem posts_sendAndConfirm {artifact : Option Artifact}
    (hmade : MadeFrom artifact t.destination t.input) :
    (d.sendAndConfirm (d.request t)).Posts d.sender [artifact] fun g bs x =>
      g.entered.counted = [] ∧ Posted artifact bs x := by
  intro s
  obtain ⟨g, hg, hsend⟩ := d.learning_send t s
  rw [sendAndConfirm, Talk.runFrom_bind]
  rcases hrun : (d.connection.client.send (d.request t)).runFrom s with ⟨e | hash, s'⟩
  · rw [hrun] at hg hsend
    rcases hsend with
      ⟨hplain, -⟩ | ⟨before, answer, nonce, chainId, o, hasked, hplain, hknown, hname⟩
    · exact ⟨g, [], ⟨hg.grows, hg.chainId_eq, by simp, .of_quiet hplain.quiet⟩, hg.counted,
        by simp [Posted]⟩
    · let b := d.booking t hmade nonce chainId o none
      have hbegun : Talk.Begun d.sender [b.artifact] g [b] :=
        .of_unnamed hasked hplain hname.symm rfl
      exact ⟨g, [b], ⟨hg.grows, hg.chainId_eq, by simpa using ⟨chainId, hknown, rfl⟩, hbegun⟩,
        hg.counted, by simp [Posted, b, booking]⟩
  · rw [hrun] at hg hsend
    rcases hsend with ⟨-, ⟨⟩⟩ | ⟨before, answer, nonce, chainId, o, hasked, hplain, hknown, hname⟩
    have hconfirm : (d.connection.client.confirm hash).Consults
        fun r => r = .receipt hash ∨ r = .blockNumber :=
      d.connection.client.consults_confirm (.inl rfl) (.inr rfl)
    obtain ⟨h, hh, hsettles⟩ :=
      hconfirm.and (d.connection.client.ensures_confirm_settles hash) s'
    have hlearning := hg.trans (hh.learning (by rintro _ (rfl | rfl) <;> exact nofun))
    have hfor : ((d.connection.client.confirm hash).runFrom s').2.chainId = some chainId :=
      hh.chainId_eq.trans hknown
    have hall : (g ++ h).asked = before ++ (.sendRaw ((d.transaction t nonce chainId o).sign
        d.connection.client.wallet.key), answer) :: h.asked := by
      rw [Growth.asked_append, hasked, List.append_assoc, List.singleton_append]
    dsimp only
    rcases hend : (d.connection.client.confirm hash).runFrom s' with ⟨e | receipt, s''⟩
    · rw [hend] at hlearning hsettles hfor
      let b := d.booking t hmade nonce chainId o none
      have hbegun : Talk.Begun d.sender [b.artifact] (g ++ h) [b] :=
        .of_unsettled hall hplain hname.symm hsettles rfl
      exact ⟨g ++ h, [b], ⟨hlearning.grows, hlearning.chainId_eq,
        by simpa using ⟨chainId, hfor, rfl⟩, hbegun⟩, hlearning.counted,
        by simp [Posted, b, booking]⟩
    · rw [hend] at hlearning hsettles hfor
      let b := d.booking t hmade nonce chainId o (some receipt)
      have hcomplete : Talk.Complete d.sender [b.artifact] (g ++ h) [b] :=
        .of_settled hall hplain hname.symm hsettles rfl
      exact ⟨g ++ h, [b], ⟨hlearning.grows, hlearning.chainId_eq,
        by simpa using ⟨chainId, hfor, rfl⟩, hcomplete⟩, hlearning.counted, b, rfl, rfl, rfl⟩

theorem consults_explain (label : String) (r : TxRequest) (error : ChainError) :
    (d.explain label r error).Consults (·.isAside = true) := by
  have hcall : (d.connection.client.call r).Consults (·.isAside = true) :=
    d.connection.client.consults_read (by rfl) _
  refine (Talk.consults_report _).bind fun _ => ?_
  refine hcall.attempt.bind fun _ => ?_
  exact (Talk.consults_report _).bind fun _ => .throw

/-- **A step is booked as its transaction is**, also when its failure is explained. -/
theorem posts_confirm (label : String) {artifact : Option Artifact}
    (hmade : MadeFrom artifact t.destination t.input) :
    (d.confirm label (d.request t)).Posts d.sender [artifact] fun g bs x =>
      g.entered.counted = [] ∧ Posted artifact bs x := by
  refine (d.posts_sendAndConfirm t hmade).recover (fun _ => rfl) (fun _ _ _ h => h) ?_ ?_ ?_
  · rintro (e | _ | _)
    · exact d.consults_explain label _ e
    · exact .throw
    · exact .throw
  · rintro (e | _ | _)
    · refine (d.ensures_explain label _ e).mono ?_
      rintro g (e | receipt) ⟨-, hx⟩
      · rfl
      · exact (hx receipt rfl).elim
    · exact .throw rfl
    · exact .throw rfl
  · rintro g bs e h e' ⟨hcounted, hposted⟩ hcounted'
    refine ⟨?_, hposted⟩
    rw [Growth.entered_append, Journal.counted_append, hcounted, hcounted']
    rfl

end Deployer

namespace Deployer

open Talk (Books)

variable {σ : Type} (d : Deployer σ)

/-- **A creation is booked with its artifact**, and counted when its receipt names an address. -/
theorem books_deploy (artifact : Artifact) (arguments : Bytes) :
    (d.deploy artifact arguments).Books d.sender [some artifact] fun _ bs address =>
      bs.map Booking.address? = [some address] := by
  have hmade : MadeFrom (some artifact) .create (artifact.bytecode ++ arguments) :=
    ⟨rfl, List.prefix_append _ _⟩
  refine Talk.Posts.followed (d.posts_confirm ⟨.create, _⟩ artifact.name hmade) ?_ ?_
  · rintro g bs receipt ⟨hcounted, b, rfl, hartifact, hreceipt⟩
    have haddress : b.address? = receipt.contract := by
      simp [Booking.address?, hartifact, hreceipt]
    cases hcontract : receipt.contract with
    | none =>
      refine Talk.Posts.throw ⟨?_, by rintro _ ⟨⟩⟩
      simp [hcounted, Booking.counter?, haddress, hcontract]
    | some address =>
      have hcounter : b.counter? = some (.deployed artifact.name) := by
        simp [Booking.counter?, hartifact, haddress, hcontract]
      refine .enter_bind (.enter_bind (.pure ⟨?_, ?_⟩))
      · simp only [Growth.entered_append, Journal.counted_append, hcounted, List.nil_append,
          List.append_nil, List.filterMap_cons, List.filterMap_nil, hcounter]
        rfl
      · rintro _ ⟨⟩
        simp [haddress, hcontract]
  · rintro g bs e ⟨hcounted, hnone⟩
    refine ⟨?_, by rintro _ ⟨⟩⟩
    rw [hcounted, Booking.counters_of_unconfirmed hnone]

/-- **A call is booked without an artifact**, and not counted. -/
theorem books_call (label : String) (contract : Address) (call : Contract.Call) :
    (d.call label contract call).Books d.sender [none] fun _ bs _ =>
      bs.map Booking.address? = [none] := by
  have hmade : MadeFrom none (.call contract) call.input := by rintro ⟨⟩
  refine Talk.Posts.followed (d.posts_confirm ⟨.call contract, _⟩ label hmade) ?_ ?_
  · rintro g bs receipt ⟨hcounted, b, rfl, hartifact, -⟩
    have hcounter : b.counter? = none := by simp [Booking.counter?, hartifact]
    have haddress : b.address? = none := by simp [Booking.address?, hartifact]
    refine .enter_bind (.pure ⟨?_, ?_⟩)
    · simp only [Growth.entered_append, Journal.counted_append, hcounted, List.nil_append,
        List.append_nil, List.filterMap_cons, List.filterMap_nil, hcounter]
      rfl
    · rintro _ ⟨⟩
      simp [haddress]
  · rintro g bs e ⟨hcounted, hnone⟩
    refine ⟨?_, by rintro _ ⟨⟩⟩
    rw [hcounted, Booking.counters_of_unconfirmed hnone]

/-- The look of an account at what a call of a contract returns. -/
def look (account contract : Address) (call : Contract.Call) : Request :=
  .call { sender := some account, destination := some (.call contract), input := some call.input }

/-- What a contract returns is read in one exchange. -/
theorem books_read {α : Type} (contract : Address) (call : Contract.Call)
    (decode : Bytes → Option α) :
    (d.read contract call decode).Books d.sender [] fun g bs a => bs = [] ∧
      ∃ answer, g.asked = [(look d.account contract call, answer)] ∧
        (answer.value? Quantity.bytes?).bind decode = some a := by
  have hread : (d.connection.client.read (look d.account contract call)
      Quantity.bytes?).Consults (·.isAside = true) :=
    d.connection.client.consults_read (by rfl) _
  refine Talk.Consults.books ?_ ?_
  · refine hread.mapError.bind fun output => ?_
    cases decode output with
    | some a => exact .pure
    | none => exact .throw
  · refine (d.connection.client.ensures_read (look d.account contract call) _).mapError.bind ?_ ?_
    · rintro g output ⟨_ | _, ⟨answer, hasked, hvalue⟩, ⟨⟩⟩
      cases hdecode : decode output with
      | none => exact .throw (by rintro _ ⟨⟩)
      | some a =>
        refine .pure ?_
        rintro _ ⟨⟩
        refine ⟨answer, by rw [Growth.append_empty, hasked], ?_⟩
        rw [← hvalue]
        exact hdecode
    · rintro g e - _ ⟨⟩

end Deployer
end LocalChain

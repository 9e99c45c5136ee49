import LocalChain.Command
import LocalChain.Node.Script
import LocalChain.Proofs.Issuance.Schedule
import LocalChain.Proofs.Session.Connections
import LocalChain.Proofs.Settings.Validity
import LocalChain.Proofs.Wire.Transfers

/-!
# The conversation of a run that issues transfers

What such a run asks its node is laid down stage by stage (`Spam.Conversation`): the chain; the
price of gas, unless it is configured; the account's transactions so far; and then the transfers,
one broadcast for each.  A stage whose answer gives no value is the last.  From the chain and the
price that the answers give, and the nonce, every broadcast is determined (`Spam.transaction`), so
no later answer has any influence on it.

The transfers themselves are settled by the answers to their broadcasts and by nothing else
(`TransferSender.submitAll_sink`).  `requests_run` says that these are the requests of the command,
for every node.
-/

namespace LocalChain

variable {σ : Type}

namespace Spam

/-- The transaction of the transfer at a place: at one price of gas, for one chain, without input.
-/
def transaction (plan : IssuancePlan) (chainId : UInt64) (price : Price) (base : UInt64)
    (place : Nat) : Transaction where
  nonce := .ofNat (base.toNat + place)
  gasLimit := plan.gasLimit
  destination := .call plan.recipient
  value := plan.value
  input := []
  fee := .legacy (some chainId) price

/-- The last stage: one broadcast for each transfer that there is a nonce for, in order. -/
def Broadcasts (plan : IssuancePlan) (w : Wallet) (chainId : UInt64) (price : Price)
    (base : UInt64) (h : Transcript) : Prop :=
  h.map (·.1) = (List.range (min plan.count.toNat (UInt64.size - base.toNat))).map fun i =>
    .sendRaw ((transaction plan chainId price base i).sign w.key)

/-- From the account's transactions on. -/
def Counting (plan : IssuancePlan) (w : Wallet) (chainId : UInt64) (price : Price)
    (h : Transcript) : Prop :=
  ∃ answer rest, h = (.transactionCount w.address false, answer) :: rest ∧
    match answer.value? Quantity.word64? with
    | none => rest = []
    | some base => Broadcasts plan w chainId price base rest

/-- From the price of gas on, which is asked for when it is not configured. -/
def Pricing (l : LoadSettings) (plan : IssuancePlan) (w : Wallet) (chainId : UInt64)
    (h : Transcript) : Prop :=
  match l.gasPriceWei with
  | some price => Counting plan w chainId (.ofNat 128 price.toNat) h
  | none =>
    ∃ answer rest, h = (.gasPrice, answer) :: rest ∧
      match answer.value? Client.price? with
      | none => rest = []
      | some price => Counting plan w chainId price rest

/-- The whole conversation of a run with a wallet. -/
def Conversation (s : Settings) (plan : IssuancePlan) (w : Wallet) (h : Transcript) : Prop :=
  ∃ answer rest, h = (.chainId, answer) :: rest ∧
    match s.rpc.acceptedChain? answer with
    | none => rest = []
    | some chainId => Pricing s.load plan w chainId rest

end Spam

/-! ## The transfers as the sink of a sender sends them -/

/-- What a transfer comes to by the answer to its broadcast: nothing as long as there is none. -/
def Answer.settlement? (a : Answer) : Option (Except ChainError TxHash) :=
  (a.read TxHash.ofJson?).map (Except.mapError RequestFailure.toChainError)

namespace TransferSender

variable (t : TransferSender σ) (plan : IssuancePlan) (base : UInt64)

/-- The broadcast of the transfer at a place. -/
def broadcast (place : Nat) : Request :=
  .sendRaw ((Spam.transaction plan t.connection.chainId t.gasPrice base place).sign
    t.connection.client.wallet.key)

/-- **A transfer is settled by the answer to its broadcast**, at once or never, and nothing but the
broadcast happens. -/
theorem submit_sink {place : Nat} {s : Session σ} {a : Answer} {n : σ}
    (h : t.connection.client.node.answer s.node (t.broadcast plan base place) = (a, n)) :
    t.sink.submit s (plan.transferAt base place) =
      (a.settlement?.map (Delayed.mk 0),
        { s with node := n, asked := (t.broadcast plan base place, a) :: s.asked }) := by
  have hsubmit : t.submit (plan.transferAt base place) = t.connection.client.sendRaw
      ((Spam.transaction plan t.connection.chainId t.gasPrice base place).sign
        t.connection.client.wallet.key) := by
    rw [submit, Connection.signTransfer_eq]
    rfl
  show (replyOf ((t.submit (plan.transferAt base place)).runFrom s).1,
    ((t.submit (plan.transferAt base place)).runFrom s).2) = _
  rw [hsubmit, Client.sendRaw, Talk.runFrom_bind, ← broadcast,
    t.connection.client.runFrom_reply _ _ h, Answer.settlement?]
  rcases a.read TxHash.ofJson? with _ | _ | hash <;> rfl

/-- **The transfers of a sender are settled by the answers to their broadcasts**, one after the
other. -/
theorem submitAll_sink (place count : Nat) (s : Session σ) :
    let h := t.connection.client.node.transcript s.node
      ((List.range' place count).map (t.broadcast plan base))
    (t.sink.submitAll (plan.transfersFrom base place count) s).1 =
        h.map (fun e => e.2.settlement?.map (Delayed.mk 0)) ∧
      s.GrowsBy { asked := h } (t.sink.submitAll (plan.transfersFrom base place count) s).2 := by
  induction count generalizing place s with
  | zero => exact ⟨rfl, .refl s⟩
  | succ count ih =>
    rcases hanswer : t.connection.client.node.answer s.node (t.broadcast plan base place)
      with ⟨a, n⟩
    have hfirst : s.GrowsBy { asked := [(t.broadcast plan base place, a)] }
        { s with node := n, asked := (t.broadcast plan base place, a) :: s.asked } := ⟨rfl, rfl⟩
    obtain ⟨hreplies, hgrows⟩ := ih (place + 1)
      { s with node := n, asked := (t.broadcast plan base place, a) :: s.asked }
    rw [Issuance.transfersFrom_succ, List.range'_succ, List.map_cons, Sink.submitAll,
      t.submit_sink plan base hanswer, Node.transcript, hanswer]
    exact ⟨congrArg (_ :: ·) hreplies, hfirst.trans hgrows⟩

theorem ensures_baseNonce :
    t.baseNonce.Ensures fun g x =>
      ∃ a, g.asked = [(.transactionCount t.connection.client.wallet.address false, a)] ∧
        x.toOption = a.value? Quantity.word64? :=
  t.connection.client.ensures_read _ _

/-- **A run of a sender asks for the account's transactions, and then sends.** -/
theorem grows_run (session : Session σ) :
    ∃ g, session.GrowsBy g (Issuance.run t.sink plan session).sink ∧
      Spam.Counting plan t.connection.client.wallet t.connection.chainId t.gasPrice g.asked := by
  obtain ⟨g, hg, a, hasked, hbase⟩ := t.ensures_baseNonce session
  have hvalue : (t.sink.baseNonce session).1.value = (t.baseNonce.runFrom session).1 := rfl
  -- the sink's first question is the read itself, so the two end with the same value
  cases h : (t.baseNonce.runFrom session).1 with
  | error e =>
    rw [Issuance.run_of_error t.sink plan (hvalue.trans h)]
    rw [h] at hbase
    exact ⟨g, hg, a, [], hasked, by rw [← hbase]; rfl⟩
  | ok base =>
    rw [Issuance.sink_run (hvalue.trans h)]
    rw [h] at hbase
    obtain ⟨-, hsent⟩ := t.submitAll_sink plan base 0
      (Issuance.startable base 0 plan.count.toNat) (t.sink.baseNonce session).2
    refine ⟨_, hg.trans hsent, a, _, by rw [Growth.asked_append, hasked]; rfl, ?_⟩
    rw [← hbase]
    refine (Node.map_fst_transcript ..).trans ?_
    rw [← List.range_eq_range']
    rfl

/-! ## The sender of the settings -/

/-- **The price is asked for once, unless it is given.** -/
theorem ensures_create (c : Connection σ) (price : Option Price) :
    (create c price).Ensures fun g x =>
      match price with
      | some price => g.asked = [] ∧ x = .ok ⟨c, price⟩
      | none =>
        ∃ a, g.asked = [(.gasPrice, a)] ∧
          x.toOption = (a.value? Client.price?).map fun price => ⟨c, price⟩ := by
  have hfixed (price : Price) :
      (do Talk.report (.gasPriceFixed price.toNat); return ⟨c, price⟩ :
        Talk σ ChainError (TransferSender σ)).Ensures
          fun g x => g.asked = [] ∧ x = .ok ⟨c, price⟩ := by
    refine (Talk.ensures_report _).bind_ok ?_
    rintro _ _ rfl
    exact .pure ⟨rfl, rfl⟩
  cases price with
  | some price => exact hfixed price
  | none =>
    refine (c.client.ensures_read .gasPrice Client.price?).bind ?_ ?_
    · rintro g price ⟨a, hasked, hprice⟩
      refine (hfixed price).mono ?_
      rintro h x ⟨hnone, rfl⟩
      refine ⟨a, by rw [Growth.asked_append, hasked, hnone]; rfl, ?_⟩
      rw [← hprice]
      rfl
    · rintro g e ⟨a, hasked, he⟩
      refine ⟨a, hasked, ?_⟩
      rw [← he]
      rfl

end TransferSender

/-! ## The command -/

namespace Spam

variable (node : Node σ) (s : Settings)

/-- Without a wallet there is no sender, and nothing is asked. -/
theorem ensures_openSender_of_error {e : ChainError} (hwallet : s.account.wallet = .error e) :
    (openSender node s).Ensures fun g x => g.asked = [] ∧ x.toOption = none := by
  have hconnect := Connection.ensures_connect node s
  rw [s.client?_of_no_wallet node hwallet] at hconnect
  refine hconnect.bind ?_ ?_
  · rintro g c ⟨-, ⟨⟩⟩
  · rintro g e ⟨hasked, -⟩
    exact ⟨hasked, rfl⟩

/-- **Opening a sender is the first part of the conversation**: all of it when there is none, and
otherwise the part before the account's transactions are counted. -/
theorem ensures_openSender (plan : IssuancePlan) {w : Wallet} (hurl : s.rpc.problems = [])
    (hwallet : s.account.wallet = .ok w) :
    (openSender node s).Ensures fun g x =>
      match x with
      | .error _ => Conversation s plan w g.asked
      | .ok sender =>
        sender.connection.client.wallet = w ∧
          ∀ h, Counting plan w sender.connection.chainId sender.gasPrice h →
            Conversation s plan w (g.asked ++ h) := by
  have hclient : s.client? node = some ⟨node, s.rpc, w⟩ := by
    rw [Settings.client?, RpcSettings.isUrl_of_valid hurl, hwallet]
    rfl
  have hconnect := Connection.ensures_connect node s
  rw [hclient] at hconnect
  refine hconnect.bind ?_ ?_
  · rintro g c ⟨a, hasked, hc⟩
    obtain ⟨id, hid, rfl⟩ : ∃ id, s.rpc.acceptedChain? a = some id ∧ ⟨⟨node, s.rpc, w⟩, id⟩ = c :=
      Option.map_eq_some_iff.mp hc.symm
    have hconversation (h : Transcript) (hpricing : Pricing s.load plan w id h) :
        Conversation s plan w (g.asked ++ h) :=
      ⟨a, h, by rw [hasked]; rfl, by rw [hid]; exact hpricing⟩
    refine (TransferSender.ensures_create _ _).mono ?_
    intro h x hx
    rw [Growth.asked_append]
    cases hprice : s.load.gasPriceWei with
    | some price =>
      rw [configuredPrice, hprice] at hx
      obtain ⟨hnone, rfl⟩ := hx
      refine ⟨rfl, fun k hk => ?_⟩
      rw [hnone, List.append_nil]
      exact hconversation k (by rw [Pricing, hprice]; exact hk)
    | none =>
      rw [configuredPrice, hprice] at hx
      obtain ⟨b, hb, hx⟩ := hx
      cases x with
      | error e =>
        have hnone : b.value? Client.price? = none := Option.map_eq_none_iff.mp hx.symm
        refine hconversation _ ?_
        rw [Pricing, hprice]
        exact ⟨b, [], hb, by rw [hnone]⟩
      | ok sender =>
        obtain ⟨price, hvalue, rfl⟩ : ∃ price, b.value? Client.price? = some price ∧ _ = sender :=
          Option.map_eq_some_iff.mp hx.symm
        refine ⟨rfl, fun k hk => ?_⟩
        rw [List.append_assoc]
        refine hconversation _ ?_
        rw [Pricing, hprice]
        exact ⟨b, k, by rw [hb]; rfl, by rw [hvalue]; exact hk⟩
  · rintro g e ⟨a, hasked, he⟩
    have hnone : s.rpc.acceptedChain? a = none := Option.map_eq_none_iff.mp he.symm
    exact ⟨a, [], hasked, by rw [hnone]⟩

variable {node s} {plan : IssuancePlan} (hplan : IssuancePlan.ofSettings s.load = some (.ok plan))
include hplan

theorem issue_eq :
    issue node s = (do
      let sender ← (openSender node s).mapError fun e => .failed (.chain e)
      Talk.ofFunction fun session =>
        let ended := Issuance.run sender.sink plan session
        (.ok ⟨sender.gasPrice, ended⟩, ended.sink)) := by
  rw [issue, Spam.plan, hplan]
  rfl

theorem ensures_issue_of_error {e : ChainError} (hwallet : s.account.wallet = .error e) :
    (issue node s).Ensures fun g _ => g.asked = [] := by
  rw [issue_eq hplan]
  refine (ensures_openSender_of_error node s hwallet).mapError.bind ?_ ?_
  · rintro g sender ⟨_ | _, ⟨-, ⟨⟩⟩, ⟨⟩⟩
  · rintro g e ⟨x, ⟨hasked, -⟩, -⟩
    exact hasked

theorem ensures_issue {w : Wallet} (hurl : s.rpc.problems = [])
    (hwallet : s.account.wallet = .ok w) :
    (issue node s).Ensures fun g _ => Conversation s plan w g.asked := by
  rw [issue_eq hplan]
  refine (ensures_openSender node s plan hurl hwallet).mapError.bind ?_ ?_
  · rintro g sender ⟨_ | _, hsender, ⟨⟩⟩
    obtain ⟨rfl, hconversation⟩ := hsender
    intro session
    obtain ⟨h, hgrows, hcounting⟩ := sender.grows_run plan session
    exact ⟨h, hgrows, hconversation h.asked hcounting⟩
  · rintro g e ⟨_ | _, hasked, ⟨⟩⟩
    exact hasked

omit hplan

/-- What is done with transfers that have been issued takes no request. -/
theorem ensures_run (asked : Transcript → Prop)
    (hissue : (issue node s).Ensures fun g _ => asked g.asked) :
    (run node s).Ensures fun g _ => asked g.asked := by
  refine hissue.bind ?_ fun _ _ hg => hg
  rintro g issued hg
  split
  · refine (Talk.ensures_enterAll _).bind_ok ?_
    rintro _ _ rfl
    exact .throw (by simpa using hg)
  · refine (Talk.ensures_enterAll _).bind_ok ?_
    rintro _ _ rfl
    refine (Talk.ensures_report _).mono ?_
    rintro _ _ ⟨_, -, rfl⟩
    simpa using hg

/-- **The requests of a run that issues transfers**, for settings without problems and any node,
in any session.  Without a wallet there are none; with one they are a conversation about the plan
of the settings. -/
theorem requests_run (node : Node σ) (s : Settings) (valid : s.problems = some []) :
    ∃ plan, IssuancePlan.ofSettings s.load = some (.ok plan) ∧ plan.count = s.load.count ∧
      ∀ session : Session σ, ∃ asked,
        ((run node s).runFrom session).2.requests = session.requests ++ asked ∧
          match s.account.wallet with
          | .error _ => asked = []
          | .ok w => Conversation s plan w asked := by
  obtain ⟨hurl, -, hload, -, -⟩ := s.problems_eq_nil_iff.mp valid
  obtain ⟨plan, hplan, hcount⟩ := IssuancePlan.ofSettings_of_valid hload
  refine ⟨plan, hplan, hcount, fun session => ?_⟩
  cases hwallet : s.account.wallet with
  | error e =>
    obtain ⟨g, hg, hnone⟩ := ensures_run (· = []) (ensures_issue_of_error hplan hwallet) session
    exact ⟨g.asked, hg.requests_eq, hnone⟩
  | ok w =>
    obtain ⟨g, hg, hconversation⟩ := ensures_run _ (ensures_issue hplan hurl hwallet) session
    exact ⟨g.asked, hg.requests_eq, hconversation⟩

/-- The default settings, with a node that refuses the second transfer and never answers the
third. -/
theorem requests_of_default_settings :
    ({} : Settings).problems = some [] ∧
      ∃ plan, IssuancePlan.ofSettings {} = some (.ok plan) ∧ plan.count = 10000 ∧
        ∀ session, ∃ asked,
          ((run (NodeScript.node { reject := [(1, -32000, "refused")], hangNonces := [2] })
            {}).runFrom session).2.requests = session.requests ++ asked ∧
            match AccountSettings.wallet {} with
            | .error _ => asked = []
            | .ok w => Conversation {} plan w asked :=
  ⟨Settings.problems_default, requests_run _ _ Settings.problems_default⟩

end Spam
end LocalChain

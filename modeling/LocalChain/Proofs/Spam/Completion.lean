import LocalChain.Proofs.Issuance.Immediate
import LocalChain.Proofs.Issuance.Log
import LocalChain.Proofs.Spam.Conversation

/-!
# How a run that issues transfers ends

Once its sender is there and the first nonce is known, such a run cannot fail for want of anything
but nonces.  It broadcasts its transfers, and whatever the node makes of them, it ends well
(`completion_run`).

A node answers a broadcast at once or never.  An answer settles its transfer
(`Answer.settlement?`): with the hash that the node gives, or with a failure, which for an error of
the node is a rejection with the node's code and message.  If the run waits at all after its last
transfer, all answers have arrived when the wait is over.  The log then has one outcome for each
answer, in the order of the transfers, and the counters stand at their numbers; the last event says
that all replies are there if no broadcast is without an answer, and that some are outstanding if
one is (`Completed`).
-/

namespace LocalChain

/-! ## What an answer makes of a transfer -/

namespace Answer

/-- The answer is the hash of a transaction. -/
def isTaken (a : Answer) : Bool :=
  (a.value? TxHash.ofJson?).isSome

/-- There is no answer. -/
def isSilence : Answer → Bool
  | silence => true
  | _ => false

/-- The answer is anything else. -/
def isRefusal (a : Answer) : Bool :=
  !a.isSilence && !a.isTaken

/-- **An error of the node is a rejection**, with its code and its message. -/
theorem settlement?_error (code : Int) (message : String) (data : Option Json) :
    (error code message data).settlement? = some (.error (.rejected code message)) := rfl

/-- An answer is silence, or it settles its transfer in one of two ways. -/
theorem settlement?_cases (a : Answer) :
    (a.settlement? = none ∧ a.isSilence = true ∧ a.isTaken = false ∧ a.isRefusal = false) ∨
    (∃ hash, a.settlement? = some (.ok hash) ∧
      a.isSilence = false ∧ a.isTaken = true ∧ a.isRefusal = false) ∨
    (∃ e, a.settlement? = some (.error e) ∧
      a.isSilence = false ∧ a.isTaken = false ∧ a.isRefusal = true) := by
  cases a with
  | silence => exact .inl ⟨rfl, rfl, rfl, rfl⟩
  | result v =>
    rw [settlement?, isRefusal, isTaken, value?, read]
    cases TxHash.ofJson? v with
    | none => exact .inr (.inr ⟨_, rfl, rfl, rfl, rfl⟩)
    | some hash => exact .inr (.inl ⟨hash, rfl, rfl, rfl, rfl⟩)
  | _ => exact .inr (.inr ⟨_, rfl, rfl, rfl, rfl⟩)

/-- The outcome of the transfer at a place by the answer to its broadcast; none as long as there is
none. -/
def outcome? (base : UInt64) (place : Nat) (a : Answer) : Option Outcome :=
  a.settlement?.map fun result => ⟨.ofNat place, .ofNat (base.toNat + place), result⟩

end Answer

namespace Transcript

/-- How many broadcasts are answered with a hash. -/
def taken (h : Transcript) : Nat :=
  h.countP (·.2.isTaken)

/-- How many are answered with anything else. -/
def refused (h : Transcript) : Nat :=
  h.countP (·.2.isRefusal)

/-- How many are not answered. -/
def unanswered (h : Transcript) : Nat :=
  h.countP (·.2.isSilence)

/-- The outcomes of the transfers from a place on, by what became of their broadcasts. -/
def outcomesFrom (base : UInt64) (place : Nat) (h : Transcript) : List Outcome :=
  (h.zipIdx place).filterMap fun e => e.1.2.outcome? base e.2

variable (base : UInt64) (place : Nat) (h : Transcript)

theorem outcomesFrom_cons (e : Exchange) :
    outcomesFrom base place (e :: h) =
      (e.2.outcome? base place).toList ++ outcomesFrom base (place + 1) h := by
  rw [outcomesFrom, List.zipIdx_cons, List.filterMap_cons]
  dsimp only
  cases e.2.outcome? base place <;> rfl

/-- **Each outcome is counted as its answer is.** -/
theorem counts_outcomesFrom :
    (outcomesFrom base place h).countP Outcome.isSent = h.taken ∧
    (outcomesFrom base place h).countP (!·.isSent) = h.refused ∧
    (outcomesFrom base place h).length + h.unanswered = h.length := by
  induction h generalizing place with
  | nil => exact ⟨rfl, rfl, rfl⟩
  | cons e h ih =>
    obtain ⟨hsent, hfailed, hlength⟩ := ih (place + 1)
    rw [outcomesFrom_cons, Answer.outcome?]
    simp only [List.countP_append, List.length_append, hsent, hfailed, taken, refused, unanswered,
      List.countP_cons, List.length_cons] at hlength ⊢
    rcases e.2.settlement?_cases with ⟨hnone, h1, h2, h3⟩ | ⟨hash, hsome, h1, h2, h3⟩ |
      ⟨error, hsome, h1, h2, h3⟩
    · simp [hnone, h1, h2, h3]
      omega
    · simp [hsome, h1, h2, h3, Outcome.isSent]
      omega
    · simp [hsome, h1, h2, h3, Outcome.isSent]
      omega

theorem taken_add_refused_add_unanswered : h.taken + h.refused + h.unanswered = h.length := by
  obtain ⟨hsent, hfailed, hlength⟩ := counts_outcomesFrom 0 0 h
  rw [← hlength, ← hsent, ← hfailed, List.length_eq_countP_add_countP Outcome.isSent]
  simp

end Transcript

variable {σ : Type}

/-! ## The transfers of a sender -/

namespace Issuance

/-- What is queued for transfers whose broadcasts have been answered. -/
theorem outcome_queued (plan : IssuancePlan) (base : UInt64) (beganMs place : Nat)
    (h : Transcript) :
    (queued plan base beganMs place
      (h.map fun e => e.2.settlement?.map (Delayed.mk 0))).map Pending.outcome =
        h.outcomesFrom base place := by
  induction h generalizing place with
  | nil => rfl
  | cons e h ih =>
    rw [List.map_cons, queued, List.map_append, ih, Transcript.outcomesFrom_cons, Answer.outcome?]
    cases e.2.settlement? <;> rfl

end Issuance

namespace TransferSender

/-- **A run of a sender that has nonces enough** starts all its transfers.  It asks for their
broadcasts and nothing else, and the answers are the outcomes that arrive, in the order of the
transfers; none of them is due after the run returns. -/
theorem settled_run (t : TransferSender σ) (plan : IssuancePlan) {opened known : Session σ}
    {base : UInt64} (hbase : t.baseNonce.runFrom opened = (.ok base, known))
    (hfit : base.toNat + plan.count.toNat ≤ UInt64.size) :
    let h := t.connection.client.node.transcript known.node
      ((List.range plan.count.toNat).map (t.broadcast plan base))
    let ended := Issuance.run t.sink plan opened
    (∃ summary, ended.result = .ok summary) ∧
      known.GrowsBy { asked := h } ended.sink ∧
      (Issuance.starts ended.fullHistory).length = h.length ∧
      (Issuance.arrivals ended.fullHistory).map (·.2) = h.outcomesFrom base 0 ∧
      ∀ p ∈ ended.pending, p.dueMs ≤ ended.returnedAtMs := by
  intro h ended
  have hvalue : (t.sink.baseNonce opened).1.value = .ok base := congrArg Prod.fst hbase
  have hknown : (t.sink.baseNonce opened).2 = known := congrArg Prod.snd hbase
  have hall : Issuance.startable base 0 plan.count.toNat = plan.count.toNat := by
    rw [Issuance.startable]
    omega
  have hresult : ended.result = _ := Issuance.result_run hvalue
  rw [if_pos (by omega)] at hresult
  obtain ⟨hreplies, hgrows⟩ := t.submitAll_sink plan base 0 plan.count.toNat known
  rw [← List.range_eq_range'] at hreplies hgrows
  have hsink : ended.sink = _ := Issuance.sink_run hvalue
  rw [hknown, hall] at hsink
  have hrun : Issuance.replies t.sink plan base opened =
      h.map (fun e => e.2.settlement?.map (Delayed.mk 0)) := by
    rw [Issuance.replies, Issuance.repliesUnderway, hall, hknown]
    exact hreplies
  have himmediate : Issuance.Immediate (Issuance.replies t.sink plan base opened) := by
    rw [hrun]
    intro reply hreply r hr
    obtain ⟨e, -, rfl⟩ := List.mem_map.mp hreply
    obtain ⟨result, -, rfl⟩ := Option.map_eq_some_iff.mp hr
    rfl
  refine ⟨⟨_, hresult⟩, hsink ▸ hgrows, ?_, ?_, Issuance.due_of_immediate hvalue himmediate⟩
  · rw [Issuance.starts_run hvalue, List.length_map, List.length_range, hall,
      Node.length_transcript, List.length_map, List.length_range]
  · rw [Issuance.arrivals_run_of_immediate hvalue himmediate, List.map_map, hrun]
    exact Issuance.outcome_queued plan base _ 0 h

end TransferSender

/-! ## The sender of a run -/

namespace TransferSender

theorem consults_create (c : Connection σ) (price : Option Price) :
    (create c price).Consults (· = .gasPrice) := by
  have hfixed (price : Price) : (do Talk.report (.gasPriceFixed price.toNat); return ⟨c, price⟩ :
      Talk σ ChainError (TransferSender σ)).Consults (· = .gasPrice) :=
    (Talk.consults_report _).bind fun _ => .pure
  cases price with
  | some price => exact hfixed price
  | none => exact (c.client.consults_read (by rfl) _).bind hfixed

/-- A sender keeps its connection. -/
theorem ensures_create_connection (c : Connection σ) (price : Option Price) :
    (create c price).Ensures fun _ x => ∀ t ∈ x.toOption, t.connection = c := by
  refine (ensures_create c price).mono ?_
  intro g x hx
  cases price with
  | some price =>
    obtain ⟨-, rfl⟩ := hx
    rintro _ ⟨⟩
    rfl
  | none =>
    obtain ⟨a, -, hx⟩ := hx
    intro t ht
    rw [hx] at ht
    obtain ⟨price, -, rfl⟩ := Option.map_eq_some_iff.mp ht
    rfl

end TransferSender

namespace Spam

/-- **Opening a sender counts nothing.** -/
theorem forgets_openSender (node : Node σ) (s : Settings) : (openSender node s).Forgets :=
  (Connection.forgets_connect node s).bind_consults fun c => TransferSender.consults_create c _

/-- A sender is for the configured node and account. -/
theorem client_of_openSender {node : Node σ} {s : Settings} {session : Session σ}
    {sender : TransferSender σ} (hopen : ((openSender node s).runFrom session).1 = .ok sender) :
    ∃ w, s.account.wallet = .ok w ∧ sender.connection.client = ⟨node, s.rpc, w⟩ := by
  cases hwallet : s.account.wallet with
  | error e =>
    obtain ⟨g, -, -, hnone⟩ := ensures_openSender_of_error node s hwallet session
    rw [hopen] at hnone
    cases hnone
  | ok w =>
    have hsender : (openSender node s).Ensures fun _ x =>
        ∀ t ∈ x.toOption, t.connection.client = ⟨node, s.rpc, w⟩ := by
      refine (Connection.ensures_connect_client node hwallet).bind ?_ ?_
      · rintro g c ⟨-, hc⟩
        refine (TransferSender.ensures_create_connection c _).mono ?_
        intro h x hx t ht
        rw [hx t ht]
        exact hc c rfl
      · rintro g e - t ⟨⟩
    obtain ⟨g, -, hclient⟩ := hsender session
    rw [hopen] at hclient
    exact ⟨w, rfl, hclient sender rfl⟩

/-! ## The end of the command -/

/-- Who waits at all after the run sees every reply that is due by then. -/
theorem drained_eq_fullHistory {e : Issuance.Ended (Session σ)} {drainMs : Nat}
    (hdrain : 0 < drainMs) (hdue : ∀ p ∈ e.pending, p.dueMs ≤ e.returnedAtMs) :
    drained drainMs e = e.fullHistory := by
  have hall : e.pending.takeWhile (·.dueMs < e.returnedAtMs + drainMs) = e.pending :=
    List.takeWhile_eq_self_iff.mpr fun p hp =>
      decide_eq_true (Nat.lt_of_le_of_lt (hdue p hp) (Nat.lt_add_of_pos_right hdrain))
  rw [drained, hall, Issuance.Ended.fullHistory]

variable {node : Node σ} {s : Settings} {session : Session σ}

theorem runFrom_issue {plan : IssuancePlan} {sender : TransferSender σ} {opened : Session σ}
    (hplan : IssuancePlan.ofSettings s.load = some (.ok plan))
    (hopen : (openSender node s).runFrom session = (.ok sender, opened)) :
    (issue node s).runFrom session =
      (.ok ⟨sender.gasPrice, Issuance.run sender.sink plan opened⟩,
        (Issuance.run sender.sink plan opened).sink) := by
  rw [issue_eq hplan, Talk.runFrom_bind, Talk.runFrom_mapError, hopen]
  rfl

/-- What is entered once all transfers are started. -/
def closing (drainTimeoutMs : UInt64) (e : Issuance.Ended (Session σ)) : Journal :=
  Issuance.journal true (drained drainTimeoutMs.toNat e) ++
    [.event (lastEvent drainTimeoutMs (drained drainTimeoutMs.toNat e))]

/-- **A run whose transfers are all started ends well**, with its history in the journal. -/
theorem runFrom_run {issued : Issued σ} {after : Session σ} {summary : Issuance.Summary}
    (hissue : (issue node s).runFrom session = (.ok issued, after))
    (hresult : issued.ended.result = .ok summary) :
    ∃ final, (run node s).runFrom session = (.ok (), final) ∧
      after.GrowsBy { entered := closing s.load.drainTimeoutMs issued.ended } final := by
  rw [run, Talk.runFrom_bind, hissue]
  simp only [hresult]
  refine ⟨_, rfl, rfl, ?_⟩
  simp [closing]

/-- **What is on record of a run that waits for replies**, by what became of its broadcasts. -/
structure Completed (base drainTimeoutMs : UInt64) (h : Transcript) (j : Journal) : Prop where
  scheduled : j.total .scheduled = h.length
  sent : j.total (.replied true) = h.taken
  failed : j.total (.replied false) = h.refused
  answered : j.total (.replied true) + j.total (.replied false) = h.length - h.unanswered
  allReplied : h.unanswered = 0 → j.events.getLast? = some (.allReplied h.taken h.refused)
  outstanding :
    0 < h.unanswered → j.events.getLast? = some (.repliesOutstanding drainTimeoutMs)
  outcomes : j.events.filter (·.outcome?.isSome) = (h.outcomesFrom base 0).map Outcome.event
  rejected : ∀ i r code message data, h[i]? = some (r, .error code message data) →
    .failed (.ofNat i) (.ofNat (base.toNat + i)) (.rejected code message) ∈ j.events

theorem mem_outcomesFrom {base : UInt64} {h : Transcript} {i : Nat} {e : Exchange} {o : Outcome}
    (he : h[i]? = some e) (ho : e.2.outcome? base i = some o) : o ∈ h.outcomesFrom base 0 :=
  List.mem_filterMap.mpr ⟨(e, i), List.mem_zipIdx_iff_getElem?.mpr he, ho⟩

section Closing

variable {e : Issuance.Ended (Session σ)} {base drainTimeoutMs : UInt64} {h : Transcript}

/-- The counts of outcomes by what became of their broadcasts. -/
theorem tally_of_arrivals
    (harrivals : (Issuance.arrivals e.fullHistory).map (·.2) = h.outcomesFrom base 0) :
    (Issuance.tally e.fullHistory).sent = h.taken ∧
      (Issuance.tally e.fullHistory).failed = h.refused := by
  obtain ⟨hsent, hfailed, -⟩ := h.counts_outcomesFrom base 0
  rw [Issuance.tally, harrivals, Tally.ofOutcomes_eq]
  exact ⟨hsent, hfailed⟩

variable (hdrain : drainTimeoutMs ≠ 0) (hdue : ∀ p ∈ e.pending, p.dueMs ≤ e.returnedAtMs)
include hdrain hdue

theorem closing_eq :
    closing drainTimeoutMs e = Issuance.journal true e.fullHistory ++
      [.event (lastEvent drainTimeoutMs e.fullHistory)] := by
  have hpos : 0 < drainTimeoutMs.toNat :=
    Nat.pos_of_ne_zero fun hzero => hdrain (UInt64.toNat_inj.mp hzero)
  rw [closing, drained_eq_fullHistory hpos hdue]

theorem total_closing (c : Counter) :
    (closing drainTimeoutMs e).total c = (Issuance.journal true e.fullHistory).total c := by
  rw [closing_eq hdrain hdue, Journal.total_append]
  rfl

theorem last_event_closing :
    (closing drainTimeoutMs e).events.getLast? = some (lastEvent drainTimeoutMs e.fullHistory) := by
  rw [closing_eq hdrain hdue, Journal.events, List.filterMap_append]
  exact List.getLast?_concat ..

/-- The last event is about no transfer by itself. -/
theorem outcome_events_closing :
    (closing drainTimeoutMs e).events.filter (·.outcome?.isSome) =
      ((Issuance.arrivals e.fullHistory).map (·.2)).map Outcome.event := by
  have hlast : (lastEvent drainTimeoutMs e.fullHistory).outcome? = none := by
    rw [lastEvent]
    split <;> rfl
  rw [closing_eq hdrain hdue, Journal.events, List.filterMap_append, List.filter_append,
    ← Journal.events, Issuance.outcome_events_journal, List.map_map]
  simp [hlast]

/-- The outcomes that arrive decide about everything that is on record. -/
theorem completed_closing
    (hstarts : (Issuance.starts e.fullHistory).length = h.length)
    (harrivals : (Issuance.arrivals e.fullHistory).map (·.2) = h.outcomesFrom base 0) :
    Completed base drainTimeoutMs h (closing drainTimeoutMs e) := by
  obtain ⟨htaken, hrefused⟩ := tally_of_arrivals harrivals
  have htotal := total_closing hdrain hdue
  have hlast := last_event_closing hdrain hdue
  have hevents := outcome_events_closing hdrain hdue
  rw [harrivals] at hevents
  have hsent : (closing drainTimeoutMs e).total (.replied true) = h.taken := by
    rw [htotal, Issuance.total_sent, htaken]
  have hfailed : (closing drainTimeoutMs e).total (.replied false) = h.refused := by
    rw [htotal, Issuance.total_failed, hrefused]
  have hall := h.taken_add_refused_add_unanswered
  have hcount : (Issuance.arrivals e.fullHistory).length + h.unanswered =
      (Issuance.starts e.fullHistory).length := by
    rw [hstarts, ← (h.counts_outcomesFrom base 0).2.2, ← harrivals, List.length_map]
  refine ⟨by rw [htotal, Issuance.total_scheduled, hstarts], hsent, hfailed, by omega,
    fun hnone => ?_, fun hsome => ?_, hevents, fun i r code message data hi => ?_⟩
  · rw [hlast, lastEvent, if_neg (by omega)]
    dsimp only
    rw [htaken, hrefused]
  · rw [hlast, lastEvent, if_pos (by omega)]
  · have houtcome : (Answer.error code message data).outcome? base i =
        some ⟨.ofNat i, .ofNat (base.toNat + i), .error (.rejected code message)⟩ := by
      rw [Answer.outcome?, Answer.settlement?_error]
      rfl
    have hevent := List.mem_map_of_mem (f := Outcome.event) (mem_outcomesFrom hi houtcome)
    rw [← hevents] at hevent
    exact List.mem_of_mem_filter hevent

end Closing

/-- **How a run that issues transfers ends.**  The settings have no problems; there is a sender,
whatever it took to open it, and the first nonce is known, with enough nonces for all transfers.
Then the run ends well.  Before its transfers nothing is counted; from then on its requests are the
broadcasts of the transfers, each once, with the answers that the node gives to them one after the
other.  If it waits for replies at all, these answers are what is on record. -/
theorem completion_run (node : Node σ) (s : Settings) (valid : s.problems = some [])
    {session opened known : Session σ} {sender : TransferSender σ} {base : UInt64}
    (hopen : (openSender node s).runFrom session = (.ok sender, opened))
    (hbase : sender.baseNonce.runFrom opened = (.ok base, known))
    (hfit : base.toNat + s.load.count.toNat ≤ UInt64.size) :
    ∃ plan w, IssuancePlan.ofSettings s.load = some (.ok plan) ∧ s.account.wallet = .ok w ∧
      let submissions := node.transcript known.node <| (List.range s.load.count.toNat).map fun i =>
        .sendRaw ((transaction plan sender.connection.chainId sender.gasPrice base i).sign w.key)
      ∃ final startup issuing,
        (run node s).runFrom session = (.ok (), final) ∧
        final.requests = known.requests ++ submissions ∧
        submissions.length = s.load.count.toNat ∧
        final.journal = session.journal ++ startup ++ issuing ∧
        startup.counted = [] ∧
        (s.load.drainTimeoutMs ≠ 0 →
          Completed base s.load.drainTimeoutMs submissions issuing) := by
  obtain ⟨-, -, hload, -, -⟩ := s.problems_eq_nil_iff.mp valid
  obtain ⟨plan, hplan, hcount⟩ := IssuancePlan.ofSettings_of_valid hload
  obtain ⟨w, hwallet, hclient⟩ := client_of_openSender (congrArg Prod.fst hopen)
  refine ⟨plan, w, hplan, hwallet, ?_⟩
  intro submissions
  have hbroadcast : sender.broadcast plan base = fun i => .sendRaw
      ((transaction plan sender.connection.chainId sender.gasPrice base i).sign w.key) := by
    funext i
    rw [TransferSender.broadcast, hclient]
  obtain ⟨⟨summary, hresult⟩, hsent, hstarts, harrivals, hdue⟩ :=
    sender.settled_run plan hbase (hcount ▸ hfit)
  rw [hbroadcast, hclient, hcount] at hsent hstarts harrivals
  obtain ⟨final, hfinal, hclosing⟩ := runFrom_run (runFrom_issue hplan hopen) hresult
  have hall := hsent.trans hclosing
  -- what comes before the transfers counts nothing
  obtain ⟨g, hg, hopened, -⟩ := forgets_openSender node s session
  have hconsults : sender.baseNonce.Consults fun _ => True :=
    sender.connection.client.consults_read trivial _
  obtain ⟨k, hk⟩ := hconsults opened
  rw [hopen] at hg
  rw [hbase] at hk
  have hstartup := hg.trans hk.grows
  refine ⟨final, (g ++ k).entered, closing s.load.drainTimeoutMs (Issuance.run sender.sink plan
    opened), hfinal, ?_, ?_, ?_, ?_, fun hdrain => ?_⟩
  · rw [hall.requests_eq, Growth.asked_append, List.append_nil]
  · rw [Node.length_transcript, List.length_map, List.length_range]
  · rw [hall.journal_eq, hstartup.journal_eq]
    rfl
  · rw [Growth.entered_append, Journal.counted_append, hopened, hk.counted]
    rfl
  · exact completed_closing hdrain hdue hstarts harrivals

/-! ## An answer of each kind -/

/-- A node that takes one transfer, refuses the next, and does not answer the third. -/
def oneOfEach : NodeScript where
  replies := [("eth_sendRawTransaction", [
    .answer (.result (.str "0x0000000000000000000000000000000000000000000000000000000000000001")),
    .answer (.error (-32000) "nonce too low" none),
    .answer .silence])]

/-- Settings for three transfers. -/
def threeTransfers : Settings where
  account :=
    { privateKey := some "0x0000000000000000000000000000000000000000000000000000000000000001" }
  load := { count := 3 }

theorem exists_wallet_threeTransfers : ∃ w, threeTransfers.account.wallet = .ok w := by
  have hread : threeTransfers.account.wallet.toOption.isSome = true := by decide +kernel
  obtain ⟨w, hw⟩ := Option.isSome_iff_exists.mp hread
  exact ⟨w, eq_ok_of_toOption hw⟩

/-- The sender that a wallet comes to. -/
def threeTransfersSender (w : Wallet) : TransferSender NodeState :=
  ⟨⟨⟨oneOfEach.node, threeTransfers.rpc, w⟩, 31337⟩, 1000000000⟩

theorem openSender_threeTransfers {w : Wallet} (hwallet : threeTransfers.account.wallet = .ok w) :
    ∃ opened known,
      (openSender oneOfEach.node threeTransfers).runFrom { node := oneOfEach.start } =
        (.ok (threeTransfersSender w), opened) ∧
      (threeTransfersSender w).baseNonce.runFrom opened = (.ok 0, known) ∧
      known.node = oneOfEach.start := by
  rw [openSender, Connection.connect, Connection.openClient, Connection.loadWallet, hwallet]
  exact ⟨_, _, rfl, rfl, rfl⟩

/-- One transfer is taken, one is refused, and the reply to one is outstanding: the run ends well,
and has the words of the node on record. -/
theorem completion_of_one_of_each :
    threeTransfers.problems = some [] ∧ ∃ (final : Session NodeState) (startup issuing : Journal),
      (run oneOfEach.node threeTransfers).runFrom { node := oneOfEach.start } = (.ok (), final) ∧
        final.journal = startup ++ issuing ∧ startup.counted = [] ∧
        issuing.total .scheduled = 3 ∧
        issuing.total (.replied true) = 1 ∧ issuing.total (.replied false) = 1 ∧
        issuing.events.getLast? = some (.repliesOutstanding 1000) ∧
        .failed 1 1 (.rejected (-32000) "nonce too low") ∈ issuing.events := by
  have valid : threeTransfers.problems = some [] := by decide +kernel
  obtain ⟨w, hwallet⟩ := exists_wallet_threeTransfers
  obtain ⟨opened, known, hopen, hbase, hnode⟩ := openSender_threeTransfers hwallet
  obtain ⟨plan, w', -, -, final, startup, issuing, hrun, -, -, hjournal, hstartup, hcompleted⟩ :=
    completion_run oneOfEach.node threeTransfers valid hopen hbase (by decide)
  rw [hnode] at hcompleted
  have h := hcompleted (by decide)
  refine ⟨valid, final, startup, issuing, hrun, hjournal, hstartup, h.scheduled, h.sent, h.failed,
    h.outstanding Nat.one_pos, ?_⟩
  exact h.rejected 1 _ _ _ none rfl

end Spam
end LocalChain

import LocalChain.Issuance.NonceCounter
import LocalChain.Issuance.Outcome
import LocalChain.Issuance.Plan

/-!
# Issuing transfers

A run asks its sink once for the first nonce and then starts one transfer per interval, whatever becomes
of the ones before. Replies arrive while the run goes on and after it; nothing is sent again, and no
nonce is skipped or used twice.

Time is counted in milliseconds. While a run waits for its next interval to end, the replies that are
due arrive. A reply that is due at once thus follows the start of its transfer, and the end of the run
if that transfer is the last.

A transfer is put to the sink when it is started, the last one too. Where starting it only hands it to a
task of its own, a program that ends at once, with no time for replies, may be gone before that task has
put the last transfer to the node; here it has.
-/

namespace LocalChain

/-- A value that comes after some time. -/
structure Delayed (α : Type) where
  afterMs : Nat
  value : α

/-- Where transfers are sent, with state `σ`. -/
structure Sink (σ : Type) where
  /-- The nonce of the account's next transaction. -/
  baseNonce : σ → Delayed (Except ChainError UInt64) × σ
  /-- The reply to a transfer; none when it never comes. -/
  submit : σ → Transfer → Option (Delayed (Except ChainError TxHash)) × σ

namespace Issuance

/-- Thirty years of 365 days, in milliseconds. -/
def longestWaitMs : Nat := 30 * 365 * 24 * 60 * 60 * 1000

/-- How long a wait between two starts lasts that is meant to last `ms`. None lasts for ever: one of more
than thirty years ends when thirty years are over, which shows because a run may be put on a clock that is
turned forward. The waits for a node are not cut so: a node answers in real time, where none lasts long
enough for it to show. -/
def waitMs (ms : Nat) : Nat := min ms longestWaitMs

/-- Something that happens in a run. -/
inductive Moment where
  | nonceUnknown (error : ChainError)
  | sending (plan : IssuancePlan) (baseNonce : UInt64)
  | started (atMs : Nat) (index : UInt64) (transfer : Transfer)
  | allStarted (count : UInt64)
  | resolved (atMs : Nat) (outcome : Outcome)

/-- A reply on its way. -/
structure Pending where
  dueMs : Nat
  outcome : Outcome

/-- A reply among others, in the order in which they are due, after those due at the same time. -/
def Pending.insert (p : Pending) : List Pending → List Pending
  | [] => [p]
  | q :: qs => if q.dueMs ≤ p.dueMs then q :: insert p qs else p :: q :: qs

/-- The arrival of a reply. -/
def Pending.moment (p : Pending) : Moment :=
  .resolved p.dueMs p.outcome

/-- What a run reports once everything is started. -/
structure Summary where
  baseNonce : UInt64
  scheduled : UInt64
  elapsedMs : Nat
  deriving DecidableEq

/-- A run that has ended. -/
structure Ended (σ : Type) where
  result : Except ChainError Summary
  returnedAtMs : Nat
  /-- What happened before the end, in order. -/
  history : List Moment
  /-- The replies still on their way, in the order in which they are due. -/
  pending : List Pending
  sink : σ

/-- The same end with something that happened before. -/
def Ended.after {σ : Type} (before : List Moment) (e : Ended σ) : Ended σ :=
  { e with history := before ++ e.history }

variable {σ : Type}

/-- Starts `left` more transfers, the first of them now. -/
def continueRun (sink : Sink σ) (plan : IssuancePlan) (beganMs : Nat) :
    (left : Nat) → (nowMs : Nat) → (index : UInt64) → NonceCounter → List Pending → σ → Ended σ
  | 0, nowMs, _, nonces, pending, s =>
    { result := .ok ⟨nonces.base, plan.count, nowMs - beganMs⟩
      returnedAtMs := nowMs
      history := [.allStarted plan.count]
      pending
      sink := s }
  | left + 1, nowMs, index, nonces, pending, s =>
    match nonces.take with
    | (.error e, _) =>
      { result := .error e, returnedAtMs := nowMs, history := [], pending, sink := s }
    | (.ok nonce, nonces) =>
      let transfer := plan.transfer nonce
      let (reply, s) := sink.submit s transfer
      let pending := match reply with
        | none => pending
        | some r => Pending.insert ⟨nowMs + r.afterMs, ⟨index, nonce, r.value⟩⟩ pending
      let started := Moment.started nowMs index transfer
      if left = 0 then
        (continueRun sink plan beganMs left nowMs (index + 1) nonces pending s).after [started]
      else
        let nextMs := nowMs + waitMs plan.intervalMs.toNat
        let (due, pending) := pending.span (·.dueMs ≤ nextMs)
        (continueRun sink plan beganMs left nextMs (index + 1) nonces pending s).after
          (started :: due.map Pending.moment)

/-- A run of a plan. -/
def run (sink : Sink σ) (plan : IssuancePlan) (s : σ) : Ended σ :=
  let (base, s) := sink.baseNonce s
  match base.value with
  | .error e =>
    { result := .error e
      returnedAtMs := base.afterMs
      history := [.nonceUnknown e]
      pending := []
      sink := s }
  | .ok nonce =>
    (continueRun sink plan base.afterMs plan.count.toNat base.afterMs 0 (.start nonce) [] s).after
      [.sending plan nonce]

/-- Everything that happens in a run and after it, until no reply is on its way. -/
def Ended.fullHistory (e : Ended σ) : List Moment :=
  e.history ++ e.pending.map Pending.moment

namespace Moment

/-- The transfer that is started, and when. -/
def start? : Moment → Option (Nat × Transfer)
  | started atMs _ transfer => some (atMs, transfer)
  | _ => none

/-- The outcome that arrives, and when. -/
def arrival? : Moment → Option (Nat × Outcome)
  | resolved atMs outcome => some (atMs, outcome)
  | _ => none

/-- What is entered in the journal. Outcomes are entered only when somebody listens to them. -/
def entries (listening : Bool) : Moment → Journal
  | nonceUnknown e => [.event (.nonceUnknown e)]
  | sending plan baseNonce =>
    [.event (.sending plan.count plan.intervalMs baseNonce plan.recipient)]
  | started _ index transfer =>
    [.event (.scheduling index transfer.nonce), .count .scheduled]
  | allStarted count => [.event (.allScheduled count)]
  | resolved _ outcome => if listening then outcome.entries else []

end Moment

/-- The transfers of a history in the order of their start, with the time of it. -/
def starts (h : List Moment) : List (Nat × Transfer) :=
  h.filterMap Moment.start?

/-- The outcomes of a history in the order of arrival, with the time of it. -/
def arrivals (h : List Moment) : List (Nat × Outcome) :=
  h.filterMap Moment.arrival?

/-- The count of the outcomes of a history. -/
def tally (h : List Moment) : Tally :=
  .ofOutcomes ((arrivals h).map (·.2))

/-- The journal of a history. -/
def journal (listening : Bool) (h : List Moment) : Journal :=
  h.flatMap (Moment.entries listening)

end Issuance
end LocalChain

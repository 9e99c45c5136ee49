import LocalChain.Issuance.Run
import LocalChain.Proofs.Issuance.Nonces
import Mathlib.Data.List.TakeDrop

/-!
# The course of a run

A run is at one of its transfers: so many have been started, so many are left (`underway`).  What
it does there is one of three things, whatever the sink is.  It ends because no nonce is left
(`underway_exhausted`); it starts its last transfer and ends (`underway_last`); or it starts a
transfer, waits, and is at the next one (`underway_next`).  Everything that holds of a whole run
is an induction over these three.

The transfers themselves, and when each of them starts, are known in advance (`transferAt`,
`startMs`).  What the sink makes of a list of transfers handed to it one after the other is
`Sink.submitAll`.
-/

namespace LocalChain

/-- The transfer at a place of a run whose first nonce is `base`. -/
def IssuancePlan.transferAt (p : IssuancePlan) (base : UInt64) (place : Nat) : Transfer :=
  p.transfer (.ofNat (base.toNat + place))

theorem IssuancePlan.toNat_nonce_transferAt (p : IssuancePlan) {base : UInt64} {place : Nat}
    (h : base.toNat + place < UInt64.size) :
    (p.transferAt base place).nonce.toNat = base.toNat + place :=
  UInt64.toNat_ofNat_of_lt' h

/-- The transfers at `count` places from `place` on. -/
def IssuancePlan.transfersFrom (p : IssuancePlan) (base : UInt64) (place count : Nat) :
    List Transfer :=
  (List.range' place count).map (p.transferAt base)

/-- The replies of a sink to transfers that are handed to it in order, and its state after them. -/
def Sink.submitAll {σ : Type} (sink : Sink σ) :
    List Transfer → σ → List (Option (Delayed (Except ChainError TxHash))) × σ
  | [], s => ([], s)
  | t :: ts, s =>
    let (reply, s) := sink.submit s t
    let (replies, s) := submitAll sink ts s
    (reply :: replies, s)

namespace Issuance

variable {σ : Type}

/-! ## Places, times and nonces -/

/-- When the transfer at a place starts, in a run that began at `beganMs`. -/
def startMs (plan : IssuancePlan) (beganMs place : Nat) : Nat :=
  beganMs + place * waitMs plan.intervalMs.toNat

@[simp] theorem startMs_zero (plan : IssuancePlan) (beganMs : Nat) :
    startMs plan beganMs 0 = beganMs := by
  simp [startMs]

theorem startMs_succ (plan : IssuancePlan) (beganMs place : Nat) :
    startMs plan beganMs (place + 1) =
      startMs plan beganMs place + waitMs plan.intervalMs.toNat := by
  rw [startMs, startMs, Nat.succ_mul, Nat.add_assoc]

theorem startMs_mono (plan : IssuancePlan) (beganMs : Nat) {i j : Nat} (h : i ≤ j) :
    startMs plan beganMs i ≤ startMs plan beganMs j :=
  Nat.add_le_add_left (Nat.mul_le_mul_right _ h) _

/-- How many of `left` transfers get a nonce when `place` nonces from `base` on are taken. -/
def startable (base : UInt64) (place left : Nat) : Nat :=
  min left (UInt64.size - (base.toNat + place))

/-! ## The end of a run, extended to the front -/

section After

variable (before : List Moment) (e : Ended σ)

@[simp] theorem Ended.after_result : (e.after before).result = e.result := rfl

@[simp] theorem Ended.after_returnedAtMs : (e.after before).returnedAtMs = e.returnedAtMs := rfl

@[simp] theorem Ended.after_sink : (e.after before).sink = e.sink := rfl

@[simp] theorem Ended.fullHistory_after :
    (e.after before).fullHistory = before ++ e.fullHistory := by
  simp [Ended.fullHistory, Ended.after]

end After

/-! ## The three things a run can do -/

/-- The replies on their way once the transfer at a place has been started at its time. -/
def enqueue (plan : IssuancePlan) (base : UInt64) (beganMs place : Nat)
    (reply : Option (Delayed (Except ChainError TxHash))) (pending : List Pending) :
    List Pending :=
  match reply with
  | none => pending
  | some r =>
    Pending.insert
      ⟨startMs plan beganMs place + r.afterMs,
        ⟨.ofNat place, (plan.transferAt base place).nonce, r.value⟩⟩ pending

/-- The start of the transfer at a place. -/
def startAt (plan : IssuancePlan) (base : UInt64) (beganMs place : Nat) : Moment :=
  .started (startMs plan beganMs place) (.ofNat place) (plan.transferAt base place)

variable (sink : Sink σ) (plan : IssuancePlan) (base : UInt64) (beganMs : Nat)

/-- A run that has started `place` transfers and has `left` more to start, the first of them now. -/
def underway (left place : Nat) (pending : List Pending) (s : σ) : Ended σ :=
  continueRun sink plan beganMs left (startMs plan beganMs place) (.ofNat place)
    (.advanced base place) pending s

variable {sink plan base beganMs} {left place : Nat} {pending : List Pending} {s : σ}

/-- A run without a nonce ends with an error. -/
theorem underway_exhausted (h : UInt64.size ≤ base.toNat + place) :
    underway sink plan base beganMs (left + 1) place pending s =
      { result := .error .nonceExhausted
        returnedAtMs := startMs plan beganMs place
        history := []
        pending
        sink := s } := by
  simp only [underway, continueRun, NonceCounter.take_exhausted h]

/-- A run with one transfer left starts it and ends well. -/
theorem underway_last (h : base.toNat + place < UInt64.size) :
    underway sink plan base beganMs 1 place pending s =
      { result := .ok ⟨base, plan.count, startMs plan beganMs place - beganMs⟩
        returnedAtMs := startMs plan beganMs place
        history := [startAt plan base beganMs place, .allStarted plan.count]
        pending :=
          enqueue plan base beganMs place (sink.submit s (plan.transferAt base place)).1 pending
        sink := (sink.submit s (plan.transferAt base place)).2 } := by
  simp only [underway, continueRun, NonceCounter.take_advanced h]
  rfl

/-- A run with more transfers left starts one, lets the replies arrive that are due before the next,
and goes on. -/
theorem underway_next (h : base.toNat + place < UInt64.size) :
    underway sink plan base beganMs (left + 2) place pending s =
      let answer := sink.submit s (plan.transferAt base place)
      let queue := enqueue plan base beganMs place answer.1 pending
      let isDue (p : Pending) : Bool := p.dueMs ≤ startMs plan beganMs (place + 1)
      (underway sink plan base beganMs (left + 1) (place + 1) (queue.dropWhile isDue)
        answer.2).after
        (startAt plan base beganMs place :: (queue.takeWhile isDue).map Pending.moment) := by
  simp only [underway, startMs_succ, UInt64.ofNat_add]
  rw [continueRun, NonceCounter.take_advanced h]
  simp only [List.span_eq_takeWhile_dropWhile, if_neg (Nat.succ_ne_zero left)]
  rfl

/-! ## Whole runs -/

variable (sink plan)

/-- A run without transfers ends at once. -/
theorem underway_zero (base : UInt64) (beganMs : Nat) (pending : List Pending) (s : σ) :
    underway sink plan base beganMs 0 0 pending s =
      { result := .ok ⟨base, plan.count, 0⟩
        returnedAtMs := beganMs
        history := [.allStarted plan.count]
        pending
        sink := s } := by
  simp only [underway, continueRun, startMs_zero, Nat.sub_self, NonceCounter.advanced_base]

/-- A run whose first nonce is unknown ends with the error, once that is known. -/
theorem run_of_error {s : σ} {error : ChainError}
    (h : (sink.baseNonce s).1.value = .error error) :
    run sink plan s =
      { result := .error error
        returnedAtMs := (sink.baseNonce s).1.afterMs
        history := [.nonceUnknown error]
        pending := []
        sink := (sink.baseNonce s).2 } := by
  simp only [run, h]

/-- A run with a first nonce begins when that is known, with all its transfers left. -/
theorem run_of_ok {s : σ} {base : UInt64} (h : (sink.baseNonce s).1.value = .ok base) :
    run sink plan s =
      (underway sink plan base (sink.baseNonce s).1.afterMs plan.count.toNat 0 []
        (sink.baseNonce s).2).after [.sending plan base] := by
  simp only [run, h, underway, startMs_zero, NonceCounter.advanced_zero]
  rfl

end Issuance
end LocalChain

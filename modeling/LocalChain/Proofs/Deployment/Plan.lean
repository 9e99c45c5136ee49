import LocalChain.Proofs.Session.Times

/-!
# Plans of transactions

A plan says which transactions are to be sent, one after the other.  What comes next may depend on
the receipts of those before, and on the time at which it comes; there may also be nothing that
comes next, when a receipt lacks something that is needed.

`Plan.Carried` says how far a transcript carries a plan from a time on: its broadcasts are the first
transactions of the plan, signed, and every one of them except the last is confirmed before the next
is sent.  A transaction is planned for the second at which it is sent, and this is known, as time
passes only while a confirmation is waited for.  A talk that `Pursues` a plan carries it as far as it
gets, and all the way when it ends well.
-/

namespace LocalChain

/-- A transaction as far as it can be planned.  It carries no value. -/
structure PlannedTransaction where
  destination : Destination
  input : Bytes
  deriving DecidableEq

/-- Transactions one after the other, with a result. -/
inductive Plan (α : Type) where
  | done (result : α)
  /-- There is nothing that could come next. -/
  | stop
  /-- A transaction, which may depend on the second at which it comes, and what its receipt leads
  to. -/
  | send (transaction : (nowSecs : Nat) → PlannedTransaction) (next : Receipt → Plan α)

namespace Plan

variable {α β : Type}

/-- A plan and then the plan for its result. -/
def bind : Plan α → (α → Plan β) → Plan β
  | done a, k => k a
  | stop, _ => stop
  | send t next, k => send t fun receipt => (next receipt).bind k

instance : Monad Plan where
  pure := done
  bind := bind

theorem bind_pure (p : Plan α) : p >>= pure = p := by
  induction p with
  | done a => rfl
  | stop => rfl
  | send t next ih => exact congrArg (send t) (funext ih)

end Plan

/-- Who sends the transactions of a plan, and how. -/
structure Sender where
  wallet : Wallet
  /-- The gas that each transaction may use. -/
  gasLimit : UInt64
  /-- The blocks that must follow a transaction before the next is sent. -/
  required : Nat
  /-- The time from one poll for a receipt to the next. -/
  intervalMs : Nat

/-- The bytes are the planned transaction as the sender signs it, with some nonce, chain and fees.
-/
def Sender.Signs (s : Sender) (t : PlannedTransaction) (raw : Bytes) : Prop :=
  ∃ nonce chainId maxFee maxPriorityFee,
    raw = Transaction.sign
      { nonce, gasLimit := s.gasLimit, destination := t.destination, value := 0, input := t.input
        fee := .capped chainId maxFee maxPriorityFee } s.wallet.key

/-- What became of a planned transaction that was sent. -/
structure Sending where
  /-- The second at which it was sent. -/
  atSecs : Nat
  /-- The receipt that confirms it, if the wait for that ended well. -/
  receipt : Option Receipt

namespace Plan

variable {α β : Type} (s : Sender)

/-- **How far a transcript carries a plan from a time on**: to its result, with the time then, or only
so far that there is none.  Between the broadcasts, one for each sending, nothing else is broadcast. -/
inductive Carried :
    (now : Clock) → Plan α → Transcript → List Sending → Option (α × Clock) → Prop where
  /-- All transactions have been confirmed. -/
  | finished {now : Clock} {a : α} {h : Transcript} (quiet : h.broadcasts = []) :
      Carried now (done a) h [] (some (a, now))
  /-- No more transactions are sent. -/
  | stopped {now : Clock} {p : Plan α} {h : Transcript} (quiet : h.broadcasts = []) :
      Carried now p h [] none
  /-- A transaction is sent, and is the last. -/
  | unconfirmed {now : Clock} {t : Nat → PlannedTransaction} {next : Receipt → Plan α}
      {before after : Transcript} {raw : Bytes} {answer : Answer} (quiet : before.broadcasts = [])
      (signed : s.Signs (t now.nowSecs) raw) (quietAfter : after.broadcasts = []) :
      Carried now (send t next) (before ++ (.sendRaw raw, answer) :: after) [⟨now.nowSecs, none⟩] none
  /-- A transaction is sent and confirmed, and the next ones can follow when that has taken its time. -/
  | confirmed {now : Clock} {t : Nat → PlannedTransaction} {next : Receipt → Plan α}
      {before looks rest : Transcript} {raw : Bytes} {answer : Answer} {hash : TxHash}
      {receipt : Receipt} {sent : List Sending} {result : Option (α × Clock)}
      (quiet : before.broadcasts = []) (signed : s.Signs (t now.nowSecs) raw)
      (taken : answer.value? TxHash.ofJson? = some hash)
      (seen : Client.Confirmed s.required hash receipt looks)
      (carried : Carried (now.later (looks.waitedMs s.intervalMs)) (next receipt) rest sent result) :
      Carried now (send t next) (before ++ (.sendRaw raw, answer) :: (looks ++ rest))
        (⟨now.nowSecs, some receipt⟩ :: sent) result

namespace Carried

variable {s} {now later : Clock} {p : Plan α} {h h' : Transcript} {sent sent' : List Sending}
  {result : Option (α × Clock)}

theorem after_quiet (hquiet : h.broadcasts = []) (hp : p.Carried s now h' sent result) :
    p.Carried s now (h ++ h') sent result := by
  cases hp with
  | finished quiet => exact .finished (Transcript.broadcasts_append_eq_nil hquiet quiet)
  | stopped quiet => exact .stopped (Transcript.broadcasts_append_eq_nil hquiet quiet)
  | unconfirmed quiet signed quietAfter =>
    rw [← List.append_assoc]
    exact .unconfirmed (Transcript.broadcasts_append_eq_nil hquiet quiet) signed quietAfter
  | confirmed quiet signed taken seen carried =>
    rw [← List.append_assoc]
    exact .confirmed (Transcript.broadcasts_append_eq_nil hquiet quiet) signed taken seen carried

theorem before_quiet (hp : p.Carried s now h sent none) (hquiet : h'.broadcasts = []) :
    p.Carried s now (h ++ h') sent none := by
  generalize hr : (none : Option (α × Clock)) = result at hp
  induction hp with
  | finished => cases hr
  | stopped quiet => exact .stopped (Transcript.broadcasts_append_eq_nil quiet hquiet)
  | unconfirmed quiet signed quietAfter =>
    rw [List.append_assoc]
    exact .unconfirmed quiet signed (Transcript.broadcasts_append_eq_nil quietAfter hquiet)
  | confirmed quiet signed taken seen _ ih =>
    rw [List.append_assoc, List.cons_append, List.append_assoc]
    exact .confirmed quiet signed taken seen (ih hr)

/-- **One plan after the other**, from the time on at which the first has been carried out. -/
theorem bind {a : α} {k : α → Plan β} {result : Option (β × Clock)}
    (hp : p.Carried s now h sent (some (a, later))) (hk : (k a).Carried s later h' sent' result) :
    (p >>= k).Carried s now (h ++ h') (sent ++ sent') result := by
  -- only a plan that was carried to its end goes on
  generalize hr : some (a, later) = r at hp
  induction hp with
  | finished quiet =>
    cases hr
    exact hk.after_quiet quiet
  | stopped => cases hr
  | unconfirmed => cases hr
  | confirmed quiet signed taken seen _ ih =>
    rw [List.append_assoc, List.cons_append, List.append_assoc]
    exact .confirmed quiet signed taken seen (ih hr)

/-- A plan that is not carried to its end is not carried further with more behind it. -/
theorem bind_none {k : α → Plan β} (hp : p.Carried s now h sent none) :
    (p >>= k).Carried s now h sent none := by
  generalize hr : (none : Option (α × Clock)) = r at hp
  induction hp with
  | finished => cases hr
  | stopped quiet => exact .stopped quiet
  | unconfirmed quiet signed quietAfter => exact .unconfirmed quiet signed quietAfter
  | confirmed quiet signed taken seen _ ih => exact .confirmed quiet signed taken seen (ih hr)

end Carried
end Plan

namespace Talk

variable {σ ε ε' α β γ δ : Type}

/-- Started at a time, the talk carries the plan as far as it gets.  When it ends with a value, it has
carried it to the end, and the value gives the result of the plan. -/
def Pursues (t : Talk σ ε α) (s : Sender) (now : Clock) (p : Plan β) (result : α → β) : Prop :=
  t.EnsuresAt now fun g x => ∃ sent, p.Carried s now g.asked sent (x.map (Prod.map result id))

variable {s : Sender} {now : Clock} {t : Talk σ ε α} {f : α → Talk σ ε γ} {p : Plan β}
  {k : β → Plan δ} {result : α → β} {result' : γ → δ}

theorem Pursues.bind (ht : t.Pursues s now p result)
    (hf : ∀ a later, (f a).Pursues s later (k (result a)) result') :
    (t >>= f).Pursues s now (p >>= k) result' := by
  refine EnsuresAt.bind ht ?_ ?_
  · rintro g a later ⟨sent, hg⟩
    refine (hf a later).mono ?_
    rintro h x ⟨sent', hh⟩
    exact ⟨sent ++ sent', hg.bind hh⟩
  · rintro g ⟨sent, hg⟩
    exact ⟨sent, hg.bind_none⟩

/-- A talk that is part of what a plan does not speak of, and takes no time. -/
theorem Quiet.pursues {f : α → Talk σ ε γ} {result : γ → β} (ht : t.Quiet) (hprompt : t.Prompt)
    (hf : ∀ a, (f a).Pursues s now p result) : (t >>= f).Pursues s now p result := by
  refine (hprompt.ensuresAt ht now).bind ?_ ?_
  · rintro g a _ ⟨_ | _, hg, ⟨⟩⟩
    refine (hf a).mono ?_
    rintro h x ⟨sent, hh⟩
    exact ⟨sent, hh.after_quiet hg⟩
  · rintro g ⟨_, hg, -⟩
    exact ⟨[], .stopped hg⟩

/-- A talk that a plan does not speak of, at its end. -/
theorem Quiet.pursues_pure {b : β} (ht : t.Quiet) (hprompt : t.Prompt)
    (hresult : ∀ a, result a = b) : t.Pursues s now (Pure.pure b) result := by
  refine (hprompt.ensuresAt ht now).mono ?_
  rintro g _ ⟨e | a, hg, rfl⟩
  · exact ⟨[], .stopped hg⟩
  · rw [← hresult a]
    exact ⟨[], .finished hg⟩

theorem Pursues.pure {a : α} {b : β} (h : result a = b) :
    (pure a : Talk σ ε α).Pursues s now (pure b) result := by
  subst h
  exact EnsuresAt.pure ⟨[], .finished rfl⟩

theorem Pursues.throw {e : ε} : (throw e : Talk σ ε α).Pursues s now p result :=
  EnsuresAt.throw ⟨[], .stopped rfl⟩

/-- A talk that looks at the session sees the time. -/
theorem pursues_get {f : Session σ → Talk σ ε α}
    (hf : ∀ session, session.clock = now → (f session).Pursues s now p result) :
    (get >>= f).Pursues s now p result := by
  intro session hclock
  rw [runFrom_get_bind]
  exact hf session hclock session hclock

/-- A plan is not changed by what a talk does after it. -/
theorem Pursues.followed {result' : γ → β} (ht : t.Pursues s now p result)
    (hf : ∀ a later, (f a).Pursues s later (Pure.pure (result a)) result') :
    (t >>= f).Pursues s now p result' := by
  rw [← p.bind_pure]
  exact ht.bind hf

theorem Pursues.forM {f : γ → Talk σ ε Unit} {k : γ → Plan Unit}
    (hf : ∀ c now, (f c).Pursues s now (k c) id) (cs : List γ) :
    (cs.forM f).Pursues s now (cs.forM k) id := by
  induction cs generalizing now with
  | nil => exact .pure rfl
  | cons c cs ih => exact (hf c now).bind fun _ _ => ih

theorem Pursues.mapError {h : ε → ε'} (ht : t.Pursues s now p result) :
    (t.mapError h).Pursues s now p result :=
  EnsuresAt.mapError ht

end Talk
end LocalChain

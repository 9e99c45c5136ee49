import LocalChain.Client.Confirmation
import LocalChain.Client.Sending
import LocalChain.Proofs.Session.Growth

/-!
# How talks end

A talk ends with a value or with an error, and often both can be said to be of some kind, whatever
the session is: `Talk.Ends`.  The rules are those of a small logic of results, one for each way in
which talks are put together.

Whatever a client does with a node, it never fails for want of a URL (`ChainError.FromOutside`):
there is one in its settings, or there would be no client.  Nor does it break off as long as time
passes between two looks for a receipt (`Client.ends_confirm`).
-/

namespace LocalChain

/-- The stop is a failure of a kind, or an answer that never comes. -/
def Stop.Only {ε : Type} (failing : ε → Prop) : Stop ε → Prop
  | failed e => failing e
  | stuck => True
  | broken => False

namespace Talk

variable {σ ε ε' α β : Type}

/-- In whatever session the talk starts, its value is of one kind and its error of another. -/
def Ends (t : Talk σ ε α) (given : α → Prop) (failing : ε → Prop) : Prop :=
  ∀ s, match (t.runFrom s).1 with
    | .ok a => given a
    | .error e => failing e

/-- The talk fails with errors of one kind only. -/
abbrev FailsOnly (t : Talk σ ε α) (failing : ε → Prop) : Prop :=
  t.Ends (fun _ => True) failing

variable {t : Talk σ ε α} {f : α → Talk σ ε β} {given : α → Prop} {given' : β → Prop}
  {failing : ε → Prop} {failing' : ε' → Prop}

theorem Ends.pure {a : α} (h : given a) : (pure a : Talk σ ε α).Ends given failing :=
  fun _ => h

theorem Ends.throw {e : ε} (h : failing e) : (throw e : Talk σ ε α).Ends given failing :=
  fun _ => h

theorem Ends.given_of_ok (ht : t.Ends given failing) {s : Session σ} {a : α}
    (h : (t.runFrom s).1 = .ok a) : given a := by
  have hs := ht s
  rwa [h] at hs

/-- **One talk after the other.** -/
theorem Ends.bind (ht : t.Ends given failing) (hf : ∀ a, given a → (f a).Ends given' failing) :
    (t >>= f).Ends given' failing := by
  intro s
  have hs := ht s
  rw [runFrom_bind]
  rcases hrun : t.runFrom s with ⟨e | a, s'⟩
  · rw [hrun] at hs
    exact hs
  · rw [hrun] at hs
    exact hf a hs s'

theorem Ends.mapError {h : ε → ε'} (ht : t.Ends given failing)
    (herror : ∀ e, failing e → failing' (h e)) : (t.mapError h).Ends given failing' := by
  intro s
  have hs := ht s
  show match ((t.runFrom s).1.mapError h) with
    | .ok a => given a
    | .error e => failing' e
  cases hx : (t.runFrom s).1 with
  | ok a => rwa [hx] at hs
  | error e => exact herror e (by rwa [hx] at hs)

/-- A failure of one kind becomes a stop. -/
theorem Ends.failed (ht : t.Ends given failing) (h : ε → ε') (failing' : ε' → Prop)
    (herror : ∀ e, failing e → failing' (h e)) :
    (t.mapError fun e => Stop.failed (h e)).Ends given (Stop.Only failing') :=
  ht.mapError herror

/-- A talk whose ending is looked at, and what is done in either case. -/
theorem Ends.attempt_bind {f : Except ε α → Talk σ ε' β} (ht : t.Ends given failing)
    (hok : ∀ a, given a → (f (.ok a)).Ends given' failing')
    (herror : ∀ e, failing e → (f (.error e)).Ends given' failing') :
    (t.attempt >>= f).Ends given' failing' := by
  have hattempt : (t.attempt : Talk σ ε' (Except ε α)).Ends
      (fun x => (f x).Ends given' failing') failing' := by
    intro s
    show (f (t.runFrom s).1).Ends given' failing'
    have hs := ht s
    cases hx : (t.runFrom s).1 with
    | ok a => exact hok a (by rwa [hx] at hs)
    | error e => exact herror e (by rwa [hx] at hs)
  exact hattempt.bind fun _ h => h

theorem ends_enter (e : Entry) : (enter e : Talk σ ε Unit).FailsOnly failing :=
  fun _ => trivial

theorem ends_report (e : Event) : (report e : Talk σ ε Unit).FailsOnly failing :=
  fun _ => trivial

theorem ends_enterAll (j : Journal) : (enterAll j : Talk σ ε Unit).FailsOnly failing :=
  fun _ => trivial

theorem ends_clockMs : (clockMs : Talk σ ε Nat).FailsOnly failing :=
  fun _ => trivial

theorem ends_waitUntil (ms : Nat) : (waitUntil ms : Talk σ ε Unit).FailsOnly failing :=
  fun _ => trivial

theorem ends_get : (get : Talk σ ε (Session σ)).FailsOnly failing :=
  fun _ => trivial

theorem ends_modify (f : Session σ → Session σ) : (modify f : Talk σ ε Unit).FailsOnly failing :=
  fun _ => trivial

theorem ends_ofExcept {x : Except ε α} (hok : ∀ a, x = .ok a → given a)
    (herror : ∀ e, x = .error e → failing e) : (ofExcept x : Talk σ ε α).Ends given failing := by
  cases x with
  | ok a => exact .pure (hok a rfl)
  | error e => exact .throw (herror e rfl)

theorem failsOnly_ofExcept {x : Except ε α} (h : ∀ e, x = .error e → failing e) :
    (ofExcept x : Talk σ ε α).FailsOnly failing :=
  ends_ofExcept (fun _ _ => trivial) h

theorem ends_forM {f : β → Talk σ ε Unit} (hf : ∀ b, (f b).FailsOnly failing) (bs : List β) :
    (bs.forM f).FailsOnly failing := by
  induction bs with
  | nil => exact .pure trivial
  | cons b bs ih => exact (hf b).bind fun _ _ => ih

end Talk

/-! ## Errors that settings have no part in -/

/-- The error is not that of a text in the place of the URL. -/
def ChainError.FromOutside (e : ChainError) : Prop :=
  ∀ text, e ≠ .rpc ("Invalid RPC URL '" ++ text)

/-- A message that begins with another letter is not about a URL. -/
theorem ChainError.fromOutside_rpc {start : String} (first : Char) (text : String)
    (hfirst : start.toList.head? = some first) (hne : first ≠ 'I') :
    (rpc (start ++ text)).FromOutside := by
  intro other heq
  have hI : "Invalid RPC URL '".toList.head? = some 'I' := by decide +kernel
  have hheads := congrArg (·.toList.head?) (ChainError.rpc.inj heq)
  simp only [String.toList_append, List.head?_append, hfirst, hI, Option.some_or,
    Option.some.injEq] at hheads
  exact hne hheads

theorem RequestFailure.toChainError_fromOutside (f : RequestFailure) :
    f.toChainError.FromOutside := by
  cases f with
  | refused code message data => rintro text ⟨⟩
  | badResponse =>
    rw [toChainError, ← String.append_empty (s := message .badResponse)]
    · exact ChainError.fromOutside_rpc 't' "" (by decide +kernel) (by decide)
    · rintro _ _ _ ⟨⟩
  | unreachable =>
    rw [toChainError, ← String.append_empty (s := message .unreachable)]
    · exact ChainError.fromOutside_rpc 'e' "" (by decide +kernel) (by decide)
    · rintro _ _ _ ⟨⟩
  | usage text =>
    exact ChainError.fromOutside_rpc 'l' text (by decide +kernel) (by decide)

namespace Client

variable {σ ε α : Type} (c : Client σ)

/-! ## Reads -/

theorem ends_reply {failing : ε → Prop} (r : Request) (decode : Json → Option α) :
    (c.reply r decode : Talk σ ε _).FailsOnly failing :=
  fun _ => trivial

theorem ends_settle (r : Request) (reply : Option (Except RequestFailure α)) :
    (c.settle r reply).FailsOnly ChainError.FromOutside := by
  match reply with
  | some (.ok a) => exact .pure trivial
  | some (.error failure) =>
    exact (Talk.ends_report _).bind fun _ _ => .throw failure.toChainError_fromOutside
  | none =>
    refine Talk.ends_clockMs.bind fun ms _ => ?_
    refine (Talk.ends_waitUntil _).bind fun _ _ => ?_
    exact (Talk.ends_report _).bind fun _ _ => .throw (by rintro text ⟨⟩)

/-- **A read fails for reasons of the node**, or of the way to it. -/
theorem ends_read (r : Request) (decode : Json → Option α) :
    (c.read r decode).FailsOnly ChainError.FromOutside :=
  (c.ends_reply r decode).bind fun reply _ => c.ends_settle r reply

theorem ends_readBefore (limitMs : Nat) {late : ChainError} (hlate : late.FromOutside)
    (r : Request) (decode : Json → Option α) :
    (c.readBefore limitMs late r decode).FailsOnly ChainError.FromOutside := by
  refine (c.ends_reply r decode).bind fun reply _ => ?_
  match reply with
  | some reply => exact c.ends_settle r _
  | none =>
    refine Talk.ends_clockMs.bind fun ms _ => ?_
    split
    · exact (Talk.ends_waitUntil _).bind fun _ _ => .throw hlate
    · exact c.ends_settle r none

theorem ends_resolveChainId : c.resolveChainId.FailsOnly ChainError.FromOutside := by
  refine (c.ends_read _ _).bind fun id _ => ?_
  have hreport : (do Talk.report (.connected c.settings.url id); pure id :
      Talk σ ChainError _).FailsOnly ChainError.FromOutside :=
    (Talk.ends_report _).bind fun _ _ => .pure trivial
  cases c.settings.chainId with
  | none => exact hreport
  | some expected =>
    dsimp only
    split
    · exact .throw (by rintro text ⟨⟩)
    · exact hreport

/-! ## Sending -/

theorem ends_need (r : Request) (decode : Json → Option α) :
    (c.need r decode).FailsOnly (Stop.Only ChainError.FromOutside) := by
  refine (c.ends_reply r decode).bind fun reply _ => ?_
  match reply with
  | some (.ok a) => exact .pure trivial
  | some (.error failure) => exact .throw failure.toChainError_fromOutside
  | none => exact .throw trivial

theorem ends_takeNonce : c.takeNonce.FailsOnly (Stop.Only ChainError.FromOutside) := by
  refine Talk.ends_get.bind fun s _ => ?_
  have hnext (n : UInt64) : (do
      modify fun s => { s with nextNonce := some (n + 1) }
      return n : Talk σ (Stop ChainError) UInt64).FailsOnly (Stop.Only ChainError.FromOutside) :=
    (Talk.ends_modify _).bind fun _ _ => .pure trivial
  cases s.nextNonce with
  | some n => exact hnext n
  | none => exact (c.ends_need _ _).bind fun n _ => hnext n

theorem ends_ownChainId : c.ownChainId.FailsOnly (Stop.Only ChainError.FromOutside) := by
  refine Talk.ends_get.bind fun s _ => ?_
  cases s.chainId with
  | some id => exact .pure trivial
  | none =>
    refine (c.ends_need _ _).bind fun id _ => ?_
    exact (Talk.ends_modify _).bind fun _ _ => .pure trivial

theorem ends_offer : c.offer.FailsOnly (Stop.Only ChainError.FromOutside) := by
  refine (c.ends_need _ _).bind fun history _ => ?_
  cases history.nextBaseFee? with
  | some fee => exact .pure trivial
  | none => exact (c.ends_need _ _).bind fun _ _ => .pure trivial

theorem ends_orElse {failing : ε → Prop} {t : Talk σ ε α} (a : Option α)
    (ht : t.FailsOnly failing) : (orElse a t).FailsOnly failing := by
  cases a with
  | some a => exact .pure trivial
  | none => exact ht

/-- What a request leaves out can only be refused by the node. -/
theorem ends_complete (r : TxRequest) :
    (c.complete r).FailsOnly (Stop.Only ChainError.FromOutside) := by
  refine (ends_orElse _ c.ends_takeNonce).bind fun nonce _ => ?_
  refine (ends_orElse _ c.ends_ownChainId).bind fun chainId _ => ?_
  have hgas (r : TxRequest) : (do
      let gasLimit ← orElse r.gasLimit (c.need (.estimateGas r) Quantity.word64?)
      return { r with gasLimit := some gasLimit } :
        Talk σ (Stop ChainError) TxRequest).FailsOnly (Stop.Only ChainError.FromOutside) :=
    (ends_orElse _ (c.ends_need _ _)).bind fun _ _ => .pure trivial
  dsimp only
  split
  · exact hgas _
  · exact c.ends_offer.bind fun o _ => hgas _

theorem ends_sendRaw (raw : Bytes) : (c.sendRaw raw).FailsOnly ChainError.FromOutside := by
  refine (c.ends_reply _ _).bind fun reply _ => ?_
  match reply with
  | some (.ok hash) => exact .pure trivial
  | some (.error failure) => exact .throw failure.toChainError_fromOutside
  | none => exact .pure trivial

theorem ends_send (r : TxRequest) :
    (c.send r).FailsOnly (Stop.Only ChainError.FromOutside) := by
  refine (c.ends_complete r).bind fun r _ => ?_
  cases r.sign c.wallet with
  | error e => exact .throw (RequestFailure.toChainError_fromOutside _)
  | ok raw =>
    have hsend : (c.sendRaw raw).stoppable.FailsOnly (Stop.Only ChainError.FromOutside) :=
      (c.ends_sendRaw raw).mapError fun e he => he
    refine hsend.bind fun hash _ => ?_
    cases hash with
    | some hash => exact .pure trivial
    | none => exact .throw trivial

/-! ## Waiting for a confirmation -/

theorem lateConfirmation_fromOutside : c.lateConfirmation.FromOutside := by
  rintro text ⟨⟩

theorem ends_look (hash : TxHash) (limitMs : Nat) :
    (c.look hash limitMs).FailsOnly ChainError.FromOutside := by
  refine (c.ends_readBefore _ c.lateConfirmation_fromOutside _ _).bind fun r _ => ?_
  cases r with
  | none => exact .pure trivial
  | some r =>
    dsimp only
    split
    · exact .throw (by rintro text ⟨⟩)
    · split
      · exact .pure trivial
      · exact (c.ends_readBefore _ c.lateConfirmation_fromOutside _ _).bind fun _ _ =>
          .pure trivial

theorem ends_lookUntil (hash : TxHash) (limitMs looks : Nat) :
    (c.lookUntil hash limitMs looks).FailsOnly ChainError.FromOutside := by
  induction looks with
  | zero =>
    exact (Talk.ends_waitUntil _).bind fun _ _ => .throw c.lateConfirmation_fromOutside
  | succ looks ih =>
    refine Talk.ends_clockMs.bind fun ms _ => ?_
    refine (c.ends_look hash limitMs).bind fun r _ => ?_
    cases r with
    | some r => exact .pure trivial
    | none =>
      dsimp only
      split
      · exact (Talk.ends_waitUntil _).bind fun _ _ => ih
      · exact ih

/-- **A wait for a confirmation does not break off** when time passes between two looks. -/
theorem ends_confirm (hpoll : c.settings.pollIntervalMs ≠ 0) (hash : TxHash) :
    (c.confirm hash).FailsOnly (Stop.Only ChainError.FromOutside) := by
  rw [confirm, if_neg hpoll]
  refine Talk.ends_clockMs.bind fun ms _ => ?_
  exact (c.ends_lookUntil hash _ _).mapError fun e he => he

end Client
end LocalChain

import LocalChain.Client.Confirmation
import LocalChain.Client.Sending
import LocalChain.Proofs.Session.Exchanges

/-!
# Broadcasts among other requests

Most of what a client asks changes nothing at the node; only a broadcast does.
`Transcript.broadcasts` are the bytes that were broadcast, in order, and a talk is quiet when it
broadcasts nothing.  What a client asks in order to complete a transaction is quiet, and so is its
wait for a confirmation.

A wait ends well only if its last look confirms the transaction (`Confirmed`): the receipt that
the node gave then says that the transaction succeeded, and enough blocks follow its own.
-/

namespace LocalChain

/-- The bytes that a request broadcasts. -/
def Request.raw? : Request → Option Bytes
  | sendRaw raw => some raw
  | _ => none

/-- What was broadcast, in order. -/
def Transcript.broadcasts (h : Transcript) : List Bytes :=
  h.filterMap (·.1.raw?)

namespace Transcript

@[simp] theorem broadcasts_nil : broadcasts [] = [] := rfl

@[simp] theorem broadcasts_append (h h' : Transcript) :
    broadcasts (h ++ h') = broadcasts h ++ broadcasts h' :=
  List.filterMap_append ..

@[simp] theorem broadcasts_cons (e : Exchange) (h : Transcript) :
    broadcasts (e :: h) = e.1.raw?.toList ++ broadcasts h := by
  rw [broadcasts, List.filterMap_cons]
  cases e.1.raw? <;> rfl

theorem broadcasts_append_eq_nil {h h' : Transcript} (hh : h.broadcasts = [])
    (hh' : h'.broadcasts = []) : broadcasts (h ++ h') = [] := by
  rw [broadcasts_append, hh, hh']
  rfl

end Transcript

/-! ## Quiet talks -/

namespace Talk

variable {σ ε ε' α β : Type}

/-- The talk broadcasts nothing. -/
def Quiet (t : Talk σ ε α) : Prop :=
  t.Ensures fun g _ => g.asked.broadcasts = []

variable {t : Talk σ ε α} {f : α → Talk σ ε β}

theorem Quiet.pure {a : α} : Quiet (pure a : Talk σ ε α) :=
  Ensures.pure rfl

theorem Quiet.throw {e : ε} : Quiet (throw e : Talk σ ε α) :=
  Ensures.throw rfl

theorem Quiet.bind (ht : t.Quiet) (hf : ∀ a, (f a).Quiet) : (t >>= f).Quiet := by
  refine Ensures.bind ht ?_ fun _ _ hg => hg
  intro g a hg
  refine (hf a).mono ?_
  intro h x hh
  exact Transcript.broadcasts_append_eq_nil hg hh

/-- A quiet talk before one that is quiet too, and whose value is of some kind. -/
theorem Quiet.bind_given {given : β → Prop} (ht : t.Quiet)
    (hf : ∀ a, (f a).Ensures fun g x => g.asked.broadcasts = [] ∧ ∀ b ∈ x.toOption, given b) :
    (t >>= f).Ensures fun g x => g.asked.broadcasts = [] ∧ ∀ b ∈ x.toOption, given b := by
  refine Ensures.bind ht ?_ fun g e hg => ⟨hg, fun b hb => nomatch hb⟩
  intro g a hg
  refine (hf a).mono ?_
  rintro h x ⟨hh, hx⟩
  exact ⟨Transcript.broadcasts_append_eq_nil hg hh, hx⟩

theorem Quiet.mapError {h : ε → ε'} (ht : t.Quiet) : (t.mapError h).Quiet := by
  refine (Ensures.mapError ht).mono ?_
  rintro g _ ⟨_, hg, -⟩
  exact hg

theorem Quiet.attempt (ht : t.Quiet) : (t.attempt : Talk σ ε' _).Quiet := by
  refine (Ensures.attempt ht).mono ?_
  rintro g _ ⟨_, -, hg⟩
  exact hg

theorem quiet_report (e : Event) : (report e : Talk σ ε Unit).Quiet := by
  refine (ensures_report e).mono ?_
  rintro _ _ ⟨_, -, rfl⟩
  rfl

theorem quiet_enter (e : Entry) : (enter e : Talk σ ε Unit).Quiet := by
  refine (ensures_enter e).mono ?_
  rintro _ _ ⟨_, -, rfl⟩
  rfl

theorem quiet_get : (get : Talk σ ε (Session σ)).Quiet :=
  fun s => ⟨{}, .refl s, rfl⟩

/-- A change that leaves alone what was asked and entered. -/
theorem quiet_modify {f : Session σ → Session σ} (hasked : ∀ s, (f s).asked = s.asked)
    (hentered : ∀ s, (f s).entered = s.entered) : (modify f : Talk σ ε Unit).Quiet :=
  fun s => ⟨{}, ⟨hasked s, hentered s⟩, rfl⟩

end Talk

namespace Client

variable {σ : Type} (c : Client σ)

/-! ## Reads -/

theorem quiet_read {α : Type} {r : Request} (decode : Json → Option α) (hr : r.raw? = none) :
    (c.read r decode).Quiet := by
  refine (c.ensures_read r decode).mono ?_
  rintro g x ⟨a, hasked, -⟩
  simp [hasked, hr]

theorem quiet_need {α : Type} {r : Request} (decode : Json → Option α) (hr : r.raw? = none) :
    (c.need r decode).Quiet := by
  have hreply : (c.reply r decode : Talk σ (Stop ChainError) _).Quiet := by
    refine (c.ensures_reply r decode).mono ?_
    rintro g x ⟨_, -, a, -, rfl⟩
    simp [hr]
  refine hreply.bind ?_
  rintro (_ | _ | _)
  · exact .throw
  · exact .throw
  · exact .pure

/-! ## What is asked for a transaction -/

theorem quiet_takeNonce : c.takeNonce.Quiet := by
  refine Talk.quiet_get.bind fun s => ?_
  have hnext (n : UInt64) : (do
      modify fun s => { s with nextNonce := some (n + 1) }
      return n : Talk σ (Stop ChainError) UInt64).Quiet := by
    refine Talk.Quiet.bind ?_ fun _ => .pure
    exact Talk.quiet_modify (fun _ => rfl) fun _ => rfl
  cases s.nextNonce with
  | some n => exact hnext n
  | none => exact (c.quiet_need _ rfl).bind hnext

theorem quiet_ownChainId : c.ownChainId.Quiet := by
  refine Talk.quiet_get.bind fun s => ?_
  cases s.chainId with
  | some id => exact .pure
  | none =>
    refine (c.quiet_need _ rfl).bind fun id => ?_
    refine Talk.Quiet.bind ?_ fun _ => .pure
    exact Talk.quiet_modify (fun _ => rfl) fun _ => rfl

theorem quiet_offer : c.offer.Quiet := by
  refine (c.quiet_need _ rfl).bind fun history => ?_
  cases history.nextBaseFee? with
  | some fee => exact .pure
  | none => exact (c.quiet_need _ rfl).bind fun _ => .pure

/-! ## Waiting for a confirmation -/

/-- A wait is over with a receipt.  Its last look found the receipt, of a transaction that
succeeded, and also the number of the last block if blocks must follow: so many do. -/
structure Confirmed (required : Nat) (hash : TxHash) (receipt : Receipt) (h : Transcript) :
    Prop where
  quiet : h.broadcasts = []
  succeeded : receipt.succeeded = true
  seen : ∃ before a after, h = before ++ (.receipt hash, a) :: after ∧
    a.value? Receipt.ofAnswer? = some (some receipt) ∧
    (required = 0 ∧ after = [] ∨
      ∃ b last, after = [(.blockNumber, b)] ∧ b.value? Quantity.word64? = some last ∧
        required ≤ receipt.confirmations last)

theorem Confirmed.after_quiet {required : Nat} {hash : TxHash} {receipt : Receipt}
    {h h' : Transcript} (hquiet : h.broadcasts = []) (hh : Confirmed required hash receipt h') :
    Confirmed required hash receipt (h ++ h') := by
  obtain ⟨before, a, after, rfl, ha⟩ := hh.seen
  exact ⟨Transcript.broadcasts_append_eq_nil hquiet hh.quiet, hh.succeeded,
    h ++ before, a, after, (List.append_assoc ..).symm, ha⟩

/-- Nothing is broadcast, and there is a receipt only for a transaction that is confirmed. -/
def Awaits (c : Client σ) (hash : TxHash) (h : Transcript) (receipt : Option Receipt) : Prop :=
  h.broadcasts = [] ∧ ∀ r ∈ receipt, Confirmed c.settings.confirmationBlocks.toNat hash r h

variable {c} {hash : TxHash} {h h' : Transcript} {receipt : Option Receipt}

theorem Awaits.nothing (hquiet : h.broadcasts = []) : c.Awaits hash h none :=
  ⟨hquiet, fun _ hr => nomatch hr⟩

theorem Awaits.confirmed {r : Receipt}
    (hr : Confirmed c.settings.confirmationBlocks.toNat hash r h) :
    c.Awaits hash h (some r) := by
  refine ⟨hr.quiet, ?_⟩
  rintro _ ⟨⟩
  exact hr

/-- What comes before a wait takes nothing from it. -/
theorem Awaits.after_quiet (hquiet : h.broadcasts = []) (hh : c.Awaits hash h' receipt) :
    c.Awaits hash (h ++ h') receipt :=
  ⟨Transcript.broadcasts_append_eq_nil hquiet hh.1, fun r hr => (hh.2 r hr).after_quiet hquiet⟩

variable (c)

/-- A look that has found the receipt of a transaction that succeeded counts the blocks after it,
if any must follow. -/
theorem ensures_count {a : Answer} {r : Receipt} (limitMs : Nat) (hsucceeded : r.succeeded = true)
    (ha : a.value? Receipt.ofAnswer? = some (some r)) :
    let required := c.settings.confirmationBlocks.toNat
    let count : Talk σ ChainError (Option Receipt) :=
      if required = 0 then pure (some r)
      else do
        let last ← c.readBefore limitMs c.lateConfirmation .blockNumber Quantity.word64?
        return if required ≤ r.confirmations last then some r else none
    count.Ensures fun g x => c.Awaits hash ((.receipt hash, a) :: g.asked) x.toOption.join := by
  intro required count
  by_cases hrequired : required = 0
  · rw [show count = pure (some r) from if_pos hrequired]
    exact .pure (.confirmed ⟨rfl, hsucceeded, [], a, [], rfl, ha, .inl ⟨hrequired, rfl⟩⟩)
  · rw [show count = _ from if_neg hrequired]
    refine (c.ensures_readBefore _ _ _ _).bind ?_ ?_
    · rintro g last ⟨b, hasked, hb⟩
      refine .pure ?_
      rw [Growth.append_empty, hasked]
      by_cases henough : required ≤ r.confirmations last
      · rw [if_pos henough]
        exact .confirmed ⟨rfl, hsucceeded, [], a, _, rfl, ha, .inr ⟨b, last, rfl, hb.symm, henough⟩⟩
      · rw [if_neg henough]
        exact .nothing rfl
    · rintro g e ⟨b, hasked, -⟩
      rw [hasked]
      exact .nothing rfl

theorem ensures_look (hash : TxHash) (limitMs : Nat) :
    (c.look hash limitMs).Ensures fun g x => c.Awaits hash g.asked x.toOption.join := by
  refine (c.ensures_readBefore _ _ _ _).bind ?_ ?_
  · rintro g r ⟨a, hasked, ha⟩
    have hquiet : g.asked.broadcasts = [] := by rw [hasked]; rfl
    simp only [Growth.asked_append]
    cases r with
    | none => exact .pure (.nothing (by simpa using hquiet))
    | some r =>
      dsimp only
      split
      · exact .throw (.nothing (by simpa using hquiet))
      · rename_i hsucceeded
        rw [hasked]
        exact c.ensures_count limitMs (by simpa using hsucceeded) ha.symm
  · rintro g e ⟨a, hasked, -⟩
    exact .nothing (by rw [hasked]; rfl)

theorem ensures_lookUntil (hash : TxHash) (limitMs looks : Nat) :
    (c.lookUntil hash limitMs looks).Ensures fun g x => c.Awaits hash g.asked x.toOption := by
  induction looks with
  | zero =>
    refine (Talk.ensures_waitUntil _).bind_ok ?_
    rintro _ _ rfl
    exact .throw (.nothing rfl)
  | succ looks ih =>
    refine Talk.ensures_clockMs.bind_ok ?_
    rintro _ ms rfl
    refine (c.ensures_look hash limitMs).bind ?_ fun g e hg => .nothing hg.1
    rintro g (_ | r) hg
    · have hagain : (c.lookUntil hash limitMs looks).Ensures fun h x =>
          c.Awaits hash (g ++ h).asked x.toOption :=
        ih.mono fun h x hh => hh.after_quiet hg.1
      dsimp only
      split
      · refine (Talk.ensures_waitUntil _).bind_ok ?_
        rintro _ _ rfl
        exact hagain
      · exact hagain
    · exact .pure (by rwa [Growth.append_empty])

/-- **A wait for a confirmation is quiet**, and ends well only if the transaction is confirmed. -/
theorem ensures_confirm (hash : TxHash) :
    (c.confirm hash).Ensures fun g x => c.Awaits hash g.asked x.toOption := by
  rw [confirm]
  split
  · exact .throw (.nothing rfl)
  · refine Talk.ensures_clockMs.bind_ok ?_
    rintro _ ms rfl
    exact Talk.Ensures.mapError_toOption (fun g => c.Awaits hash g.asked)
      (c.ensures_lookUntil hash _ _)

end Client
end LocalChain

import LocalChain.Proofs.Session.Broadcasts
import LocalChain.Proofs.Session.Consultations

/-!
# The time that talks take

Time passes in a session only while something is waited for: an answer that stays away, or the next
look at a transaction.  So most talks are prompt (`Talk.Prompt`), as a read that waits in vain fails.
A wait for a confirmation that ends well is over as many intervals after its beginning as there were
polls after the first (`Client.ensuresAt_confirm`).

`Talk.EnsuresAt` is `Talk.Ensures` for a talk that starts at a known time, with the time at which it
ends.
-/

namespace LocalChain

/-- The time in a session: when it began, and how long ago that was. -/
@[ext] structure Clock where
  beganSecs : UInt64
  elapsedMs : Nat

namespace Clock

/-- The second that it is. -/
def nowSecs (c : Clock) : Nat :=
  c.beganSecs.toNat + c.elapsedMs / 1000

/-- The time so many milliseconds later. -/
def later (c : Clock) (ms : Nat) : Clock :=
  { c with elapsedMs := c.elapsedMs + ms }

@[simp] theorem later_zero (c : Clock) : c.later 0 = c := rfl

theorem later_later (c : Clock) (ms ms' : Nat) : (c.later ms).later ms' = c.later (ms + ms') :=
  Clock.ext rfl (Nat.add_assoc ..)

end Clock

variable {σ : Type}

/-- What the clock shows. -/
def Session.clock (s : Session σ) : Clock :=
  ⟨s.beganSecs, s.clockMs⟩

theorem Session.nowSecs_eq (s : Session σ) : s.nowSecs = s.clock.nowSecs := rfl

namespace Talk

variable {ε ε' α β : Type}

/-- In whatever session the talk starts at a time, what it adds satisfies a condition together with
the value that it ends with, if it ends with one, and the time then. -/
def EnsuresAt (t : Talk σ ε α) (now : Clock) (post : Growth → Option (α × Clock) → Prop) : Prop :=
  ∀ s : Session σ, s.clock = now → ∃ g, s.GrowsBy g (t.runFrom s).2 ∧
    post g ((t.runFrom s).1.toOption.map (·, (t.runFrom s).2.clock))

section Rules

variable {t : Talk σ ε α} {f : α → Talk σ ε β} {now : Clock}
  {post post' : Growth → Option (α × Clock) → Prop}

theorem EnsuresAt.mono (ht : t.EnsuresAt now post) (h : ∀ g x, post g x → post' g x) :
    t.EnsuresAt now post' := by
  intro s hs
  obtain ⟨g, hg, hx⟩ := ht s hs
  exact ⟨g, hg, h g _ hx⟩

theorem EnsuresAt.pure {a : α} (h : post {} (some (a, now))) :
    EnsuresAt (pure a : Talk σ ε α) now post := by
  rintro s rfl
  exact ⟨{}, .refl s, h⟩

theorem EnsuresAt.throw {e : ε} (h : post {} none) :
    EnsuresAt (throw e : Talk σ ε α) now post :=
  fun s _ => ⟨{}, .refl s, h⟩

/-- **One talk after the other.**  The second starts when the first has ended. -/
theorem EnsuresAt.bind {all : Growth → Option (β × Clock) → Prop} (ht : t.EnsuresAt now post)
    (hok : ∀ g a later, post g (some (a, later)) →
      (f a).EnsuresAt later fun h x => all (g ++ h) x)
    (herror : ∀ g, post g none → all g none) : (t >>= f).EnsuresAt now all := by
  intro s hs
  obtain ⟨g, hg, hx⟩ := ht s hs
  rw [runFrom_bind]
  rcases hrun : t.runFrom s with ⟨e | a, s'⟩
  · rw [hrun] at hg hx
    exact ⟨g, hg, herror g hx⟩
  · rw [hrun] at hg hx
    obtain ⟨h, hh, hy⟩ := hok g a s'.clock hx s' rfl
    exact ⟨g ++ h, hg.trans hh, hy⟩

/-- The same for a first talk that always gives a value. -/
theorem EnsuresAt.bind_ok {given : Growth → α → Clock → Prop}
    {all : Growth → Option (β × Clock) → Prop}
    (ht : t.EnsuresAt now fun g x => ∃ a later, x = some (a, later) ∧ given g a later)
    (hok : ∀ g a later, given g a later → (f a).EnsuresAt later fun h x => all (g ++ h) x) :
    (t >>= f).EnsuresAt now all := by
  refine ht.bind ?_ ?_
  · rintro g a later ⟨_, _, ⟨⟩, ha⟩
    exact hok g a later ha
  · rintro g ⟨_, _, ⟨⟩, -⟩

theorem EnsuresAt.mapError {h : ε → ε'} (ht : t.EnsuresAt now post) :
    (t.mapError h).EnsuresAt now post := by
  intro s hs
  obtain ⟨g, hg, hx⟩ := ht s hs
  refine ⟨g, hg, ?_⟩
  rw [runFrom_mapError]
  rcases hrun : t.runFrom s with ⟨e | a, s'⟩
  · rw [hrun] at hx
    exact hx
  · rw [hrun] at hx
    exact hx

theorem EnsuresAt.attempt (ht : t.EnsuresAt now post) :
    (t.attempt : Talk σ ε' _).EnsuresAt now fun g x =>
      ∃ y later, x = some (y, later) ∧ post g (y.toOption.map (·, later)) := by
  intro s hs
  obtain ⟨g, hg, hx⟩ := ht s hs
  exact ⟨g, hg, _, _, rfl, hx⟩

/-- What holds of a talk at any time holds of it at this one, whenever it ends. -/
theorem Ensures.at {given : Growth → Except ε α → Prop} (ht : t.Ensures given) (now : Clock) :
    t.EnsuresAt now fun g x => ∃ y, given g y ∧ y.toOption = x.map (·.1) := by
  intro s _
  obtain ⟨g, hg, hx⟩ := ht s
  refine ⟨g, hg, _, hx, ?_⟩
  rcases t.runFrom s with ⟨e | a, s'⟩ <;> rfl

/-- Two conditions, one of which says nothing of the time. -/
theorem EnsuresAt.and {given : Growth → Except ε α → Prop} (ht : t.EnsuresAt now post)
    (hgiven : t.Ensures given) :
    t.EnsuresAt now fun g x => post g x ∧ ∃ y, given g y ∧ y.toOption = x.map (·.1) := by
  intro s hs
  obtain ⟨g, hg, hx⟩ := ht s hs
  obtain ⟨h, hh, hy⟩ := hgiven.at now s hs
  obtain rfl := hh.unique hg
  exact ⟨h, hg, hx, hy⟩

end Rules

theorem ensuresAt_clockMs (now : Clock) :
    (clockMs : Talk σ ε Nat).EnsuresAt now fun g x =>
      ∃ ms later, x = some (ms, later) ∧ g = {} ∧ ms = now.elapsedMs ∧ later = now := by
  rintro s rfl
  exact ⟨{}, .refl s, _, _, rfl, rfl, rfl, rfl⟩

theorem ensuresAt_waitUntil (now : Clock) (ms : Nat) :
    (waitUntil (now.elapsedMs + ms) : Talk σ ε Unit).EnsuresAt now fun g x =>
      ∃ a later, x = some (a, later) ∧ g = {} ∧ later = now.later ms := by
  rintro s rfl
  refine ⟨{}, ⟨rfl, rfl⟩, _, _, rfl, rfl, Clock.ext rfl ?_⟩
  exact Nat.max_eq_right (Nat.le_add_right _ _)

/-! ## Talks that take no time -/

/-- Whenever the talk ends with a value, it has taken no time. -/
def Prompt (t : Talk σ ε α) : Prop :=
  ∀ ⦃s a s'⦄, t.runFrom s = (.ok a, s') → s'.clock = s.clock

section Rules

variable {t : Talk σ ε α} {f : α → Talk σ ε β}

theorem Prompt.ensuresAt {given : Growth → Except ε α → Prop} (ht : t.Prompt)
    (hgiven : t.Ensures given) (now : Clock) :
    t.EnsuresAt now fun g x => ∃ y, given g y ∧ x = y.toOption.map (·, now) := by
  rintro s rfl
  obtain ⟨g, hg, hx⟩ := hgiven s
  refine ⟨g, hg, _, hx, ?_⟩
  rcases hrun : t.runFrom s with ⟨e | a, s'⟩
  · rfl
  · rw [Except.toOption, Option.map_some, Option.map_some, ht hrun]

theorem Prompt.pure {a : α} : (pure a : Talk σ ε α).Prompt := by
  rintro s _ _ ⟨⟩
  rfl

theorem Prompt.throw {e : ε} : (throw e : Talk σ ε α).Prompt := by
  rintro s _ _ ⟨⟩

theorem Prompt.bind (ht : t.Prompt) (hf : ∀ a, (f a).Prompt) : (t >>= f).Prompt := by
  intro s b s' hrun
  obtain ⟨a, s₁, hrun, hrun'⟩ := runFrom_bind_eq_ok_iff.mp hrun
  rw [hf a hrun', ht hrun]

theorem Prompt.mapError {h : ε → ε'} (ht : t.Prompt) : (t.mapError h).Prompt := by
  intro s a s' hrun
  rw [runFrom_mapError] at hrun
  rcases hrun' : t.runFrom s with ⟨e | b, s₁⟩
  · rw [hrun'] at hrun
    cases hrun
  · rw [hrun'] at hrun
    obtain ⟨-, rfl⟩ := Prod.mk.inj hrun
    exact ht hrun'

theorem prompt_ofExcept (x : Except ε α) : (ofExcept x : Talk σ ε α).Prompt := by
  cases x with
  | ok a => exact .pure
  | error e => exact .throw

/-- A change that leaves the clock alone. -/
theorem prompt_modify {h : Session σ → Session σ} (hclock : ∀ s, (h s).clock = s.clock) :
    (modify h : Talk σ ε Unit).Prompt := by
  rintro s _ _ ⟨⟩
  exact hclock s

theorem prompt_get : (get : Talk σ ε (Session σ)).Prompt := by
  rintro s _ _ ⟨⟩
  rfl

theorem prompt_enter (e : Entry) : (enter e : Talk σ ε Unit).Prompt := by
  rintro s _ _ ⟨⟩
  rfl

theorem prompt_report (e : Event) : (report e : Talk σ ε Unit).Prompt :=
  prompt_enter (.event e)

theorem prompt_ask (node : Node σ) (r : Request) : (ask node r : Talk σ ε Answer).Prompt := by
  rintro s _ _ ⟨⟩
  rfl

end Rules

end Talk

namespace Client

variable {ε α : Type} (c : Client σ)

theorem prompt_forget : (forget : Talk σ ε Unit).Prompt := by
  rintro s _ _ ⟨⟩
  rfl

/-! ## Reads -/

section Reads

variable (r : Request) (decode : Json → Option α)

theorem prompt_reply : (c.reply r decode : Talk σ ε _).Prompt :=
  (Talk.prompt_ask c.node r).bind fun _ => .pure

/-- A read that waits in vain has no value. -/
theorem prompt_settle (reply : Option (Except RequestFailure α)) : (c.settle r reply).Prompt := by
  match reply with
  | some (.ok a) => exact .pure
  | some (.error failure) => exact (Talk.prompt_report _).bind fun _ => .throw
  | none => rintro s _ _ ⟨⟩

theorem prompt_read : (c.read r decode).Prompt :=
  (c.prompt_reply r decode).bind fun reply => c.prompt_settle r reply

theorem prompt_readBefore (limitMs : Nat) (late : ChainError) :
    (c.readBefore limitMs late r decode).Prompt := by
  refine (c.prompt_reply r decode).bind fun reply => ?_
  cases reply with
  | some reply => exact c.prompt_settle r (some reply)
  | none =>
    intro s a s' hrun
    rw [Talk.runFrom_clockMs_bind] at hrun
    split at hrun
    · cases hrun
    · exact c.prompt_settle r none hrun

theorem prompt_need : (c.need r decode).Prompt := by
  refine (c.prompt_reply r decode).bind ?_
  rintro (_ | _ | _)
  · exact .throw
  · exact .throw
  · exact .pure

end Reads

/-! ## What is asked for a transaction, and its broadcast -/

theorem prompt_takeNonce : c.takeNonce.Prompt := by
  refine Talk.prompt_get.bind fun s => ?_
  have hnext (n : UInt64) : (do
      modify fun s => { s with nextNonce := some (n + 1) }
      return n : Talk σ (Stop ChainError) UInt64).Prompt := by
    refine Talk.Prompt.bind ?_ fun _ => .pure
    exact Talk.prompt_modify fun _ => rfl
  cases s.nextNonce with
  | some n => exact hnext n
  | none => exact (c.prompt_need _ _).bind hnext

theorem prompt_ownChainId : c.ownChainId.Prompt := by
  refine Talk.prompt_get.bind fun s => ?_
  cases s.chainId with
  | some id => exact .pure
  | none =>
    refine (c.prompt_need _ _).bind fun id => ?_
    refine Talk.Prompt.bind ?_ fun _ => .pure
    exact Talk.prompt_modify fun _ => rfl

theorem prompt_offer : c.offer.Prompt := by
  refine (c.prompt_need _ _).bind fun history => ?_
  cases history.nextBaseFee? with
  | some fee => exact .pure
  | none => exact (c.prompt_need _ _).bind fun _ => .pure

theorem prompt_sendRaw (raw : Bytes) : (c.sendRaw raw).Prompt := by
  refine (c.prompt_reply _ _).bind ?_
  rintro (_ | _ | _)
  · exact .pure
  · exact .throw
  · exact .pure

theorem prompt_orElse {a : Option α} {t : Talk σ ε α} (ht : t.Prompt) : (orElse a t).Prompt := by
  cases a with
  | some a => exact .pure
  | none => exact ht

theorem prompt_complete (r : TxRequest) : (c.complete r).Prompt := by
  refine (prompt_orElse c.prompt_takeNonce).bind fun nonce => ?_
  refine (prompt_orElse c.prompt_ownChainId).bind fun chainId => ?_
  have hgas (r : TxRequest) : (do
      let gasLimit ← orElse r.gasLimit (c.need (.estimateGas r) Quantity.word64?)
      return { r with gasLimit := some gasLimit } : Talk σ (Stop ChainError) TxRequest).Prompt :=
    (prompt_orElse (c.prompt_need _ _)).bind fun _ => .pure
  dsimp only
  split
  · exact hgas _
  · exact c.prompt_offer.bind fun o => hgas _

/-- A request is sent at the time at which it is made. -/
theorem prompt_send (r : TxRequest) : (c.send r).Prompt := by
  refine (c.prompt_complete r).bind fun r => ?_
  cases r.sign c.wallet with
  | error e => exact .throw
  | ok raw =>
    refine (c.prompt_sendRaw raw).mapError.bind fun hash => ?_
    cases hash with
    | some hash => exact .pure
    | none => exact .throw

/-! ## Waiting for a confirmation -/

theorem prompt_look (hash : TxHash) (limitMs : Nat) : (c.look hash limitMs).Prompt := by
  refine (c.prompt_readBefore _ _ _ _).bind fun r => ?_
  cases r with
  | none => exact .pure
  | some r =>
    dsimp only
    split
    · exact .throw
    · split
      · exact .pure
      · exact (c.prompt_readBefore _ _ _ _).bind fun _ => .pure

end Client

/-- A receipt is asked for. -/
def Request.isPoll : Request → Bool
  | receipt _ => true
  | _ => false

/-- How often receipts were asked for. -/
def Transcript.polls (h : Transcript) : Nat :=
  h.countP (·.1.isPoll)

namespace Transcript

@[simp] theorem polls_append (h h' : Transcript) : polls (h ++ h') = polls h + polls h' :=
  List.countP_append

/-- The time that a wait for a confirmation takes when it ends well: an interval for each poll after
the first. -/
def waitedMs (intervalMs : Nat) (h : Transcript) : Nat :=
  (h.polls - 1) * intervalMs

/-- After one poll an interval passes before the others. -/
theorem waitedMs_append (intervalMs : Nat) {h h' : Transcript} (hone : h.polls = 1)
    (hpos : 0 < h'.polls) : waitedMs intervalMs (h ++ h') = intervalMs + h'.waitedMs intervalMs := by
  obtain ⟨k, hk⟩ := Nat.exists_eq_succ_of_ne_zero (Nat.ne_of_gt hpos)
  rw [waitedMs, waitedMs, polls_append, hone, hk, Nat.add_sub_cancel_left, Nat.succ_sub_one,
    Nat.succ_mul, Nat.add_comm]

end Transcript

namespace Client

variable (c : Client σ)

theorem ensures_polls_look (hash : TxHash) (limitMs : Nat) :
    (c.look hash limitMs).Ensures fun g _ => g.asked.polls = 1 := by
  refine (c.ensures_readBefore _ _ _ _).bind ?_ ?_
  · rintro g r ⟨a, hasked, -⟩
    have hone : g.asked.polls = 1 := by rw [hasked]; rfl
    cases r with
    | none => exact .pure (by simpa using hone)
    | some r =>
      dsimp only
      split
      · exact .throw (by simpa using hone)
      · split
        · exact .pure (by simpa using hone)
        · refine (c.ensures_readBefore _ _ _ _).bind ?_ ?_
          · rintro h last ⟨b, hlast, -⟩
            have hnone : h.asked.polls = 0 := by rw [hlast]; rfl
            exact .pure (by simp [hone, hnone])
          · rintro h e ⟨b, hlast, -⟩
            have hnone : h.asked.polls = 0 := by rw [hlast]; rfl
            simp [hone, hnone]
  · rintro g e ⟨a, hasked, -⟩
    rw [hasked]
    rfl

/-- A look is one poll, and takes no time unless it fails. -/
theorem ensuresAt_look (hash : TxHash) (limitMs : Nat) (now : Clock) :
    (c.look hash limitMs).EnsuresAt now fun g x =>
      g.asked.polls = 1 ∧ ∀ y ∈ x, y.2 = now := by
  refine ((c.prompt_look hash limitMs).ensuresAt (c.ensures_polls_look hash limitMs) now).mono ?_
  rintro g _ ⟨e | r, hpolls, rfl⟩
  · exact ⟨hpolls, fun y hy => nomatch hy⟩
  · refine ⟨hpolls, ?_⟩
    rintro _ ⟨⟩
    rfl

theorem ensuresAt_lookUntil (hash : TxHash) (limitMs looks : Nat) (now : Clock) :
    (c.lookUntil hash limitMs looks).EnsuresAt now fun g x =>
      ∀ y ∈ x, 0 < g.asked.polls ∧
        y.2 = now.later (g.asked.waitedMs c.settings.pollIntervalMs.toNat) := by
  induction looks generalizing now with
  | zero =>
    refine ((Talk.ensures_waitUntil limitMs).at now).bind ?_ fun _ _ y hy => nomatch hy
    intro g _ later _
    exact .throw fun y hy => nomatch hy
  | succ looks ih =>
    refine (Talk.ensuresAt_clockMs now).bind_ok ?_
    rintro _ _ _ ⟨rfl, rfl, rfl⟩
    refine (c.ensuresAt_look hash limitMs _).bind ?_ fun _ _ y hy => nomatch hy
    rintro g r later ⟨hpolls, hlater⟩
    obtain rfl := hlater _ rfl
    cases r with
    | some r =>
      refine .pure ?_
      rintro _ ⟨⟩
      simp [Transcript.waitedMs, hpolls]
    | none =>
      dsimp only
      cases looks with
      | zero =>
        -- the last look has been: there will be no value
        refine ((Talk.ensures_waitUntil limitMs).at later).bind ?_ fun _ _ y hy => nomatch hy
        intro g _ later _
        exact .throw fun y hy => nomatch hy
      | succ looks =>
        rw [if_pos (Nat.succ_ne_zero looks)]
        refine (Talk.ensuresAt_waitUntil later _).bind_ok ?_
        rintro _ _ _ ⟨rfl, rfl⟩
        refine (ih _).mono ?_
        intro h x hx y hy
        obtain ⟨hpos, hy⟩ := hx y hy
        have hasked : (({} : Growth) ++ (g ++ (({} : Growth) ++ h))).asked = g.asked ++ h.asked :=
          rfl
        rw [hasked, hy, Clock.later_later, Transcript.waitedMs_append _ hpolls hpos,
          Transcript.polls_append]
        exact ⟨Nat.add_pos_right _ hpos, rfl⟩

/-- **A wait for a confirmation that ends well** is over an interval later for each poll after the
first. -/
theorem ensuresAt_confirm (hash : TxHash) (now : Clock) :
    (c.confirm hash).EnsuresAt now fun g x =>
      ∀ y ∈ x, y.2 = now.later (g.asked.waitedMs c.settings.pollIntervalMs.toNat) := by
  rw [confirm]
  split
  · refine .throw ?_
    rintro _ ⟨⟩
  · refine (Talk.ensuresAt_clockMs now).bind_ok ?_
    rintro _ _ _ ⟨rfl, rfl, rfl⟩
    refine (c.ensuresAt_lookUntil hash _ _ _).mapError.mono ?_
    intro g x hx y hy
    exact (hx y hy).2

end Client
end LocalChain

import LocalChain.Client.Session

/-!
# What a talk adds to a session

Requests and journal entries are never taken back: a talk adds some to what a session holds, and
does nothing else to them.  `Session.GrowsBy` says that one session is another with such a
`Growth`, and `Talk.Ensures` that a talk, in whatever session it starts, adds a growth and ends
with a value or an error that together satisfy a condition.

The rules below follow the ways in which talks are put together.  With one condition proved for
each talk a longer talk needs no look into the shorter ones: the growths of its parts come one
after the other (`Ensures.bind`).
-/

namespace LocalChain

/-- A request and what became of it. -/
abbrev Exchange := Request × Answer

/-- Exchanges in order. -/
abbrev Transcript := List Exchange

/-- What is added to a session, in order. -/
@[ext] structure Growth where
  asked : Transcript := []
  entered : Journal := []

namespace Growth

/-- One growth after the other. -/
instance : Append Growth where
  append g h := ⟨g.asked ++ h.asked, g.entered ++ h.entered⟩

@[simp] theorem asked_append (g h : Growth) : (g ++ h).asked = g.asked ++ h.asked := rfl

@[simp] theorem entered_append (g h : Growth) : (g ++ h).entered = g.entered ++ h.entered := rfl

@[simp] theorem append_empty (g : Growth) : g ++ ({} : Growth) = g :=
  Growth.ext (List.append_nil _) (List.append_nil _)

end Growth

/-- The second session is the first with something added. -/
structure Session.GrowsBy {σ : Type} (s : Session σ) (g : Growth) (s' : Session σ) : Prop where
  asked : s'.asked = g.asked.reverse ++ s.asked
  entered : s'.entered = g.entered.reverse ++ s.entered

namespace Session.GrowsBy

variable {σ : Type} {s s' s'' : Session σ} {g h : Growth}

theorem refl (s : Session σ) : s.GrowsBy {} s := ⟨rfl, rfl⟩

theorem trans (hg : s.GrowsBy g s') (hh : s'.GrowsBy h s'') : s.GrowsBy (g ++ h) s'' where
  asked := by rw [hh.asked, hg.asked, Growth.asked_append, List.reverse_append, List.append_assoc]
  entered := by
    rw [hh.entered, hg.entered, Growth.entered_append, List.reverse_append, List.append_assoc]

/-- What was asked in the end comes after what had been asked before. -/
theorem requests_eq (hg : s.GrowsBy g s') : s'.requests = s.requests ++ g.asked := by
  rw [requests, requests, hg.asked, List.reverse_append, List.reverse_reverse]

/-- So does what was entered. -/
theorem journal_eq (hg : s.GrowsBy g s') : s'.journal = s.journal ++ g.entered := by
  rw [journal, journal, hg.entered, List.reverse_append, List.reverse_reverse]

end Session.GrowsBy

namespace Talk

variable {σ ε ε' α β : Type}

/-! ## Talks as functions on sessions -/

theorem runFrom_bind (t : Talk σ ε α) (f : α → Talk σ ε β) (s : Session σ) :
    (t >>= f).runFrom s =
      match t.runFrom s with
      | (.ok a, s') => (f a).runFrom s'
      | (.error e, s') => (.error e, s') := by
  show (match t s with | (a, s') => (ExceptT.bindCont f a) s') = _
  rw [show t.runFrom s = t s from rfl]
  rcases t s with ⟨a | a, s'⟩ <;> rfl

theorem runFrom_bind_ok {t : Talk σ ε α} {f : α → Talk σ ε β} {s s' : Session σ} {a : α}
    (h : t.runFrom s = (.ok a, s')) : (t >>= f).runFrom s = (f a).runFrom s' := by
  rw [runFrom_bind, h]

theorem runFrom_bind_error {t : Talk σ ε α} {f : α → Talk σ ε β} {s s' : Session σ} {e : ε}
    (h : t.runFrom s = (.error e, s')) : (t >>= f).runFrom s = (.error e, s') := by
  rw [runFrom_bind, h]

theorem runFrom_bind_eq_ok_iff {t : Talk σ ε α} {f : α → Talk σ ε β} {s s' : Session σ} {b : β} :
    (t >>= f).runFrom s = (.ok b, s') ↔
      ∃ a s₁, t.runFrom s = (.ok a, s₁) ∧ (f a).runFrom s₁ = (.ok b, s') := by
  rw [runFrom_bind]
  rcases t.runFrom s with ⟨e | a, s₁⟩ <;> simp [and_assoc]

theorem runFrom_bind_eq_error_iff {t : Talk σ ε α} {f : α → Talk σ ε β} {s s' : Session σ}
    {e : ε} :
    (t >>= f).runFrom s = (.error e, s') ↔ t.runFrom s = (.error e, s') ∨
      ∃ a s₁, t.runFrom s = (.ok a, s₁) ∧ (f a).runFrom s₁ = (.error e, s') := by
  rw [runFrom_bind]
  rcases t.runFrom s with ⟨e | a, s₁⟩ <;> simp [and_assoc]

theorem runFrom_report_bind (e : Event) (f : Unit → Talk σ ε β) (s : Session σ) :
    (report e >>= f).runFrom s =
      (f ()).runFrom { s with entered := .event e :: s.entered } :=
  rfl

theorem runFrom_clockMs_bind (f : Nat → Talk σ ε β) (s : Session σ) :
    (clockMs >>= f).runFrom s = (f s.clockMs).runFrom s :=
  rfl

theorem runFrom_get_bind (f : Session σ → Talk σ ε β) (s : Session σ) :
    (get >>= f).runFrom s = (f s).runFrom s :=
  rfl

theorem runFrom_mapError (t : Talk σ ε α) (h : ε → ε') (s : Session σ) :
    (t.mapError h).runFrom s = ((t.runFrom s).1.mapError h, (t.runFrom s).2) :=
  rfl

theorem runFrom_stoppable_eq_ok {t : Talk σ ε α} {s s' : Session σ} {a : α} :
    t.stoppable.runFrom s = (.ok a, s') ↔ t.runFrom s = (.ok a, s') := by
  rw [stoppable, runFrom_mapError]
  rcases t.runFrom s with ⟨e | b, s₁⟩
  · exact iff_of_false nofun nofun
  · constructor
    · rintro ⟨⟩
      rfl
    · rintro ⟨⟩
      rfl

theorem runFrom_attempt_bind (t : Talk σ ε α) (f : Except ε α → Talk σ ε' β) (s : Session σ) :
    (t.attempt >>= f).runFrom s = (f (t.runFrom s).1).runFrom (t.runFrom s).2 := by
  rw [runFrom_bind]
  rfl

/-! ## Conditions on what a talk does -/

/-- In whatever session the talk starts, what it adds and what it ends with satisfy a condition. -/
def Ensures (t : Talk σ ε α) (post : Growth → Except ε α → Prop) : Prop :=
  ∀ s, ∃ g, s.GrowsBy g (t.runFrom s).2 ∧ post g (t.runFrom s).1

variable {t : Talk σ ε α} {f : α → Talk σ ε β} {post post' : Growth → Except ε α → Prop}

theorem Ensures.mono (ht : t.Ensures post) (h : ∀ g x, post g x → post' g x) :
    t.Ensures post' := by
  intro s
  obtain ⟨g, hg, hx⟩ := ht s
  exact ⟨g, hg, h g _ hx⟩

theorem Ensures.pure {a : α} (h : post {} (.ok a)) : Ensures (pure a : Talk σ ε α) post :=
  fun s => ⟨{}, .refl s, h⟩

theorem Ensures.throw {e : ε} (h : post {} (.error e)) :
    Ensures (throw e : Talk σ ε α) post :=
  fun s => ⟨{}, .refl s, h⟩

/-- **One talk after the other.**  If the first gives a value, the second goes on with it; if not,
its error is the error of both. -/
theorem Ensures.bind {all : Growth → Except ε β → Prop} (ht : t.Ensures post)
    (hok : ∀ g a, post g (.ok a) → (f a).Ensures fun h x => all (g ++ h) x)
    (herror : ∀ g e, post g (.error e) → all g (.error e)) : (t >>= f).Ensures all := by
  intro s
  obtain ⟨g, hg, hx⟩ := ht s
  rw [runFrom_bind]
  rcases hrun : t.runFrom s with ⟨e | a, s'⟩
  · rw [hrun] at hg hx
    exact ⟨g, hg, herror g e hx⟩
  · rw [hrun] at hg hx
    obtain ⟨h, hh, hy⟩ := hok g a hx s'
    exact ⟨g ++ h, hg.trans hh, hy⟩

/-- The same for a first talk that always gives a value. -/
theorem Ensures.bind_ok {given : Growth → α → Prop} {all : Growth → Except ε β → Prop}
    (ht : t.Ensures fun g x => ∃ a, x = .ok a ∧ given g a)
    (hok : ∀ g a, given g a → (f a).Ensures fun h x => all (g ++ h) x) :
    (t >>= f).Ensures all := by
  refine ht.bind ?_ ?_
  · rintro g a ⟨a, ⟨⟩, ha⟩
    exact hok g a ha
  · rintro g e ⟨a, ⟨⟩, -⟩

theorem Ensures.mapError {h : ε → ε'} (ht : t.Ensures post) :
    (t.mapError h).Ensures fun g x => ∃ y, post g y ∧ x = y.mapError h := by
  intro s
  obtain ⟨g, hg, hx⟩ := ht s
  exact ⟨g, hg, _, hx, rfl⟩

/-- A condition that does not look into the error stays when the error is turned into another. -/
theorem Ensures.mapError_toOption {h : ε → ε'} (post : Growth → Option α → Prop)
    (ht : t.Ensures fun g x => post g x.toOption) :
    (t.mapError h).Ensures fun g x => post g x.toOption := by
  refine ht.mapError.mono ?_
  rintro g _ ⟨e | a, hg, rfl⟩
  · exact hg
  · exact hg

theorem Ensures.attempt (ht : t.Ensures post) :
    (t.attempt : Talk σ ε' _).Ensures fun g x => ∃ y, x = .ok y ∧ post g y := by
  intro s
  obtain ⟨g, hg, hx⟩ := ht s
  exact ⟨g, hg, _, rfl, hx⟩

/-! ## The parts that talks are made of -/

theorem ensures_ask (node : Node σ) (r : Request) :
    (ask node r : Talk σ ε Answer).Ensures fun g x => ∃ a, x = .ok a ∧ g = { asked := [(r, a)] } :=
  fun s => ⟨{ asked := [(r, (node.answer s.node r).1)] }, ⟨rfl, rfl⟩, _, rfl, rfl⟩

theorem ensures_enter (e : Entry) :
    (enter e : Talk σ ε Unit).Ensures fun g x => ∃ a, x = .ok a ∧ g = { entered := [e] } :=
  fun _ => ⟨{ entered := [e] }, ⟨rfl, rfl⟩, _, rfl, rfl⟩

theorem ensures_report (e : Event) :
    (report e : Talk σ ε Unit).Ensures fun g x =>
      ∃ a, x = .ok a ∧ g = { entered := [.event e] } :=
  ensures_enter (.event e)

theorem ensures_enterAll (j : Journal) :
    (enterAll j : Talk σ ε Unit).Ensures fun g x => ∃ a, x = .ok a ∧ g = { entered := j } :=
  fun _ => ⟨{ entered := j }, ⟨rfl, rfl⟩, _, rfl, rfl⟩

theorem ensures_clockMs :
    (clockMs : Talk σ ε Nat).Ensures fun g x => ∃ ms, x = .ok ms ∧ g = {} :=
  fun s => ⟨{}, .refl s, _, rfl, rfl⟩

theorem ensures_waitUntil (ms : Nat) :
    (waitUntil ms : Talk σ ε Unit).Ensures fun g x => ∃ a, x = .ok a ∧ g = {} :=
  fun _ => ⟨{}, ⟨rfl, rfl⟩, _, rfl, rfl⟩

theorem ensures_ofExcept (x : Except ε α) :
    (ofExcept x : Talk σ ε α).Ensures fun g y => y = x ∧ g = {} := by
  cases x with
  | ok a => exact .pure ⟨rfl, rfl⟩
  | error e => exact .throw ⟨rfl, rfl⟩

end Talk
end LocalChain

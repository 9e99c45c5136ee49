import LocalChain.Deployment.Record
import LocalChain.Proofs.Session.Growth

/-!
# Records in hand

A caller may have a record in hand and let a talk change it.  What was put into it stays there when the
talk fails later.  `InHand.Does` says that such a talk does to the record what another gives in its
place, so it leaves the record alone unless it succeeds (`Does.eq_error_iff`).
-/

namespace LocalChain

/-- A talk with a record in hand, which stays in hand when the talk fails. -/
abbrev InHand (σ ε : Type) := ExceptT ε (StateT DeploymentRecord (StateM (Session σ)))

namespace InHand

variable {σ ε α β : Type}

/-- What a talk ends with, and the record and the session after it. -/
def runOn (u : InHand σ ε α) (r : DeploymentRecord) (s : Session σ) :
    Except ε α × DeploymentRecord × Session σ :=
  let ((x, r), s) := u r s
  (x, r, s)

/-- A talk that does not touch the record. -/
def talk (t : Talk σ ε α) : InHand σ ε α :=
  fun r s =>
    let (x, s) := t.runFrom s
    ((x, r), s)

/-- The record. -/
def record : InHand σ ε DeploymentRecord :=
  fun r s => ((.ok r, r), s)

/-- Puts a pair into the record. -/
def setPair (pair : Address) : InHand σ ε Unit :=
  fun r s => ((.ok (), { r with pair := some pair }), s)

/-- The first talk does to a record what the second does without one in hand: it leaves the record that
the second gives, and the record as it was if there is none. -/
def Does (u : InHand σ ε α) (r : DeploymentRecord) (t : Talk σ ε (DeploymentRecord × α)) : Prop :=
  ∀ s, u.runOn r s =
    match t.runFrom s with
    | (.ok (r', a), s') => (.ok a, r', s')
    | (.error e, s') => (.error e, r, s')

variable {r : DeploymentRecord} {t : Talk σ ε α} {f : α → InHand σ ε β}
  {g : α → Talk σ ε (DeploymentRecord × β)}

theorem Does.record_bind {f : DeploymentRecord → InHand σ ε α}
    {t : Talk σ ε (DeploymentRecord × α)} (h : (f r).Does r t) : (record >>= f).Does r t :=
  h

/-- How a talk goes on after another, by what that ended with. -/
def goOn (f : α → InHand σ ε β) : Except ε α → InHand σ ε β
  | .ok a => f a
  | .error e => throw e

theorem runOn_talk_bind {s s' : Session σ} {x : Except ε α} (hrun : t.runFrom s = (x, s')) :
    (talk t >>= f).runOn r s = (goOn f x).runOn r s' := by
  have htalk : talk t r s = ((x, r), s') := by
    rw [talk, hrun]
  have hbind : (talk t >>= f).runOn r s =
      (goOn f (talk t r s).1.1).runOn (talk t r s).1.2 (talk t r s).2 := rfl
  rw [hbind, htalk]

theorem Does.talk_bind (h : ∀ a, (f a).Does r (g a)) : (talk t >>= f).Does r (t >>= g) := by
  intro s
  rw [Talk.runFrom_bind]
  rcases hrun : t.runFrom s with ⟨e | a, s'⟩
  · exact runOn_talk_bind hrun
  · exact (runOn_talk_bind hrun).trans (h a s')

variable {u : InHand σ ε α} {t : Talk σ ε (DeploymentRecord × α)} {r' : DeploymentRecord}
  {s s' : Session σ} {a : α} {e : ε}

theorem Does.eq_ok_iff (h : u.Does r t) :
    u.runOn r s = (.ok a, r', s') ↔ t.runFrom s = (.ok (r', a), s') := by
  rw [h s]
  rcases t.runFrom s with ⟨_ | ⟨_, _⟩, _⟩
  · exact iff_of_false nofun nofun
  · constructor
    · rintro ⟨⟩
      rfl
    · rintro ⟨⟩
      rfl

theorem Does.eq_error_iff (h : u.Does r t) :
    u.runOn r s = (.error e, r', s') ↔ t.runFrom s = (.error e, s') ∧ r' = r := by
  rw [h s]
  rcases t.runFrom s with ⟨_ | ⟨_, _⟩, _⟩
  · constructor
    · rintro ⟨⟩
      exact ⟨rfl, rfl⟩
    · rintro ⟨⟨⟩, rfl⟩
      rfl
  · exact iff_of_false nofun nofun

theorem Does.session_eq (h : u.Does r t) : (u.runOn r s).2.2 = (t.runFrom s).2 := by
  rw [h s]
  rcases t.runFrom s with ⟨_ | ⟨_, _⟩, _⟩ <;> rfl

end InHand

end LocalChain

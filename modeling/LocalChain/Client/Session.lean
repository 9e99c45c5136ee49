import LocalChain.Journal.Basic
import LocalChain.Node.Basic

/-!
# Sessions

A session is all that changes while a program talks to a node: the node itself, the time, what was asked
and what became of it, and the journal. A talk is a part of a session that ends with a value or an error;
whatever happened before the error stays in the session.
-/

namespace LocalChain

/-- A session with a node in state `σ`. -/
structure Session (σ : Type) where
  node : σ
  /-- The second at which the session began, counted as in the times of blocks. -/
  beganSecs : UInt64 := 0
  /-- Time since then. -/
  clockMs : Nat := 0
  /-- What was asked, the last first. -/
  asked : List (Request × Answer) := []
  /-- What was entered in the journal, the last first. -/
  entered : List Entry := []
  /-- The nonce of the next transaction that gets one here; none until the node is asked. -/
  nextNonce : Option UInt64 := none
  /-- The chain of transactions that get one here; none until the node is asked. -/
  chainId : Option UInt64 := none

/-- A part of a session. -/
abbrev Talk (σ ε : Type) := ExceptT ε (StateM (Session σ))

/-- Why something that takes more than reading ends without a value. -/
inductive Stop (ε : Type) where
  | failed (error : ε)
  /-- An answer that is waited for without a limit never comes. -/
  | stuck
  /-- The program breaks off: an amount cannot be read to its end, or no time at all is to pass between
  two looks at the node. -/
  | broken

/-- The same stop with another error. -/
def Stop.map {ε ε' : Type} (f : ε → ε') : Stop ε → Stop ε'
  | failed e => .failed (f e)
  | stuck => .stuck
  | broken => .broken

namespace Session

variable {σ : Type}

/-- The requests in order, each with what became of it. -/
def requests (s : Session σ) : List (Request × Answer) :=
  s.asked.reverse

/-- The journal. -/
def journal (s : Session σ) : Journal :=
  s.entered.reverse

/-- The second that it is now. -/
def nowSecs (s : Session σ) : Nat :=
  s.beganSecs.toNat + s.clockMs / 1000

end Session

namespace Talk

variable {σ ε ε' α : Type}

/-- A talk that is a function on sessions. -/
def ofFunction (f : Session σ → Except ε α × Session σ) : Talk σ ε α :=
  f

/-- What a talk ends with, and the session after it. -/
def runFrom (t : Talk σ ε α) (s : Session σ) : Except ε α × Session σ :=
  t s

/-- Asks the node. -/
def ask (node : Node σ) (r : Request) : Talk σ ε Answer :=
  ofFunction fun s =>
    let (a, n) := node.answer s.node r
    (.ok a, { s with node := n, asked := (r, a) :: s.asked })

/-- Makes an entry in the journal. -/
def enter (e : Entry) : Talk σ ε Unit :=
  ofFunction fun s => (.ok (), { s with entered := e :: s.entered })

/-- Makes the entries of a journal. -/
def enterAll (j : Journal) : Talk σ ε Unit :=
  ofFunction fun s => (.ok (), { s with entered := j.reverse ++ s.entered })

/-- Reports an event. -/
def report (e : Event) : Talk σ ε Unit :=
  enter (.event e)

/-- The time. -/
def clockMs : Talk σ ε Nat :=
  ofFunction fun s => (.ok s.clockMs, s)

/-- Waits until a time. -/
def waitUntil (ms : Nat) : Talk σ ε Unit :=
  ofFunction fun s => (.ok (), { s with clockMs := max s.clockMs ms })

/-- The talk with its errors turned into others. -/
def mapError (f : ε → ε') (t : Talk σ ε α) : Talk σ ε' α :=
  ofFunction fun s =>
    let (r, s) := t.runFrom s
    (r.mapError f, s)

/-- The talk as one that may also stop for other reasons. -/
def stoppable (t : Talk σ ε α) : Talk σ (Stop ε) α :=
  t.mapError .failed

/-- What a talk ends with, as a value. -/
def attempt (t : Talk σ ε α) : Talk σ ε' (Except ε α) :=
  ofFunction fun s =>
    let (r, s) := t.runFrom s
    (.ok r, s)

/-- A result that is there already. -/
def ofExcept : Except ε α → Talk σ ε α
  | .ok a => pure a
  | .error e => throw e

end Talk
end LocalChain

import Mathlib.Tactic.SplitIfs
import LocalChain.Client.Confirmation
import LocalChain.Proofs.Session.Reads

/-!
# Polls

A client that waits for a confirmation polls the node.  What the node does is its own affair: receipts
come and go, blocks are taken back, an answer may be an error or stay away.  `Client.poll` is what it
does at the `k`-th poll, and `Client.Decides` says which polls are decisive, and what they decide.

A look at a transaction is one poll (`Client.runFrom_look`).  It takes time only when an answer stays
away, and when the time that is allowed to the wait is over before that to the answer, the look is over
too (`Client.runFrom_look_late`).
-/

namespace LocalChain

/-- What comes back at one poll. -/
structure Poll where
  receipt : Answer
  /-- The answer about the last block, if that was asked for. -/
  lastBlock : Option Answer

namespace Poll

/-- What was asked, with the answers. -/
def requests (hash : TxHash) (p : Poll) : Transcript :=
  (.receipt hash, p.receipt) :: p.lastBlock.toList.map fun b => (.blockNumber, b)

/-- An answer of the poll stays away. -/
def isSilent (p : Poll) : Bool :=
  p.receipt.isSilent || p.lastBlock.any Answer.isSilent

end Poll

namespace Client

variable {σ : Type} (c : Client σ) (hash : TxHash)

/-- After this answer about a receipt the last block matters. -/
def needsLastBlock (a : Answer) : Bool :=
  match c.readResult Receipt.ofAnswer? a with
  | .ok (some r) => r.succeeded && c.settings.confirmationBlocks != 0
  | _ => false

/-- A poll of a node, and the node after it. -/
def pollFrom (n : σ) : Poll × σ :=
  let (receipt, n) := c.node.answer n (.receipt hash)
  if c.needsLastBlock receipt then
    let (lastBlock, n) := c.node.answer n .blockNumber
    (⟨receipt, some lastBlock⟩, n)
  else (⟨receipt, none⟩, n)

/-- The first polls of a node, so many of them. -/
def polls (n : σ) : Nat → List Poll
  | 0 => []
  | k + 1 => (c.pollFrom hash n).1 :: polls (c.pollFrom hash n).2 k

/-- The poll of a node after so many others. -/
def poll (n : σ) : Nat → Poll
  | 0 => (c.pollFrom hash n).1
  | k + 1 => poll (c.pollFrom hash n).2 k

/-- The time that a poll takes. -/
def durationMs (p : Poll) : Nat :=
  if p.isSilent then c.timeoutMs else 0

/-- A poll is decisive, and this is its verdict. -/
inductive Decides (p : Poll) : Except ChainError Receipt → Prop
  | receiptFails {e : ChainError} (hread : c.readResult Receipt.ofAnswer? p.receipt = .error e) :
      Decides p (.error e)
  | reverted {r : Receipt} (hread : c.readResult Receipt.ofAnswer? p.receipt = .ok (some r))
      (hfailed : r.succeeded = false) : Decides p (.error (.ofFailedTransaction hash))
  | atOnce {r : Receipt} (hread : c.readResult Receipt.ofAnswer? p.receipt = .ok (some r))
      (hsucceeded : r.succeeded = true) (hnone : c.settings.confirmationBlocks = 0) :
      Decides p (.ok r)
  | lastBlockFails {r : Receipt} {b : Answer} {e : ChainError}
      (hread : c.readResult Receipt.ofAnswer? p.receipt = .ok (some r))
      (hsucceeded : r.succeeded = true) (hsome : c.settings.confirmationBlocks ≠ 0)
      (hasked : p.lastBlock = some b) (hlast : c.readResult Quantity.word64? b = .error e) :
      Decides p (.error e)
  | confirmed {r : Receipt} {b : Answer} {block last : UInt64}
      (hread : c.readResult Receipt.ofAnswer? p.receipt = .ok (some r))
      (hsucceeded : r.succeeded = true) (hsome : c.settings.confirmationBlocks ≠ 0)
      (hasked : p.lastBlock = some b) (hlast : c.readResult Quantity.word64? b = .ok last)
      (hblock : r.block = some block)
      (henough : block.toNat + c.settings.confirmationBlocks.toNat ≤ last.toNat) : Decides p (.ok r)

/-- A poll decides nothing. -/
def Undecided (p : Poll) : Prop :=
  ∀ v, ¬c.Decides hash p v

variable {c hash}

end Client

/-! ## One look -/

namespace Client

variable {σ : Type} {c : Client σ} {hash : TxHash} {s s₁ : Session σ} {n n' : σ} {limitMs : Nat}
  {p : Poll} {r : Receipt} {a b : Answer}

section Steps

variable (hread : (c.readBefore limitMs c.lateConfirmation (.receipt hash)
  Receipt.ofAnswer?).runFrom s = (.ok (some r), s₁))
include hread

end Steps

section Looks

variable (htime : p.isSilent → s.clockMs + c.timeoutMs < limitMs)
include htime

end Looks

end Client
end LocalChain

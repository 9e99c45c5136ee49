import LocalChain.Node.Failure
import LocalChain.Node.Request

/-!
# Nodes

A node is anything that answers requests one after the other. It may answer with a value or an error, or
with something that is no answer; it may stay silent; or it may be out of reach.
-/

namespace LocalChain

/-- What becomes of a request. -/
inductive Answer where
  | result (value : Json)
  | error (code : Int) (message : String) (data : Option Json)
  /-- Something that is no answer. -/
  | garbled
  /-- Nothing comes back, ever. -/
  | silence
  /-- The request does not arrive. -/
  | unreachable

namespace Answer

/-- The value that an answer gives, or why the request failed; nothing when no answer comes. -/
def read {α : Type} (decode : Json → Option α) : Answer → Option (Except RequestFailure α)
  | result v =>
    match decode v with
    | some a => some (.ok a)
    | none => some (.error .badResponse)
  | error code message data => some (.error (.refused code message data))
  | garbled => some (.error .badResponse)
  | silence => none
  | unreachable => some (.error .unreachable)

/-- The node saw the request and answered it. -/
def isReply : Answer → Bool
  | result _ | error .. | garbled => true
  | silence | unreachable => false

end Answer

/-- A node with state `σ`. -/
structure Node (σ : Type) where
  answer : σ → Request → Answer × σ

/-- A node that nothing reaches. -/
def Node.outOfReach {σ : Type} (_ : Node σ) : Node σ where
  answer s _ := (.unreachable, s)

end LocalChain

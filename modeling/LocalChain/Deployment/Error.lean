import LocalChain.ChainError

/-!
# What can go wrong while contracts are deployed

One constructor a cause, with the sentence people read in `message`. A failure of the chain keeps its
own sentence.
-/

namespace LocalChain

/-- A failure of a deployment. -/
inductive DeployError where
  /-- The file of an artifact could not be read. -/
  | artifactIo (path reason : String)
  /-- The file of an artifact holds none. -/
  | artifactFormat (path reason : String)
  /-- A request failed before anything was sent. -/
  | chain (cause : ChainError)
  /-- The receipt, or the factory, names no address. -/
  | missingAddress (what : String)
  /-- A step failed; the reason is what the node says when the step is tried as a call. -/
  | reverted (label reason : String)
  /-- What a call returned is not what it should be. -/
  | decode (call reason : String)
  /-- The record could not be written. -/
  | output (path reason : String)
  /-- An amount is none, or too few tokens have one. -/
  | amount (reason : String)
  deriving DecidableEq, Repr

/-- The sentence for people. -/
def DeployError.message : DeployError → String
  | artifactIo path reason => "Cannot read artifact " ++ path ++ ": " ++ reason
  | artifactFormat path reason => "Malformed artifact " ++ path ++ ": " ++ reason
  | chain cause => cause.message
  | missingAddress what => what ++ " deployment produced no contract address"
  | reverted label reason => label ++ " reverted: " ++ reason
  | decode call reason => "Cannot decode " ++ call ++ " result: " ++ reason
  | output path reason => "Cannot write " ++ path ++ ": " ++ reason
  | amount reason => "Invalid amount: " ++ reason

end LocalChain

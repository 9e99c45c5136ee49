import LocalChain.Text.Forms

/-!
# What can go wrong on the way to the chain

One constructor a cause. `message` is the sentence people read, `debug` the form for developers,
which quotes every text.
-/

namespace LocalChain

/-- A failure of an account, of a request or of a transaction. -/
inductive ChainError where
  /-- The request could not be made, or what came back was no answer to it. -/
  | rpc (message : String)
  /-- The node answered with an error. -/
  | rejected (code : Int) (message : String)
  /-- No answer came within so many seconds. -/
  | timeout (secs : UInt64)
  /-- The transaction was not confirmed within so many seconds. -/
  | confirmationTimeout (secs : UInt64)
  /-- The transaction was mined and failed. -/
  | reverted (message : String)
  /-- The account is unusable, or could not sign. -/
  | wallet (message : String)
  /-- There is no nonce to give. -/
  | nonce (message : String)
  /-- The node serves another chain than the configured one. -/
  | chainMismatch (expected actual : UInt64)
  deriving DecidableEq, Repr

namespace ChainError

/-- The sentence for people. -/
def message : ChainError → String
  | rpc m => "RPC error: " ++ m
  | rejected code m => "Rejected by node (" ++ toString code ++ "): " ++ m
  | timeout secs => "RPC timeout after " ++ toString secs.toNat ++ " seconds"
  | confirmationTimeout secs =>
    "Transaction not confirmed after " ++ toString secs.toNat ++ " seconds"
  | reverted m => "Transaction reverted: " ++ m
  | wallet m => "Wallet error: " ++ m
  | nonce m => "Nonce error: " ++ m
  | chainMismatch expected actual =>
    "Chain ID mismatch: expected " ++ toString expected.toNat ++ ", got " ++ toString actual.toNat

/-- The form for developers. -/
def debug : ChainError → String
  | rpc m => "Rpc(" ++ Text.quoted m ++ ")"
  | rejected code m =>
    "Rejected \x7b code: " ++ toString code ++ ", message: " ++ Text.quoted m ++ " \x7d"
  | timeout secs => "Timeout(" ++ toString secs.toNat ++ ")"
  | confirmationTimeout secs => "ConfirmationTimeout(" ++ toString secs.toNat ++ ")"
  | reverted m => "Reverted(" ++ Text.quoted m ++ ")"
  | wallet m => "Wallet(" ++ Text.quoted m ++ ")"
  | nonce m => "Nonce(" ++ Text.quoted m ++ ")"
  | chainMismatch expected actual =>
    "ChainMismatch \x7b expected: " ++ toString expected.toNat ++ ", actual: " ++
      toString actual.toNat ++ " \x7d"

/-- The nonce space has no number left. -/
def nonceExhausted : ChainError := nonce "nonce space exhausted"

end ChainError
end LocalChain

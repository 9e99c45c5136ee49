import LocalChain.ChainError

/-!
# Counting nonces

A counter hands out numbers of 64 bits one after the other, from a base on. After the largest of them
there is nothing left to hand out.
-/

namespace LocalChain

/-- A counter of nonces. -/
structure NonceCounter where
  /-- The first nonce. -/
  base : UInt64
  /-- The next nonce, if one is left. -/
  next : Option UInt64
  deriving DecidableEq

namespace NonceCounter

/-- The counter that starts with a nonce. -/
def start (base : UInt64) : NonceCounter :=
  ⟨base, some base⟩

/-- The nonce after `n`, if there is one. -/
def successor (n : UInt64) : Option UInt64 :=
  if n.toNat + 1 < UInt64.size then some (n + 1) else none

/-- Takes the next nonce. -/
def take (c : NonceCounter) : Except ChainError UInt64 × NonceCounter :=
  match c.next with
  | none => (.error .nonceExhausted, c)
  | some n => (.ok n, { c with next := successor n })

/-- What so many calls of `take` give, and the counter after them. -/
def takeMany : (calls : Nat) → NonceCounter → List (Except ChainError UInt64) × NonceCounter
  | 0, c => ([], c)
  | calls + 1, c =>
    let (first, c) := c.take
    let (others, c) := takeMany calls c
    (first :: others, c)

end NonceCounter
end LocalChain

import LocalChain.Curve.Secp256k1
import LocalChain.Hash.Sha256

/-!
# Deterministic signatures

A private key signs a digest with the secret multiplier that RFC 6979 derives from the two, so the
same key and digest always give the same signature. Of the two signatures `(r, s)` and `(r, n - s)`
the one with the smaller second part is given, with the parity of the point it belongs to.
-/

namespace LocalChain

/-- A private key: a number from one up to the order of the curve, the order excluded. -/
structure PrivateKey where
  /-- The number. -/
  val : Nat
  pos : 0 < val
  lt_order : val < Secp256k1.order
  deriving DecidableEq

namespace PrivateKey

/-- The key with number `n`, if there is one. -/
def ofNat? (n : Nat) : Option PrivateKey :=
  if h : 0 < n ∧ n < Secp256k1.order then some ⟨n, h.1, h.2⟩ else none

/-- The bytes of the number. -/
def bytes (k : PrivateKey) : Bytes :=
  Bytes.ofNat 32 k.val

end PrivateKey

/-- A signature, with both parts reduced by the order of the curve. -/
structure Signature where
  r : Nat
  s : Nat
  /-- The signing point's second coordinate is odd. -/
  odd : Bool
  r_lt : r < Secp256k1.order
  s_lt : s < Secp256k1.order

namespace Signature

open Secp256k1

theorem order_pos : 0 < order := by decide

/-- Neither part is zero, as a verifier demands. -/
def usable (g : Signature) : Bool :=
  g.r != 0 && g.s != 0

/-- The signature with the smaller of the two second parts. -/
def low (g : Signature) : Signature :=
  if h : order / 2 < g.s then
    { g with
      s := order - g.s
      odd := !g.odd
      s_lt := by have := order_pos; omega }
  else g

/-- The signature of `digest` with the multiplier `k`. -/
def withMultiplier (key : PrivateKey) (digest k : Nat) : Signature :=
  let p := (multiple k).getD ⟨0, 0⟩
  let r := p.x % order
  { r
    s := Modular.inverse order k * (digest + r * key.val) % order
    odd := p.y % 2 == 1
    r_lt := Nat.mod_lt _ order_pos
    s_lt := Nat.mod_lt _ order_pos }

/-- The generator that multipliers are drawn from. -/
structure Generator where
  key : Bytes
  value : Bytes

namespace Generator

/-- The code of `message` under the generator's key. -/
def mac (key message : Bytes) : Bytes :=
  sha256.mac (sha256.macKey key) message

/-- Mixes `seed` into the generator after the byte `mark`. -/
def mix (g : Generator) (mark : UInt8) (seed : Bytes) : Generator :=
  let key := mac g.key (g.value ++ mark :: seed)
  ⟨key, mac key g.value⟩

/-- The generator for a key and a digest. -/
def start (key : PrivateKey) (digest : Nat) : Generator :=
  let seed := key.bytes ++ Bytes.ofNat 32 digest
  let zero : Generator := ⟨List.replicate 32 0, List.replicate 32 1⟩
  (zero.mix 0 seed).mix 1 seed

/-- The next 32 bytes. -/
def next (g : Generator) : Bytes :=
  mac g.key g.value

/-- The generator after its next bytes turned out useless. -/
def retry (g : Generator) : Generator :=
  let value := g.next
  let key := mac g.key (value ++ [0])
  ⟨key, mac key value⟩

end Generator

/-- The first usable signature among those of the next multipliers, or the last one tried. That a
multiplier is useless has a chance of about one in `2 ^ 127`. -/
def firstUsable (key : PrivateKey) (digest : Nat) : (tries : Nat) → Generator → Signature
  | 0, g => withMultiplier key digest (Bytes.toNat g.next)
  | tries + 1, g =>
    let k := Bytes.toNat g.next
    let signature := withMultiplier key digest k
    if 0 < k ∧ k < order ∧ signature.usable then signature
    else firstUsable key digest tries g.retry

end Signature

/-- The signature of a 32-byte digest. -/
def PrivateKey.sign (key : PrivateKey) (digest : Bytes) : Signature :=
  let z := Bytes.toNat digest % Secp256k1.order
  (Signature.firstUsable key z 16 (.start key z)).low

end LocalChain

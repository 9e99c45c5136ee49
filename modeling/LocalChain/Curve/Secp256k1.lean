/-!
# The curve secp256k1

The points of `y² = x³ + 7` over a prime field. Multiples of a point are computed in Jacobian
coordinates, where `(x, y, z)` stands for `(x / z², y / z³)` and `z = 0` for the point at infinity,
so that only the last step divides. Powers and inverses modulo a prime are computed by repeated
squaring over the bits of the exponent.
-/

namespace LocalChain.Modular

/-- `x ^ e` modulo `m`, times `acc`, over the `bits` lowest bits of `e`. -/
def powerBits (m : Nat) : (bits : Nat) → (x e acc : Nat) → Nat
  | 0, _, _, acc => acc
  | bits + 1, x, e, acc =>
    powerBits m bits (x * x % m) (e / 2) (if e % 2 = 1 then acc * x % m else acc)

/-- `x ^ e` modulo `m`. -/
def power (m x e : Nat) : Nat :=
  powerBits m (e.log2 + 1) (x % m) e (1 % m)

/-- The inverse of `x` modulo a prime `p`. -/
def inverse (p x : Nat) : Nat :=
  power p x (p - 2)

/-- `x - y` modulo `m`, for `y` below `m`. -/
def sub (m x y : Nat) : Nat :=
  (x + (m - y)) % m

end LocalChain.Modular

namespace LocalChain.Secp256k1

/-- The prime of the field. -/
def prime : Nat := 0xfffffffffffffffffffffffffffffffffffffffffffffffffffffffefffffc2f

/-- The number of points, a prime too. -/
def order : Nat := 0xfffffffffffffffffffffffffffffffebaaedce6af48a03bbfd25e8cd0364141

/-- A point other than the one at infinity. -/
structure Point where
  x : Nat
  y : Nat
  deriving DecidableEq, Repr

/-- The base point. -/
def base : Point where
  x := 0x79be667ef9dcbbac55a06295ce870b07029bfcdb2dce28d959f2815b16f81798
  y := 0x483ada7726a3c4655da4fbfc0e1108a8fd17b448a68554199c47d08ffb10d4b8

/-- A point in Jacobian coordinates. -/
structure Jacobian where
  x : Nat
  y : Nat
  z : Nat

namespace Jacobian

/-- The point at infinity. -/
def infinity : Jacobian := ⟨1, 1, 0⟩

/-- The point with coordinates `p`. -/
def ofPoint (p : Point) : Jacobian := ⟨p.x, p.y, 1⟩

/-- The point's own coordinates, if it is not at infinity. -/
def toPoint? (p : Jacobian) : Option Point :=
  if p.z = 0 then none
  else
    let i := Modular.inverse prime p.z
    let i2 := i * i % prime
    some ⟨p.x * i2 % prime, p.y * (i2 * i % prime) % prime⟩

/-- Twice a point. -/
def double (p : Jacobian) : Jacobian :=
  if p.z = 0 ∨ p.y = 0 then infinity
  else
    let y2 := p.y * p.y % prime
    let s := 4 * p.x * y2 % prime
    let m := 3 * p.x * p.x % prime
    let x := Modular.sub prime (m * m) (2 * s % prime)
    let y := Modular.sub prime (m * Modular.sub prime s x) (8 * y2 * y2 % prime)
    ⟨x, y, 2 * p.y * p.z % prime⟩

/-- The sum of two points. -/
def add (p q : Jacobian) : Jacobian :=
  if p.z = 0 then q
  else if q.z = 0 then p
  else
    let pz2 := p.z * p.z % prime
    let qz2 := q.z * q.z % prime
    let u1 := p.x * qz2 % prime
    let u2 := q.x * pz2 % prime
    let s1 := p.y * (qz2 * q.z % prime) % prime
    let s2 := q.y * (pz2 * p.z % prime) % prime
    if u1 = u2 then
      if s1 = s2 then double p else infinity
    else
      let h := Modular.sub prime u2 u1
      let r := Modular.sub prime s2 s1
      let h2 := h * h % prime
      let h3 := h2 * h % prime
      let v := u1 * h2 % prime
      let x := Modular.sub prime (r * r) ((h3 + 2 * v) % prime)
      let y := Modular.sub prime (r * Modular.sub prime v x) (s1 * h3 % prime)
      ⟨x, y, h * (p.z * q.z % prime) % prime⟩

/-- `acc` plus the multiple of `p` by the `bits` lowest bits of `k`. -/
def multipleBits : (bits : Nat) → (k : Nat) → (p acc : Jacobian) → Jacobian
  | 0, _, _, acc => acc
  | bits + 1, k, p, acc =>
    multipleBits bits (k / 2) p.double (if k % 2 = 1 then acc.add p else acc)

end Jacobian

/-- `k` times the base point, none when that is the point at infinity. -/
def multiple (k : Nat) : Option Point :=
  (Jacobian.multipleBits (k.log2 + 1) k (.ofPoint base) .infinity).toPoint?

end LocalChain.Secp256k1

import LocalChain.Curve.Signature
import LocalChain.Hash.Sha512

/-!
# Keys derived from a seed

A tree of private keys grows from a seed. Each key has a chain code, and its children are numbered;
a child with a number from `2 ^ 31` up is hardened, which means that only the private key leads to it.
-/

namespace LocalChain

/-- A private key with the code that its children are derived with. -/
structure ExtendedKey where
  key : PrivateKey
  chainCode : Bytes

namespace ExtendedKey

/-- The key and code in the two halves of a derivation's digest, none when the first half added to
`parent` is no key. -/
def ofDigest (parent : Nat) (digest : Bytes) : Option ExtendedKey :=
  let left := Bytes.toNat (digest.take 32)
  if Secp256k1.order ≤ left then none
  else
    (PrivateKey.ofNat? ((left + parent) % Secp256k1.order)).map
      fun key => ⟨key, digest.drop 32⟩

/-- The root of a seed's tree. -/
def root (seed : Bytes) : Option ExtendedKey :=
  ofDigest 0 (sha512.mac (sha512.macKey (Bytes.ofText "Bitcoin seed")) seed)

/-- The compressed public key: the parity of the second coordinate, then the first. -/
def publicBytes (key : PrivateKey) : Bytes :=
  match Secp256k1.multiple key.val with
  | none => []
  | some p => (if p.y % 2 = 1 then 3 else 2) :: Bytes.ofNat 32 p.x

/-- The first hardened number. -/
def hardened : Nat := 2147483648

/-- The child with a number. -/
def child (k : ExtendedKey) (number : Nat) : Option ExtendedKey :=
  let own := if hardened ≤ number then 0 :: k.key.bytes else publicBytes k.key
  ofDigest k.key.val (sha512.mac (sha512.macKey k.chainCode) (own ++ Bytes.ofNat 4 number))

/-- The descendant along a path of numbers. -/
def descendant (k : ExtendedKey) (path : List Nat) : Option ExtendedKey :=
  path.foldlM child k

end ExtendedKey

/-- The path of the account with an index: purpose 44 and coin 60, first account, outer chain. -/
def accountPath (index : UInt32) : List Nat :=
  [ExtendedKey.hardened + 44, ExtendedKey.hardened + 60, ExtendedKey.hardened, 0, index.toNat]

end LocalChain

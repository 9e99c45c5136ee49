import LocalChain.Url.Host

/-!
# Socket addresses

The address and the port that a service listens on: `1.2.3.4:5` or `[1::2%3]:5`, where the number
after the percent sign is a zone.
-/

namespace LocalChain

/-- An address and a port. -/
structure SocketAddress where
  host : Url.Host
  port : Nat
  deriving DecidableEq, Repr

namespace SocketAddress

/-- A decimal number below `bound`, leading zeros allowed. -/
def number? (bound : Nat) (cs : List Char) : Option Nat := do
  guard (!cs.isEmpty)
  (Url.Host.numberIn? 10 cs).filter (· < bound)

/-- The text before and after the first occurrence of a character. -/
def splitAt? (c : Char) (cs : List Char) : Option (List Char × List Char) :=
  if cs.contains c then some (cs.takeWhile (· != c), (cs.dropWhile (· != c)).drop 1) else none

/-- The address inside brackets, where a zone may follow it. -/
def bracketed? (cs : List Char) : Option Nat :=
  match splitAt? '%' cs with
  | none => Url.Host.ipv6? cs
  | some (address, zone) => do
    let _ ← number? (UInt32.size) zone
    Url.Host.ipv6? address

/-- Reads a socket address. -/
def parse? (s : String) : Option SocketAddress :=
  match s.toList with
  | '[' :: cs => do
    let (address, rest) ← splitAt? ']' cs
    let host ← bracketed? address
    match rest with
    | ':' :: port => return ⟨.ipv6 host, ← number? 65536 port⟩
    | _ => none
  | cs => do
    let (address, port) ← splitAt? ':' cs
    let host ← Url.Host.dottedQuad? address
    return ⟨.ipv4 host, ← number? 65536 port⟩

end SocketAddress
end LocalChain

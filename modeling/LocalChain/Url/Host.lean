import LocalChain.Bytes
import LocalChain.Text.Hex
import LocalChain.Url.Domain

/-!
# Hosts

A host is a number address of the fourth or the sixth version of the protocol or a domain name. A name
whose last part is a number is meant as an address, and then has to be one.
-/

namespace LocalChain.Url

/-- Why a text is no absolute URL. -/
inductive Error where
  | emptyHost
  | badDomain
  | badPort
  | badIpv4
  | badIpv6
  | badHostCharacter
  | relative
  deriving DecidableEq, Repr

/-- The sentence for people. -/
def Error.message : Error → String
  | emptyHost => "empty host"
  | badDomain => "invalid international domain name"
  | badPort => "invalid port number"
  | badIpv4 => "invalid IPv4 address"
  | badIpv6 => "invalid IPv6 address"
  | badHostCharacter => "invalid domain character"
  | relative => "relative URL without a base"

/-- A host. -/
inductive Host where
  | domain (name : String)
  | ipv4 (number : Nat)
  | ipv6 (number : Nat)
  deriving DecidableEq, Repr

namespace Host

/-- The digits of a base that a character may be. -/
def digitIn? (base : Nat) (c : Char) : Option Nat :=
  (Hex.digit? c).filter (· < base)

/-- The number that digits of a base spell; no digits spell zero. -/
def numberIn? (base : Nat) (cs : List Char) : Option Nat :=
  (cs.mapM (digitIn? base)).map (Digits.value base)

/-- A part of an address of the fourth version: hexadecimal after `0x`, octal after `0`. -/
def part? : List Char → Option Nat
  | [] => none
  | '0' :: 'x' :: cs => numberIn? 16 cs
  | '0' :: 'X' :: cs => numberIn? 16 cs
  | '0' :: c :: cs => numberIn? 8 (c :: cs)
  | cs => numberIn? 10 cs

/-- The labels of a name without an empty one at the end. -/
def parts (name : List Char) : List (List Char) :=
  let ls := Text.parts (· == '.') name
  if ls.getLast? = some [] then ls.dropLast else ls

/-- The last label of a name is a number, which makes the name an address. -/
def endsInNumber (name : List Char) : Bool :=
  match (parts name).getLast? with
  | none => false
  | some l => (!l.isEmpty && l.all fun c => '0' ≤ c ∧ c ≤ '9') || (part? l).isSome

/-- The address of up to four parts. All but the last are bytes, and the last fills what is left. -/
def ipv4OfParts? (ns : List Nat) : Option Nat :=
  match ns.getLast? with
  | none => none
  | some last =>
    let front := ns.dropLast
    if ns.length ≤ 4 ∧ last < Nat.pow 256 (5 - ns.length) ∧ front.all (· < 256) then
      some (Digits.value 256 front * Nat.pow 256 (5 - ns.length) + last)
    else none

/-- An address of the fourth version. -/
def parseIpv4 (name : List Char) : Except Error Host :=
  match (parts name).mapM part? >>= ipv4OfParts? with
  | none => .error .badIpv4
  | some n => .ok (.ipv4 n)

/-- An address of the fourth version in plain form: four decimal bytes without leading zeros. -/
def dottedQuad? (cs : List Char) : Option Nat := do
  let ls := Text.parts (· == '.') cs
  guard (ls.length = 4)
  let ns ← ls.mapM fun l => do
    guard (!l.isEmpty ∧ (l.length = 1 ∨ l.head? ≠ some '0'))
    let n ← numberIn? 10 l
    guard (n < 256)
    return n
  return Digits.value 256 ns

/-- The sixteen-bit groups of some parts, the last of which may be a dotted quad for two groups. -/
def groups? : List (List Char) → Option (List Nat)
  | [] => some []
  | [l] =>
    if l.contains '.' then (dottedQuad? l).map fun n => [n / 65536, n % 65536]
    else do
      guard (!l.isEmpty ∧ l.length ≤ 4)
      return [← numberIn? 16 l]
  | l :: ls => do
    guard (!l.isEmpty ∧ l.length ≤ 4)
    let n ← numberIn? 16 l
    return n :: (← groups? ls)

/-- The text before and after the first double colon, if there is one. -/
def splitGap : List Char → Option (List Char × List Char)
  | ':' :: ':' :: rest => some ([], rest)
  | c :: rest => (splitGap rest).map fun (a, b) => (c :: a, b)
  | [] => none

/-- The groups of a text between double colons, none for the empty text. -/
def groupsOf? (cs : List Char) : Option (List Nat) :=
  if cs.isEmpty then some [] else groups? (Text.parts (· == ':') cs)

/-- An address of the sixth version, without the brackets: eight groups, or fewer around a double
colon that stands for at least one group of zero. -/
def ipv6? (cs : List Char) : Option Nat :=
  match splitGap cs with
  | none => do
    let ns ← groups? (Text.parts (· == ':') cs)
    guard (ns.length = 8)
    return Digits.value 65536 ns
  | some (front, back) => do
    guard (!front.contains '.')
    let front ← groupsOf? front
    let back ← groupsOf? back
    guard (front.length + back.length ≤ 7)
    let zeros := List.replicate (8 - front.length - back.length) 0
    return Digits.value 65536 (front ++ zeros ++ back)

/-- An address in brackets. -/
def parseBracketed (cs : List Char) : Except Error Host :=
  match cs.getLast?, ipv6? (cs.drop 1).dropLast with
  | some ']', some n => .ok (.ipv6 n)
  | _, _ => .error .badIpv6

/-- The bytes that a text stands for when `%` and two digits stand for one. -/
def percentDecode : Bytes → Bytes
  | 0x25 :: a :: b :: rest =>
    match Hex.digit? (Char.ofNat a.toNat), Hex.digit? (Char.ofNat b.toNat) with
    | some x, some y => UInt8.ofNat (16 * x + y) :: percentDecode rest
    | _, _ => 0x25 :: percentDecode (a :: b :: rest)
  | c :: rest => c :: percentDecode rest
  | [] => []

/-- The host of a URL with one of the schemes of the web. -/
def parse (cs : List Char) : Except Error Host :=
  if cs.head? = some '[' then parseBracketed cs
  else
    match (Bytes.toText? (percentDecode (Bytes.ofText (String.ofList cs)))).bind
        fun s => Domain.normalize s.toList with
    | none => .error .badDomain
    | some name =>
      if name.isEmpty then .error .emptyHost
      else if endsInNumber name then parseIpv4 name
      else .ok (.domain (String.ofList name))

/-- The characters that the host of no URL may hold. -/
def isForbidden (c : Char) : Bool :=
  c.toNat = 0 || "\t\n\r #/:<>?@[\\]^|".toList.contains c

/-- The host of a URL with any other scheme, which is taken as it stands. -/
def parsePlain (cs : List Char) : Except Error Host :=
  if cs.head? = some '[' then parseBracketed cs
  else if cs.any isForbidden then .error .badHostCharacter
  else .ok (.domain (String.ofList cs))

end Host
end LocalChain.Url

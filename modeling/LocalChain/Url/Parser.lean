import LocalChain.Url.Host

/-!
# URLs

Reading an absolute URL as far as its port. The schemes of the web need a host and treat a backslash
as a slash; `file` may do without one; any other scheme has a host only after two slashes.
-/

namespace LocalChain

/-- The beginning of an absolute URL. -/
structure Url where
  /-- The scheme, in lower case. -/
  scheme : String
  host : Option Url.Host
  port : Option Nat
  deriving DecidableEq, Repr

namespace Url

/-- The three ways in which schemes read what follows them. -/
inductive Kind where
  | web
  | file
  | other
  deriving DecidableEq

/-- How a scheme reads what follows it. -/
def kindOf (scheme : List Char) : Kind :=
  let s := String.ofList scheme
  if s = "file" then .file
  else if s ∈ ["http", "https", "ws", "wss", "ftp"] then .web
  else .other

/-- The scheme in lower case and what follows its colon. -/
def splitScheme (cs : List Char) : Option (List Char × List Char) :=
  let scheme := cs.takeWhile fun c =>
    ('a' ≤ c ∧ c ≤ 'z') ∨ ('A' ≤ c ∧ c ≤ 'Z') ∨ ('0' ≤ c ∧ c ≤ '9') ∨ c = '+' ∨ c = '-' ∨ c = '.'
  match scheme, cs.drop scheme.length with
  | c :: _, ':' :: rest => if c.isAlpha then some (scheme.map Char.toLower, rest) else none
  | _, _ => none

/-- A character that ends the part of a URL that names the host. -/
def endsAuthority (kind : Kind) (c : Char) : Bool :=
  c = '/' || c = '?' || c = '#' || (kind = .web && c = '\\')

/-- A port after its colon. -/
def parsePort (cs : List Char) : Except Error (Option Nat) :=
  let digits := cs.takeWhile fun c => '0' ≤ c ∧ c ≤ '9'
  let n := Digits.value 10 (digits.map fun c => c.toNat - '0'.toNat)
  if 65535 < n then .error .badPort
  else
    match cs.drop digits.length with
    | c :: _ =>
      if c = '/' ∨ c = '\\' ∨ c = '?' ∨ c = '#' then .ok (if digits.isEmpty then none else some n)
      else .error .badPort
    | [] => .ok (if digits.isEmpty then none else some n)

/-- The text of the host that `cs` begins with: up to a colon outside brackets. -/
def hostText (kind : Kind) : (inBrackets : Bool) → List Char → List Char
  | _, [] => []
  | inBrackets, c :: cs =>
    if (c = ':' ∧ ¬inBrackets) ∨ endsAuthority kind c then []
    else c :: hostText kind (if c = '[' then true else if c = ']' then false else inBrackets) cs

/-- Host and port at the start of `cs`; `named` says that a user stands before them. -/
def parseHostPort (kind : Kind) (named : Bool) (cs : List Char) :
    Except Error (Option Host × Option Nat) := do
  let text := hostText kind false cs
  let rest := cs.drop text.length
  if text.isEmpty then
    if kind = .web ∨ named ∨ rest.head? = some ':' then .error .emptyHost else .ok (none, none)
  else
    let host ← if kind = .web then Host.parse text else Host.parsePlain text
    match rest with
    | ':' :: rest => return (some host, ← parsePort rest)
    | _ => return (some host, none)

/-- What follows two slashes: a user before an at sign, host and port. -/
def parseAuthority (kind : Kind) (cs : List Char) : Except Error (Option Host × Option Nat) :=
  let authority := cs.takeWhile (!endsAuthority kind ·)
  if authority.contains '@' then
    let rest := (authority.reverse.takeWhile (· != '@')).reverse
    let user := authority.take (authority.length - rest.length - 1)
    let after := cs.drop (user.length + 1)
    if user.isEmpty ∧ after.head?.any (endsAuthority kind) then .error .emptyHost
    else parseHostPort kind (user ≠ [] ∧ user ≠ [':']) after
  else parseHostPort kind false cs

/-- A letter and a colon or a bar, as names of drives are written. -/
def isDrive : List Char → Bool
  | [c, d] => c.isAlpha && (d = ':' || d = '|')
  | _ => false

/-- What follows the scheme `file`: a host after two slashes, unless that is the name of a drive. -/
def parseFile (cs : List Char) : Except Error (Option Host) :=
  match cs with
  | a :: b :: rest =>
    if (a = '/' ∨ a = '\\') ∧ (b = '/' ∨ b = '\\') then
      let text := rest.takeWhile fun c => !(c = '/' || c = '\\' || c = '?' || c = '#')
      if text.isEmpty ∨ isDrive text then .ok none else (Host.parse text).map some
    else .ok none
  | _ => .ok none

/-- Reads an absolute URL. Controls and blanks at its ends and tabs and line ends within it count for
nothing. -/
def parse (s : String) : Except Error Url :=
  let trimmed := (s.toList.dropWhile (·.toNat ≤ 0x20)).reverse.dropWhile (·.toNat ≤ 0x20)
  let cs := trimmed.reverse.filter fun c => !(c = '\t' || c = '\n' || c = '\r')
  match splitScheme cs with
  | none => .error .relative
  | some (scheme, rest) => do
    let name := String.ofList scheme
    match kindOf scheme with
    | .file => return ⟨name, ← parseFile rest, none⟩
    | .web =>
      let (host, port) ← parseAuthority .web (rest.dropWhile fun c => c = '/' || c = '\\')
      return ⟨name, host, port⟩
    | .other =>
      match rest with
      | '/' :: '/' :: rest =>
        let (host, port) ← parseAuthority .other rest
        return ⟨name, host, port⟩
      | _ => return ⟨name, none, none⟩

end Url
end LocalChain

import LocalChain.Address
import LocalChain.Deployment.Error
import LocalChain.Files.Basic
import LocalChain.Json.Parser
import LocalChain.Json.Printer
import LocalChain.Json.Reading

/-!
# The record of a deployment

Where everything is that a deployment created, kept as JSON with one member a line. An address is
written as lower-case hexadecimal text, and the pair only when there is one.
-/

namespace LocalChain

/-- A token and its contract. -/
structure DeployedToken where
  name : String
  symbol : String
  address : Address
  deriving DecidableEq, Inhabited

/-- Everything that a deployment created. -/
structure DeploymentRecord where
  chainId : UInt64
  deployer : Address
  weth : Address
  factory : Address
  router : Address
  tokens : List DeployedToken
  /-- The pair of the first two tokens, once it has liquidity. -/
  pair : Option Address := none
  deriving DecidableEq, Inhabited

/-- A token as a value. -/
def DeployedToken.toJson (t : DeployedToken) : Json :=
  .obj [("name", .str t.name), ("symbol", .str t.symbol), ("address", .str t.address.text)]

namespace DeploymentRecord

/-- The record as a value. -/
def toJson (r : DeploymentRecord) : Json :=
  .obj ([
    ("chain_id", .int r.chainId.toNat),
    ("deployer", .str r.deployer.text),
    ("weth", .str r.weth.text),
    ("factory", .str r.factory.text),
    ("router", .str r.router.text),
    ("tokens", .arr (r.tokens.map DeployedToken.toJson))] ++
    r.pair.toList.map fun a => ("pair", .str a.text))

/-- The record as text. -/
def text (r : DeploymentRecord) : String :=
  String.ofList (r.toJson.pretty 0)

open Json.Reading

/-- A value that is neither a byte nor made of others. -/
def isStray : Json → Bool
  | .arr _ | .cut _ | .obj _ => false
  | .unpaired isPassed => isPassed
  | j => (natural 256 j).isNone

/-- The address of twenty bytes. -/
def addressOfBytes? (items : List Json) : Option Address := do
  let bytes ← items.mapM (natural 256)
  guard (bytes.length = 20)
  return .ofBytes (bytes.map UInt8.ofNat)

/-- An address: its text, in any case and with or without a mark, or its twenty bytes. After the bytes
one item that is no byte is passed over, whether it is another value or cannot be read. -/
def address? : Json → Option Address
  | .str s =>
    match Address.parse s.toList with
    | .ok a => some a
    | .error _ => none
  | .arr items => do
    guard ((items.drop 20).length ≤ 1 ∧ (items.drop 20).all isStray)
    addressOfBytes? (items.take 20)
  | .cut items => addressOfBytes? items
  | _ => none

/-- A token. -/
def token? (j : Json) : Option DeployedToken := do
  let given ← fields json ["name", "symbol", "address"] j
  return {
    name := ← Given.require given 0 Json.Reading.text
    symbol := ← Given.require given 1 Json.Reading.text
    address := ← Given.require given 2 address? }

/-- The record that a value is. -/
def ofJson (j : Json) : Option DeploymentRecord := do
  let given ← fields json
    ["chain_id", "deployer", "weth", "factory", "router", "tokens", "pair"] j
  return {
    chainId := ← Given.require given 0 word64
    deployer := ← Given.require given 1 address?
    weth := ← Given.require given 2 address?
    factory := ← Given.require given 3 address?
    router := ← Given.require given 4 address?
    tokens := ← Given.require given 5 (list token?)
    pair := ← Given.get given 6 (optional address?) none }

/-- The record that a text is. -/
def parse (s : String) : Option DeploymentRecord :=
  Json.parseLoose s >>= ofJson

/-- Writes the record to a file. -/
def write (r : DeploymentRecord) (files : Files) (path : String) : Except DeployError Files :=
  (files.write path (Bytes.ofText r.text)).mapError fun e => .output path e.message

end DeploymentRecord
end LocalChain

import LocalChain.Deployment.Error
import LocalChain.Files.Basic
import LocalChain.Json.Kept
import LocalChain.Json.Reading
import LocalChain.Settings.Basic
import LocalChain.Text.Hex

/-!
# Build artifacts

A compiler's account of a contract, as JSON, of which the name and the code count. The code is
hexadecimal text, given at the top or in a section of its own, either by itself or as the member
`object`. The code at the top decides when both places have one.
-/

namespace LocalChain

/-- The code that creates a contract, and the contract's name. -/
structure Artifact where
  name : String
  bytecode : Bytes
  deriving DecidableEq, Inhabited

/-- Why a text holds no artifact. -/
inductive ArtifactError where
  /-- The text is no JSON, or not of the right shape. -/
  | notAnArtifact
  | noBytecode
  /-- There is nothing to create, as for an interface. -/
  | emptyBytecode
  /-- The place of a library's address is still open. -/
  | unlinked
  | badHex (cause : Hex.Error)
  deriving DecidableEq, Repr

/-- The sentence for people. -/
def ArtifactError.message : ArtifactError → String
  | notAnArtifact => "not a build artifact"
  | noBytecode => "no bytecode field"
  | emptyBytecode => "empty bytecode (abstract contract or interface?)"
  | unlinked => "bytecode has unlinked library placeholders"
  | badHex cause => "invalid bytecode hex: " ++ cause.message

namespace Artifact

open Json.Reading

/-- Arrays and objects around a value that is kept for later, itself included, at most. -/
def depthLimit : Nat := 127

/-- The text of the code, when a value that stands in `level` objects gives one. -/
def codeText (level : Nat) (j : Json) : Option String := do
  guard (level + j.depth ≤ depthLimit ∧ j.canBeKept)
  match j with
  | .str s => some s
  | .obj members => text (← (← member members "object"))
  | _ => none

/-- The fields of a structure, all of which are there when it is an array. -/
def allFields (keys : List String) (j : Json) : Option Given := do
  let given ← fields json keys j
  match j with
  | .arr items => guard (items.length = keys.length)
  | _ => pure ()
  return given

/-- The text of the code in a section of its own. -/
def sectionCode (j : Json) : Option (Option String) := do
  let given ← allFields ["bytecode"] j
  Given.get given 0 (optional (codeText 2)) none

/-- The name and the text of the code, as far as they are given. -/
def outline (j : Json) : Option (Option String × Option String) := do
  let given ← allFields ["contractName", "bytecode", "evm"] j
  let name ← Given.get given 0 (optional text) none
  let top ← Given.get given 1 (optional (codeText 1)) none
  let inner ← Given.get given 2 (optional sectionCode) none
  return (name, top <|> inner.join)

/-- Two underscores next to each other. -/
def hasPlaceholder : List Char → Bool
  | '_' :: '_' :: _ => true
  | _ :: cs => hasPlaceholder cs
  | [] => false

/-- The code that a text spells, with or without `0x` in front. -/
def readCode (s : String) : Except ArtifactError Bytes :=
  let cs := match Text.trim s.toList with
    | '0' :: 'x' :: cs => cs
    | cs => cs
  if cs.isEmpty then .error .emptyBytecode
  else if hasPlaceholder cs then .error .unlinked
  else (Hex.decode cs).mapError .badHex

/-- The artifact that a JSON text holds; `fallback` is its name when it gives none. -/
def ofJson (fallback s : String) : Except ArtifactError Artifact :=
  match Json.parse s >>= outline with
  | none => .error .notAnArtifact
  | some (_, none) => .error .noBytecode
  | some (name, some code) =>
    (readCode code).map fun bytecode => { name := name.getD fallback, bytecode }

/-- The artifact in a file, named for the file when it gives no name. -/
def ofFile (files : Files) (path : String) : Except DeployError Artifact :=
  match files.readText path with
  | .error e => .error (.artifactIo path e.message)
  | .ok s => (ofJson (Path.stem path) s).mapError fun e => .artifactFormat path e.message

end Artifact

/-- The artifacts that a deployment takes. -/
structure ArtifactSet where
  weth : Artifact
  factory : Artifact
  router : Artifact
  token : Artifact
  deriving DecidableEq, Inhabited

/-- The artifacts that settings name, or the first that cannot be had. -/
def ArtifactSet.ofFiles (files : Files) (d : DeploySettings) : Except DeployError ArtifactSet := do
  let artifact (path : String) := Artifact.ofFile files (Path.join d.artifactsDir path)
  return {
    weth := ← artifact d.wethArtifact
    factory := ← artifact d.factoryArtifact
    router := ← artifact d.routerArtifact
    token := ← artifact d.tokenArtifact }

end LocalChain

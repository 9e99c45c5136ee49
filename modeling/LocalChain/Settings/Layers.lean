import LocalChain.Files.Basic
import LocalChain.Settings.Reading
import LocalChain.Settings.Validation
import LocalChain.Toml.Document

/-!
# Layers of settings

Settings come from three places, the later of which wins: a file, or the defaults without one; the
private key of the environment, unless it is blank; and what the command line gives. They are judged
last, so that only what is left in the end has to be right.
-/

namespace LocalChain

/-- Why there are no settings to run with. -/
inductive SettingsError where
  /-- The file could not be read. -/
  | io (cause : FileError)
  /-- The file's text is no settings. -/
  | parse
  /-- The settings are wrong. -/
  | invalid (problems : List Problem)
  deriving DecidableEq, Repr

/-- The sentence for people. -/
def SettingsError.message : SettingsError → String
  | io cause => "IO error: " ++ cause.message
  | parse => "Parse error: not a settings file"
  | invalid problems => "Validation failed: " ++ ", ".intercalate (problems.map Problem.message)

/-- What the command line gives. -/
structure Overrides where
  rpcUrl : Option String := none
  count : Option UInt64 := none
  intervalMs : Option UInt64 := none
  recipient : Option String := none
  value : Option String := none
  deployOutput : Option String := none
  deriving DecidableEq, Inhabited

namespace Settings

/-- The settings in the text of a file. -/
def ofToml (text : String) : Option Settings :=
  Toml.parse text >>= Reading.settings Json.Reading.toml

/-- The settings in a tree of JSON values. -/
def ofJson (j : Json) : Option Settings :=
  Reading.settings Json.Reading.json j

/-- The settings in a file, not judged. -/
def readFile (files : Files) (path : String) : Except SettingsError Settings :=
  match files.readText path with
  | .error e => .error (.io e)
  | .ok text =>
    match ofToml text with
    | none => .error .parse
    | some s => .ok s

/-- Settings with the private key of the environment, unless that is blank. -/
def withEnvironment (key : Option String) (s : Settings) : Settings :=
  match key.filter (!Text.isBlankText ·) with
  | none => s
  | some key => { s with account := { s.account with privateKey := some key } }

/-- Settings with what the command line gives. -/
def override (o : Overrides) (s : Settings) : Settings :=
  { s with
    rpc := { s.rpc with url := o.rpcUrl.getD s.rpc.url }
    load := { s.load with
      count := o.count.getD s.load.count
      intervalMs := o.intervalMs.getD s.load.intervalMs
      recipient := o.recipient.getD s.load.recipient
      value := o.value.getD s.load.value }
    deploy := { s.deploy with output := o.deployOutput <|> s.deploy.output } }

/-- Settings with nothing wrong, or everything that is wrong with them. -/
def check (s : Settings) : Option (Except SettingsError Settings) :=
  s.problems.map fun problems =>
    if problems.isEmpty then .ok s else .error (.invalid problems)

/-- The settings in a file under the key of the environment, judged. -/
def ofFile (files : Files) (path : String) (key : Option String) :
    Option (Except SettingsError Settings) :=
  match readFile files path with
  | .error e => some (.error e)
  | .ok s => check (s.withEnvironment key)

/-- The settings of all layers, judged. Without a path the defaults take the place of the file. -/
def resolve (files : Files) (path : Option String) (key : Option String) (o : Overrides) :
    Option (Except SettingsError Settings) :=
  match path.elim (.ok {}) (readFile files) with
  | .error e => some (.error e)
  | .ok s => check ((s.withEnvironment key).override o)

end Settings
end LocalChain

import LocalChain.Command
import LocalChain.CommandLine.Invocation

/-!
# The program

A run of the program from its arguments to its exit code. The settings are layered and judged first; the
node is asked nothing before they are right.
-/

namespace LocalChain.Program

variable {σ : Type}

/-- What the program finds where it is started. -/
structure Surroundings where
  files : Files
  /-- The private key of the environment. -/
  key : Option String := none
  /-- The filter of the event log that the environment gives, if it gives one that is well formed.
  -/
  logFilter : Option String := none

/-- The settings of a run, when they are right. -/
def settings? (around : Surroundings) (i : Invocation) : Option Settings :=
  (Settings.resolve around.files i.config around.key i.overrides).bind Except.toOption

/-- The filter of the event log: the one of the environment, or else what the settings say. -/
def logFilter (around : Surroundings) (s : Settings) : String :=
  around.logFilter.getD s.observability.directives

/-- Runs a command with settings that are right. It gives the files as they are then. -/
def runCommand (node : Node σ) (around : Surroundings) (s : Settings) (c : Command) :
    Talk σ (Stop RunError) Files := do
  Talk.report (.starting s.rpc.url)
  s.observability.addressEvent?.forM Talk.report
  match c with
  | .spam =>
    Spam.run node s
    return around.files
  | .deploy skipLiquidity => Deploy.run node s around.files skipLiquidity

/-- Runs what is asked for. -/
def run (node : Node σ) (around : Surroundings) (i : Invocation) : Talk σ (Stop RunError) Files :=
  match Settings.resolve around.files i.config around.key i.overrides with
  | none => throw .broken
  | some (.error e) => throw (.failed (.settings e))
  | some (.ok s) => runCommand node around s i.command

/-- How the program ends. -/
inductive Ending where
  | done
  | helped
  | misused
  | failed (error : RunError)
  | broken
  /-- It does not end. -/
  | stuck

/-- The exit code; there is none when the program does not end. -/
def Ending.exitCode : Ending → Option Nat
  | done | helped => some 0
  | failed _ => some 1
  | misused => some 2
  | broken => some 101
  | stuck => none

/-- A run that is over. -/
structure Finished (σ : Type) where
  ending : Ending
  files : Files
  session : Session σ
  /-- The filter of the event log, which is set up as soon as the settings are right. -/
  logFilter : Option String

/-- The program. Files are as they were unless it ends well. -/
def start (node : Node σ) (around : Surroundings) (arguments : List String) (s : Session σ) :
    Finished σ :=
  match CommandLine.read arguments with
  | .help => ⟨.helped, around.files, s, none⟩
  | .misuse => ⟨.misused, around.files, s, none⟩
  | .run i =>
    let filter := (settings? around i).map (logFilter around)
    let (r, s) := (run node around i).runFrom s
    match r with
    | .ok files => ⟨.done, files, s, filter⟩
    | .error (.failed e) => ⟨.failed e, around.files, s, filter⟩
    | .error .broken => ⟨.broken, around.files, s, filter⟩
    | .error .stuck => ⟨.stuck, around.files, s, filter⟩

end LocalChain.Program

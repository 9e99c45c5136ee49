import LocalChain.Node.ScriptReading
import LocalChain.Program

/-!
# The command line

The outer layer of the program: it collects the files that a run may read, and writes the one that a run
may write. The node is one that follows a script, which the environment names; without a script no node
can be reached. The event log has no lines before it is set up; its filter is not applied to them, and
the one of the environment counts as well formed.
-/

namespace LocalChain

/-- Where a path leads from the working directory. -/
def Files.placeOf (fs : Files) (path : String) : List String :=
  (Path.parts path).foldl
    (fun place name => if name = ".." then place.dropLast else place ++ [name])
    (if Path.isAbsolute path then [] else fs.current)

/-- Adds what stands at a path, unless nothing does. -/
def Files.collect (fs : Files) (path : String) : IO Files := do
  let place := fs.placeOf path
  let fs' := fs.makeDirectories [] place.dropLast
  try
    let content ← IO.FS.readBinFile path
    return fs'.put place (.file content.toList)
  catch _ => return fs

/-- The files that a run may read, as far as they are there. -/
def collectFiles (i : Invocation) (key : Option String) : IO Files := do
  let here ← IO.currentDir
  let current := Path.parts here.toString
  let fs := ({ entries := [], current } : Files).makeDirectories [] current
  let fs ← match i.config with
    | some path => fs.collect path
    | none => pure fs
  match Program.settings? { files := fs, key } i with
  | some s =>
    let d := s.deploy
    let artifacts := [d.wethArtifact, d.factoryArtifact, d.routerArtifact, d.tokenArtifact]
    artifacts.foldlM (fun fs path => fs.collect (Path.join d.artifactsDir path)) fs
  | none => return fs

/-- The file that a run writes when it ends well. -/
def outputPath (around : Program.Surroundings) (i : Invocation) : Option String :=
  match i.command, Program.settings? around i with
  | .deploy _, some s => s.deploy.output
  | _, _ => none

/-- The script of the node, if there is one. -/
def readScript : IO (Option NodeScript) := do
  match ← IO.getEnv "DEVNET_NODE_SCRIPT" with
  | none => return none
  | some path => return Json.parse (← IO.FS.readFile path) >>= NodeScript.ofJson?

/-- An event as a line. -/
def Event.line (e : Event) : String :=
  e.fields.foldl (fun line (k, v) => line ++ " " ++ k ++ "=" ++ v)
    (e.level.name ++ " " ++ e.message)

/-- What the program says about its arguments. -/
def usage : String :=
  "Usage: local-chain [--config <FILE>] [--rpc-url <URL>] <COMMAND>\n\n" ++
  "Commands:\n" ++
  "  spam    [--count <N>] [--interval-ms <N>] [--to <ADDRESS>] [--value <ETHER>]\n" ++
  "  deploy  [--skip-liquidity] [--output <FILE>]\n" ++
  "  help    [COMMAND]"

/-- Runs what is asked for against a node, and gives the exit code. -/
def perform (arguments : List String) (i : Invocation) : IO UInt32 := do
  let key ← IO.getEnv "DEVNET_PRIVATE_KEY"
  let files ← collectFiles i key
  let around : Program.Surroundings := { files, key, logFilter := ← IO.getEnv "RUST_LOG" }
  let script ← readScript
  let node := (script.getD {}).node
  let node := if script.isSome then node else node.outOfReach
  let finished := Program.start node around arguments { node := (script.getD {}).start }
  if finished.logFilter.isSome then
    for e in finished.session.journal.events do
      IO.println e.line
  match finished.ending with
  | .done =>
    if let some path := outputPath around i then
      if let .ok text := finished.files.readText path then
        IO.FS.writeFile path text
  | .failed e => IO.eprintln ("Error: " ++ e.message)
  | .stuck => IO.eprintln "Error: an answer never comes"
  | _ => pure ()
  return UInt32.ofNat (finished.ending.exitCode.getD 1)

end LocalChain

open LocalChain in
/-- The program. -/
def main (arguments : List String) : IO UInt32 := do
  match CommandLine.read arguments with
  | .help =>
    IO.println usage
    return 0
  | .misuse =>
    IO.eprintln usage
    return 2
  | .run i => perform arguments i

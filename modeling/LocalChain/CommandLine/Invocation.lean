import LocalChain.CommandLine.Arguments
import LocalChain.Settings.Layers
import LocalChain.Digits

/-!
# Invocations

What the arguments of the program mean: which command to run, where its settings are, and what overrides
them. The options before the command are the same for both; each command has its own after it.
-/

namespace LocalChain

/-- What the program can do. -/
inductive Command where
  /-- Issue transfers. -/
  | spam
  /-- Deploy contracts, and add liquidity unless that is skipped. -/
  | deploy (skipLiquidity : Bool)
  deriving DecidableEq

/-- What to run. -/
structure Invocation where
  /-- The file with the settings. -/
  config : Option String
  overrides : Overrides
  command : Command
  deriving DecidableEq

/-- What the arguments ask for. -/
inductive Wish where
  | help
  /-- The arguments make no sense. -/
  | misuse
  | run (i : Invocation)

namespace CommandLine

/-- A number of 64 bits in decimal, with or without a plus sign in front. -/
def word64? (s : String) : Option UInt64 := do
  let cs := match s.toList with
    | '+' :: cs => cs
    | cs => cs
  guard (!cs.isEmpty && cs.all fun c => '0' ≤ c ∧ c ≤ '9')
  let n := Digits.value 10 (cs.map fun c => c.toNat - '0'.toNat)
  guard (n < UInt64.size)
  return UInt64.ofNat n

/-- The rule of an option that takes any text. -/
def anyText : Option (String → Bool) :=
  some fun _ => true

/-- The rule of an option that takes a number. -/
def numberText : Option (String → Bool) :=
  some fun s => (word64? s).isSome

/-- The options before the command. -/
def commonFlags : List Flag :=
  [{ name := "config", letter := some 'c', accepts := some (· ≠ "") },
   { name := "rpc-url", accepts := anyText }]

/-- The options after `spam`. -/
def spamFlags : List Flag :=
  [{ name := "count", accepts := numberText },
   { name := "interval-ms", accepts := numberText },
   { name := "to", accepts := anyText },
   { name := "value", accepts := anyText }]

/-- The options after `deploy`. -/
def deployFlags : List Flag :=
  [{ name := "skip-liquidity" },
   { name := "output", accepts := anyText }]

/-- The command with a name, the options it takes, and what they mean for it: the command itself and
what it overrides. -/
def commandOf (name : String) : Option (List Flag × (List Given → Command × Overrides)) :=
  match name with
  | "spam" => some (spamFlags, fun given =>
    (.spam, {
      count := valueOf given "count" >>= word64?
      intervalMs := valueOf given "interval-ms" >>= word64?
      recipient := valueOf given "to"
      value := valueOf given "value" }))
  | "deploy" => some (deployFlags, fun given =>
    (.deploy (valueOf given "skip-liquidity").isSome, { deployOutput := valueOf given "output" }))
  | _ => none

/-- Help about the program, or about one command. -/
def isHelpTopic : List String → Bool
  | [] => true
  | [name] => name = "help" || (commandOf name).isSome
  | _ => false

/-- The wish of a scan that ends in what is asked for, when its options are right. -/
def whenRight (given : List Given) (w : Wish) : Wish :=
  if areRight given then w else .misuse

/-- What the arguments after the name of a command ask for. -/
def readCommand (common : List Given) (flags : List Flag)
    (meaning : List Given → Command × Overrides) (arguments : List String) : Wish :=
  let s := scan flags arguments
  match s.halt with
  | .misuse | .word .. => .misuse
  | .help => whenRight s.given .help
  | .finished =>
    let (command, overrides) := meaning s.given
    whenRight common (whenRight s.given (.run {
      config := valueOf common "config"
      overrides := { overrides with rpcUrl := valueOf common "rpc-url" }
      command }))

/-- What the arguments ask for. -/
def read (arguments : List String) : Wish :=
  let s := scan commonFlags arguments
  match s.halt with
  | .misuse | .finished => .misuse
  | .help => whenRight s.given .help
  | .word name rest =>
    whenRight (judged s.given) (
      if name = "help" then
        if isHelpTopic rest then .help else .misuse
      else
        match commandOf name with
        | none => .misuse
        | some (flags, meaning) => readCommand s.given flags meaning rest)

end CommandLine
end LocalChain

/-!
# Arguments

The arguments of a command begin with its options and end with the first word that is none. An option
has a name after two hyphens, some a letter after one; its value follows an equals sign, or the letter
directly, or is the next argument, which then does not begin with a hyphen. Arguments are read from left
to right, and the first that asks for help or makes no sense decides; but a value that is an argument by
itself is judged only when the next option is met, or the end.
-/

namespace LocalChain.CommandLine

/-- An option. -/
structure Flag where
  name : String
  letter : Option Char := none
  /-- The values that the option takes; it takes none at all when there is no such rule. -/
  accepts : Option (String → Bool) := none

/-- Asks for help. -/
def helpFlag : Flag where
  name := "help"
  letter := some 'h'

/-- An option that is given. -/
structure Given where
  flag : Flag
  value : String
  /-- The value is an argument by itself. -/
  isSeparate : Bool

/-- What ends the options of a command. -/
inductive Halt where
  | help
  /-- An argument that makes no sense. -/
  | misuse
  /-- A word that is no option, with what follows it. -/
  | word (w : String) (rest : List String)
  | finished

/-- The options of a command, and what ends them. -/
structure Scan where
  given : List Given
  halt : Halt

/-- A scan with one more option before the others. -/
def Scan.after (g : Given) (s : Scan) : Scan :=
  { s with given := g :: s.given }

/-- What an argument is. -/
inductive Argument where
  /-- A name, and the value after an equals sign. -/
  | long (name : List Char) (value : Option (List Char))
  /-- A letter, and what follows it. -/
  | short (letter : Char) (rest : List Char)
  /-- Two hyphens: no options follow. -/
  | escape
  | word

/-- Tells what an argument is. -/
def Argument.ofText (s : String) : Argument :=
  match s.toList with
  | '-' :: '-' :: [] => escape
  | '-' :: '-' :: cs =>
    let name := cs.takeWhile (· != '=')
    long name (if name.length < cs.length then some (cs.drop (name.length + 1)) else none)
  | '-' :: c :: cs => short c cs
  | _ => word

/-- The value that follows a letter directly, after an equals sign or not. -/
def attached : List Char → List Char
  | '=' :: cs => cs
  | cs => cs

/-- Reads the options of a command that takes those of `flags` and help. -/
def scan (flags : List Flag) : List String → Scan
  | [] => ⟨[], .finished⟩
  | s :: rest =>
    match Argument.ofText s with
    | .word => ⟨[], .word s rest⟩
    | .escape => ⟨[], if rest.isEmpty then .finished else .misuse⟩
    | .long name value =>
      match (helpFlag :: flags).find? (·.name.toList == name), value with
      | none, _ => ⟨[], .misuse⟩
      | some flag, value =>
        match flag.accepts, value with
        | none, some _ => ⟨[], .misuse⟩
        | none, none =>
          if flag.name = helpFlag.name then ⟨[], .help⟩
          else (scan flags rest).after ⟨flag, "", false⟩
        | some _, some value => (scan flags rest).after ⟨flag, String.ofList value, false⟩
        | some _, none => takeNext flag rest
    | .short letter after =>
      match (helpFlag :: flags).find? (·.letter == some letter) with
      | none => ⟨[], .misuse⟩
      | some flag =>
        if flag.accepts.isNone then ⟨[], if flag.name = helpFlag.name then .help else .misuse⟩
        else if after.isEmpty then takeNext flag rest
        else (scan flags rest).after ⟨flag, String.ofList (attached after), false⟩
where
  /-- The value of an option is the next argument. -/
  takeNext (flag : Flag) : List String → Scan
    | [] => ⟨[], .misuse⟩
    | value :: rest =>
      match Argument.ofText value with
      | .word => (scan flags rest).after ⟨flag, value, true⟩
      | _ => ⟨[], .misuse⟩

/-- The value of an option, if it is given. -/
def valueOf (given : List Given) (name : String) : Option String :=
  (given.find? (·.flag.name == name)).map (·.value)

/-- Options that are given once each, with values that they take. -/
def areRight : List Given → Bool
  | [] => true
  | g :: others =>
    g.flag.accepts.all (· g.value) && !(others.any (·.flag.name == g.flag.name)) && areRight others

/-- The options whose values have been judged when a word ends them. -/
def judged (given : List Given) : List Given :=
  match given.getLast? with
  | some g => if g.isSeparate then given.dropLast else given
  | none => []

end LocalChain.CommandLine

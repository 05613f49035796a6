import BenchScript.Cli.Arguments

/-!
# Requests

What the command line asks for: one of four commands, with its arguments.
-/

namespace BenchScript.Cli

/-- A command with its arguments. Files are given by their paths. -/
inductive Request
  /-- Print the script for a workflow. -/
  | generate (workflow : String) (commands settings backend : Option String)
  /-- Print the entry of an instrument command, or the allowed values of one parameter. -/
  | lookup (commands command : String) (param : Option Nat)
  /-- List the capabilities of one or all device types. -/
  | capabilities (device : Option String)
  /-- List the roles and the device types that fulfil them. -/
  | roles
deriving Repr, DecidableEq

/-- A request, and whether diagnoses are logged. -/
structure Invocation where
  verbose : Bool
  request : Request
deriving Repr, DecidableEq

/-- The switches that every command has. -/
def commonOptions : List Opt := [⟨'v', "verbose", none⟩, ⟨'h', "help", none⟩]

/-- The arguments in front of a command. -/
def rootSpec : Spec := ⟨commonOptions ++ [⟨'V', "version", none⟩], 0⟩

/-- The arguments of `generate`. -/
def generateSpec : Spec where
  options := commonOptions ++ [⟨'w', "workflow", some .path⟩, ⟨'c', "commands", some .path⟩,
    ⟨'s', "settings", some .path⟩, ⟨'b', "backend", some .text⟩]
  positionals := 0

/-- The arguments of `lookup`. -/
def lookupSpec : Spec where
  options := commonOptions ++ [⟨'c', "commands", some .path⟩, ⟨'p', "param", some .count⟩]
  positionals := 1

/-- The arguments of `capabilities`. -/
def capabilitiesSpec : Spec := ⟨commonOptions, 1⟩

/-- The arguments of `roles`. -/
def rolesSpec : Spec := ⟨commonOptions, 0⟩

/-- The commands and their arguments. -/
def commandSpecs : List (String × Spec) :=
  [("generate", generateSpec), ("lookup", lookupSpec), ("capabilities", capabilitiesSpec),
    ("roles", rolesSpec)]

/-- The request for a command with the given arguments; `none` if a required one is missing. -/
def Request.ofGiven? (command : String) (g : Given) : Option Request :=
  match command with
  | "generate" => do
    let workflow ← g.values.lookup "workflow"
    return .generate workflow (g.values.lookup "commands") (g.values.lookup "settings")
      (g.values.lookup "backend")
  | "lookup" => do
    let commands ← g.values.lookup "commands"
    let command ← g.positionals.head?
    return .lookup commands command ((g.values.lookup "param").bind readCount?)
  | "capabilities" => some (.capabilities g.positionals.head?)
  | "roles" => some .roles
  | _ => none

/-- Reads the name of a command and its arguments, given the switches in front of it. The command
`help` shows the help of the command named after it. -/
def readCommand (g : Given) (command : String) (args : List String) : Except Halt Invocation :=
  match commandSpecs.lookup command with
  | some spec => do
    let own ← spec.read args
    match Request.ofGiven? command own with
    | some request =>
      return ⟨g.switches.contains "verbose" || own.switches.contains "verbose", request⟩
    | none => throw .usage
  | none =>
    if command = "help" then
      match args with
      | [] => throw .help
      | [name] =>
        if name = "help" || (commandSpecs.lookup name).isSome then throw .help else throw .usage
      | _ => throw .usage
    else throw .usage

/-- Reads the arguments of the program, given the switches read before. -/
def invocationFrom : Given → List String → Except Halt Invocation
  | _, [] => .error .usage
  | g, a :: as =>
    match a.toList with
    | ['-', '-'] => .error .usage
    | '-' :: '-' :: cs => do
      let (g, _) ← readWord rootSpec g cs
      invocationFrom g as
    | '-' :: c :: cs => do
      let (g, _) ← readLetters rootSpec g (c :: cs)
      invocationFrom g as
    | _ => readCommand g a as

/-- Reads the arguments of the program. -/
def Invocation.read (args : List String) : Except Halt Invocation := invocationFrom {} args

/-- The files that a request reads, in order. -/
def Request.paths : Request → List String
  | generate workflow commands settings _ => workflow :: settings.toList ++ commands.toList
  | lookup commands _ _ => [commands]
  | capabilities _ | roles => []

end BenchScript.Cli

import BenchScript.Decimal.Digits

/-!
# Command-line arguments

How the arguments of a command are taken apart: switches and options with values, by letter or by
word, positional arguments, and `--`, after which everything is positional. Arguments are read from
left to right, and the first fault ends the reading.
-/

namespace BenchScript.Cli

open BenchScript.Decimal

/-- The values that an option takes. -/
inductive ValueKind
  | path
  | text
  | count
deriving Repr, DecidableEq

/-- The number that a text writes, with an optional plus sign, if it fits into 64 bits. -/
def readCount? (text : String) : Option Nat :=
  let digits := match text.toList with
    | '+' :: ds => ds
    | ds => ds
  if digits.isEmpty || !digits.all isDigit || UInt64.size ≤ valueOf digits then none
  else some (valueOf digits)

/-- Whether an option takes a value. -/
def ValueKind.accepts : ValueKind → String → Bool
  | path, v => v ≠ ""
  | text, _ => true
  | count, v => (readCount? v).isSome

/-- An option of a command: its letter, its word, and the values it takes. A switch takes none. -/
structure Opt where
  letter : Char
  word : String
  value : Option ValueKind
deriving Repr, DecidableEq

/-- The arguments of a command: its options and how many positional arguments it takes. -/
structure Spec where
  options : List Opt
  positionals : Nat
deriving Repr, DecidableEq

/-- The arguments read so far, in their order. -/
structure Given where
  switches : List String := []
  values : List (String × String) := []
  positionals : List String := []
deriving Repr, DecidableEq

/-- Why arguments lead to no run. -/
inductive Halt
  | usage
  | help
  | version
deriving Repr, DecidableEq

namespace Given

/-- Adds a switch, which may be given once. -/
def addSwitch (g : Given) (o : Opt) : Except Halt Given :=
  if o.word = "help" then .error .help
  else if o.word = "version" then .error .version
  else if g.switches.contains o.word then .error .usage
  else .ok { g with switches := g.switches ++ [o.word] }

/-- Adds the value of an option, which may be given once. -/
def addValue (g : Given) (o : Opt) (v : String) : Except Halt Given :=
  if (g.values.lookup o.word).isSome || !o.value.any (·.accepts v) then .error .usage
  else .ok { g with values := g.values ++ [(o.word, v)] }

/-- Adds a positional argument, if there is room for one. -/
def addPositional (g : Given) (spec : Spec) (v : String) : Except Halt Given :=
  if g.positionals.length < spec.positionals then
    .ok { g with positionals := g.positionals ++ [v] }
  else .error .usage

end Given

/-- The arguments after an argument, and the option whose value comes next. -/
abbrev Taken := Except Halt (Given × Option Opt)

/-- Reads an option by its word, with a value after an equals sign or none. -/
def readWord (spec : Spec) (g : Given) (cs : List Char) : Taken :=
  let word := String.ofList (cs.takeWhile (· ≠ '='))
  let rest := cs.dropWhile (· ≠ '=')
  match spec.options.find? (·.word == word) with
  | none => .error .usage
  | some o =>
    match o.value, rest with
    | none, [] => (g.addSwitch o).map (·, none)
    | none, _ => .error .usage
    | some _, [] => .ok (g, some o)
    | some _, _ :: v => (g.addValue o (String.ofList v)).map (·, none)

/-- Reads options by their letters. What follows the letter of an option with a value is its value,
with or without an equals sign. -/
def readLetters (spec : Spec) : Given → List Char → Taken
  | g, [] => .ok (g, none)
  | g, c :: cs =>
    match spec.options.find? (·.letter == c) with
    | none => .error .usage
    | some o =>
      match o.value, cs with
      | none, cs => do
        let g ← g.addSwitch o
        readLetters spec g cs
      | some _, [] => .ok (g, some o)
      | some _, '=' :: v => (g.addValue o (String.ofList v)).map (·, none)
      | some _, v => (g.addValue o (String.ofList v)).map (·, none)

/-- The arguments of a command, given those read before and the option whose value is missing. -/
def readFrom (spec : Spec) : Given → Option Opt → List String → Except Halt Given
  | g, none, [] => .ok g
  | _, some _, [] => .error .usage
  | g, missing, a :: as =>
    match a.toList, missing with
    | ['-', '-'], none => as.foldlM (·.addPositional spec) g
    | '-' :: '-' :: cs, none => do
      let (g, missing) ← readWord spec g cs
      readFrom spec g missing as
    | '-' :: c :: cs, none => do
      let (g, missing) ← readLetters spec g (c :: cs)
      readFrom spec g missing as
    | _, none => do
      let g ← g.addPositional spec a
      readFrom spec g none as
    | '-' :: _ :: _, some _ => .error .usage
    | _, some o => do
      let g ← g.addValue o a
      readFrom spec g none as

/-- Reads the arguments of a command. -/
def Spec.read (spec : Spec) (args : List String) : Except Halt Given := readFrom spec {} none args

end BenchScript.Cli

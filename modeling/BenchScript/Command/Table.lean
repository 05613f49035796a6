import Std.Data.TreeMap
import BenchScript.Command.Issue

/-!
# Command tables

The commands of a library by their headers. A command takes the place of an earlier one with the
same header: libraries list the write form and the query form of a command under one header.
-/

namespace BenchScript

/-- The commands of a library by header, and the commands whose place a later one took, in the
order in which that happened. -/
structure CommandTable where
  commands : Std.TreeMap String Command := ∅
  replaced : List Command := []

namespace CommandTable

/-- Adds a command. -/
def insert (t : CommandTable) (c : Command) : CommandTable where
  commands := t.commands.insert c.header c
  replaced := t.replaced ++ t.commands[c.header]?.toList

/-- The table of the commands of a library. -/
def ofList (cs : List Command) : CommandTable := cs.foldl insert {}

/-- The command that a command line calls. -/
def lookup (t : CommandTable) (line : String) : Option Command :=
  t.commands[normalizeHeader line]?

/-- The parameters of the command that a line calls; none if there is no such command. -/
def params (t : CommandTable) (line : String) : List Param :=
  match t.lookup line with
  | some c => c.paramList
  | none => []

/-- The allowed values of a parameter of the command that a line calls; none if anything is
missing. -/
def options (t : CommandTable) (line : String) (index : Nat) : List String :=
  match (t.params line)[index]? with
  | some p => p.allowed
  | none => []

/-- The number of headers. -/
def size (t : CommandTable) : Nat := t.commands.size

/-- Whether there are no commands. -/
def isEmpty (t : CommandTable) : Bool := t.commands.isEmpty

/-- How many commands of the library a later one replaced. -/
def collapsed (t : CommandTable) : Nat := t.replaced.length

/-- The headers, sorted. -/
def headers (t : CommandTable) : List String := t.commands.keys

/-- What is wrong with a command line. -/
def validate (t : CommandTable) (line : String) : List Issue :=
  match t.lookup line with
  | none => [.unknownCommand (normalizeHeader line)]
  | some c => c.checkArguments line.toList

end CommandTable

end BenchScript

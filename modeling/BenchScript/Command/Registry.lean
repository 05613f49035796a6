import BenchScript.Command.Library
import BenchScript.Command.Table
import BenchScript.Log

/-!
# Command registries

A registry holds one command table at a time and replaces it as a whole. A table taken from it is a
value of its own, which no later replacement touches.
-/

namespace BenchScript

/-- Why no command library was loaded. -/
inductive LibraryError
  /-- A text is no library. -/
  | invalid (fault : LibraryFault)
  /-- The text given to a registry is no library. -/
  | notLoaded (fault : LibraryFault)
  /-- A file cannot be read as text. -/
  | unreadable (path : String)
  /-- The text of a file is no library. -/
  | invalidFile (path : String) (fault : LibraryFault)
deriving Repr, DecidableEq

/-- A registry of commands. -/
structure Registry where
  table : CommandTable := {}

namespace Registry

/-- The report on a table that has been loaded. -/
def loadEvents (t : CommandTable) : List Event :=
  t.replaced.map (fun c => .headerTaken c.scpi) ++ [.libraryLoaded t.size t.collapsed]

/-- Replaces the commands. -/
def setCommands (_ : Registry) (cs : List Command) : Registry × List Event :=
  let t := CommandTable.ofList cs
  (⟨t⟩, loadEvents t)

/-- Replaces the commands by those of a library. If the text is no library nothing changes. -/
def load (r : Registry) (text : String) : Except LibraryError (Registry × List Event) :=
  match Library.parse text with
  | .ok cs => .ok (r.setCommands cs)
  | .error fault => .error (.notLoaded fault)

/-- The table that the registry holds now. -/
def snapshot (r : Registry) : CommandTable := r.table

/-- The command that a command line calls. -/
def lookup (r : Registry) (line : String) : Option Command :=
  r.snapshot.commands[normalizeHeader line]?

/-- The parameters of the command that a line calls. -/
def params (r : Registry) (line : String) : List Param := r.snapshot.params line

/-- The allowed values of a parameter of the command that a line calls. -/
def options (r : Registry) (line : String) (index : Nat) : List String :=
  r.snapshot.options line index

/-- Whether there are commands. -/
def isPopulated (r : Registry) : Bool := !r.snapshot.isEmpty

/-- The number of headers. -/
def size (r : Registry) : Nat := r.snapshot.size

end Registry

end BenchScript

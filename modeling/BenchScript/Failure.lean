import BenchScript.Command.Registry
import BenchScript.Instrument.TagError
import BenchScript.Json.Record

/-!
# Failures

An error as it is told to the user: a message, and what lies behind it, the outermost cause first.
-/

namespace BenchScript

open BenchScript.Json

/-- What lies behind a failure. -/
inductive Cause
  /-- A text is no well-formed document. -/
  | malformed
  /-- A file cannot be read as text. -/
  | unreadable
  /-- Another cause, in words. -/
  | text (s : String)
deriving Repr, DecidableEq

/-- An error as it is told. -/
structure Failure where
  message : String
  causes : List Cause := []
deriving Repr, DecidableEq

/-- The failure for a text that is no tag. -/
def TagError.failure (e : TagError) : Failure := ⟨e.message, []⟩

/-- Why a document cannot be read, in words. -/
def readCause {ε : Type} (describe : ε → String) : ReadError ε → Cause
  | .malformed => .malformed
  | .data e => .text (e.message describe)

/-- Why a text is no command library, in words. -/
def LibraryFault.cause : LibraryFault → Cause
  | .malformed => .malformed
  | .noLayout => .text "data did not match any variant of untagged enum LibraryDocument"

/-- What a text should be to be a command library. -/
def libraryLayouts : String :=
  "Expected a list of commands, an object with 'commands', or an object with 'groups'"

/-- The failure for a command library that is not loaded. -/
def LibraryError.failure : LibraryError → Failure
  | .invalid fault => ⟨libraryLayouts, [fault.cause]⟩
  | .notLoaded fault => ⟨"Failed to load command library", [.text libraryLayouts, fault.cause]⟩
  | .unreadable path => ⟨"Failed to read command library '" ++ path ++ "'", [.unreadable]⟩
  | .invalidFile path fault =>
    ⟨"Invalid command library '" ++ path ++ "'", [.text libraryLayouts, fault.cause]⟩

/-- The commands of a library in a file, given what the file holds if it can be read. -/
def Library.ofFile (path : String) (content : Option String) : Except LibraryError (List Command) :=
  match content with
  | none => .error (.unreadable path)
  | some text => match Library.parse text with
    | .ok cs => .ok cs
    | .error fault => .error (.invalidFile path fault)

end BenchScript

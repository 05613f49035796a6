import BenchScript.Failure
import BenchScript.Text.Blank

/-!
# Settings

The settings of the script generator: reading them from a document, and replacing a comment prefix
that cannot begin a comment line.
-/

namespace BenchScript

open BenchScript.Json BenchScript.Text

/-- How scripts are generated. -/
structure Settings where
  /-- Whether a comment stands in place of a step that is skipped. -/
  emitComments : Bool := true
  /-- Whether steps are skipped whose device lacks the capability. -/
  skipUnsupported : Bool := true
  /-- Whether the role table is checked at the start. -/
  checkRoleTable : Bool := true
  /-- What a comment begins with. -/
  commentPrefix : String := "#"
deriving Repr, DecidableEq

/-- Why a comment prefix is replaced. -/
inductive PrefixFault
  | blank
  | severalLines
deriving Repr, DecidableEq

/-- The wording of a fault. -/
def PrefixFault.message : PrefixFault → String
  | blank => "Comment prefix must not be empty."
  | severalLines => "Comment prefix must fit on one line."

/-- A setting that was replaced. -/
structure SettingChange where
  field : String
  before : String
  after : String
  reason : PrefixFault
deriving Repr, DecidableEq

/-- Why no settings were read. -/
inductive SettingsError
  /-- A file cannot be read as text. -/
  | unreadable (path : String)
  /-- A text does not describe settings. -/
  | invalid (e : ReadError Empty)

/-- The failure for settings that were not read. -/
def SettingsError.failure : SettingsError → Failure
  | .unreadable path => ⟨"Failed to read settings '" ++ path ++ "'", [.unreadable]⟩
  | .invalid e => ⟨"Invalid code generator settings", [readCause (fun e => nomatch e) e]⟩

namespace Settings

/-- How settings are written; a field that is not given keeps its default. -/
def shape : Shape Empty Settings where
  name := "CodeGeneratorSettings"
  fields := [
    .of "emit_comments" false readBool fun b s => { s with emitComments := b },
    .of "skip_unsupported" false readBool fun b s => { s with skipUnsupported := b },
    .of "check_role_table" false readBool fun b s => { s with checkRoleTable := b },
    .of "comment_prefix" false readString fun t s => { s with commentPrefix := t }]
  blank := {}
  skipsUnknown := false

/-- Reads settings. -/
def parse (text : String) : Except SettingsError Settings :=
  ((readDocument text).read shape.read).mapError .invalid

/-- Reads the settings of a file, given what the file holds if it can be read. -/
def ofFile (path : String) (content : Option String) : Except SettingsError Settings :=
  match content with
  | none => .error (.unreadable path)
  | some text => parse text

/-- The prefix that takes the place of one that is at fault. -/
def defaultPrefix : String := "#"

/-- What is wrong with a comment prefix. -/
def prefixFault? (text : String) : Option PrefixFault :=
  if isAllBlank text.toList then some .blank
  else if text.toList.any fun c => c = '\n' || c = '\r' then some .severalLines
  else none

/-- The settings with a usable comment prefix, and what was changed for that. -/
def sanitize (s : Settings) : Settings × List SettingChange :=
  match prefixFault? s.commentPrefix with
  | none => (s, [])
  | some fault =>
    ({ s with commentPrefix := defaultPrefix },
      [⟨"comment_prefix", s.commentPrefix, defaultPrefix, fault⟩])

end Settings

end BenchScript

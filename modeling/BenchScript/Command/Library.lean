import BenchScript.Command.Basic
import BenchScript.Json.Record

/-!
# Command libraries

Reading the commands of a library. It is written as an array of commands, as an object with
`commands`, or as an object with `groups` of commands; a command of a group that names no category
takes the name of the group.
-/

namespace BenchScript

open BenchScript.Json

/-- Why a text is no command library: it is malformed, or it has none of the three layouts. -/
inductive LibraryFault
  | malformed
  | noLayout
deriving Repr, DecidableEq

/-- A group of commands. -/
structure CommandGroup where
  commands : List Command

namespace Library

/-- Readers of a library have one outcome for all faults but those of the grammar. -/
abbrev LibraryReader (α : Type) := Reader Unit α

/-- Reads any value; the members of its objects are sorted. -/
def readValue : LibraryReader Value := fun n =>
  match n.value? depthLimit with
  | some v => .ok v.canonical
  | none => .error .malformed

/-- Reads a number. -/
def readNumber : LibraryReader Float
  | .number l => match l.number? with
    | some x => .ok x.toFloat
    | none => .error .malformed
  | n => .error (mismatch n "a number")

/-- Reads the kind of a parameter: its name, or an object with the name as its one key and no
value. -/
def readKind : LibraryReader ParamKind
  | .object [(k, .null)] true => match text? k with
    | some name => .ok (.ofName name)
    | none => .error .malformed
  | n => (readString n).map .ofName

/-- How a parameter is written. -/
def paramShape : Shape Unit Param where
  name := "Param"
  fields := [
    .of "name" true readString fun s p => { p with name := s },
    .of "type" false readKind fun k p => { p with kind := k },
    .of "default" false (readOption readValue) fun v p => { p with default := v },
    .of "required" false readBool fun b p => { p with required := b },
    .of "options" false (readOption (readList readString)) fun os p => { p with options := os },
    .of "min" false (readOption readNumber) fun x p => { p with least := x },
    .of "max" false (readOption readNumber) fun x p => { p with greatest := x },
    .of "unit" false (readOption readString) fun s p => { p with unit := s },
    .of "description" false (readOption readString) fun s p => { p with description := s }]
  blank := { name := "" }
  skipsUnknown := true

/-- How a command is written. -/
def commandShape : Shape Unit Command where
  name := "Command"
  fields := [
    .of "scpi" true readString fun s c => { c with scpi := s },
    .of "description" false readString fun s c => { c with description := s },
    .of "shortDescription" false (readOption readString)
      fun s c => { c with shortDescription := s },
    .of "category" false readString fun s c => { c with category := s },
    .of "params" false (readOption (readList paramShape.read)) fun ps c => { c with params := ps }]
  blank := { scpi := "" }
  skipsUnknown := true

/-- How a group is written. -/
def groupShape : Shape Unit CommandGroup where
  name := "CommandGroup"
  fields := [
    .of "commands" false (readList commandShape.read) fun cs g => { g with commands := cs }]
  blank := ⟨[]⟩
  skipsUnknown := true

/-- How a library with one list of commands is written. -/
def flatShape : Shape Unit CommandGroup where
  name := "Library"
  fields := [
    .of "commands" true (readList commandShape.read) fun cs g => { g with commands := cs }]
  blank := ⟨[]⟩
  skipsUnknown := true

/-- Puts a group in place of one with the same name, or else after the others. -/
def putGroup (name : String) (g : CommandGroup) :
    List (String × CommandGroup) → List (String × CommandGroup)
  | [] => [(name, g)]
  | (k, h) :: gs => if k = name then (k, g) :: gs else (k, h) :: putGroup name g gs

/-- Reads named groups. -/
def readGroups : List (String × CommandGroup) → List (List Piece × Node) →
    Except (ReadError Unit) (List (String × CommandGroup))
  | gs, [] => .ok gs
  | gs, (k, n) :: ms =>
    match text? k with
    | none => .error .malformed
    | some name => do
      let g ← groupShape.read n
      readGroups (putGroup name g gs) ms

/-- Reads an object of named groups. -/
def readGroupObject : LibraryReader (List (String × CommandGroup))
  | .object ms _ => readGroups [] ms
  | n => .error (mismatch n "a map")

/-- How a library with groups is written. -/
def groupedShape : Shape Unit (List (String × CommandGroup)) where
  name := "Library"
  fields := [.of "groups" true readGroupObject fun gs _ => gs]
  blank := []
  skipsUnknown := true

/-- The command, with a category if it had none. -/
def withCategory (name : String) (c : Command) : Command :=
  if c.category.isEmpty then { c with category := name } else c

/-- The commands of groups, in order. -/
def ofGroups (gs : List (String × CommandGroup)) : List Command :=
  gs.flatMap fun (name, g) => g.commands.map (withCategory name)

/-- The commands of a well-formed document, by the first layout that fits. -/
def ofNode? : Node → Option (List Command)
  | .array items closed => (readList commandShape.read (.array items closed)).toOption
  | .object ms closed =>
    match flatShape.read (.object ms closed) with
    | .ok g => some g.commands
    | .error _ => (groupedShape.read (.object ms closed)).toOption.map ofGroups
  | _ => none

/-- Reads a command library. -/
def parse (text : String) : Except LibraryFault (List Command) :=
  let d := readDocument text
  match d.root.value? depthLimit with
  | none => .error .malformed
  | some _ => match ofNode? d.root with
    | none => .error .noLayout
    | some cs => if d.ended then .ok cs else .error .malformed

end Library

end BenchScript

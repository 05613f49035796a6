import BenchScript.Json.Printer
import BenchScript.Text.Quoted

/-!
# Reading records

Readers from parts of documents to the types of the library. A record is written as an object, or
as an array of its fields in order. Faults are reported in the order of the text, and a fault of
the grammar has no further description.
-/

namespace BenchScript.Json

open BenchScript.Text

/-- What stands in a document in place of the expected. -/
inductive Found
  | null
  | bool (b : Bool)
  | number (n : Number)
  | string (s : String)
  | array
  | object

/-- A found value as a message names it. -/
def Found.describe : Found → String
  | .null => "null"
  | .bool b => "boolean `" ++ String.ofList (boolText b) ++ "`"
  | .number (.integer i) => "integer `" ++ String.ofList (Number.integer i).text ++ "`"
  | .number (.float x) => "floating point `" ++ String.ofList (Number.float x).text ++ "`"
  | .string s => "string " ++ String.ofList (quoted s.toList)
  | .array => "sequence"
  | .object => "map"

/-- Names in backquotes, with commas between them. -/
def nameList (names : List String) : String :=
  ", ".intercalate (names.map fun n => "`" ++ n ++ "`")

/-- Why a well-formed part of a document does not describe what it should. A reader may reject a
value for causes `ε` of its own. -/
inductive DataError (ε : Type)
  | wrongType (found : Found) (expected : String)
  | tooShort (length : Nat) (record : String) (fields : Nat)
  | missingField (name : String)
  | duplicateField (name : String)
  | unknownField (name : String) (known : List String)
  | rejected (cause : ε)

/-- The wording of an error. -/
def DataError.message {ε : Type} (describe : ε → String) : DataError ε → String
  | .wrongType found expected => "invalid type: " ++ found.describe ++ ", expected " ++ expected
  | .tooShort length record fields =>
    s!"invalid length {length}, expected struct {record} with {fields} elements"
  | .missingField name => "missing field `" ++ name ++ "`"
  | .duplicateField name => "duplicate field `" ++ name ++ "`"
  | .unknownField name known =>
    "unknown field `" ++ name ++ "`, expected one of " ++ nameList known
  | .rejected cause => describe cause

/-- Why a document cannot be read. -/
inductive ReadError (ε : Type)
  | malformed
  | data (e : DataError ε)

/-- Reads a part of a document. -/
abbrev Reader (ε α : Type) := Node → Except (ReadError ε) α

variable {ε α : Type}

/-- What a part of a document is, as far as its first token tells; `none` if that is malformed. -/
def Node.found? : Node → Option Found
  | .null => some .null
  | .bool b => some (.bool b)
  | .number l => l.number?.map .number
  | .string ps => (text? ps).map .string
  | .array _ _ => some .array
  | .object _ _ => some .object
  | .broken => none

/-- The error for a part of a document that is not of the expected kind. -/
def mismatch (n : Node) (expected : String) : ReadError ε :=
  match n.found? with
  | some found => .data (.wrongType found expected)
  | none => .malformed

/-- Reads a string. -/
def readString : Reader ε String
  | .string ps => match text? ps with
    | some s => .ok s
    | none => .error .malformed
  | n => .error (mismatch n "a string")

/-- Reads a truth value. -/
def readBool : Reader ε Bool
  | .bool b => .ok b
  | n => .error (mismatch n "a boolean")

/-- Reads `null` as absent, and anything else as `read` does. -/
def readOption (read : Reader ε α) : Reader ε (Option α)
  | .null => .ok none
  | n => (read n).map some

/-- Reads items one after the other. -/
def readItems (read : Reader ε α) : List Node → Except (ReadError ε) (List α)
  | [] => .ok []
  | n :: ns => do
    let a ← read n
    let as ← readItems read ns
    return a :: as

/-- Reads an array. -/
def readList (read : Reader ε α) : Reader ε (List α)
  | .array items closed => do
    let as ← readItems read items
    if closed then return as else throw .malformed
  | n => .error (mismatch n "a sequence")

/-- A field of a record: its name, whether it must be given, and how it is read into the record. -/
structure Field (ε α : Type) where
  name : String
  required : Bool
  read : Node → α → Except (ReadError ε) α

/-- A field whose value is read by `read` and put into the record by `put`. -/
def Field.of {β : Type} (name : String) (required : Bool) (read : Reader ε β) (put : β → α → α) :
    Field ε α :=
  ⟨name, required, fun n a => (read n).map (put · a)⟩

/-- How a record is written: its name, its fields in order, and whether members with other names
are passed over. A record starts as `blank`; what that holds for a required field is never seen. -/
structure Shape (ε α : Type) where
  name : String
  fields : List (Field ε α)
  blank : α
  skipsUnknown : Bool

namespace Shape

/-- The names of the fields. -/
def fieldNames (s : Shape ε α) : List String := s.fields.map (·.name)

/-- The field with a name. -/
def field? (s : Shape ε α) (name : String) : Option (Field ε α) :=
  s.fields.find? (·.name == name)

/-- Reads the members of an object into a record, given the names of the fields read before. -/
def readMembers (s : Shape ε α) :
    List String → α → List (List Piece × Node) → Except (ReadError ε) (List String × α)
  | seen, a, [] => .ok (seen, a)
  | seen, a, (k, n) :: ms =>
    match text? k with
    | none => .error .malformed
    | some key =>
      match s.field? key with
      | some f =>
        if key ∈ seen then .error (.data (.duplicateField key))
        else do
          let b ← f.read n a
          readMembers s (key :: seen) b ms
      | none =>
        if s.skipsUnknown then
          if n.wellFormed then readMembers s seen a ms else .error .malformed
        else .error (.data (.unknownField key s.fieldNames))

/-- Reads the items of an array into the fields of a record. -/
def readPositions : List (Field ε α) → α → List Node → Except (ReadError ε) α
  | f :: fs, a, n :: ns => do
    let b ← f.read n a
    readPositions fs b ns
  | _, a, _ => .ok a

/-- The position of the first required field from `i` on. -/
def firstRequired? : List (Field ε α) → Nat → Option Nat
  | [], _ => none
  | f :: fs, i => if f.required then some i else firstRequired? fs (i + 1)

/-- Reads a record. -/
def read (s : Shape ε α) : Reader ε α
  | .object ms closed => do
    let (seen, a) ← s.readMembers [] s.blank ms
    if !closed then throw .malformed
    match s.fields.find? fun f => f.required && !seen.contains f.name with
    | some f => throw (.data (.missingField f.name))
    | none => return a
  | .array items closed => do
    let a ← readPositions s.fields s.blank items
    if !closed || s.fields.length < items.length then throw .malformed
    match firstRequired? (s.fields.drop items.length) items.length with
    | some i => throw (.data (.tooShort i s.name s.fields.length))
    | none => return a
  | n => .error (mismatch n ("struct " ++ s.name))

end Shape

/-- Reads a whole document. -/
def Document.read (d : Document) (reader : Reader ε α) : Except (ReadError ε) α := do
  let a ← reader d.root
  if d.ended then return a else throw .malformed

end BenchScript.Json

import BenchScript.Instrument.Backend
import BenchScript.Instrument.DeviceType

/-!
# Reading tags

Tags of device types, capabilities and backends, with the error for a text that is none.
-/

namespace BenchScript

/-- A text that is no tag of its kind. -/
inductive TagError
  | deviceType (text : String)
  | capability (text : String)
  | backend (text : String)
deriving Repr, DecidableEq

/-- Tags with commas between them. -/
def tagList (tags : List String) : String := ", ".intercalate tags

/-- The wording of an error. -/
def TagError.message : TagError → String
  | .deviceType text =>
    "Unsupported device type: " ++ text ++ ". Supported types are: " ++
      tagList (DeviceType.all.map (·.tag))
  | .capability text =>
    "Unsupported capability: " ++ text ++ ". Supported capabilities are: " ++
      tagList (Capability.all.map (·.tag))
  | .backend text =>
    "Unsupported backend: " ++ text ++ ". Supported backends are: " ++
      tagList (Backend.all.map (·.tag))

/-- Reads the tag of a device type. -/
def DeviceType.ofTag (text : String) : Except TagError DeviceType :=
  match ofTag? text with
  | some d => .ok d
  | none => .error (.deviceType text)

/-- Reads the tag of a capability. -/
def Capability.ofTag (text : String) : Except TagError Capability :=
  match ofTag? text with
  | some c => .ok c
  | none => .error (.capability text)

/-- Reads the tag of a backend. -/
def Backend.ofTag (text : String) : Except TagError Backend :=
  match ofTag? text with
  | some b => .ok b
  | none => .error (.backend text)

end BenchScript

import BenchScript.Command.Header
import BenchScript.Json.Value

/-!
# Commands

What a command library says about an instrument command and its parameters.
-/

namespace BenchScript

/-- The declared kind of a parameter. -/
inductive ParamKind
  | enumeration
  | integer
  | float
  | number
  | string
  | boolean
  | other
deriving Repr, DecidableEq

namespace ParamKind

/-- The name of a kind. -/
def name : ParamKind → String
  | enumeration => "enumeration"
  | integer => "integer"
  | float => "float"
  | number => "number"
  | string => "string"
  | boolean => "boolean"
  | other => "other"

/-- The kind with a name; a name that is not known stands for some other kind. -/
def ofName (name : String) : ParamKind :=
  match name with
  | "enumeration" => enumeration
  | "integer" => integer
  | "float" => float
  | "number" => number
  | "numeric" => number
  | "string" => string
  | "boolean" => boolean
  | _ => other

@[simp] theorem ofName_name (k : ParamKind) : ofName k.name = k := by cases k <;> rfl

/-- Whether arguments of this kind are numbers. -/
def isNumeric : ParamKind → Bool
  | integer | float | number => true
  | enumeration | string | boolean | other => false

end ParamKind

/-- A parameter of a command. -/
structure Param where
  name : String
  kind : ParamKind := .other
  /-- The value used if none is given; any value of a document. -/
  default : Option Json.Value := none
  required : Bool := false
  /-- The allowed values. -/
  options : Option (List String) := none
  least : Option Float := none
  greatest : Option Float := none
  unit : Option String := none
  description : Option String := none

namespace Param

/-- The allowed values; none if the parameter is not enumerated. -/
def allowed (p : Param) : List String := p.options.getD []

/-- Whether a number lies within the bounds of the parameter. A missing bound is open. -/
def inRange (p : Param) (x : Float) : Bool :=
  p.least.all (fun low => low ≤ x) && p.greatest.all (fun high => x ≤ high)

end Param

/-- An instrument command. -/
structure Command where
  /-- The command line, with placeholders and arguments. -/
  scpi : String
  description : String := ""
  shortDescription : Option String := none
  category : String := ""
  params : Option (List Param) := none

namespace Command

/-- The key of the command. -/
def header (c : Command) : String := normalizeHeader c.scpi

/-- The parameters of the command. -/
def paramList (c : Command) : List Param := c.params.getD []

end Command

end BenchScript

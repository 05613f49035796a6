import BenchScript.Command.Basic
import BenchScript.Json.Printer

/-!
# Writing commands

Commands and parameters as values of a document. Absent parts are left out.
-/

namespace BenchScript

open BenchScript.Json

/-- A member for a value that may be absent. -/
def optionalMember (name : String) (v : Option Value) : List (String × Value) :=
  match v with
  | some v => [(name, v)]
  | none => []

/-- A parameter as a value. -/
def Param.toValue (p : Param) : Value :=
  .object <|
    [("name", .string p.name), ("type", .string p.kind.name)] ++
    optionalMember "default" p.default ++
    [("required", .bool p.required)] ++
    optionalMember "options" (p.options.map fun os => .array (os.map .string)) ++
    optionalMember "min" (p.least.map fun x => .number (.float x)) ++
    optionalMember "max" (p.greatest.map fun x => .number (.float x)) ++
    optionalMember "unit" (p.unit.map .string) ++
    optionalMember "description" (p.description.map .string)

/-- A command as a value. -/
def Command.toValue (c : Command) : Value :=
  .object <|
    [("scpi", .string c.scpi), ("description", .string c.description)] ++
    optionalMember "shortDescription" (c.shortDescription.map .string) ++
    [("category", .string c.category)] ++
    optionalMember "params" (c.params.map fun ps => .array (ps.map Param.toValue))

end BenchScript

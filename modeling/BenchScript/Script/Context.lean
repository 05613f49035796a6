import BenchScript.Text.Blank

/-!
# Device contexts

The device name in a context field such as `(scope)`: the field without blanks around it, without
one pair of parentheses that encloses it, and without blanks inside of those.
-/

namespace BenchScript

open BenchScript.Text

/-- The text between an opening parenthesis at the start and a closing one at the end; the whole
text if it is not enclosed so. -/
def openParentheses : List Char → List Char
  | '(' :: cs => if cs.getLast? = some ')' then cs.dropLast else '(' :: cs
  | cs => cs

/-- The characters of the device name in a context field. -/
def contextNameOf (cs : List Char) : List Char := trim (openParentheses (trim cs))

/-- The device name in a context field; `none` if no name is left. -/
def contextName? (field : String) : Option String :=
  let name := contextNameOf field.toList
  if name.isEmpty then none else some (String.ofList name)

end BenchScript

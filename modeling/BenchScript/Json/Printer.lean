import BenchScript.Json.Value

/-!
# Writing documents

A value as text, either on one line without blanks or with every item and member on a line of its
own.
-/

namespace BenchScript.Json

/-- A string literal. -/
def stringText (s : String) : List Char := literalText s.toList

/-- The text of a truth value. -/
def boolText (b : Bool) : List Char := if b then ['t', 'r', 'u', 'e'] else ['f', 'a', 'l', 's', 'e']

/-- A new line with two blanks for each level. -/
def lineBreak (level : Nat) : List Char := '\n' :: List.replicate (2 * level) ' '

mutual

/-- A value on one line. -/
def Value.compact : Value → List Char
  | .null => ['n', 'u', 'l', 'l']
  | .bool b => boolText b
  | .number n => n.text
  | .string s => stringText s
  | .array items => '[' :: compactItems items ++ [']']
  | .object ms => '{' :: compactMembers ms ++ ['}']

/-- The items of an array on one line. -/
def compactItems : List Value → List Char
  | [] => []
  | [v] => v.compact
  | v :: vs => v.compact ++ ',' :: compactItems vs

/-- The members of an object on one line. -/
def compactMembers : List (String × Value) → List Char
  | [] => []
  | [(k, v)] => stringText k ++ ':' :: v.compact
  | (k, v) :: ms => stringText k ++ ':' :: v.compact ++ ',' :: compactMembers ms

end

mutual

/-- A value on lines of its own, indented by `level`. -/
def Value.pretty : Nat → Value → List Char
  | _, .null => ['n', 'u', 'l', 'l']
  | _, .bool b => boolText b
  | _, .number n => n.text
  | _, .string s => stringText s
  | _, .array [] => ['[', ']']
  | level, .array (v :: vs) =>
    '[' :: lineBreak (level + 1) ++ v.pretty (level + 1) ++ prettyItems (level + 1) vs ++
      lineBreak level ++ [']']
  | _, .object [] => ['{', '}']
  | level, .object ((k, v) :: ms) =>
    '{' :: lineBreak (level + 1) ++ stringText k ++ ':' :: ' ' :: v.pretty (level + 1) ++
      prettyMembers (level + 1) ms ++ lineBreak level ++ ['}']

/-- The items of an array after the first one. -/
def prettyItems : Nat → List Value → List Char
  | _, [] => []
  | level, v :: vs => ',' :: lineBreak level ++ v.pretty level ++ prettyItems level vs

/-- The members of an object after the first one. -/
def prettyMembers : Nat → List (String × Value) → List Char
  | _, [] => []
  | level, (k, v) :: ms =>
    ',' :: lineBreak level ++ stringText k ++ ':' :: ' ' :: v.pretty level ++
      prettyMembers level ms

end

/-- A value as text on one line. -/
def Value.compactText (v : Value) : String := String.ofList v.compact

/-- A value as text with a line for every item and member. -/
def Value.prettyText (v : Value) : String := String.ofList (v.pretty 0)

end BenchScript.Json

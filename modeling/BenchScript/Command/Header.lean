import BenchScript.Text.Blank
import BenchScript.Text.Case
import BenchScript.Text.Span

/-!
# Headers

The header of an instrument command is the key under which a command library holds it: upper case,
without query mark, arguments and placeholders.
-/

namespace BenchScript

open BenchScript.Text

/-- The text without one query mark at its end. -/
def dropQuery (cs : List Char) : List Char :=
  if cs.getLast? = some '?' then cs.dropLast else cs

/-- The text without placeholders in braces and, after that, in angle brackets. -/
def dropPlaceholders (cs : List Char) : List Char :=
  dropSpans '<' '>' (dropSpans '{' '}' cs)

/-- The characters of the header of a command line. -/
def headerOf (cs : List Char) : List Char :=
  dropPlaceholders (firstWord (dropQuery (upper (trim cs))))

/-- The header of a command line. -/
def normalizeHeader (line : String) : String := String.ofList (headerOf line.toList)

end BenchScript

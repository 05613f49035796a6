import BenchScript.Decimal.Digits
import BenchScript.Text.Case

/-!
# Reading floats

The texts that write a float: an optional sign, then digits with an optional point, at least one
digit among them, and an optional exponent; or a name for infinity or for no number, in any case.
-/

namespace BenchScript.Decimal

open BenchScript.Text

/-- An optional sign, `true` for minus, and the rest. -/
def splitSign : List Char → Bool × List Char
  | '-' :: cs => (true, cs)
  | '+' :: cs => (false, cs)
  | cs => (false, cs)

/-- The exponent that a text after the digits writes; no text writes zero. -/
def readExponent? : List Char → Option Int
  | [] => some 0
  | c :: cs =>
    if c.toLower = 'e' then
      let (negative, ds) := splitSign cs
      if ds.isEmpty || !ds.all isDigit then none
      else some (if negative then -(valueOf ds : Int) else valueOf ds)
    else none

/-- The float nearest to `coefficient * 10 ^ exponent`, infinity above all floats. Exponents that
decide the outcome alone are not multiplied out. -/
def nearestFloat (coefficient : Nat) (exponent : Int) : Float :=
  let size : Int := (digitsOf coefficient).length + exponent
  if coefficient = 0 ∨ size < -400 then 0
  else if 400 < size then 1 / 0
  else Float.ofScientific coefficient (exponent < 0) exponent.natAbs

/-- Reads digits, a point and an exponent. -/
def readMagnitude? (cs : List Char) : Option Float :=
  let whole := cs.takeWhile isDigit
  let rest := cs.dropWhile isDigit
  let (fraction, rest) := match rest with
    | '.' :: more => (more.takeWhile isDigit, more.dropWhile isDigit)
    | _ => ([], rest)
  if whole.isEmpty && fraction.isEmpty then none
  else (readExponent? rest).map fun e =>
    nearestFloat (valueOf (whole ++ fraction)) (e - fraction.length)

/-- Reads what follows the sign. -/
def readUnsigned? (cs : List Char) : Option Float :=
  let name := cs.map Char.toLower
  if name = ['n', 'a', 'n'] then some (0 / 0)
  else if name = ['i', 'n', 'f'] ∨ name = ['i', 'n', 'f', 'i', 'n', 'i', 't', 'y'] then some (1 / 0)
  else readMagnitude? cs

/-- The float that a text writes. -/
def readFloat? (cs : List Char) : Option Float :=
  let (negative, rest) := splitSign cs
  (readUnsigned? rest).map fun x => if negative then -x else x

end BenchScript.Decimal

import BenchScript.Decimal.Layout

/-!
# Numbers of documents

A number literal, and the number that it stands for. A literal without fraction and exponent is an
integer if it fits into 64 bits; any other is a float. The float is built from the digits that fit
into 64 bits by one multiplication or division with a power of ten, so it may differ in the last
place from the float nearest to the literal.
-/

namespace BenchScript.Json

open BenchScript.Decimal

/-- The exponent of a literal: its sign and its size. -/
structure Exponent where
  negative : Bool
  size : Nat
deriving Repr, DecidableEq

/-- A number literal: its sign, the digits before and after the point, and its exponent. -/
structure Literal where
  negative : Bool
  whole : List Char
  fraction : List Char
  exponent : Option Exponent
deriving Repr, DecidableEq

/-- A number of a document. -/
inductive Number
  | integer (i : Int)
  | float (x : Float)

/-- A number as text. There is no text for infinite floats, they are written `null`. -/
def Number.text : Number → List Char
  | .integer i => (if i < 0 then ['-'] else []) ++ digitsOf i.natAbs
  | .float x => if x.isFinite then Layout.document.finiteText x else ['n', 'u', 'l', 'l']

/-- A number as a float. -/
def Number.toFloat : Number → Float
  | .integer i => if i < 0 then -(Float.ofNat i.natAbs) else Float.ofNat i.natAbs
  | .float x => x

/-- Takes digits into a number as long as it fits into 64 bits: the number and the digits left. -/
def takeDigits (n : Nat) : List Char → Nat × List Char
  | [] => (n, [])
  | d :: ds =>
    if 10 * n + digitValue d < UInt64.size then takeDigits (10 * n + digitValue d) ds
    else (n, d :: ds)

/-- The float for a power of ten. -/
def tenTo (n : Nat) : Float := Float.ofScientific 1 false n

/-- A float below `2 ^ 64` divided by a power of ten, in steps of at most `10 ^ 308`. Beyond two
such steps nothing is left. -/
def scaleDown (x : Float) (n : Nat) : Float :=
  if n ≤ 308 then x / tenTo n
  else if n ≤ 616 then x / tenTo 308 / tenTo (n - 308)
  else 0

/-- The float `significand * 10 ^ exponent`; `none` if it is out of range. -/
def scale? (significand : Nat) (exponent : Int) : Option Float :=
  let x := Float.ofNat significand
  if exponent < 0 then some (scaleDown x exponent.natAbs)
  else if exponent ≤ 308 then
    let y := x * tenTo exponent.natAbs
    if y.isInf then none else some y
  else if significand = 0 then some 0
  else none

/-- The magnitude of a literal that is a float. Exponents beyond 32 bits decide the outcome
alone. -/
def Literal.magnitude? (l : Literal) : Option Float :=
  let (n, surplus) := takeDigits 0 l.whole
  let (n, left) := takeDigits n l.fraction
  let places : Int := surplus.length - (l.fraction.length - left.length : Nat)
  match l.exponent with
  | none => scale? n places
  | some e =>
    if e.size < Nat.pow 2 31 then scale? n (if e.negative then places - e.size else places + e.size)
    else if n = 0 ∨ e.negative then some 0
    else none

/-- The integer that a literal writes, if it writes one that fits into 64 bits. Negative zero is
no integer. -/
def Literal.integer? (l : Literal) : Option Int :=
  let n := valueOf l.whole
  if l.fraction ≠ [] ∨ l.exponent ≠ none then none
  else if l.negative then (if 0 < n ∧ n ≤ Nat.pow 2 63 then some (-(n : Int)) else none)
  else if n < UInt64.size then some n
  else none

/-- The number that a literal stands for; `none` if it is out of range. -/
def Literal.number? (l : Literal) : Option Number :=
  match l.integer? with
  | some i => some (.integer i)
  | none => l.magnitude?.map fun x => .float (if l.negative then -x else x)

end BenchScript.Json

import BenchScript.Decimal.Shortest

/-!
# Layout of floats

Writing a float as text: the shortest digits of `Decimal.Shortest`, laid out as a `Layout` says.
-/

namespace BenchScript.Decimal

/-- How floats are written. -/
structure Layout where
  /-- The exponents of the first digit, least and greatest, that are written positionally; with
  none every float is. -/
  positional : Option (Int × Int)
  /-- What follows the digits of a float that is a whole number. -/
  wholeMark : List Char
  /-- Which of two equally near shortest decimals is written. -/
  tie : Tie
deriving Repr, DecidableEq

/-- Digits around the point at `point`, counted from the first digit. -/
def Layout.positionalText (layout : Layout) (digits : List Char) (point : Int) : List Char :=
  if point ≤ 0 then ['0', '.'] ++ List.replicate (-point).toNat '0' ++ digits
  else if digits.length ≤ point then
    digits ++ List.replicate (point.toNat - digits.length) '0' ++ layout.wholeMark
  else digits.take point.toNat ++ '.' :: digits.drop point.toNat

/-- Digits with a point after the first one, and the exponent of the first one with its sign. -/
def scientificText (digits : List Char) (exponent : Int) : List Char :=
  let fraction := digits.drop 1
  digits.take 1 ++ (if fraction.isEmpty then [] else '.' :: fraction) ++
    ['e', if exponent < 0 then '-' else '+'] ++ digitsOf exponent.natAbs

/-- A positive decimal as text. -/
def Layout.decimalText (layout : Layout) (d : Scientific) : List Char :=
  let digits := digitsOf d.coefficient
  let exponent : Int := digits.length + d.exponent - 1
  match layout.positional with
  | none => layout.positionalText digits (exponent + 1)
  | some (least, greatest) =>
    if least ≤ exponent ∧ exponent ≤ greatest then layout.positionalText digits (exponent + 1)
    else scientificText digits exponent

/-- A finite float as text. -/
def Layout.finiteText (layout : Layout) (x : Float) : List Char :=
  let sign := if Nat.pow 2 63 ≤ x.toBits.toNat then ['-'] else []
  let magnitude :=
    if x.toBits.toNat % Nat.pow 2 63 = 0 then '0' :: layout.wholeMark
    else layout.decimalText ((Binary.ofFloat x).shortest layout.tie)
  sign ++ magnitude

/-- In messages a float has no exponent and no mark of a whole number, and a tie goes up. -/
def Layout.message : Layout := ⟨none, [], .up⟩

/-- In documents a float shows by its text that it is one: whole numbers end in `.0`, others have
an exponent from `1e-6` downwards and from `1e+16` upwards, and a tie goes to the even digit. -/
def Layout.document : Layout := ⟨some (-5, 15), ['.', '0'], .toEven⟩

/-- A float as a message shows it. -/
def messageText (x : Float) : String :=
  if x.isNaN then "NaN"
  else if x.isInf then (if x < 0 then "-inf" else "inf")
  else String.ofList (Layout.message.finiteText x)

end BenchScript.Decimal

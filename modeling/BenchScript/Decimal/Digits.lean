/-!
# Digits

Decimal digits of natural numbers, read and written.
-/

namespace BenchScript.Decimal

/-- The digits of a number, none in front of another for zero. -/
def digitsOf (n : Nat) : List Char := Nat.toDigits 10 n

/-- A digit from 0 to 9. -/
def isDigit (c : Char) : Bool := '0' ≤ c && c ≤ '9'

/-- The value of a digit. -/
def digitValue (c : Char) : Nat := c.toNat - '0'.toNat

/-- The number that a list of digits writes, going on from `n`. -/
def valueFrom (n : Nat) (ds : List Char) : Nat := ds.foldl (fun n d => 10 * n + digitValue d) n

/-- The number that a list of digits writes. -/
def valueOf (ds : List Char) : Nat := valueFrom 0 ds

/-- The digits of a number write it. -/
@[simp] theorem valueOf_digitsOf (n : Nat) : valueOf (digitsOf n) = n :=
  Nat.ofDigitChars_toDigits (by decide) (by decide)

end BenchScript.Decimal

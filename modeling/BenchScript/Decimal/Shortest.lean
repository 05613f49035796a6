import BenchScript.Decimal.Digits

/-!
# Shortest decimals

The decimal with the fewest digits that lies in the interval of reals rounding to a given binary
float, and of those the one nearest to it. All arithmetic is exact.
-/

namespace BenchScript.Decimal

/-- A positive binary float `mantissa * 2 ^ exponent`. The gap below it is half the gap above it
where `atBoundary` holds. -/
structure Binary where
  mantissa : Nat
  exponent : Int
  atBoundary : Bool
deriving Repr, DecidableEq

/-- A positive decimal `coefficient * 10 ^ exponent`. -/
structure Scientific where
  coefficient : Nat
  exponent : Int
deriving Repr, DecidableEq

/-- Which of two decimals equally near to a float is taken. -/
inductive Tie
  | toEven
  | up
deriving Repr, DecidableEq

/-- The magnitude of a finite float that is not zero. -/
def Binary.ofFloat (x : Float) : Binary :=
  let bits : Nat := x.toBits.toNat
  let fraction : Nat := bits % Nat.pow 2 52
  let scale : Nat := bits / Nat.pow 2 52 % Nat.pow 2 11
  if scale = 0 then ⟨fraction, -1074, false⟩
  else ⟨Nat.pow 2 52 + fraction, (scale : Int) - 1075, fraction = 0 && 1 < scale⟩

/-- The float and the ends of its rounding interval as multiples of one unit, and the step of the
decimal grid with last place `10 ^ place` as a multiple of the same unit. -/
structure Grid where
  value : Nat
  low : Nat
  high : Nat
  step : Nat

/-- The grid of the decimals with last place `10 ^ place`. -/
def Binary.grid (b : Binary) (place : Int) : Grid :=
  let twos := Nat.pow 2 (b.exponent - 2).toNat * Nat.pow 10 (-place).toNat
  ⟨4 * b.mantissa * twos, (4 * b.mantissa - (if b.atBoundary then 1 else 2)) * twos,
    (4 * b.mantissa + 2) * twos, Nat.pow 2 (2 - b.exponent).toNat * Nat.pow 10 place.toNat⟩

/-- Whether the multiple `n` of the step rounds to the float. The ends of the interval belong to it
exactly when the mantissa is even. -/
def Grid.holds (g : Grid) (even : Bool) (n : Nat) : Bool :=
  let m := n * g.step
  if even then g.low ≤ m && m ≤ g.high else g.low < m && m < g.high

/-- The multiple of the step nearest to the float among its two neighbours, if one of them rounds
to it. -/
def Grid.nearest? (g : Grid) (even : Bool) (tie : Tie) : Option Nat :=
  let below := g.value / g.step
  let rest := g.value % g.step
  let upper : Bool := match tie with
    | .up => g.step ≤ 2 * rest
    | .toEven => g.step < 2 * rest || (g.step = 2 * rest && below % 2 = 1)
  match g.holds even below, g.holds even (below + 1) with
  | true, true => some (if upper then below + 1 else below)
  | true, false => some below
  | false, true => some (below + 1)
  | false, false => none

/-- The exponent of the first digit of a float, up to one too large or too small. -/
def Binary.magnitude (b : Binary) : Int :=
  let twos : Int := b.mantissa.log2 + b.exponent
  (twos * 30103).fdiv 100000

/-- Tries the grid with last place `10 ^ place` and, as often as `fuel` says, finer ones. -/
def Binary.search (b : Binary) (tie : Tie) : Nat → Int → Scientific
  | 0, place => ⟨(b.grid place).value / (b.grid place).step, place⟩
  | fuel + 1, place =>
    match (b.grid place).nearest? (b.mantissa % 2 = 0) tie with
    | some n => ⟨n, place⟩
    | none => b.search tie fuel (place - 1)

/-- Divides the coefficient by ten while it ends in zero, at most `fuel` times. -/
def Scientific.strip : Nat → Scientific → Scientific
  | 0, d => d
  | fuel + 1, d =>
    if d.coefficient % 10 = 0 then strip fuel ⟨d.coefficient / 10, d.exponent + 1⟩ else d

/-- The shortest decimal that rounds to the float, without a final zero. Twenty grids reach from a
digit more than the float has down to seventeen digits. -/
def Binary.shortest (b : Binary) (tie : Tie) : Scientific :=
  (b.search tie 20 (b.magnitude + 1)).strip 20

end BenchScript.Decimal

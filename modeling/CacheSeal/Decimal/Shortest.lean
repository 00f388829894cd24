import CacheSeal.Double

/-!
The shortest decimal of a binary fraction. The reals that round to a floating-point number form an interval; among
the decimal grids, from the coarsest on, the first that has a point in it gives the digits. Of two such points the
nearer is taken, and of two equally near ones the even.
-/

namespace CacheSeal

/-- The number `digits * 10 ^ exponent`. -/
structure Decimal where
  digits : Nat
  exponent : Int
deriving DecidableEq, Repr

namespace Decimal

/-- The number `mantissa * 2 ^ exponent`. -/
structure Binary where
  mantissa : Nat
  exponent : Int
  /-- The next number below is only half as far away as the next one above. -/
  isLowEdge : Bool

namespace Binary

/-- The magnitude of a finite double-precision number. -/
def ofDouble (double : Double) : Binary :=
  ⟨double.mantissa, double.exponent, double.fraction = 0 && 1 < double.exponentField⟩

end Binary

/-- A ratio of naturals, as numerator and denominator. -/
private structure Fraction where
  num : Nat
  den : Nat

private def Fraction.le (left right : Fraction) : Bool :=
  left.num * right.den ≤ right.num * left.den

private def Fraction.lt (left right : Fraction) : Bool :=
  left.num * right.den < right.num * left.den

private def scaled (factor base : Nat) (exponent : Int) : Fraction :=
  ⟨factor * Nat.pow base exponent.toNat, Nat.pow base (-exponent).toNat⟩

namespace Binary

/-- The point of the interval nearest to the number on the grid of multiples of `10 ^ grid`. -/
def onGrid? (binary : Binary) (grid : Int) : Option Decimal :=
  let quarters (factor : Nat) : Fraction := scaled factor 2 (binary.exponent - 2)
  let exact := quarters (4 * binary.mantissa)
  let low := quarters (4 * binary.mantissa - if binary.isLowEdge then 1 else 2)
  let high := quarters (4 * binary.mantissa + 2)
  let point (digits : Nat) : Fraction := scaled digits 10 grid
  let within (digits : Nat) : Bool :=
    if binary.mantissa % 2 = 0 then low.le (point digits) && (point digits).le high
    else low.lt (point digits) && (point digits).lt high
  let unit := point 1
  let below := exact.num * unit.den / (exact.den * unit.num)
  let above := below + 1
  let half := scaled (2 * below + 1) 10 grid
  let middle : Fraction := ⟨half.num, 2 * half.den⟩
  if below ≠ 0 && within below then
    if within above && (middle.lt exact || (middle.le exact && below % 2 = 1)) then some ⟨above, grid⟩
    else some ⟨below, grid⟩
  else if within above then some ⟨above, grid⟩
  else none

/-- Tries `count` grids, each ten times finer than the one before. -/
def onFirstGrid (binary : Binary) : Nat → Int → Decimal
  | 0, grid => ⟨0, grid⟩
  | count + 1, grid =>
    match binary.onGrid? grid with
    | some decimal => decimal
    | none => onFirstGrid binary count (grid - 1)

/-- The places of ten that a hundred thousand places of two come to, rounded up. -/
def decimalPlaces : Int := 30103

/-- A grid whose first point lies above the whole interval, as does that of any coarser grid. -/
def coarsestGrid (binary : Binary) : Int :=
  (binary.mantissa.log2 + 2 + binary.exponent) * decimalPlaces / 100000 + 2

/-- No double-precision number needs a grid finer than that of the multiples of `10 ^ (-324)`. -/
def shortest (binary : Binary) : Decimal :=
  let grid := binary.coarsestGrid
  onFirstGrid binary (grid + 325).toNat grid

end Binary

end Decimal

end CacheSeal

import Stencil.Number.Exact

/-!
# Shortest decimal of a float

Among the decimals that read back as a float, the one with the fewest digits is
written; of several, the nearest; of two equally near, the even one.
-/

namespace Stencil.Number

/-- A positive decimal: digits as a number, and the power of ten of its last digit. -/
structure Decimal where
  digits : Nat
  exponent : Int
deriving DecidableEq

/-- A quotient times a power of ten, as a quotient. -/
def scaleByTen (numerator denominator : Nat) (exponent : Int) : Nat × Nat :=
  if exponent < 0 then
    (numerator, denominator * Nat.pow 10 exponent.natAbs)
  else
    (numerator * Nat.pow 10 exponent.natAbs, denominator)

/-- Decimal digits of a number, most significant first. -/
def decimalDigits (number : Nat) : List Char :=
  (toString number).toList

/-- The place before the first digit of a positive quotient: `10 ^ (place - 1) ≤ quotient`. -/
def decimalPlace (numerator denominator : Nat) : Int :=
  let guess : Int := ((decimalDigits numerator).length : Int) - (decimalDigits denominator).length
  let (scaled, base) := scaleByTen numerator denominator (-guess)
  if base ≤ scaled then guess + 1 else guess

/-- Drop zeros at the end, at most `fuel` of them. -/
def Decimal.stripZeros : (fuel : Nat) → Decimal → Decimal
  | 0, decimal => decimal
  | fuel + 1, decimal =>
    if decimal.digits % 10 == 0 && decimal.digits != 0 then
      stripZeros fuel ⟨decimal.digits / 10, decimal.exponent + 1⟩
    else
      decimal

/--
The points of the grid of spacing `10 ^ exponent` next to a positive float that
read back as it, the better one first.  The bounds of the rounding interval are
twice the mantissa give or take one, in halves of the unit; they belong to it when
the mantissa is even.
-/
def gridPoint? (value : Dyadic) (exponent : Int) : Option Decimal :=
  let unit := value.exponent - 2
  let lowGap : Nat := if value.mantissa == Nat.pow 2 52 && value.exponent > -1074 then 1 else 2
  let (scaled, base) := scaleByTwo (4 * value.mantissa) 1 unit
  let (scaled, base) := scaleByTen scaled base (-exponent)
  let below := scaled / base
  let within := fun (candidate : Nat) =>
    let (point, under) := scaleByTen candidate 1 exponent
    let (point, under) := scaleByTwo point under (-unit)
    let low := (4 * value.mantissa - lowGap) * under
    let high := (4 * value.mantissa + 2) * under
    if value.mantissa % 2 == 0 then low ≤ point && point ≤ high
    else low < point && point < high
  let belowDistance := scaled % base
  let aboveDistance := base - belowDistance
  let belowFirst :=
    belowDistance < aboveDistance || (belowDistance == aboveDistance && below % 2 == 0)
  let ordered := if belowFirst then [below, below + 1] else [below + 1, below]
  (ordered.find? fun candidate => candidate != 0 && within candidate).map fun candidate =>
    ⟨candidate, exponent⟩

/-- The shortest decimal of a positive float. -/
def shortest (value : Dyadic) : Decimal :=
  let (numerator, denominator) := value.ratio
  let place := decimalPlace numerator denominator
  let counts := (List.range 17).map fun (index : Nat) => place - 1 - (index : Int)
  let found := counts.findSome? (gridPoint? value)
  (found.getD ⟨0, 0⟩).stripZeros 20

end Stencil.Number

/-!
# Floats as exact quotients

A finite float is an integer times a power of two.  Quotients of integers round
to the nearest float, a tie to the even mantissa, so that arithmetic, comparison
and printing of floats can be stated on integers.
-/

namespace Stencil.Number

/-- A finite float: sign, integer mantissa and power of two. -/
structure Dyadic where
  negative : Bool
  mantissa : Nat
  exponent : Int

/-- What the bits of a float say. -/
inductive FloatForm
  | finite (value : Dyadic)
  | infinite (negative : Bool)
  | notANumber

/-- Read the bits of a float. -/
def formOf (float : Float) : FloatForm :=
  let bits : Nat := float.toBits.toNat
  let negative := bits / Nat.pow 2 63 == 1
  let biased : Nat := bits / Nat.pow 2 52 % Nat.pow 2 11
  let fraction : Nat := bits % Nat.pow 2 52
  if biased == 2047 then
    if fraction == 0 then .infinite negative else .notANumber
  else if biased == 0 then
    .finite ⟨negative, fraction, -1074⟩
  else
    .finite ⟨negative, Nat.pow 2 52 + fraction, (biased : Int) - 1075⟩

/-- The float with a sign and the bits of its magnitude. -/
def ofMagnitudeBits (negative : Bool) (bits : Nat) : Float :=
  Float.ofBits (UInt64.ofNat (bits + if negative then Nat.pow 2 63 else 0))

def infinity (negative : Bool) : Float :=
  ofMagnitudeBits negative (2047 * Nat.pow 2 52)

def notANumber : Float :=
  ofMagnitudeBits false (2047 * Nat.pow 2 52 + Nat.pow 2 51)

/-- The quotient rounded to the nearest integer, a tie to the even one. -/
def divideToEven (numerator denominator : Nat) : Nat :=
  let quotient := numerator / denominator
  let rest := numerator % denominator
  if 2 * rest < denominator then quotient
  else if 2 * rest > denominator then quotient + 1
  else quotient + quotient % 2

/-- A quotient times a power of two, as a quotient. -/
def scaleByTwo (numerator denominator : Nat) (exponent : Int) : Nat × Nat :=
  if exponent < 0 then
    (numerator, denominator * Nat.pow 2 exponent.natAbs)
  else
    (numerator * Nat.pow 2 exponent.natAbs, denominator)

/-- The float nearest to a quotient of positive denominator; infinite beyond the largest. -/
def ofRatio (negative : Bool) (numerator denominator : Nat) : Float :=
  if numerator == 0 then
    ofMagnitudeBits negative 0
  else
    let guess : Int := (numerator.log2 : Int) - denominator.log2
    let (scaled, base) := scaleByTwo numerator denominator (-guess)
    let top := if base ≤ scaled then guess else guess - 1
    let unit := max (top - 52) (-1074)
    let (scaled, base) := scaleByTwo numerator denominator (-unit)
    let rounded := divideToEven scaled base
    let (mantissa, unit) :=
      if rounded ≥ Nat.pow 2 53 then (rounded / 2, unit + 1) else (rounded, unit)
    if unit > 971 then
      infinity negative
    else if mantissa < Nat.pow 2 52 then
      ofMagnitudeBits negative mantissa
    else
      ofMagnitudeBits negative ((unit + 1075).toNat * Nat.pow 2 52 + (mantissa - Nat.pow 2 52))

namespace Dyadic

/-- The magnitude as a quotient. -/
def ratio (value : Dyadic) : Nat × Nat :=
  scaleByTwo value.mantissa 1 value.exponent

/-- The integer part, toward zero. -/
def truncate (value : Dyadic) : Int :=
  let (numerator, denominator) := value.ratio
  let magnitude : Int := (numerator / denominator : Nat)
  if value.negative then -magnitude else magnitude

/-- The numerator with its sign, over the positive denominator. -/
def signedRatio (value : Dyadic) : Int × Nat :=
  let (numerator, denominator) := value.ratio
  (if value.negative then -(numerator : Int) else numerator, denominator)

def floor (value : Dyadic) : Int :=
  let (numerator, denominator) := value.signedRatio
  Int.fdiv numerator denominator

def ceiling (value : Dyadic) : Int :=
  let (numerator, denominator) := value.signedRatio
  Int.neg (Int.fdiv (-numerator) denominator)

/-- The nearest integer, a tie to the even one. -/
def roundToEven (value : Dyadic) : Int :=
  let (numerator, denominator) := value.ratio
  let magnitude : Int := divideToEven numerator denominator
  if value.negative then -magnitude else magnitude

/-- Whether the value is an integer. -/
def isIntegral (value : Dyadic) : Bool :=
  let (numerator, denominator) := value.ratio
  numerator % denominator == 0

/-- Compare with an integer. -/
def compareInt (value : Dyadic) (integer : Int) : Ordering :=
  let (numerator, denominator) := value.signedRatio
  compare numerator (integer * denominator)

end Dyadic

/-- The float nearest to an integer, unless it lies beyond the largest. -/
def floatOfInt? (integer : Int) : Option Float :=
  let float := ofRatio (integer < 0) integer.natAbs 1
  match formOf float with
  | .finite _ => some float
  | _ => none

/-- Compare two floats; a value that is no number compares with nothing. -/
def compareFloats? (left right : Float) : Option Ordering :=
  if left < right then some .lt
  else if right < left then some .gt
  else if left == right then some .eq
  else none

/-- Compare an integer with a float. -/
def compareIntFloat? (integer : Int) (float : Float) : Option Ordering :=
  match formOf float with
  | .notANumber => none
  | .infinite negative => some (if negative then .gt else .lt)
  | .finite value => some (value.compareInt integer).swap

/-- The rest of a division toward zero, with the sign of the dividend. -/
def floatRemainder (left right : Float) : Float :=
  match formOf left, formOf right with
  | .finite dividend, .finite divisor =>
    if divisor.mantissa == 0 then
      notANumber
    else
      let unit := min dividend.exponent divisor.exponent
      let above := dividend.mantissa * Nat.pow 2 (dividend.exponent - unit).toNat
      let below := divisor.mantissa * Nat.pow 2 (divisor.exponent - unit).toNat
      let (numerator, denominator) := scaleByTwo (above % below) 1 unit
      ofRatio dividend.negative numerator denominator
  | .finite _, .infinite _ => left
  | _, _ => notANumber

/-- Whether the sign bit is set. -/
def isSignedNegative (float : Float) : Bool :=
  float.toBits.toNat / Nat.pow 2 63 == 1

/-- Floor quotient and rest with the sign of the divisor; the divisor is not zero. -/
def floatFloorDivide (left right : Float) : Float × Float :=
  let rest := floatRemainder left right
  let quotient := (left - rest) / right
  let (rest, quotient) :=
    if rest == 0 then
      (ofMagnitudeBits (isSignedNegative right) 0, quotient)
    else if (right < 0) != (rest < 0) then
      (rest + right, quotient - 1)
    else
      (rest, quotient)
  if quotient == 0 then
    (ofMagnitudeBits (isSignedNegative (left / right)) 0, rest)
  else
    let whole := quotient.floor
    (if quotient - whole > 0.5 then whole + 1 else whole, rest)

end Stencil.Number

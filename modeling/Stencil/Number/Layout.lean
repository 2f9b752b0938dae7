import Stencil.Number.Shortest

/-!
# Number layouts

How integers and floats are written.  The default layout of a float is positional
from `1e-4` up to below `1e16` and has an exponent of at least two digits outside;
an integral value keeps `.0`.
-/

namespace Stencil.Number

/-- A decimal integer. -/
def integerText (integer : Int) : List Char :=
  (toString integer).toList

/-- The text padded with zeros on the left. -/
def zeroPadded (width : Nat) (digits : List Char) : List Char :=
  List.replicate (width - digits.length) '0' ++ digits

/-- An exponent with its sign and at least two digits. -/
def exponentText (exponent : Int) : List Char :=
  (if exponent < 0 then '-' else '+') :: zeroPadded 2 (decimalDigits exponent.natAbs)

/-- Digits with a point after the first one, unless it is the only one. -/
def pointAfterFirst : List Char → List Char
  | [] => []
  | [only] => [only]
  | first :: rest => first :: '.' :: rest

/-- Digits in positional notation; `place` counts the digits before the point. -/
def positional (digits : List Char) (place : Int) : List Char :=
  if place ≤ 0 then
    '0' :: '.' :: (List.replicate place.natAbs '0' ++ digits)
  else
    let whole := place.toNat
    if digits.length ≤ whole then
      digits ++ List.replicate (whole - digits.length) '0'
    else
      digits.take whole ++ '.' :: digits.drop whole

/-- The magnitude of a finite float in the default layout. -/
def magnitudeText (value : Dyadic) : List Char :=
  if value.mantissa == 0 then
    ['0', '.', '0']
  else
    let decimal := shortest value
    let digits := decimalDigits decimal.digits
    let place := decimal.exponent + digits.length
    if -4 < place && place ≤ 16 then
      let text := positional digits place
      if text.contains '.' then text else text ++ ['.', '0']
    else
      pointAfterFirst digits ++ 'e' :: exponentText (place - 1)

/-- A float in the default layout. -/
def floatText (float : Float) : List Char :=
  match formOf float with
  | .notANumber => ['n', 'a', 'n']
  | .infinite negative => (if negative then ['-'] else []) ++ ['i', 'n', 'f']
  | .finite value => (if value.negative then ['-'] else []) ++ magnitudeText value

/-- A magnitude with a fixed number of places, a tie to the even last digit. -/
def fixedText (numerator denominator : Nat) (places : Nat) : List Char :=
  let scaled := divideToEven (numerator * Nat.pow 10 places) denominator
  if places == 0 then
    decimalDigits scaled
  else
    let digits := zeroPadded (places + 1) (decimalDigits scaled)
    digits.take (digits.length - places) ++ '.' :: digits.drop (digits.length - places)

/-- A positive quotient rounded to a count of digits: the digits and their place. -/
def significant (numerator denominator count : Nat) : Nat × Int :=
  let place := decimalPlace numerator denominator
  let (scaled, base) := scaleByTen numerator denominator ((count : Int) - place)
  let rounded := divideToEven scaled base
  if rounded ≥ Nat.pow 10 count then (rounded / 10, place + 1) else (rounded, place)

/-- How general notation treats zeros at the end and whole numbers. -/
structure GeneralStyle where
  /-- Zeros at the end of the fraction are kept, and the point as well. -/
  keepsZeros : Bool := false
  /-- A whole number ends in `.0`, which takes up one of the digits. -/
  marksWhole : Bool := false

/-- Text that has a point: one at its end if there is none. -/
def withPoint (text : List Char) : List Char :=
  if text.contains '.' then text else text ++ ['.']

/-- A magnitude with an exponent and a fixed number of places. -/
def exponentialText
    (numerator denominator : Nat)
    (places : Nat)
    (keepsPoint : Bool) : List Char :=
  let (digits, exponent) :=
    if numerator == 0 then
      (List.replicate (places + 1) '0', (0 : Int))
    else
      let (digits, place) := significant numerator denominator (places + 1)
      (decimalDigits digits, place - 1)
  let text := pointAfterFirst digits
  (if keepsPoint then withPoint text else text) ++ 'e' :: exponentText exponent

/-- Remove zeros at the end of a fraction, and the point if nothing follows it. -/
def dropFractionZeros (text : List Char) : List Char :=
  if text.contains '.' then
    let kept := (text.reverse.dropWhile (· == '0')).reverse
    if kept.getLast? == some '.' then kept.dropLast else kept
  else
    text

/--
A magnitude with a count of significant digits, positional unless the exponent is
below `-4` or reaches the count.
-/
def generalText
    (numerator denominator : Nat)
    (count : Nat)
    (style : GeneralStyle) : List Char :=
  let count := max count 1
  let (digits, place) :=
    if numerator == 0 then
      (List.replicate count '0', (1 : Int))
    else
      let (digits, place) := significant numerator denominator count
      (decimalDigits digits, place)
  let tidy := fun text => if style.keepsZeros then withPoint text else dropFractionZeros text
  if -4 < place && place ≤ (if style.marksWhole then (count : Int) - 1 else count) then
    let text := tidy (positional digits place)
    if style.marksWhole && !text.contains '.' then text ++ ['.', '0'] else text
  else
    tidy (pointAfterFirst digits) ++ 'e' :: exponentText (place - 1)

/-- A float rounded to a number of places, which may be negative. -/
def roundPlaces (float : Float) (places : Int) : Float :=
  match formOf float with
  | .finite value =>
    if places > 400 then float
    else if places < -400 then ofMagnitudeBits value.negative 0
    else
      let (numerator, denominator) := value.ratio
      let (scaled, base) := scaleByTen numerator denominator places
      let (numerator, denominator) := scaleByTen (divideToEven scaled base) 1 (-places)
      ofRatio value.negative numerator denominator
  | _ => float

/-- An integer rounded to a multiple of a power of ten, a tie to the even multiple. -/
def roundIntPlaces (integer : Int) (places : Int) : Int :=
  if places ≥ 0 then
    integer
  else
    let unit := Nat.pow 10 places.natAbs
    let magnitude : Int := divideToEven integer.natAbs unit * unit
    if integer < 0 then -magnitude else magnitude

/-- Digits of a number in a base up to sixteen. -/
def digitsInBase (base : Nat) (number : Nat) : List Char :=
  Nat.toDigits base number

/--
Digits in groups with a mark between them, all of it last one first; zeros fill up
the text to at least some width.
-/
def groupedBackward (mark : Char) (size : Nat) :
    (fuel : Nat) → (width : Nat) → List Char → List Char
  | 0, _, digits => digits
  | fuel + 1, width, digits =>
    let length := min size (max (max digits.length width) 1)
    let group := digits.take length
    let group := group ++ List.replicate (length - group.length) '0'
    let rest := digits.drop length
    if rest.isEmpty && width ≤ length then group
    else group ++ mark :: groupedBackward mark size fuel (width - length - 1) rest

/-- A digit sequence with a mark between groups, counted from the right. -/
def grouped (mark : Char) (size width : Nat) (digits : List Char) : List Char :=
  (groupedBackward mark size (digits.length + width + 1) width digits.reverse).reverse

end Stencil.Number

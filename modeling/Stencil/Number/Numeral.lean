import Stencil.Number.Exact
import Stencil.Text.Character
import Stencil.Text.CodePoint

/-!
# Reading numerals

Numerals may use the decimal digits of any script, single low lines between
digits, a sign, and blanks around them.
-/

namespace Stencil.Number

open Stencil.Text (isBlankNumber decimalValue?)

/-- A character of a numeral with blanks and digits of all scripts in plain form. -/
def plainNumeralChar (number : Nat) : Char :=
  if number < 127 then Char.ofNat number
  else if number ≥ 128 && isBlankNumber number then ' '
  else
    match decimalValue? number with
    | some value => Char.ofNat ('0'.toNat + value)
    | none => '?'

/-- Blanks that may stand around a plain numeral. -/
def isNumeralBlank (character : Char) : Bool :=
  character == ' ' || ('\t' ≤ character && character ≤ '\r')

/-- A numeral in plain form, without the blanks around it. -/
def plainNumeral (text : Text) : List Char :=
  Stencil.Text.trim isNumeralBlank (text.map fun point => plainNumeralChar point.number)

/-- The value of a digit or letter below a base. -/
def digitValue? (base : Nat) (character : Char) : Option Nat :=
  let value :=
    if character.isDigit then character.toNat - '0'.toNat
    else if 'a' ≤ character && character ≤ 'z' then character.toNat - 'a'.toNat + 10
    else if 'A' ≤ character && character ≤ 'Z' then character.toNat - 'A'.toNat + 10
    else 36
  if value < base then some value else none

/-- Digits with single low lines between them: their values. -/
def digitsBetweenLines (base : Nat) : (afterDigit : Bool) → List Char → Option (List Nat)
  | afterDigit, [] => if afterDigit then some [] else none
  | afterDigit, '_' :: rest =>
    if afterDigit then digitsBetweenLines base false rest else none
  | _, character :: rest => do
    let value ← digitValue? base character
    let values ← digitsBetweenLines base true rest
    return value :: values

/-- The number that digits stand for. -/
def ofDigits (base : Nat) (digits : List Nat) : Nat :=
  digits.foldl (fun number digit => number * base + digit) 0

/-- A sign and what follows it. -/
def splitSign : List Char → Bool × List Char
  | '-' :: rest => (true, rest)
  | '+' :: rest => (false, rest)
  | characters => (false, characters)

/-- The base that letters after a zero announce. -/
def announcedBase? : Char → Option Nat
  | 'x' | 'X' => some 16
  | 'o' | 'O' => some 8
  | 'b' | 'B' => some 2
  | _ => none

/-- Why a numeral is refused. -/
inductive NumeralFault
  | malformed
  | tooLong
deriving DecidableEq

/-- The largest number of digits read or written in decimal. -/
def digitLimit : Nat := 4300

/-- The digits after the announced base, which a low line may precede. -/
def announcedDigits? (base : Nat) (rest : List Char) : Option (List Nat) :=
  match rest with
  | '_' :: rest => digitsBetweenLines base false rest
  | rest => digitsBetweenLines base false rest

/-- Digits in a base; base zero lets the numeral announce its base. -/
def unsignedDigits? (base : Nat) (characters : List Char) : Option (Nat × List Nat) :=
  let plain : Option (Nat × List Nat) :=
    if base == 0 then
      match digitsBetweenLines 10 false characters with
      | some (0 :: rest) => if rest.all (· == 0) then some (10, [0]) else none
      | some digits => some (10, digits)
      | none => none
    else
      (digitsBetweenLines base false characters).map fun digits => (base, digits)
  match characters with
  | '0' :: letter :: rest =>
    match announcedBase? letter with
    | some announced =>
      if base == 0 || base == announced then
        (announcedDigits? announced rest).map fun digits => (announced, digits)
      else
        plain
    | none => plain
  | _ => plain

/-- The integer that a plain numeral stands for. -/
def integerOfPlain (base : Nat) (characters : List Char) : Except NumeralFault Int :=
  let (negative, rest) := splitSign characters
  match unsignedDigits? base rest with
  | none => .error .malformed
  | some (used, digits) =>
    if digits.length > digitLimit && !(used == 2 || used == 8 || used == 16) then
      .error .tooLong
    else
      let magnitude : Int := ofDigits used digits
      .ok (if negative then -magnitude else magnitude)

/-- The integer that a numeral stands for in a base. -/
def readInteger (base : Nat) (text : Text) : Except NumeralFault Int :=
  integerOfPlain base (plainNumeral text)

/-- The float nearest to digits times a power of ten. -/
def floatOfDecimal (negative : Bool) (digits : List Nat) (exponent : Int) : Float :=
  let digits := digits.dropWhile (· == 0)
  let size : Int := digits.length
  if digits.isEmpty || size + exponent < -400 then
    ofMagnitudeBits negative 0
  else if size + exponent > 400 then
    infinity negative
  else
    let number := ofDigits 10 digits
    if exponent < 0 then
      ofRatio negative number (Nat.pow 10 exponent.natAbs)
    else
      ofRatio negative (number * Nat.pow 10 exponent.natAbs) 1

/-- Digits at the start of a numeral, and the rest. -/
def leadingDigits (characters : List Char) : List Nat × List Char :=
  ((characters.takeWhile Char.isDigit).map fun digit => digit.toNat - '0'.toNat,
    characters.dropWhile Char.isDigit)

/-- An exponent with its mark. -/
def exponentPart? : List Char → Option Int
  | [] => some 0
  | mark :: rest =>
    if mark == 'e' || mark == 'E' then
      let (negative, rest) := splitSign rest
      let (digits, rest) := leadingDigits rest
      if digits.isEmpty || !rest.isEmpty then
        none
      else
        let magnitude : Int := ofDigits 10 digits
        some (if negative then -magnitude else magnitude)
    else
      none

/-- A float numeral without low lines and without sign. -/
def unsignedFloat? (negative : Bool) (characters : List Char) : Option Float :=
  let lower := characters.map Char.toLower
  if lower == "inf".toList || lower == "infinity".toList then
    some (infinity negative)
  else if lower == "nan".toList then
    some notANumber
  else
    let (whole, rest) := leadingDigits characters
    let (fraction, rest) :=
      match rest with
      | '.' :: rest => leadingDigits rest
      | rest => ([], rest)
    if whole.isEmpty && fraction.isEmpty then
      none
    else
      (exponentPart? rest).map fun exponent =>
        floatOfDecimal negative (whole ++ fraction) (exponent - fraction.length)

/-- Low lines removed where each stands between two digits. -/
def dropLowLines? : (afterDigit : Bool) → List Char → Option (List Char)
  | _, [] => some []
  | afterDigit, '_' :: rest =>
    match rest with
    | next :: _ =>
      if afterDigit && next.isDigit then dropLowLines? false rest else none
    | [] => none
  | _, character :: rest => (dropLowLines? character.isDigit rest).map (character :: ·)

/-- The float that a plain numeral stands for. -/
def floatOfPlain? (characters : List Char) : Option Float := do
  let characters ← dropLowLines? false characters
  let (negative, rest) := splitSign characters
  unsignedFloat? negative rest

/-- The float that a numeral stands for. -/
def readFloat? (text : Text) : Option Float :=
  floatOfPlain? (plainNumeral text)

end Stencil.Number

import Stencil.Text.CodePoint
import Stencil.Text.PrintableTable

/-!
# Quoted text

Text shown as a literal stands between single quotes, or between double quotes
when it holds a single quote and no double one.  The backslash, the quote in use
and every character that cannot be shown are escaped.
-/

namespace Stencil.Text

/-- The digit of a number below sixteen. -/
def hexDigit (number : Nat) : Char :=
  if number < 10 then Char.ofNat ('0'.toNat + number) else Char.ofNat ('a'.toNat + number - 10)

/-- The last `width` hexadecimal digits of a number. -/
def hexDigits : (width : Nat) → Nat → List Char
  | 0, _ => []
  | width + 1, number => hexDigits width (number / 16) ++ [hexDigit (number % 16)]

/-- The quote a text is put between. -/
def chosenQuote (numbers : List Nat) : Char :=
  if numbers.contains '\''.toNat && !numbers.contains '"'.toNat then '"' else '\''

/-- Escapes shared by text and bytes. -/
def commonEscape? (quote : Char) (number : Nat) : Option (List Char) :=
  if number == quote.toNat || number == '\\'.toNat then some ['\\', Char.ofNat number]
  else if number == 0x09 then some ['\\', 't']
  else if number == 0x0A then some ['\\', 'n']
  else if number == 0x0D then some ['\\', 'r']
  else if number < 0x20 || number == 0x7F then some ('\\' :: 'x' :: hexDigits 2 number)
  else if number < 0x7F then some [Char.ofNat number]
  else none

/-- One position of a quoted text. -/
def quotedNumber (quote : Char) (number : Nat) : List Char :=
  match commonEscape? quote number with
  | some escaped => escaped
  | none =>
    if printable.contains number then [Char.ofNat number]
    else if number ≤ 0xFF then '\\' :: 'x' :: hexDigits 2 number
    else if number ≤ 0xFFFF then '\\' :: 'u' :: hexDigits 4 number
    else '\\' :: 'U' :: hexDigits 8 number

/-- A text of positions shown as a literal. -/
def quotedNumbers (numbers : List Nat) : List Char :=
  let quote := chosenQuote numbers
  quote :: numbers.flatMap (quotedNumber quote) ++ [quote]

/-- A text shown as a literal. -/
def quoted (text : Text) : List Char :=
  quotedNumbers (text.map CodePoint.number)

/-- A string shown as a literal. -/
def quote (string : String) : String :=
  String.ofList (quotedNumbers (string.toList.map Char.toNat))

/-- Bytes shown as a literal. -/
def quotedBytes (bytes : List UInt8) : List Char :=
  let numbers := bytes.map UInt8.toNat
  let quote := chosenQuote numbers
  'b' :: quote :: numbers.flatMap (fun number =>
    (commonEscape? quote number).getD ('\\' :: 'x' :: hexDigits 2 number)) ++ [quote]

end Stencil.Text

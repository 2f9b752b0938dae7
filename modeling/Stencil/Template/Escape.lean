import Stencil.Text.Quoted
import Stencil.Text.Search
import Stencil.Text.Utf8

/-!
# Escaping

Text is made safe for markup by replacing five characters, and safe for addresses
by writing the bytes of all but a few characters as numbers.
-/

namespace Stencil.Template

/-- The replacement of a character that has a meaning in markup. -/
def markupEscape (point : CodePoint) : Text :=
  if point.is '&' then "&amp;"
  else if point.is '<' then "&lt;"
  else if point.is '>' then "&gt;"
  else if point.is '\'' then "&#39;"
  else if point.is '"' then "&#34;"
  else [point]

/-- Text that markup shows as it is. -/
def escapeMarkup (text : Text) : Text :=
  text.flatMap markupEscape

/-- Bytes that addresses show as they are, slashes on demand. -/
def isPlainAddressByte (slashAllowed : Bool) (byte : UInt8) : Bool :=
  let character := Char.ofNat byte.toNat
  character.isAlphanum || character == '_' || character == '.' || character == '-' ||
    character == '~' || (slashAllowed && character == '/')

/-- A byte of an address. -/
def addressByte (slashAllowed : Bool) (byte : UInt8) : List Char :=
  if isPlainAddressByte slashAllowed byte then
    [Char.ofNat byte.toNat]
  else
    '%' :: (Stencil.Text.hexDigits 2 byte.toNat).map Char.toUpper

/-- Bytes as part of an address; a query writes blanks as plus signs. -/
def quoteAddress (forQuery : Bool) (bytes : List UInt8) : Text :=
  Text.ofChars <| bytes.flatMap fun byte =>
    if forQuery && byte == 0x20 then ['+'] else addressByte (!forQuery) byte

end Stencil.Template

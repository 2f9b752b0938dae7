import Stencil.Text.CaseTable
import Stencil.Text.Character
import Stencil.Text.CodePoint
import Stencil.Text.LetterTable
import Stencil.Text.PrintableTable

/-!
# Classes of characters and texts

What a letter, a digit, a word character and an identifier are, and which texts
consist of one class only.
-/

namespace Stencil

namespace CodePoint

def isLetter (point : CodePoint) : Bool := Text.alphabetic.contains point.number

def isDecimal (point : CodePoint) : Bool := (Text.decimalValue? point.number).isSome

def isDigit (point : CodePoint) : Bool := Text.digit.contains point.number

def isNumeric (point : CodePoint) : Bool := Text.numeric.contains point.number

def isLetterOrNumber (point : CodePoint) : Bool :=
  point.isLetter || point.isDecimal || point.isDigit || point.isNumeric

/-- Letters, numbers and the low line make words. -/
def isWord (point : CodePoint) : Bool := point.isLetterOrNumber || point.is '_'

def isBlank (point : CodePoint) : Bool := Text.isBlankNumber point.number

def isLineEnd (point : CodePoint) : Bool := Text.isLineEndNumber point.number

def isPrintable (point : CodePoint) : Bool := Text.printable.contains point.number

def isLower (point : CodePoint) : Bool := Text.lowercase.contains point.number

def isUpper (point : CodePoint) : Bool := Text.uppercase.contains point.number

def isTitle (point : CodePoint) : Bool := Text.titlecase.contains point.number

/-- Characters that have a case. -/
def isCased (point : CodePoint) : Bool := point.isLower || point.isUpper || point.isTitle

def isIdentifierStart (point : CodePoint) : Bool := Text.identifierStart.contains point.number

def isIdentifierPart (point : CodePoint) : Bool := Text.identifierContinue.contains point.number

end CodePoint

namespace Text

/-- A nonempty text of one class. -/
def allAre (kind : CodePoint → Bool) (text : Text) : Bool :=
  !text.isEmpty && text.all kind

/-- A text that may name something. -/
def isIdentifier : Text → Bool
  | [] => false
  | first :: rest => first.isIdentifierStart && rest.all CodePoint.isIdentifierPart

/-- Some character has a case and every cased one is lower. -/
def isLower (text : Text) : Bool :=
  text.any CodePoint.isLower && !text.any fun point => point.isUpper || point.isTitle

/-- Some character has a case and every cased one is upper. -/
def isUpper (text : Text) : Bool :=
  text.any CodePoint.isUpper && !text.any fun point => point.isLower || point.isTitle

/-- Upper-case characters only start words and lower-case ones only continue them. -/
def isTitle (text : Text) : Bool :=
  let step := fun (state : Bool × Bool × Bool) (point : CodePoint) =>
    let (good, inWord, found) := state
    if point.isUpper || point.isTitle then (good && !inWord, true, true)
    else if point.isLower then (good && inWord, true, true)
    else (good, false, found)
  let (good, _, found) := text.foldl step (true, false, false)
  good && found

end Text

end Stencil

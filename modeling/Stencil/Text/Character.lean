import Stencil.Text.CodePoint

/-!
# Kinds of characters

Which characters separate words when text is stripped or split, which end a line, and which
are decimal digits: each script has ten in a row.  All of this holds for every script.
-/

namespace Stencil.Text

/-- Positions of the characters that separate words. -/
def isBlankNumber (number : Nat) : Bool :=
  (0x09 ≤ number && number ≤ 0x0D) || (0x1C ≤ number && number ≤ 0x20) || number == 0x85 ||
    number == 0xA0 || number == 0x1680 || (0x2000 ≤ number && number ≤ 0x200A) ||
    number == 0x2028 || number == 0x2029 || number == 0x202F || number == 0x205F ||
    number == 0x3000

/-- Whether a character separates words. -/
def isBlank (character : Char) : Bool :=
  isBlankNumber character.toNat

/-- Positions of the characters that end a line. -/
def isLineEndNumber (number : Nat) : Bool :=
  (0x0A ≤ number && number ≤ 0x0D) || (0x1C ≤ number && number ≤ 0x1E) || number == 0x85 ||
    number == 0x2028 || number == 0x2029

/-- Every character that core counts as whitespace separates words. -/
theorem isBlank_of_isWhitespace (character : Char) (white : character.isWhitespace) :
    isBlank character := by
  simp only [Char.isWhitespace, Bool.or_eq_true, decide_eq_true_eq] at white
  rcases white with ((rfl | rfl) | rfl) | rfl <;> decide

/-- Remove the elements of a kind from the end of a list. -/
def trimEnd {α : Type} (unwanted : α → Bool) (items : List α) : List α :=
  (items.reverse.dropWhile unwanted).reverse

/-- Remove the elements of a kind from both ends of a list. -/
def trim {α : Type} (unwanted : α → Bool) (items : List α) : List α :=
  trimEnd unwanted (items.dropWhile unwanted)

/-- The characters without the blanks around them. -/
def stripBlanks (characters : List Char) : List Char :=
  trim isBlank characters

/-- Universal line ends: a carriage return, alone or before a line feed, becomes a line feed. -/
def unifyLineEnds : List Char → List Char
  | [] => []
  | '\r' :: '\n' :: rest => '\n' :: unifyLineEnds rest
  | '\r' :: rest => '\n' :: unifyLineEnds rest
  | character :: rest => character :: unifyLineEnds rest

/-- The positions of the zeros of all scripts. -/
def decimalZeros : Array Nat := #[
    48, 1632, 1776, 1984, 2406, 2534, 2662, 2790, 2918, 3046, 3174, 3302, 3430, 3558, 3664,
    3792, 3872, 4160, 4240, 6112, 6160, 6470, 6608, 6784, 6800, 6992, 7088, 7232, 7248, 42528,
    43216, 43264, 43472, 43504, 43600, 44016, 65296, 66720, 68912, 69734, 69872, 69942, 70096,
    70384, 70736, 70864, 71248, 71360, 71472, 71904, 72016, 72784, 73040, 73120, 92768, 92864,
    93008, 120782, 120792, 120802, 120812, 120822, 123200, 123632, 125264, 130032]

/-- The value of a decimal digit of any script. -/
def decimalValue? (number : Nat) : Option Nat :=
  (decimalZeros.find? fun first => first ≤ number && number < first + 10).map (number - ·)

/-- The value of a character that is a decimal digit of any script. -/
def decimalDigit? (character : Char) : Option Nat :=
  decimalValue? character.toNat

end Stencil.Text

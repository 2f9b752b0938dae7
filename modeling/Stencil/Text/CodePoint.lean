/-!
# Code points and text

Text held by data is a list of code points.  It may hold surrogate positions on
their own, which no file can store; `Text.chars?` tells whether it does not.
-/

namespace Stencil

/-- A position of the code space, surrogate positions included. -/
structure CodePoint where
  number : Nat
  bounded : number < 0x110000
deriving DecidableEq

namespace CodePoint

/-- The code point of a character. -/
def ofChar (character : Char) : CodePoint :=
  ⟨character.toNat, by
    have valid := character.valid
    simp only [UInt32.isValidChar, Nat.isValidChar] at valid
    simp only [Char.toNat]
    omega⟩

/-- The code point at a position, the replacement character beyond the code space. -/
def ofNat (number : Nat) : CodePoint :=
  if bounded : number < 0x110000 then ⟨number, bounded⟩ else ⟨0xFFFD, by decide⟩

/-- A code point that is no surrogate position is a character. -/
def char? (point : CodePoint) : Option Char :=
  if valid : point.number.isValidChar then
    some (Char.ofNatAux point.number valid)
  else
    none

/-- The character of a code point, the replacement character for a surrogate position. -/
def shown (point : CodePoint) : Char :=
  point.char?.getD '\uFFFD'

/-- Whether a code point is this character. -/
def is (point : CodePoint) (character : Char) : Bool :=
  point.number == character.toNat

theorem char?_ofChar (character : Char) : (ofChar character).char? = some character := by
  have valid : character.toNat.isValidChar := character.valid
  change (if valid : character.toNat.isValidChar then
    some (Char.ofNatAux character.toNat valid) else none) = some character
  rw [dif_pos valid]
  rfl

end CodePoint

/-- Text held by data. -/
abbrev Text := List CodePoint

namespace Text

/-- The text of characters. -/
def ofChars (characters : List Char) : Text :=
  characters.map CodePoint.ofChar

/-- The text of a string. -/
def ofString (string : String) : Text :=
  ofChars string.toList

/-- The characters of a text without surrogate positions. -/
def chars? (text : Text) : Option (List Char) :=
  text.mapM CodePoint.char?

/-- The characters of a text, surrogate positions replaced. -/
def shown (text : Text) : List Char :=
  text.map CodePoint.shown

/-- The text as a string, surrogate positions replaced. -/
def string (text : Text) : String :=
  String.ofList text.shown

/-- Lexicographic order by code point. -/
def compare : Text → Text → Ordering
  | [], [] => .eq
  | [], _ :: _ => .lt
  | _ :: _, [] => .gt
  | left :: lefts, right :: rights =>
    if left.number < right.number then .lt
    else if right.number < left.number then .gt
    else compare lefts rights

theorem chars?_ofChars (characters : List Char) :
    chars? (ofChars characters) = some characters := by
  induction characters with
  | nil => rfl
  | cons character rest ih =>
    simp only [chars?, ofChars, List.map_cons, List.mapM_cons, CodePoint.char?_ofChar] at ih ⊢
    simp [ih]

@[simp]
theorem shown_ofChars (characters : List Char) : (ofChars characters).shown = characters := by
  induction characters with
  | nil => rfl
  | cons character rest ih =>
    simp only [shown, ofChars, List.map_cons, CodePoint.shown, CodePoint.char?_ofChar] at ih ⊢
    rw [ih, Option.getD_some]

@[simp]
theorem string_ofString (string : String) : (ofString string).string = string := by
  rw [Text.string, ofString, shown_ofChars, String.ofList_toList]

end Text

instance : Coe String Text := ⟨Text.ofString⟩

end Stencil

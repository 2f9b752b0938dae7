/-!
# Searching, splitting and replacing in lists

The same operations serve characters and code points.  Occurrences are counted
from the left and never overlap.
-/

namespace Stencil.Text

variable {α : Type} [DecidableEq α]

/-- What follows a list at the start of another one. -/
def afterStart? : List α → List α → Option (List α)
  | [], items => some items
  | _ :: _, [] => none
  | wanted :: wanteds, item :: items =>
    if wanted = item then afterStart? wanteds items else none

/-- Whether a list starts with another one. -/
def startsWith (start items : List α) : Bool :=
  (afterStart? start items).isSome

/-- Whether a list ends with another one. -/
def endsWith (ending items : List α) : Bool :=
  startsWith ending.reverse items.reverse

/-- The place of the first occurrence of a list within another one. -/
def find? (needle : List α) : List α → Option Nat
  | [] => if needle = [] then some 0 else none
  | item :: items =>
    if startsWith needle (item :: items) then some 0
    else (find? needle items).map (· + 1)

/-- The place of the last occurrence of a list within another one. -/
def findLast? (needle items : List α) : Option Nat :=
  (find? needle.reverse items.reverse).map fun place =>
    items.length - place - needle.length

/-- The part before and the part after the first occurrence. -/
def cut? (separator items : List α) : Option (List α × List α) :=
  (find? separator items).map fun place =>
    (items.take place, items.drop (place + separator.length))

/-- The pieces between the occurrences of a separator, at most `limit` times cut. -/
def splitOn
    (separator : List α) :
    (limit : Nat) → List α → List (List α)
  | 0, items => [items]
  | limit + 1, items =>
    match cut? separator items with
    | none => [items]
    | some (before, after) => before :: splitOn separator limit after

/-- Pieces joined by a separator. -/
def joinWith (separator : List α) : List (List α) → List α
  | [] => []
  | [last] => last
  | first :: rest => first ++ separator ++ joinWith separator rest

/-- The pieces between single separators. -/
def pieces (separator : α) : List α → List (List α)
  | [] => [[]]
  | item :: items =>
    if item = separator then
      [] :: pieces separator items
    else
      match pieces separator items with
      | [] => [[item]]
      | piece :: more => (item :: piece) :: more

/-- Pieces joined by one element between neighbours. -/
def joinPieces (separator : α) : List (List α) → List α
  | [] => []
  | [last] => last
  | first :: rest => first ++ separator :: joinPieces separator rest

/-- Put a replacement for the first `limit` occurrences. -/
def replaceUpTo
    (limit : Nat)
    (old new items : List α) : List α :=
  if old = [] then
    let places := min limit (items.length + 1)
    let filled := (items.take places).flatMap fun item => new ++ [item]
    filled ++ (if items.length < places then new else []) ++ items.drop places
  else
    joinWith new (splitOn old limit items)

/-- The number of occurrences. -/
def countOccurrences (needle items : List α) : Nat :=
  if needle = [] then items.length + 1
  else (splitOn needle (items.length + 1) items).length - 1

/-- The name parts of a string between dots or other marks. -/
def splitString (separator : Char) (string : String) : List String :=
  (pieces separator string.toList).map String.ofList

theorem pieces_ne_nil (separator : α) (items : List α) : pieces separator items ≠ [] := by
  cases items with
  | nil => simp [pieces]
  | cons item items =>
    unfold pieces
    split
    · simp
    · split <;> simp

theorem joinPieces_pieces (separator : α) (items : List α) :
    joinPieces separator (pieces separator items) = items := by
  induction items with
  | nil => rfl
  | cons item items ih =>
    unfold pieces
    cases found : pieces separator items with
    | nil => exact absurd found (pieces_ne_nil separator items)
    | cons piece more =>
      rw [found] at ih
      split
      · next same => simp [joinPieces, ih, same]
      · cases more <;> simpa [joinPieces] using ih

end Stencil.Text

import Stencil.Text.Search

/-!
# How alike words are

Two words share their longest common piece, and what the parts before and the parts
after it share.  Words are alike if they share three characters of ten.
-/

namespace Stencil.Text

variable {α : Type} [DecidableEq α]

/-- How many elements two lists have in common at their start. -/
def commonStart : List α → List α → Nat
  | left :: lefts, right :: rights => if left = right then commonStart lefts rights + 1 else 0
  | _, _ => 0

/-- A piece that two lists have in common: where it starts in each of them, and its length. -/
structure CommonPiece where
  left : Nat
  right : Nat
  length : Nat

/-- The longest common piece; of several the one that starts first. -/
def longestCommonPiece (lefts rights : List α) : CommonPiece :=
  let pieces := (List.range lefts.length).flatMap fun left =>
    (List.range rights.length).map fun right =>
      CommonPiece.mk left right (commonStart (lefts.drop left) (rights.drop right))
  pieces.foldl (fun best piece => if best.length < piece.length then piece else best) ⟨0, 0, 0⟩

/-- How many elements two lists share. -/
def sharedWithin : (fuel : Nat) → List α → List α → Nat
  | 0, _, _ => 0
  | fuel + 1, lefts, rights =>
    let piece := longestCommonPiece lefts rights
    if piece.length = 0 then 0
    else
      piece.length +
        sharedWithin fuel (lefts.take piece.left) (rights.take piece.right) +
        sharedWithin fuel (lefts.drop (piece.left + piece.length))
          (rights.drop (piece.right + piece.length))

def shared (lefts rights : List α) : Nat :=
  sharedWithin (lefts.length + 1) lefts rights

/-- Whether two words are alike. -/
def areAlike (left right : String) : Bool :=
  3 * (left.length + right.length) ≤ 10 * shared left.toList right.toList

end Stencil.Text

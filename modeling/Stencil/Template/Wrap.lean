import Stencil.Text.Class
import Stencil.Text.Search

/-!
# Breaking lines

A line is cut into words, blanks between them, and parts of words that end at a
hyphen or before a dash.  The pieces are put on lines as long as they fit; blanks
vanish at the ends of lines, and a word that fits on no line is broken on demand.
-/

namespace Stencil.Template

/-- Blanks that separate words. -/
def isWordGap (point : CodePoint) : Bool :=
  point.is ' ' || (9 ≤ point.number && point.number ≤ 13)

/-- Letters that may stand around a hyphen. -/
def isHyphenated (point : CodePoint) : Bool :=
  point.isWord && !point.isDecimal

/-- Characters that may stand before a dash. -/
def mayPrecedeDash (point : CodePoint) : Bool :=
  point.isWord || ['!', '"', '\'', '&', '.', ',', '?'].any point.is

def isHyphen (point : CodePoint) : Bool := point.is '-'

/-- The hyphens at the start of a text that form a dash between words. -/
def dashLength? (text : Text) : Option Nat :=
  let length := (text.takeWhile isHyphen).length
  match text.drop length with
  | next :: _ => if 2 ≤ length && next.isWord then some length else none
  | [] => none

/-- Whether a hyphen may end a piece, given what stands before and after it. -/
def breaksAfterHyphen (before after : Text) : Bool :=
  let fitsBefore :=
    match before with
    | last :: previous :: rest =>
      isHyphenated last &&
        (isHyphenated previous ||
          (isHyphen previous &&
            match rest with
            | first :: _ => isHyphenated first
            | [] => false))
    | _ => false
  let fitsAfter :=
    match after with
    | first :: second :: rest =>
      isHyphenated first &&
        (isHyphenated second ||
          (isHyphen second &&
            match rest with
            | third :: _ => isHyphenated third
            | [] => false))
    | _ => false
  fitsBefore && fitsAfter

/-- The length of the piece of a word that starts a text; what stands before is given backward. -/
def pieceLength : (before : Text) → (isFirst : Bool) → Text → Nat
  | _, _, [] => 0
  | before, isFirst, point :: rest =>
    let endsHere := !isFirst &&
      (isWordGap point ||
        (match before with
          | last :: _ => mayPrecedeDash last && (dashLength? (point :: rest)).isSome
          | [] => false))
    if endsHere then 0
    else if !isFirst && isHyphen point && breaksAfterHyphen before rest then 1
    else 1 + pieceLength (point :: before) false rest

/-- The pieces of a line. -/
def linePieces (breaksAtHyphens : Bool) : (fuel : Nat) → (before : Text) → Text → List Text
  | 0, _, _ => []
  | _, _, [] => []
  | fuel + 1, before, point :: rest =>
    let text := point :: rest
    let length :=
      if isWordGap point then (text.takeWhile isWordGap).length
      else if !breaksAtHyphens then (text.takeWhile (!isWordGap ·)).length
      else
        let dash :=
          match before with
          | last :: _ => if mayPrecedeDash last then dashLength? text else none
          | [] => none
        dash.getD (pieceLength before true text)
    let piece := text.take length
    piece :: linePieces breaksAtHyphens fuel (piece.reverse ++ before) (text.drop length)

/-- The pieces that fit on a line of some width. -/
def fittingPieces : (width : Nat) → List Text → List Text × List Text
  | _, [] => ([], [])
  | width, piece :: pieces =>
    if piece.length ≤ width then
      let (fitting, rest) := fittingPieces (width - piece.length) pieces
      (piece :: fitting, rest)
    else
      ([], piece :: pieces)

/-- Where a word that is too long is broken: behind a hyphen where there is one. -/
def breakPlace (breaksAtHyphens : Bool) (space : Nat) (word : Text) : Nat :=
  if breaksAtHyphens && space < word.length then
    match Stencil.Text.findLast? [CodePoint.ofChar '-'] (word.take space) with
    | some place => if (word.take place).any (!isHyphen ·) then place + 1 else space
    | none => space
  else
    space

def isBlankPiece (piece : Text) : Bool :=
  piece.all CodePoint.isBlank

/-- How words are broken that fit on no line. -/
structure WrapRules where
  width : Nat
  breaksWords : Bool
  breaksAtHyphens : Bool

/-- Pieces put on lines; blanks start a line only at the very beginning. -/
def wrapPieces (rules : WrapRules) : (fuel : Nat) → (isFirst : Bool) → List Text → List Text
  | 0, _, _ => []
  | _, _, [] => []
  | fuel + 1, isFirst, piece :: rest =>
    let pieces := if !isFirst && isBlankPiece piece then rest else piece :: rest
    let (fitting, pieces) := fittingPieces rules.width pieces
    let (line, pieces) :=
      match pieces with
      | [] => (fitting, [])
      | word :: rest =>
        if rules.width < word.length then
          let used := (fitting.map List.length).sum
          if rules.breaksWords then
            let place := breakPlace rules.breaksAtHyphens (rules.width - used) word
            (fitting ++ [word.take place], word.drop place :: rest)
          else if fitting.isEmpty then ([word], rest)
          else (fitting, pieces)
        else
          (fitting, pieces)
    let line :=
      match line.getLast? with
      | some last => if isBlankPiece last then line.dropLast else line
      | none => line
    if line.isEmpty then
      wrapPieces rules fuel isFirst pieces
    else
      line.flatten :: wrapPieces rules fuel false pieces

/-- A line broken into lines of a width. -/
def wrapLine (rules : WrapRules) (line : Text) : List Text :=
  let pieces := linePieces rules.breaksAtHyphens (line.length + 1) [] line
  wrapPieces rules (2 * line.length + 2) true pieces

end Stencil.Template

import Stencil.Yaml.Name

/-!
# Scalars of YAML documents

Plain words, texts between quotes, and blocks of lines.  Single line ends within words
and between quotes count as spaces; a block keeps its line ends or folds them.
-/

namespace Stencil.Yaml

/-- Line ends between parts of a text: one counts as a space, of more the first is dropped. -/
def foldedBreaks (first more : List Char) : List Char :=
  if first != ['\n'] then first ++ more
  else if more.isEmpty then [' ']
  else more

/-- Read line ends and the spaces around them, within words; nothing is gained from a separator. -/
def scanPlainBreaks : (fuel : Nat) → List Char → Cursor → Option (List Char) × Cursor
  | 0, before, cursor => (some before, cursor)
  | fuel + 1, before, cursor =>
    if cursor.isAt ' ' then scanPlainBreaks fuel before cursor.next
    else if cursor.head?.any isBreak then
      let (lineEnd, cursor) := cursor.lineBreak
      if cursor.isAtSeparator then (none, cursor)
      else scanPlainBreaks fuel (before ++ lineEnd) cursor
    else (some before, cursor)

/-- What stands between the words of a plain scalar. -/
structure Gap where
  /-- What the gap stands for; nothing where the scalar ends. -/
  content : List Char
  /-- Whether a line has ended. -/
  endsLine : Bool
  cursor : Cursor

/-- Read what stands between words. -/
def scanGap (cursor : Cursor) : Gap :=
  let (spaces, cursor) := cursor.takeWhile isSpace
  if cursor.head?.any isBreak then
    let (first, cursor) := cursor.lineBreak
    if cursor.isAtSeparator then ⟨[], true, cursor⟩
    else
      match scanPlainBreaks (cursor.rest.length + 1) [] cursor with
      | (none, cursor) => ⟨[], true, cursor⟩
      | (some more, cursor) => ⟨foldedBreaks first more, true, cursor⟩
  else
    ⟨spaces, false, cursor⟩

/-- Characters that end words within brackets. -/
def flowMarks : List Char := [',', '?', '[', ']', '\x7b', '\x7d']

/-- The length of the word at the start of characters. -/
def wordLength (inFlow : Bool) : List Char → Nat
  | [] => 0
  | character :: rest =>
    let endsHere := endsToken (some character) ||
      (character == ':' && (endsToken rest.head? ||
        (inFlow && rest.head?.any fun next => next != '?' && flowMarks.contains next))) ||
      (inFlow && flowMarks.contains character)
    if endsHere then 0 else wordLength inFlow rest + 1

/-- A plain scalar, where it ends, and whether a key may follow it. -/
structure PlainScalar where
  content : List Char
  cursor : Cursor
  allowsKey : Bool

/-- Read the words of a plain scalar after a gap. -/
def scanWords
    (inFlow : Bool)
    (indent : Nat) :
    (fuel : Nat) → (before gap : List Char) → (allowsKey : Bool) → Cursor → PlainScalar
  | 0, before, _, allowsKey, cursor => ⟨before, cursor, allowsKey⟩
  | fuel + 1, before, gap, allowsKey, cursor =>
    let length := if cursor.isAt '#' then 0 else wordLength inFlow cursor.rest
    if length == 0 then ⟨before, cursor, allowsKey⟩
    else
      let content := before ++ gap ++ cursor.rest.take length
      let next := scanGap (cursor.forward length)
      if next.content.isEmpty || next.cursor.isAt '#' ||
          (!inFlow && next.cursor.column < indent) then
        ⟨content, next.cursor, next.endsLine⟩
      else
        scanWords inFlow indent fuel content next.content next.endsLine next.cursor

/-- Read a plain scalar in a block of some indentation. -/
def scanPlain (inFlow : Bool) (indent : Nat) (cursor : Cursor) : PlainScalar :=
  scanWords inFlow indent (cursor.rest.length + 1) [] [] false cursor

/-- The text of characters that are written after a backslash. -/
def replacement? : Char → Option Char
  | '0' => some '\x00'
  | 'a' => some '\x07'
  | 'b' => some '\x08'
  | 't' => some '\t'
  | '\t' => some '\t'
  | 'n' => some '\n'
  | 'v' => some '\x0b'
  | 'f' => some '\x0c'
  | 'r' => some '\r'
  | 'e' => some '\x1b'
  | ' ' => some ' '
  | '"' => some '"'
  | '\\' => some '\\'
  | '/' => some '/'
  | 'N' => some '\x85'
  | '_' => some '\xA0'
  | 'L' => some '\u2028'
  | 'P' => some '\u2029'
  | _ => none

/-- How many hexadecimal digits follow a letter after a backslash. -/
def codeLength? : Char → Option Nat
  | 'x' => some 2
  | 'u' => some 4
  | 'U' => some 8
  | _ => none

/-- The code point of a number; numbers beyond the code space are refused. -/
def pointOf (number : Nat) : Except Fault CodePoint :=
  if bounded : number < 0x110000 then .ok ⟨number, bounded⟩
  else if number ≤ 0x7FFFFFFF then .error .wrongValue
  else .error .overflow

/-- Read line ends within quotes; a mark between documents has no place there. -/
def scanQuotedBreaks : (fuel : Nat) → List Char → Cursor → Except Fault (List Char × Cursor)
  | 0, _, _ => badToken
  | fuel + 1, before, cursor =>
    if cursor.isAtSeparator then badToken
    else
      let cursor := cursor.skipWhile isSpaceOrTab
      if cursor.head?.any isBreak then
        let (lineEnd, cursor) := cursor.lineBreak
        scanQuotedBreaks fuel (before ++ lineEnd) cursor
      else
        .ok (before, cursor)

def scanAllQuotedBreaks (cursor : Cursor) : Except Fault (List Char × Cursor) :=
  scanQuotedBreaks (cursor.rest.length + 1) [] cursor

/-- Read what follows a backslash. -/
def scanEscape (cursor : Cursor) : Except Fault (Text × Cursor) :=
  match cursor.rest with
  | [] => badToken
  | mark :: rest =>
    match replacement? mark with
    | some character => .ok ([CodePoint.ofChar character], cursor.next)
    | none =>
      match codeLength? mark with
      | some length =>
        let digits := rest.take length
        if digits.length = length && digits.all isHexDigit then do
          return ([← pointOf (hexNumber digits)], cursor.forward (length + 1))
        else
          badToken
      | none =>
        if isBreak mark then do
          let (breaks, cursor) ← scanAllQuotedBreaks cursor.lineBreak.2
          return (Text.ofChars breaks, cursor)
        else
          badToken

/-- Read spaces and line ends within quotes. -/
def scanQuotedSpaces (cursor : Cursor) : Except Fault (List Char × Cursor) :=
  let (spaces, cursor) := cursor.takeWhile isSpaceOrTab
  match cursor.head? with
  | none => badToken
  | some character =>
    if isBreak character then do
      let (first, cursor) := cursor.lineBreak
      let (more, cursor) ← scanAllQuotedBreaks cursor
      return (foldedBreaks first more, cursor)
    else
      .ok (spaces, cursor)

/-- Whether a character stands for itself within quotes of any kind. -/
def isOrdinary (character : Char) : Bool :=
  character != '\'' && character != '"' && character != '\\' && !endsToken (some character)

/-- Read the rest of a text in quotes. -/
def scanQuoted (isDouble : Bool) : (fuel : Nat) → Text → Cursor → Except Fault (Text × Cursor)
  | 0, _, _ => badToken
  | fuel + 1, before, cursor =>
    let (plain, cursor) := cursor.takeWhile isOrdinary
    let before := before ++ Text.ofChars plain
    match cursor.rest with
    | [] => badToken
    | '\'' :: rest =>
      if isDouble then
        scanQuoted isDouble fuel (before ++ Text.ofChars ['\'']) cursor.next
      else if rest.head? == some '\'' then
        scanQuoted isDouble fuel (before ++ Text.ofChars ['\'']) (cursor.forward 2)
      else
        .ok (before, cursor.next)
    | '"' :: _ =>
      if isDouble then .ok (before, cursor.next)
      else scanQuoted isDouble fuel (before ++ Text.ofChars ['"']) cursor.next
    | '\\' :: _ =>
      if isDouble then do
        let (escaped, cursor) ← scanEscape cursor.next
        scanQuoted isDouble fuel (before ++ escaped) cursor
      else
        scanQuoted isDouble fuel (before ++ Text.ofChars ['\\']) cursor.next
    | _ => do
      let (spaces, cursor) ← scanQuotedSpaces cursor
      scanQuoted isDouble fuel (before ++ Text.ofChars spaces) cursor

/-- Read a text in quotes. -/
def scanQuotedScalar (isDouble : Bool) (cursor : Cursor) : Except Fault (Text × Cursor) :=
  scanQuoted isDouble (cursor.rest.length + 1) [] cursor.next

/-- What happens to the line ends at the end of a block. -/
inductive Chomping
  | clip
  | strip
  | keep
deriving DecidableEq

def chomping? : Option Char → Option Chomping
  | some '+' => some .keep
  | some '-' => some .strip
  | _ => none

/-- The indentation that a digit gives; zero is no indentation. -/
def indentation? (cursor : Cursor) : Except Fault (Option Nat) :=
  match cursor.head? with
  | some character =>
    if character.isDigit then
      if character == '0' then badToken else .ok (some (character.toNat - '0'.toNat))
    else
      .ok none
  | none => .ok none

/-- Read the marks after the sign of a block. -/
def scanBlockMarks (cursor : Cursor) : Except Fault (Chomping × Option Nat × Cursor) := do
  let (chomping, indentation, cursor) ← scan
  if endsWord cursor.head? then return (chomping, indentation, cursor) else badToken
where
  scan : Except Fault (Chomping × Option Nat × Cursor) := do
    match chomping? cursor.head? with
    | some chomping =>
      match ← indentation? cursor.next with
      | some width => return (chomping, some width, cursor.forward 2)
      | none => return (chomping, none, cursor.next)
    | none =>
      match ← indentation? cursor with
      | some width =>
        match chomping? cursor.next.head? with
        | some chomping => return (chomping, some width, cursor.forward 2)
        | none => return (.clip, some width, cursor.next)
      | none => return (.clip, none, cursor)

/-- Read empty lines before a block, and the widest indentation among them. -/
def scanLeadingLines : (fuel : Nat) → List Char → (widest : Nat) → Cursor →
    List Char × Nat × Cursor
  | 0, before, widest, cursor => (before, widest, cursor)
  | fuel + 1, before, widest, cursor =>
    if cursor.isAt ' ' then
      let cursor := cursor.next
      scanLeadingLines fuel before (max widest cursor.column) cursor
    else if cursor.head?.any isBreak then
      let (lineEnd, cursor) := cursor.lineBreak
      scanLeadingLines fuel (before ++ lineEnd) widest cursor
    else
      (before, widest, cursor)

/-- Go past spaces up to a column. -/
def skipIndentation (indent : Nat) : (fuel : Nat) → Cursor → Cursor
  | 0, cursor => cursor
  | fuel + 1, cursor =>
    if cursor.column < indent && cursor.isAt ' ' then skipIndentation indent fuel cursor.next
    else cursor

/-- Read empty lines within a block. -/
def scanBlockBreaks (indent : Nat) : (fuel : Nat) → List Char → Cursor → List Char × Cursor
  | 0, before, cursor => (before, cursor)
  | fuel + 1, before, cursor =>
    let cursor := skipIndentation indent indent cursor
    if cursor.head?.any isBreak then
      let (lineEnd, cursor) := cursor.lineBreak
      scanBlockBreaks indent fuel (before ++ lineEnd) cursor
    else
      (before, cursor)

/-- Read the lines of a block; the empty lines before the next one are at hand. -/
def scanBlockLines
    (isFolded : Bool)
    (chomping : Chomping)
    (indent : Nat) :
    (fuel : Nat) → (before breaks lineEnd : List Char) → Cursor → List Char × Cursor
  | 0, before, _, _, cursor => (before, cursor)
  | fuel + 1, before, breaks, lineEnd, cursor =>
    if cursor.column == indent && cursor.head?.isSome then
      let startsWithWord := !(cursor.head?.any isSpaceOrTab)
      let (line, cursor) := cursor.takeWhile fun character => !isBreak character
      let before := before ++ breaks ++ line
      let (lineEnd, cursor) := cursor.lineBreak
      let (breaks, cursor) := scanBlockBreaks indent (cursor.rest.length + 1) [] cursor
      if cursor.column == indent && cursor.head?.isSome then
        let joint :=
          if isFolded && lineEnd == ['\n'] && startsWithWord &&
              !(cursor.head?.any isSpaceOrTab) then
            if breaks.isEmpty then [' '] else []
          else
            lineEnd
        scanBlockLines isFolded chomping indent fuel (before ++ joint) breaks lineEnd cursor
      else
        finish before breaks lineEnd cursor
    else
      finish before breaks lineEnd cursor
where
  finish (before breaks lineEnd : List Char) (cursor : Cursor) : List Char × Cursor :=
    match chomping with
    | .strip => (before, cursor)
    | .clip => (before ++ lineEnd, cursor)
    | .keep => (before ++ lineEnd ++ breaks, cursor)

/-- Read a block of lines; blocks within it are indented at least this far. -/
def scanBlock (isFolded : Bool) (leastIndent : Nat) (cursor : Cursor) :
    Except Fault (List Char × Cursor) := do
  let (chomping, width, cursor) ← scanBlockMarks cursor.next
  let cursor ← cursor.endLine
  let leastIndent := max leastIndent 1
  let fuel := cursor.rest.length + 1
  match width with
  | none =>
    let (breaks, widest, cursor) := scanLeadingLines fuel [] 0 cursor
    return scanBlockLines isFolded chomping (max leastIndent widest) fuel [] breaks [] cursor
  | some width =>
    let indent := leastIndent + width - 1
    let (breaks, cursor) := scanBlockBreaks indent fuel [] cursor
    return scanBlockLines isFolded chomping indent fuel [] breaks [] cursor

end Stencil.Yaml

import Stencil.Fault

/-!
# Places in a YAML document

A cursor stands before a character of a document and knows its line and column.  Lines
end with any of five characters, a carriage return before a line feed ends no line.
-/

namespace Stencil.Yaml

/-- A place in a document with the characters after it. -/
structure Cursor where
  rest : List Char
  index : Nat := 0
  line : Nat := 0
  column : Nat := 0

def isBreak (character : Char) : Bool :=
  character == '\r' || character == '\n' || character == '\x85' || character == '\u2028' ||
    character == '\u2029'

def isSpace (character : Char) : Bool :=
  character == ' '

def isSpaceOrTab (character : Char) : Bool :=
  character == ' ' || character == '\t'

/-- Whether the document or a line ends here. -/
def endsLine : Option Char → Bool
  | none => true
  | some character => isBreak character

/-- Whether the document, a line or a word between spaces ends here. -/
def endsWord : Option Char → Bool
  | none => true
  | some character => character == ' ' || isBreak character

/-- Whether the document, a line or a word between spaces and tabulators ends here. -/
def endsToken : Option Char → Bool
  | none => true
  | some character => isSpaceOrTab character || isBreak character

/-- Characters of names: letters, digits and two marks. -/
def isNameCharacter (character : Char) : Bool :=
  character.isAlphanum || character == '-' || character == '_'

/-- A fault of the characters that tokens are made of. -/
def badToken {α : Type} : Except Fault α :=
  .error (.document .tokens)

namespace Cursor

/-- The next character. -/
def head? (cursor : Cursor) : Option Char :=
  cursor.rest.head?

/-- A character further on. -/
def peek? (cursor : Cursor) (distance : Nat) : Option Char :=
  cursor.rest[distance]?

def isAt (cursor : Cursor) (character : Char) : Bool :=
  cursor.head? == some character

/-- Go past one character. -/
def next (cursor : Cursor) : Cursor :=
  match cursor.rest with
  | [] => cursor
  | character :: rest =>
    let endsHere := if character == '\r' then rest.head? != some '\n' else isBreak character
    if endsHere then
      { rest, index := cursor.index + 1, line := cursor.line + 1, column := 0 }
    else
      { rest
        index := cursor.index + 1
        line := cursor.line
        column := if character == '\uFEFF' then cursor.column else cursor.column + 1 }

/-- Go past some characters. -/
def forward : (count : Nat) → Cursor → Cursor
  | 0, cursor => cursor
  | count + 1, cursor => forward count cursor.next

/-- The characters of a kind at a place, and the place after them. -/
def takeWhile (kind : Char → Bool) (cursor : Cursor) : List Char × Cursor :=
  let taken := cursor.rest.takeWhile kind
  (taken, cursor.forward taken.length)

/-- Go past the characters of a kind. -/
def skipWhile (kind : Char → Bool) (cursor : Cursor) : Cursor :=
  (cursor.takeWhile kind).2

/-- Go past a comment. -/
def skipComment (cursor : Cursor) : Cursor :=
  if cursor.isAt '#' then cursor.skipWhile fun character => !isBreak character else cursor

/-- Read the end of a line, if there is one; most ends are written as line feeds. -/
def lineBreak (cursor : Cursor) : List Char × Cursor :=
  match cursor.rest with
  | '\r' :: '\n' :: _ => (['\n'], cursor.forward 2)
  | character :: _ =>
    if character == '\r' || character == '\n' || character == '\x85' then
      (['\n'], cursor.next)
    else if isBreak character then
      ([character], cursor.next)
    else
      ([], cursor)
  | [] => ([], cursor)

/-- Whether three hyphens or dots stand here as a word of their own. -/
def isAtMark (mark : Char) (cursor : Cursor) : Bool :=
  cursor.rest.take 3 == [mark, mark, mark] && endsToken (cursor.peek? 3)

/-- Whether a mark between documents stands here. -/
def isAtSeparator (cursor : Cursor) : Bool :=
  cursor.isAtMark '-' || cursor.isAtMark '.'

/-- Go past the rest of a line that holds nothing but spaces and a comment. -/
def endLine (cursor : Cursor) : Except Fault Cursor :=
  let cursor := (cursor.skipWhile isSpace).skipComment
  if endsLine cursor.head? then .ok cursor.lineBreak.2 else badToken

end Cursor

end Stencil.Yaml

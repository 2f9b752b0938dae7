import Stencil.Data.Item
import Stencil.Number.Numeral
import Stencil.Text.Search

/-!
# Reading JSON

A text is read as one item with blanks around it.  Of two entries with one key the
later value counts, at the place of the earlier one.
-/

namespace Stencil.Json

open Data (Item Table)

def isSpace (character : Char) : Bool :=
  character == ' ' || character == '\t' || character == '\n' || character == '\r'

def skipSpaces (characters : List Char) : List Char :=
  characters.dropWhile isSpace

/-- Read four hexadecimal digits. -/
def readUnit (characters : List Char) : Option (Nat × List Char) :=
  let digits := (characters.take 4).filter (·.toNat < 0x80)
  let values := digits.filterMap (Number.digitValue? 16)
  if values.length = 4 then some (Number.ofDigits 16 values, characters.drop 4) else none

/-- Whether a unit opens a pair. -/
def opensPair (unit : Nat) : Bool :=
  0xD800 ≤ unit && unit ≤ 0xDBFF

/-- Whether a unit closes a pair. -/
def closesPair (unit : Nat) : Bool :=
  0xDC00 ≤ unit && unit ≤ 0xDFFF

/-- Read a code point: a unit, or two that form a pair. -/
def readPoint (characters : List Char) : Option (CodePoint × List Char) := do
  let (unit, rest) ← readUnit characters
  match rest with
  | '\\' :: 'u' :: more =>
    if opensPair unit then
      match readUnit more with
      | some (second, more) =>
        if closesPair second then
          return (CodePoint.ofNat (0x10000 + (unit - 0xD800) * 0x400 + (second - 0xDC00)), more)
        else
          return (CodePoint.ofNat unit, rest)
      | none => none
    else
      return (CodePoint.ofNat unit, rest)
  | _ => return (CodePoint.ofNat unit, rest)

/-- The character of an escape. -/
def escaped? : Char → Option Char
  | '"' => some '"'
  | '\\' => some '\\'
  | '/' => some '/'
  | 'b' => some '\x08'
  | 'f' => some '\x0c'
  | 'n' => some '\n'
  | 'r' => some '\r'
  | 't' => some '\t'
  | _ => none

/-- Read the rest of a text; what has been read stands latest first. -/
def readText : (fuel : Nat) → Text → List Char → Option (Text × List Char)
  | 0, _, _ => none
  | fuel + 1, before, characters =>
    match characters with
    | [] => none
    | '"' :: rest => some (before.reverse, rest)
    | '\\' :: 'u' :: rest => do
      let (point, rest) ← readPoint rest
      readText fuel (point :: before) rest
    | '\\' :: mark :: rest => do
      let character ← escaped? mark
      readText fuel (CodePoint.ofChar character :: before) rest
    | character :: rest =>
      if character.toNat < 0x20 || character == '\\' then none
      else readText fuel (CodePoint.ofChar character :: before) rest

/-- Digits at the start of characters. -/
def digits (characters : List Char) : List Char × List Char :=
  (characters.takeWhile Char.isDigit, characters.dropWhile Char.isDigit)

/-- The digits that have to follow a mark for it to count. -/
def markedDigits (mark : List Char) (rest characters : List Char) : List Char × List Char :=
  let (found, after) := digits rest
  if found.isEmpty then ([], characters) else (mark ++ found, after)

/-- The fraction at the start of characters. -/
def fraction (characters : List Char) : List Char × List Char :=
  match characters with
  | '.' :: rest => markedDigits ['.'] rest characters
  | _ => ([], characters)

/-- The exponent at the start of characters. -/
def exponent (characters : List Char) : List Char × List Char :=
  match characters with
  | 'e' :: rest => signed rest
  | 'E' :: rest => signed rest
  | _ => ([], characters)
where
  signed : List Char → List Char × List Char
    | '+' :: rest => markedDigits ['e', '+'] rest characters
    | '-' :: rest => markedDigits ['e', '-'] rest characters
    | rest => markedDigits ['e'] rest characters

/-- The whole part of a number: a zero, or digits that do not start with one. -/
def whole? : List Char → Option (List Char × List Char)
  | '0' :: rest => some (['0'], rest)
  | characters =>
    let (found, rest) := digits characters
    if found.isEmpty then none else some (found, rest)

/-- Read a number. -/
def readNumber (characters : List Char) : Option (Item × List Char) := do
  let (sign, rest) :=
    match characters with
    | '-' :: rest => (['-'], rest)
    | rest => ([], rest)
  let (whole, rest) ← whole? rest
  let (fraction, rest) := fraction rest
  let (exponent, rest) := exponent rest
  let numeral := Text.ofChars (sign ++ whole ++ fraction ++ exponent)
  if fraction.isEmpty && exponent.isEmpty then
    match Number.readInteger 10 numeral with
    | .ok amount => return (.integer amount, rest)
    | .error _ => none
  else
    return (.real (← Number.readFloat? numeral), rest)

/-- Words that stand for items. -/
def words : List (String × Item) := [
  ("null", .nothing),
  ("true", .flag true),
  ("false", .flag false),
  ("NaN", .real Number.notANumber),
  ("Infinity", .real (Number.infinity false)),
  ("-Infinity", .real (Number.infinity true))]

/-- Read a word. -/
def readWord (characters : List Char) : Option (Item × List Char) :=
  words.findSome? fun (word, item) =>
    (Stencil.Text.afterStart? word.toList characters).map fun rest => (item, rest)

/-- Put an entry into a table; a known key keeps its place. -/
def putEntry (key : String) (item : Item) : Table → Table
  | [] => [(key, item)]
  | (known, old) :: rest =>
    if known = key then (known, item) :: rest else (known, old) :: putEntry key item rest

mutual

/-- Read an item. -/
def readItem : (fuel : Nat) → List Char → Option (Item × List Char)
  | 0, _ => none
  | fuel + 1, characters =>
    match characters with
    | '"' :: rest => do
      let (content, rest) ← readText (rest.length + 1) [] rest
      return (.text content.string, rest)
    | '[' :: rest =>
      match skipSpaces rest with
      | ']' :: rest => some (.list [], rest)
      | rest => (readItems fuel rest).map fun (items, rest) => (.list items, rest)
    | '\x7b' :: rest =>
      match skipSpaces rest with
      | '\x7d' :: rest => some (.table [], rest)
      | rest => (readEntries fuel [] rest).map fun (entries, rest) => (.table entries, rest)
    | _ => (readWord characters).orElse fun _ => readNumber characters

/-- Read the items of a list up to its end. -/
def readItems : (fuel : Nat) → List Char → Option (List Item × List Char)
  | 0, _ => none
  | fuel + 1, characters => do
    let (item, rest) ← readItem fuel characters
    match skipSpaces rest with
    | ']' :: rest => return ([item], rest)
    | ',' :: rest =>
      let (items, rest) ← readItems fuel (skipSpaces rest)
      return (item :: items, rest)
    | _ => none

/-- Read the entries of a table up to its end. -/
def readEntries : (fuel : Nat) → Table → List Char → Option (Table × List Char)
  | 0, _, _ => none
  | fuel + 1, table, characters =>
    match characters with
    | '"' :: rest => do
      let (key, rest) ← readText (rest.length + 1) [] rest
      match skipSpaces rest with
      | ':' :: rest =>
        let (item, rest) ← readItem fuel (skipSpaces rest)
        let table := putEntry key.string item table
        match skipSpaces rest with
        | '\x7d' :: rest => return (table, rest)
        | ',' :: rest => readEntries fuel table (skipSpaces rest)
        | _ => none
      | _ => none
    | _ => none

end

/-- The item that a text holds. -/
def read? (characters : List Char) : Option Item := do
  let (item, rest) ← readItem (2 * characters.length + 2) (skipSpaces characters)
  if (skipSpaces rest).isEmpty then some item else none

end Stencil.Json

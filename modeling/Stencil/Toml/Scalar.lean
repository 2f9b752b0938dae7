import Stencil.Data.Item
import Stencil.Number.Numeral
import Stencil.Text.Search
import Stencil.Text.Utf8

/-!
# Scalars of TOML documents

Texts between quotes, numbers, dates and times.  Each function reads from the start of
some characters and gives what is left of them.
-/

namespace Stencil.Toml

open Data (Item Table)

def malformed {α : Type} : Except Fault α := .error .descriptorSyntax

def isSpace (character : Char) : Bool :=
  character == ' ' || character == '\t'

def isSpaceOrLineEnd (character : Char) : Bool :=
  isSpace character || character == '\n'

/-- Control characters other than the tabulator have no place in a line. -/
def isControl (character : Char) : Bool :=
  (character.toNat < 0x20 && character != '\t') || character.toNat == 0x7F

def skipSpaces (characters : List Char) : List Char :=
  characters.dropWhile isSpace

/-- Read a code point in hexadecimal digits. -/
def readEscapedPoint (width : Nat) (characters : List Char) : Except Fault (Char × List Char) :=
  let digits := (characters.take width).filterMap (Number.digitValue? 16)
  let number := Number.ofDigits 16 digits
  if digits.length = width && (characters.take width).all (·.toNat < 0x80) then
    if valid : number.isValidChar then
      .ok (Char.ofNatAux number valid, characters.drop width)
    else
      malformed
  else
    malformed

/-- The character of an escape. -/
def escaped? : Char → Option Char
  | 'b' => some '\x08'
  | 't' => some '\t'
  | 'n' => some '\n'
  | 'f' => some '\x0c'
  | 'r' => some '\r'
  | '"' => some '"'
  | '\\' => some '\\'
  | _ => none

/-- Read what follows a backslash within a line. -/
def readEscape : List Char → Except Fault (List Char × List Char)
  | 'u' :: rest => (readEscapedPoint 4 rest).map fun (point, rest) => ([point], rest)
  | 'U' :: rest => (readEscapedPoint 8 rest).map fun (point, rest) => ([point], rest)
  | mark :: rest =>
    match escaped? mark with
    | some character => .ok ([character], rest)
    | none => malformed
  | [] => malformed

/-- Read what follows a backslash within several lines; a line end goes with spaces around it. -/
def readEscapeInLines : List Char → Except Fault (List Char × List Char)
  | '\n' :: rest => .ok ([], rest.dropWhile isSpaceOrLineEnd)
  | mark :: rest =>
    if isSpace mark then
      match skipSpaces rest with
      | [] => .ok ([], [])
      | '\n' :: rest => .ok ([], rest.dropWhile isSpaceOrLineEnd)
      | _ => malformed
    else
      readEscape (mark :: rest)
  | [] => malformed

/-- Read the rest of a text in double quotes; what has been read stands latest first. -/
def readQuoted : (fuel : Nat) → List Char → List Char → Except Fault (String × List Char)
  | 0, _, _ => malformed
  | fuel + 1, before, characters =>
    match characters with
    | [] => malformed
    | '"' :: rest => .ok (String.ofList before.reverse, rest)
    | '\\' :: rest => do
      let (escape, rest) ← readEscape rest
      readQuoted fuel (escape.reverse ++ before) rest
    | character :: rest =>
      if isControl character then malformed else readQuoted fuel (character :: before) rest

/-- Read the rest of a text of several lines in double quotes. -/
def readQuotedLines : (fuel : Nat) → List Char → List Char → Except Fault (List Char × List Char)
  | 0, _, _ => malformed
  | fuel + 1, before, characters =>
    match characters with
    | [] => malformed
    | '"' :: '"' :: '"' :: rest => .ok (before.reverse, rest)
    | '\\' :: rest => do
      let (escape, rest) ← readEscapeInLines rest
      readQuotedLines fuel (escape.reverse ++ before) rest
    | character :: rest =>
      if isControl character && character != '\n' then malformed
      else readQuotedLines fuel (character :: before) rest

/-- Read the rest of a text in single quotes, which holds no escapes. -/
def readLiteral (characters : List Char) : Except Fault (String × List Char) :=
  match Text.cut? ['\''] characters with
  | some (content, rest) =>
    if content.any isControl then malformed else .ok (String.ofList content, rest)
  | none => malformed

/-- Read the rest of a text of several lines in single quotes. -/
def readLiteralLines (characters : List Char) : Except Fault (List Char × List Char) :=
  match Text.cut? ['\'', '\'', '\''] characters with
  | some (content, rest) =>
    if content.any fun character => isControl character && character != '\n' then malformed
    else .ok (content, rest)
  | none => malformed

/-- Up to two quotes after the closing ones belong to a text of several lines. -/
def withQuotes (quote : Char) (content rest : List Char) : String × List Char :=
  match rest with
  | first :: second :: rest =>
    if first = quote then
      if second = quote then (String.ofList (content ++ [quote, quote]), rest)
      else (String.ofList (content ++ [quote]), second :: rest)
    else (String.ofList content, first :: second :: rest)
  | [first] =>
    if first = quote then (String.ofList (content ++ [quote]), [])
    else (String.ofList content, [first])
  | [] => (String.ofList content, [])

/-- A line end right after the opening quotes does not count. -/
def withoutFirstLineEnd : List Char → List Char
  | '\n' :: rest => rest
  | characters => characters

/-- Read a text. -/
def readText : List Char → Option (Except Fault (String × List Char))
  | '"' :: '"' :: '"' :: rest =>
    let rest := withoutFirstLineEnd rest
    some do
      let (content, rest) ← readQuotedLines (rest.length + 1) [] rest
      return withQuotes '"' content rest
  | '"' :: rest => some (readQuoted (rest.length + 1) [] rest)
  | '\'' :: '\'' :: '\'' :: rest =>
    some do
      let (content, rest) ← readLiteralLines (withoutFirstLineEnd rest)
      return withQuotes '\'' content rest
  | '\'' :: rest => some (readLiteral rest)
  | _ => none

/-- The digits at the start of characters; single low lines may stand between them. -/
def digitRun (isDigit : Char → Bool) : List Char → List Char × List Char
  | '_' :: character :: rest =>
    if isDigit character then
      let (digits, rest) := digitRun isDigit rest
      (character :: digits, rest)
    else
      ([], '_' :: character :: rest)
  | character :: rest =>
    if isDigit character then
      let (digits, rest) := digitRun isDigit rest
      (character :: digits, rest)
    else
      ([], character :: rest)
  | [] => ([], [])

/-- Digits that start with one. -/
def digitsFrom? (isDigit : Char → Bool) : List Char → Option (List Char × List Char)
  | character :: rest =>
    if isDigit character then
      let (digits, rest) := digitRun isDigit rest
      some (character :: digits, rest)
    else
      none
  | [] => none

/-- Whether a character is a digit in a base. -/
def isDigitIn (base : Nat) (character : Char) : Bool :=
  character.toNat < 0x80 && (Number.digitValue? base character).isSome

/-- The base that letters after a zero announce. -/
def base? : Char → Option Nat
  | 'x' => some 16
  | 'b' => some 2
  | 'o' => some 8
  | _ => none

/-- Read a whole number in an announced base. -/
def readBased? : List Char → Option (Int × List Char)
  | '0' :: letter :: rest => do
    let base ← base? letter
    let (digits, rest) ← digitsFrom? (isDigitIn base) rest
    return (Number.ofDigits base (digits.filterMap (Number.digitValue? base)), rest)
  | _ => none

/-- The whole part of a decimal number: a zero, or digits that do not start with one. -/
def wholePart? : List Char → Option (List Char × List Char)
  | '0' :: rest => some (['0'], rest)
  | characters => digitsFrom? (isDigitIn 10) characters

/-- The fraction at the start of characters. -/
def fractionPart (characters : List Char) : List Char × List Char :=
  match characters with
  | '.' :: rest =>
    match digitsFrom? (isDigitIn 10) rest with
    | some (digits, rest) => ('.' :: digits, rest)
    | none => ([], characters)
  | _ => ([], characters)

/-- A sign at the start of characters. -/
def signPart : List Char → List Char × List Char
  | '+' :: rest => (['+'], rest)
  | '-' :: rest => (['-'], rest)
  | characters => ([], characters)

/-- The exponent at the start of characters. -/
def exponentPart (characters : List Char) : List Char × List Char :=
  match characters with
  | mark :: rest =>
    if mark == 'e' || mark == 'E' then
      let (sign, rest) := signPart rest
      match digitsFrom? (isDigitIn 10) rest with
      | some (digits, rest) => ('e' :: sign ++ digits, rest)
      | none => ([], characters)
    else
      ([], characters)
  | [] => ([], [])

/-- Read a decimal number; a whole number of too many digits is refused. -/
def readDecimal? (characters : List Char) : Option (Except Fault (Item × List Char)) := do
  let (sign, rest) := signPart characters
  let (whole, rest) ← wholePart? rest
  let (fraction, rest) := fractionPart rest
  let (exponent, rest) := exponentPart rest
  let numeral := Text.ofChars (sign ++ whole ++ fraction ++ exponent)
  if fraction.isEmpty && exponent.isEmpty then
    match Number.readInteger 10 numeral with
    | .ok amount => return .ok (.integer amount, rest)
    | .error _ => return .error .wrongValue
  else
    match Number.readFloat? numeral with
    | some amount => return .ok (.real amount, rest)
    | none => return malformed

/-- Read a number. -/
def readNumber? (characters : List Char) : Option (Except Fault (Item × List Char)) :=
  match readBased? characters with
  | some (amount, rest) => some (.ok (.integer amount, rest))
  | none => readDecimal? characters

/-- Read infinity or what is no number. -/
def readSpecial? (characters : List Char) : Option (Item × List Char) :=
  let (sign, rest) := signPart characters
  match rest with
  | 'i' :: 'n' :: 'f' :: rest => some (.real (Number.infinity (sign == ['-'])), rest)
  | 'n' :: 'a' :: 'n' :: rest => some (.real Number.notANumber, rest)
  | _ => none

/-- Read a number of a fixed count of digits within bounds. -/
def readFixed? (width low high : Nat) (characters : List Char) : Option (Nat × List Char) :=
  let digits := (characters.take width).filter (isDigitIn 10)
  let number := Number.ofDigits 10 (digits.filterMap (Number.digitValue? 10))
  if digits.length = width && low ≤ number && number ≤ high then
    some (number, characters.drop width)
  else
    none

/-- A mark that has to stand at the start of characters. -/
def expect? (mark : Char) : List Char → Option (List Char)
  | [] => none
  | character :: rest => if character = mark then some rest else none

/-- The microseconds after the seconds of a time. -/
def microseconds (characters : List Char) : Nat × List Char :=
  match characters with
  | '.' :: rest =>
    let digits := rest.takeWhile (isDigitIn 10)
    if digits.isEmpty then (0, characters)
    else
      let six := (digits ++ List.replicate 6 '0').take 6
      (Number.ofDigits 10 (six.filterMap (Number.digitValue? 10)),
        rest.dropWhile (isDigitIn 10))
  | _ => (0, characters)

/-- Read a time of day. -/
def readTime? (characters : List Char) : Option (Calendar.TimeOfDay × List Char) := do
  let (hour, rest) ← readFixed? 2 0 23 characters
  let (minute, rest) ← readFixed? 2 0 59 (← expect? ':' rest)
  let (second, rest) ← readFixed? 2 0 59 (← expect? ':' rest)
  let (microsecond, rest) := microseconds rest
  return (⟨hour, minute, second, microsecond⟩, rest)

/-- The offset at the start of characters, in seconds. -/
def readOffset (characters : List Char) : Option Int × List Char :=
  match characters with
  | 'Z' :: rest => (some 0, rest)
  | 'z' :: rest => (some 0, rest)
  | mark :: rest =>
    if mark == '+' || mark == '-' then
      let offset : Option (Int × List Char) := do
        let (hour, rest) ← readFixed? 2 0 23 rest
        let (minute, rest) ← readFixed? 2 0 59 (← expect? ':' rest)
        let seconds : Int := (hour * 60 + minute) * 60
        return (if mark == '-' then -seconds else seconds, rest)
      match offset with
      | some (seconds, rest) => (some seconds, rest)
      | none => (none, characters)
    else
      (none, characters)
  | [] => (none, [])

/-- The time that may follow a date. -/
def readDateTime? : List Char → Option (Calendar.TimeOfDay × List Char)
  | mark :: rest => if mark == 'T' || mark == 't' || mark == ' ' then readTime? rest else none
  | [] => none

/-- Read a date, with a time if one follows; the date has to be in the calendar. -/
def readDate? (characters : List Char) : Option (Except Fault (Item × List Char)) := do
  let (year, rest) ← readFixed? 4 0 9999 characters
  let (month, rest) ← readFixed? 2 1 12 (← expect? '-' rest)
  let (day, rest) ← readFixed? 2 1 31 (← expect? '-' rest)
  match Calendar.date? year month day with
  | none => return malformed
  | some date =>
    match readDateTime? rest with
    | none => return .ok (.date date, rest)
    | some (time, rest) =>
      let (offset, rest) := readOffset rest
      return .ok (.moment ⟨date, time, offset⟩, rest)

/-- Read a flag. -/
def readFlag? : List Char → Option (Item × List Char)
  | 't' :: 'r' :: 'u' :: 'e' :: rest => some (.flag true, rest)
  | 'f' :: 'a' :: 'l' :: 's' :: 'e' :: rest => some (.flag false, rest)
  | _ => none

/-- Read a scalar. -/
def readScalar (characters : List Char) : Except Fault (Item × List Char) :=
  match readText characters with
  | some reading => reading.map fun (content, rest) => (.text content, rest)
  | none =>
    match readFlag? characters with
    | some result => .ok result
    | none =>
      match readDate? characters with
      | some reading => reading
      | none =>
        match readTime? characters with
        | some (time, rest) => .ok (.time time, rest)
        | none =>
          match readNumber? characters with
          | some reading => reading
          | none =>
            match readSpecial? characters with
            | some result => .ok result
            | none => malformed

end Stencil.Toml

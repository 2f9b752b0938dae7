import Stencil.Calendar
import Stencil.Fault
import Stencil.Number.Numeral
import Stencil.Yaml.Tag

/-!
# Timestamps in YAML documents

A timestamp is a date, perhaps with a time of day after it, and an offset after that.
Its numbers may lie beyond the calendar.
-/

namespace Stencil.Yaml

/-- A time of day as it is written; the offset is in seconds. -/
structure WrittenTime where
  hour : Nat
  minute : Nat
  second : Nat
  microsecond : Nat
  offset : Option Int

/-- A timestamp as it is written. -/
structure Timestamp where
  year : Nat
  month : Nat
  day : Nat
  /-- Whether month and day have two digits each. -/
  isPadded : Bool
  time : Option WrittenTime

namespace Timestamp

/-- Read at least and at most so many digits. -/
def readDigits? (least most : Nat) (characters : List Char) : Option (List Char × List Char) :=
  let digits := (characters.take most).takeWhile Char.isDigit
  if digits.length < least then none else some (digits, characters.drop digits.length)

def number (digits : List Char) : Nat :=
  Number.ofDigits 10 (digits.filterMap (Number.digitValue? 10))

/-- Read a character. -/
def readMark? (mark : Char) : List Char → Option (List Char)
  | [] => none
  | character :: rest => if character == mark then some rest else none

/-- Read two digits after a colon. -/
def readPart? (characters : List Char) : Option (Nat × List Char) := do
  let rest ← readMark? ':' characters
  let (digits, rest) ← readDigits? 2 2 rest
  return (number digits, rest)

/-- Read an offset, if there is one. -/
def readOffset? (characters : List Char) : Option (Option Int × List Char) :=
  match characters.dropWhile isSpaceOrTab with
  | 'Z' :: rest => some (some 0, rest)
  | sign :: rest =>
    if sign == '-' || sign == '+' then do
      let (hours, rest) ← readDigits? 1 2 rest
      let (minutes, rest) := (readPart? rest).getD (0, rest)
      let seconds : Int := number hours * 3600 + minutes * 60
      return (some (if sign == '-' then -seconds else seconds), rest)
    else
      some (none, characters)
  | [] => some (none, characters)

/-- Read a time of day. -/
def readTime? (characters : List Char) : Option (WrittenTime × List Char) := do
  let (hour, rest) ← readDigits? 1 2 characters
  let (minute, rest) ← readPart? rest
  let (second, rest) ← readPart? rest
  let (fraction, rest) :=
    match rest with
    | '.' :: rest => (rest.takeWhile Char.isDigit, rest.dropWhile Char.isDigit)
    | rest => ([], rest)
  let microsecond := number ((fraction ++ List.replicate 6 '0').take 6)
  let (offset, rest) ← readOffset? rest
  return ({ hour := number hour, minute, second, microsecond, offset }, rest)

/-- Go past what stands between a date and a time of day. -/
def skipGap? : List Char → Option (List Char)
  | 'T' :: rest => some rest
  | 't' :: rest => some rest
  | first :: rest => if isSpaceOrTab first then some (rest.dropWhile isSpaceOrTab) else none
  | [] => none

/-- Read a timestamp. -/
def ofChars? (characters : List Char) : Option Timestamp := do
  let (year, rest) ← readDigits? 4 4 (withoutLineEnd characters)
  let rest ← readMark? '-' rest
  let (month, rest) ← readDigits? 1 2 rest
  let rest ← readMark? '-' rest
  let (day, rest) ← readDigits? 1 2 rest
  let date := {
    year := number year
    month := number month
    day := number day
    isPadded := month.length == 2 && day.length == 2
    time := none }
  if rest.isEmpty then return date
  let (time, rest) ← readTime? (← skipGap? rest)
  if rest.isEmpty then return { date with time := some time } else failure

/-- Whether a timestamp may be written without a tag. -/
def isPlain (timestamp : Timestamp) : Bool :=
  timestamp.isPadded || timestamp.time.isSome

/-- The date or moment of a timestamp within the calendar. -/
def value (timestamp : Timestamp) : Except Fault (Calendar.Date × Option Calendar.Moment) :=
  match Calendar.date? timestamp.year timestamp.month timestamp.day with
  | none => .error .wrongValue
  | some date =>
    match timestamp.time with
    | none => .ok (date, none)
    | some time =>
      let offset? := time.offset.map Calendar.offset?
      match Calendar.time? time.hour time.minute time.second time.microsecond, offset? with
      | some clock, none => .ok (date, some ⟨date, clock, none⟩)
      | some clock, some (some offset) => .ok (date, some ⟨date, clock, some offset⟩)
      | _, _ => .error .wrongValue

end Timestamp

/-- The tag of a plain scalar. -/
def Tag.ofPlain (content : Text) : Tag :=
  let characters := withoutLineEnd content.shown
  let word := String.ofList characters
  if content.isEmpty || nothingWords.contains word then .nothing
  else if flagWords.contains word then .flag
  else if looksReal characters then .real
  else if looksInteger characters then .integer
  else if word == "<<" then .merge
  else if (Timestamp.ofChars? content.shown).any Timestamp.isPlain then .timestamp
  else if word == "=" then .default
  else if word == "!" || word == "&" || word == "*" then .foreign
  else .text

end Stencil.Yaml

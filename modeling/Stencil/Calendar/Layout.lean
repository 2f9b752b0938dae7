import Stencil.Calendar

/-!
# Dates and times in other layouts

A pattern is text with directives, each of them a percent sign and a letter.  A date without
a time is laid out as its midnight, and a time without a date as if it were on the first day
of 1900.  Only years of four digits are laid out by patterns.
-/

namespace Stencil.Calendar

open Stencil.Number (zeroPadded decimalDigits)

def weekdayNames : List String :=
  ["Monday", "Tuesday", "Wednesday", "Thursday", "Friday", "Saturday", "Sunday"]

def monthNames : List String :=
  ["January", "February", "March", "April", "May", "June", "July", "August", "September",
    "October", "November", "December"]

/-- A number of two digits, padded with a mark. -/
def twoDigits (padding : Char) (number : Nat) : List Char :=
  let digits := decimalDigits number
  List.replicate (2 - digits.length) padding ++ digits

namespace Date

/-- The first day of a year. -/
def newYear (year : Nat) : Date := ⟨year, 1, 1⟩

/-- How many days of its year are over. -/
def daysBefore (date : Date) : Nat :=
  date.ordinal - (newYear date.year).ordinal

/-- The Thursday of the week of a date, by its ordinal. -/
def thursday (date : Date) : Nat :=
  date.ordinal + 3 - date.weekday

/-- The year that the week of a date belongs to: the one that its Thursday is in. -/
def weekYear (date : Date) : Nat :=
  if date.thursday < (newYear date.year).ordinal then date.year - 1
  else if (newYear (date.year + 1)).ordinal ≤ date.thursday then date.year + 1
  else date.year

/-- The number of the week of a date within the year that it belongs to. -/
def week (date : Date) : Nat :=
  (date.thursday - (newYear date.weekYear).ordinal) / 7 + 1

def weekdayName (date : Date) : List Char :=
  (weekdayNames.getD date.weekday "").toList

def monthName (date : Date) : List Char :=
  (monthNames.getD (date.month - 1) "").toList

end Date

/-- How much of a time is written down. -/
inductive Detail
  /-- Microseconds where there are any. -/
  | auto
  | hours
  | minutes
  | seconds
  | milliseconds
  | microseconds
deriving DecidableEq

/-- The detail of a name. -/
def Detail.ofName? (name : String) : Option Detail :=
  [("auto", auto), ("hours", hours), ("minutes", minutes), ("seconds", seconds),
    ("milliseconds", milliseconds), ("microseconds", microseconds)].lookup name

/-- A time down to a detail. -/
def TimeOfDay.textTo (detail : Detail) (time : TimeOfDay) : List Char :=
  let hours := twoDigits '0' time.hour
  let minutes := hours ++ ':' :: twoDigits '0' time.minute
  let seconds := minutes ++ ':' :: twoDigits '0' time.second
  match detail with
  | .auto => time.text
  | .hours => hours
  | .minutes => minutes
  | .seconds => seconds
  | .milliseconds => seconds ++ '.' :: zeroPadded 3 (decimalDigits (time.microsecond / 1000))
  | .microseconds => seconds ++ '.' :: zeroPadded 6 (decimalDigits time.microsecond)

namespace Moment

/-- A date as its midnight. -/
def ofDate (date : Date) : Moment := ⟨date, ⟨0, 0, 0, 0⟩, none⟩

/-- A time on the day that stands for no date. -/
def ofTime (time : TimeOfDay) : Moment := ⟨.newYear 1900, time, none⟩

/-- The date and a time down to a detail with a mark between them, and the offset. -/
def textTo (mark : Char) (detail : Detail) (moment : Moment) : List Char :=
  moment.date.text ++ mark :: moment.time.textTo detail ++
    (match moment.offset with
      | none => []
      | some seconds => offsetText seconds)

/-- The name of an offset from universal time. -/
def zoneName? (moment : Moment) : Option (List Char) :=
  moment.offset.map fun seconds =>
    if seconds == 0 then ['U', 'T', 'C'] else ['U', 'T', 'C'] ++ offsetText seconds

/-- Weekday, month, day, time and year. -/
def longText (moment : Moment) : List Char :=
  moment.date.weekdayName.take 3 ++ ' ' :: moment.date.monthName.take 3 ++
    ' ' :: twoDigits ' ' moment.date.day ++ ' ' :: moment.time.textTo .seconds ++
    ' ' :: zeroPadded 4 (decimalDigits moment.date.year)

/-- The hour as a clock of twelve hours shows it. -/
def clockHour (moment : Moment) : Nat :=
  if moment.time.hour % 12 == 0 then 12 else moment.time.hour % 12

/-- What a letter of a pattern stands for. -/
def directive? (moment : Moment) (letter : Char) : Option (List Char) :=
  let date := moment.date
  let time := moment.time
  let isMorning := time.hour < 12
  let two := fun number => some (twoDigits '0' number)
  match letter with
  | 'a' => some (date.weekdayName.take 3)
  | 'A' => some date.weekdayName
  | 'b' => some (date.monthName.take 3)
  | 'h' => some (date.monthName.take 3)
  | 'B' => some date.monthName
  | 'C' => two (date.year / 100)
  | 'd' => two date.day
  | 'e' => some (twoDigits ' ' date.day)
  | 'f' => some (zeroPadded 6 (decimalDigits time.microsecond))
  | 'g' => two (date.weekYear % 100)
  | 'G' => some (decimalDigits date.weekYear)
  | 'H' => two time.hour
  | 'I' => two moment.clockHour
  | 'j' => some (zeroPadded 3 (decimalDigits (date.daysBefore + 1)))
  | 'k' => some (twoDigits ' ' time.hour)
  | 'l' => some (twoDigits ' ' moment.clockHour)
  | 'm' => two date.month
  | 'M' => two time.minute
  | 'n' => some ['\n']
  | 'p' => some (if isMorning then ['A', 'M'] else ['P', 'M'])
  | 'P' => some (if isMorning then ['a', 'm'] else ['p', 'm'])
  | 'S' => two time.second
  | 't' => some ['\t']
  | 'u' => some (decimalDigits (date.weekday + 1))
  | 'U' => two ((date.daysBefore + 7 - (date.weekday + 1) % 7) / 7)
  | 'V' => two date.week
  | 'w' => some (decimalDigits ((date.weekday + 1) % 7))
  | 'W' => two ((date.daysBefore + 7 - date.weekday) / 7)
  | 'y' => two (date.year % 100)
  | 'Y' => some (decimalDigits date.year)
  | 'z' => some ((moment.offset.map fun seconds =>
    (offsetText seconds).filter (· != ':')).getD [])
  | 'Z' => some (moment.zoneName?.getD [])
  | '%' => some ['%']
  | _ => none

/-- The pattern that a letter is short for. -/
def shorthand? : Char → Option String
  | 'c' => some "%a %b %e %H:%M:%S %Y"
  | 'D' => some "%m/%d/%y"
  | 'F' => some "%Y-%m-%d"
  | 'r' => some "%I:%M:%S %p"
  | 'R' => some "%H:%M"
  | 'T' => some "%H:%M:%S"
  | 'x' => some "%m/%d/%y"
  | 'X' => some "%H:%M:%S"
  | _ => none

/-- A pattern without shorthands. -/
def withoutShorthands : List Char → List Char
  | '%' :: letter :: rest =>
    ((shorthand? letter).map String.toList).getD ['%', letter] ++ withoutShorthands rest
  | character :: rest => character :: withoutShorthands rest
  | [] => []

/-- The directives of a pattern replaced by what they stand for. -/
def filledIn? (moment : Moment) : List Char → Option (List Char)
  | '%' :: letter :: rest => do
    let shown ← moment.directive? letter
    return shown ++ (← moment.filledIn? rest)
  | '%' :: [] => none
  | character :: rest => do
    return character :: (← moment.filledIn? rest)
  | [] => some []

/-- A moment laid out by a pattern whose directives are all known. -/
def laidOut? (moment : Moment) (pattern : List Char) : Option (List Char) :=
  if moment.date.year < 1000 || pattern.contains (Char.ofNat 0) then none
  else moment.filledIn? (withoutShorthands pattern)

end Moment

end Stencil.Calendar

import Stencil.Number.Layout

/-!
# Dates, times of day and moments

Calendar values as data files write them.  A date has a valid day of its month; a
moment is a date with a time of day and perhaps an offset from universal time.
-/

namespace Stencil.Calendar

open Stencil.Number (zeroPadded decimalDigits)

structure Date where
  year : Nat
  month : Nat
  day : Nat
deriving DecidableEq

structure TimeOfDay where
  hour : Nat
  minute : Nat
  second : Nat
  microsecond : Nat
deriving DecidableEq

/-- A date and a time of day; the offset from universal time is in seconds. -/
structure Moment where
  date : Date
  time : TimeOfDay
  offset : Option Int
deriving DecidableEq

def isLeap (year : Nat) : Bool :=
  year % 4 == 0 && (year % 100 != 0 || year % 400 == 0)

def daysInMonth (year month : Nat) : Nat :=
  if month == 2 then (if isLeap year then 29 else 28)
  else if month == 4 || month == 6 || month == 9 || month == 11 then 30
  else 31

/-- A date of the calendar from year one on. -/
def date? (year month day : Nat) : Option Date :=
  if 1 ≤ year && year ≤ 9999 && 1 ≤ month && month ≤ 12 && 1 ≤ day &&
      day ≤ daysInMonth year month then
    some ⟨year, month, day⟩
  else
    none

/-- A time of day without leap seconds. -/
def time? (hour minute second microsecond : Nat) : Option TimeOfDay :=
  if hour < 24 && minute < 60 && second < 60 && microsecond < 1000000 then
    some ⟨hour, minute, second, microsecond⟩
  else
    none

/-- An offset lies strictly within a day. -/
def offset? (seconds : Int) : Option Int :=
  if -86400 < seconds && seconds < 86400 then some seconds else none

namespace Date

/-- Days since the eve of year one. -/
def ordinal (date : Date) : Nat :=
  let before := date.year - 1
  let months := (List.range (date.month - 1)).map fun index => daysInMonth date.year (index + 1)
  before * 365 + before / 4 - before / 100 + before / 400 + months.foldl (· + ·) 0 + date.day

def compare (left right : Date) : Ordering :=
  Ord.compare left.ordinal right.ordinal

/-- Monday is zero. -/
def weekday (date : Date) : Nat :=
  (date.ordinal + 6) % 7

/-- Year, month and day between hyphens. -/
def text (date : Date) : List Char :=
  zeroPadded 4 (decimalDigits date.year) ++ '-' :: zeroPadded 2 (decimalDigits date.month) ++
    '-' :: zeroPadded 2 (decimalDigits date.day)

end Date

namespace TimeOfDay

def microseconds (time : TimeOfDay) : Nat :=
  ((time.hour * 60 + time.minute) * 60 + time.second) * 1000000 + time.microsecond

def compare (left right : TimeOfDay) : Ordering :=
  Ord.compare left.microseconds right.microseconds

/-- Hours, minutes and seconds between colons; microseconds where there are any. -/
def text (time : TimeOfDay) : List Char :=
  let two := fun number => zeroPadded 2 (decimalDigits number)
  two time.hour ++ ':' :: two time.minute ++ ':' :: two time.second ++
    (if time.microsecond == 0 then []
      else '.' :: zeroPadded 6 (decimalDigits time.microsecond))

end TimeOfDay

/-- An offset with its sign, hours, minutes and, where there are any, seconds. -/
def offsetText (seconds : Int) : List Char :=
  let two := fun number => zeroPadded 2 (decimalDigits number)
  let magnitude := seconds.natAbs
  (if seconds < 0 then '-' else '+') :: two (magnitude / 3600) ++ ':' ::
    two (magnitude / 60 % 60) ++
    (if magnitude % 60 == 0 then [] else ':' :: two (magnitude % 60))

namespace Moment

/-- Microseconds since the eve of year one, in universal time where the offset is known. -/
def instant (moment : Moment) : Int :=
  let seconds : Int := moment.date.ordinal * 86400 - moment.offset.getD 0
  seconds * 1000000 + moment.time.microseconds

/-- Moments compare when both or neither have an offset. -/
def compare? (left right : Moment) : Option Ordering :=
  if left.offset.isSome == right.offset.isSome then
    some (Ord.compare left.instant right.instant)
  else
    none

/-- The date and the time with a mark between them, and the offset. -/
def textWith (mark : Char) (moment : Moment) : List Char :=
  moment.date.text ++ mark :: moment.time.text ++
    (match moment.offset with
      | none => []
      | some seconds => offsetText seconds)

def text (moment : Moment) : List Char :=
  moment.textWith ' '

end Moment

/-- Arguments between commas. -/
def commaSeparated (numbers : List Nat) : String :=
  String.intercalate ", " (numbers.map toString)

/-- A length of time shown as a literal. -/
def spanLiteral (seconds : Int) : String :=
  if seconds == 0 then "datetime.timedelta(0)"
  else
    let days := Int.fdiv seconds 86400
    let rest := Int.fmod seconds 86400
    let dayPart := if days == 0 then [] else ["days=" ++ toString days]
    let restPart := if rest == 0 then [] else ["seconds=" ++ toString rest]
    "datetime.timedelta(" ++ String.intercalate ", " (dayPart ++ restPart) ++ ")"

def offsetLiteral (seconds : Int) : String :=
  if seconds == 0 then "datetime.timezone.utc"
  else "datetime.timezone(" ++ spanLiteral seconds ++ ")"

def Date.literal (date : Date) : String :=
  "datetime.date(" ++ commaSeparated [date.year, date.month, date.day] ++ ")"

/-- The parts of a time that its literal shows: seconds only where something follows. -/
def TimeOfDay.shownParts (time : TimeOfDay) : List Nat :=
  [time.hour, time.minute] ++
    (if time.microsecond != 0 then [time.second, time.microsecond]
      else if time.second != 0 then [time.second]
      else [])

def TimeOfDay.literal (time : TimeOfDay) : String :=
  "datetime.time(" ++ commaSeparated time.shownParts ++ ")"

def Moment.literal (moment : Moment) : String :=
  "datetime.datetime(" ++
    commaSeparated ([moment.date.year, moment.date.month, moment.date.day] ++
      moment.time.shownParts) ++
    (match moment.offset with
      | none => ""
      | some seconds => ", tzinfo=" ++ offsetLiteral seconds) ++ ")"

end Stencil.Calendar

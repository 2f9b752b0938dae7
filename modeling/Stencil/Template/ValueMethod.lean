import Stencil.Calendar.Layout
import Stencil.Template.Method

/-!
# Methods of sequences, numbers, bytes, dates and paths

What templates may ask of values that have no place of their own.  Where the answer depends
on more than the value and the arguments, somebody outside of templates is asked for it.
-/

namespace Stencil.Template

open Run

/-- A method of a value without a place. -/
abbrev ValueMethod := Evaluator → Value → Given → Run Value

def sequenceMethods : List (String × ValueMethod) :=
  [("count", fun evaluator value given => do
      countEqual (← members? evaluator value) (← onlyArgument given)),
    ("index", fun evaluator value given => do
      indexOf (← members? evaluator value) given)]

/-- The number of binary digits of a magnitude. -/
def bitLength (number : Nat) : Nat :=
  if number == 0 then 0 else number.log2 + 1

/-- An integer as bytes of a number, the greatest part first or last. -/
def storedInteger (integer length : Int) (order : String) (isSigned : Bool) : Run Value := do
  if order != "big" && order != "little" then
    wrongValue
  if length < 0 then
    wrongValue
  let bound := Int.pow 256 length.toNat
  let fits :=
    if isSigned then -bound ≤ 2 * integer && 2 * integer < bound
    else 0 ≤ integer && integer < bound
  if !fits then
    throw .overflow
  let magnitude := (Int.emod integer bound).toNat
  let bytes := (List.range length.toNat).map fun place =>
    UInt8.ofNat (magnitude / Nat.pow 256 place % 256)
  return .bytes (if order == "big" then bytes.reverse else bytes)

def integerMethods : List (String × ValueMethod) :=
  [("as_integer_ratio", fun _ value given => do
      noArguments given
      return .tuple [.int ((integer? value).getD 0), .int 1]),
    ("bit_count", fun _ value given => do
      noArguments given
      let bits := Nat.toDigits 2 ((integer? value).getD 0).natAbs
      return .int (bits.countP (· == '1'))),
    ("bit_length", fun _ value given => do
      noArguments given
      return .int (bitLength ((integer? value).getD 0).natAbs)),
    ("conjugate", fun _ value given => do
      noArguments given
      return .int ((integer? value).getD 0)),
    ("to_bytes", fun evaluator value given => do
      let options := given.named.filter fun entry => entry.1 == "signed"
      let rest := given.named.filter fun entry => entry.1 != "signed"
      let arguments ← ({ given with named := rest } : Given).bind
        [optional "length" (.int 1), optional "byteorder" (Value.ofString "big")]
      let length ← integerArgument (arguments.getD 0 .none)
      let order ← textArgument (arguments.getD 1 .none)
      let isSigned ← truth evaluator ((options.lookup "signed").getD (.bool false))
      storedInteger ((integer? value).getD 0) length order.string isSigned)]

/-- The parts of a finite float. -/
def finitePart (value : Value) : Run Number.Dyadic :=
  match value with
  | .float amount =>
    match Number.formOf amount with
    | .finite part => return part
    | .infinite _ => throw .overflow
    | .notANumber => wrongValue
  | _ => wrongType

/-- A float in hexadecimal digits and a power of two. -/
def hexFloat (amount : Float) : List Char :=
  match Number.formOf amount with
  | .finite value =>
    let isSmall := value.mantissa < Nat.pow 2 52
    let fraction := Number.digitsInBase 16 (value.mantissa % Nat.pow 2 52)
    let exponent := if isSmall then -1022 else value.exponent + 52
    let shown :=
      if value.mantissa == 0 then ['0', '.', '0', 'p', '+', '0']
      else
        (if isSmall then '0' else '1') :: '.' :: Number.zeroPadded 13 fraction ++
          'p' :: (if exponent < 0 then '-' else '+') :: Number.decimalDigits exponent.natAbs
    (if value.negative then ['-'] else []) ++ '0' :: 'x' :: shown
  | _ => Number.floatText amount

def floatMethods : List (String × ValueMethod) :=
  [("as_integer_ratio", fun _ value given => do
      noArguments given
      let (numerator, denominator) := (← finitePart value).signedRatio
      let common := Nat.gcd numerator.natAbs denominator
      return .tuple [.int (numerator / common), .int (denominator / common)]),
    ("conjugate", fun _ value given => do
      noArguments given
      return value),
    ("hex", fun _ value given => do
      noArguments given
      match value with
      | .float amount => return Value.ofChars (hexFloat amount)
      | _ => wrongType),
    ("is_integer", fun _ value given => do
      noArguments given
      match value with
      | .float amount =>
        match Number.formOf amount with
        | .finite part => return .bool part.isIntegral
        | _ => return .bool false
      | _ => wrongType)]

/-- Bytes in hexadecimal digits. -/
def hexText (bytes : List UInt8) : List Char :=
  bytes.flatMap fun byte => Stencil.Text.hexDigits 2 byte.toNat

/-- The mark between groups of bytes: a single plain character. -/
def hexMark (mark : Value) : Run Char := do
  match mark with
  | .bytes [byte] => if byte < 0x80 then return Char.ofNat byte.toNat else wrongValue
  | .bytes _ => wrongValue
  | mark =>
    match ← textArgument mark with
    | [point] => if point.number < 0x80 then return Char.ofNat point.number else wrongValue
    | _ => wrongValue

/-- Elements in groups of a size; the last group may have fewer. -/
def inGroups {α : Type} (size : Nat) : (fuel : Nat) → List α → List (List α)
  | 0, _ => []
  | _, [] => []
  | fuel + 1, items => items.take size :: inGroups size fuel (items.drop size)

/-- Bytes in groups with a mark between them, counted from the end unless the size is negative. -/
def hexGroups (mark : Char) (size : Int) (bytes : List UInt8) : List Char :=
  if size == 0 then hexText bytes
  else
    let short := if size < 0 then 0 else bytes.length % size.natAbs
    let first := if short == 0 then [] else [bytes.take short]
    let groups := first ++ inGroups size.natAbs bytes.length (bytes.drop short)
    Stencil.Text.joinWith [mark] (groups.map hexText)

/-- The characters of bytes that each stand for one, if they are below a limit. -/
def readNarrow (limit : Nat) (errors : Text) (bytes : List UInt8) : Run Text := do
  let parts ← bytes.mapM fun byte =>
    if byte.toNat < limit then return [CodePoint.ofNat byte.toNat]
    else if errors == ("ignore" : Text) then return []
    else if errors == ("replace" : Text) then return [CodePoint.ofNat 0xFFFD]
    else if errors == ("backslashreplace" : Text) then
      return Text.ofChars ('\\' :: 'x' :: Stencil.Text.hexDigits 2 byte.toNat)
    else throw .undecodable
  return parts.flatten

def decodeMethod : ValueMethod := fun evaluator value given => do
  let arguments ← given.bind encodingParameters
  let encoding ← textArgument (arguments.getD 0 .none)
  let errors ← textArgument (arguments.getD 1 .none)
  let isStrict := errors == ("strict" : Text)
  match value, Encoding.ofName? encoding with
  | .bytes bytes, some .utf8 =>
    match Stencil.Text.decode? ⟨bytes.toArray⟩ with
    | some characters => return Value.ofChars characters
    | none => if isStrict then throw .undecodable else evaluator.ask value ["decode"] given
  | .bytes bytes, some (.narrow limit) =>
    if ["strict", "ignore", "replace", "backslashreplace"].contains errors.string then
      return .text (← readNarrow limit errors bytes)
    else
      evaluator.ask value ["decode"] given
  | _, _ => evaluator.ask value ["decode"] given

def bytesMethods : List (String × ValueMethod) :=
  [("decode", decodeMethod),
    ("hex", fun _ value given => do
      let arguments ← given.bind [("sep", some .none), ("bytes_per_sep", some (.int 1))]
      let size ← integerArgument (arguments.getD 1 .none)
      match value, arguments.getD 0 .none with
      | .bytes bytes, .none => return Value.ofChars (hexText bytes)
      | .bytes bytes, mark =>
        let mark ← hexMark mark
        return Value.ofChars (hexGroups mark size bytes)
      | _, _ => wrongType)]

/-- A date, time or moment as a moment. -/
def momentOf? : Value → Option Calendar.Moment
  | .date date => some (.ofDate date)
  | .time time => some (.ofTime time)
  | .moment moment => some moment
  | _ => none

/-- The detail of a time that an argument asks for. -/
def detailArgument (value : Value) : Run Calendar.Detail := do
  match Calendar.Detail.ofName? (← textArgument value).string with
  | some detail => return detail
  | none => wrongValue

/-- A date, time or moment in the layout of the standard. -/
def isoText (value : Value) (given : Given) : Run Value := do
  let detail := optional "timespec" (Value.ofString "auto")
  match value with
  | .date date =>
    noArguments given
    return Value.ofChars date.text
  | .time time =>
    let arguments ← given.bind [detail]
    return Value.ofChars (time.textTo (← detailArgument (arguments.getD 0 .none)))
  | .moment moment =>
    let arguments ← given.bind [optional "sep" (Value.ofString "T"), detail]
    match ← textArgument (arguments.getD 0 .none) with
    | [mark] =>
      let detail ← detailArgument (arguments.getD 1 .none)
      return Value.ofChars (moment.textTo mark.shown detail)
    | _ => wrongType
  | _ => wrongType

/-- A date, time or moment laid out by a pattern. -/
def patternText (evaluator : Evaluator) (value : Value) (given : Given) : Run Value := do
  let arguments ← given.bind [required "format"]
  let pattern ← textArgument (arguments.getD 0 .none)
  match momentOf? value, Text.chars? pattern with
  | some moment, some pattern =>
    match moment.laidOut? pattern with
    | some shown => return Value.ofChars shown
    | none => evaluator.ask value ["strftime"] given
  | _, _ => evaluator.ask value ["strftime"] given

/-- A number that an argument gives for a part of a date or time. -/
def partArgument (value : Value) : Run Nat := do
  let number ← integerArgument value
  if number < 0 then wrongValue else return number.toNat

/-- Parameters for parts that keep their number unless another one is given. -/
def partParameters (parts : List (String × Nat)) : List Parameter :=
  parts.map fun (name, number) => optional name (.int number)

def dateParameters (date : Calendar.Date) : List Parameter :=
  partParameters [("year", date.year), ("month", date.month), ("day", date.day)]

def timeParameters (time : Calendar.TimeOfDay) : List Parameter :=
  partParameters [("hour", time.hour), ("minute", time.minute), ("second", time.second),
    ("microsecond", time.microsecond)]

/-- The date of three arguments. -/
def dateArgument (arguments : List Value) : Run Calendar.Date := do
  match ← arguments.mapM partArgument with
  | [year, month, day] =>
    match Calendar.date? year month day with
    | some date => return date
    | none => wrongValue
  | _ => wrongType

/-- The time of four arguments. -/
def timeArgument (arguments : List Value) : Run Calendar.TimeOfDay := do
  match ← arguments.mapM partArgument with
  | [hour, minute, second, microsecond] =>
    match Calendar.time? hour minute second microsecond with
    | some time => return time
    | none => wrongValue
  | _ => wrongType

/-- A date, time or moment with other parts. -/
def replaceParts (evaluator : Evaluator) (value : Value) (given : Given) : Run Value := do
  if given.named.any fun entry => entry.1 == "tzinfo" || entry.1 == "fold" then
    return ← evaluator.ask value ["replace"] given
  match value with
  | .date date => return .date (← dateArgument (← given.bind (dateParameters date)))
  | .time time => return .time (← timeArgument (← given.bind (timeParameters time)))
  | .moment moment =>
    let arguments ← given.bind (dateParameters moment.date ++ timeParameters moment.time)
    let date ← dateArgument (arguments.take 3)
    return .moment ⟨date, ← timeArgument (arguments.drop 3), moment.offset⟩
  | _ => wrongType

/-- The methods of dates, times and moments. -/
def calendarMethods : List (String × ValueMethod) :=
  [("isoformat", fun _ value given => isoText value given),
    ("replace", replaceParts),
    ("strftime", patternText)]

/-- A method of the date of a value. -/
def dateMethod (rule : Calendar.Date → Value) : ValueMethod := fun _ value given => do
  noArguments given
  match value with
  | .date date => return rule date
  | .moment moment => return rule moment.date
  | _ => wrongType

def dateMethods : List (String × ValueMethod) :=
  calendarMethods ++
  [("ctime", fun _ value given => do
      noArguments given
      match momentOf? value with
      | some moment => return Value.ofChars moment.longText
      | none => wrongType),
    ("isoweekday", dateMethod fun date => .int (date.weekday + 1)),
    ("toordinal", dateMethod fun date => .int date.ordinal),
    ("weekday", dateMethod fun date => .int date.weekday)]

/-- The methods that say how far a time is from universal time. -/
def zoneMethods : List (String × ValueMethod) :=
  [("dst", fun _ _ given => do
      noArguments given
      return .none),
    ("tzname", fun _ value given => do
      noArguments given
      return (((momentOf? value).bind Calendar.Moment.zoneName?).map Value.ofChars).getD .none),
    ("utcoffset", fun evaluator value given => do
      noArguments given
      match (momentOf? value).bind Calendar.Moment.offset with
      | none => return .none
      | some _ => evaluator.ask value ["utcoffset"] given)]

def timeMethods : List (String × ValueMethod) :=
  calendarMethods ++ zoneMethods

/-- A method of a moment. -/
def momentMethod (rule : Calendar.Moment → Value) : ValueMethod := fun _ value given => do
  noArguments given
  match value with
  | .moment moment => return rule moment
  | _ => wrongType

def momentMethods : List (String × ValueMethod) :=
  dateMethods ++ zoneMethods ++
  [("date", momentMethod fun moment => .date moment.date),
    ("time", momentMethod fun moment => .time moment.time)]

def pathMethods : List (String × ValueMethod) :=
  [("as_posix", fun _ value given => do
      noArguments given
      match value with
      | .path path => return Value.ofString path.text
      | _ => wrongType),
    ("is_absolute", fun _ value given => do
      noArguments given
      match value with
      | .path path => return .bool path.isAbsolute
      | _ => wrongType)]

/-- The methods of a value that is no text and has no place. -/
def valueMethods : Value → List (String × ValueMethod)
  | .tuple _ => sequenceMethods
  | .group _ _ => sequenceMethods
  | .range _ _ _ => sequenceMethods
  | .bool _ => integerMethods
  | .int _ => integerMethods
  | .float _ => floatMethods
  | .bytes _ => bytesMethods
  | .date _ => dateMethods
  | .time _ => timeMethods
  | .moment _ => momentMethods
  | .path _ => pathMethods
  | _ => []

end Stencil.Template

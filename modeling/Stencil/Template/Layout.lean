import Stencil.Number.Layout
import Stencil.Text.Class

/-!
# Layouts of single values

A layout says how one value fills its field: alignment, sign, width, precision and
the notation of numbers.  Both formatting languages of templates are based on it.
-/

namespace Stencil.Template

/-- How a field is filled. -/
structure FieldLayout where
  fill : Option CodePoint := none
  align : Option Char := none
  sign : Option Char := none
  /-- A magnitude that is written as zero has no sign. -/
  plainZero : Bool := false
  alternate : Bool := false
  zeroes : Bool := false
  width : Nat := 0
  grouping : Option Char := none
  precision : Option Nat := none
  kind : Option Char := none

/-- A magnitude in one of the float notations; the sign is apart. -/
def floatMagnitude
    (kind : Char)
    (precision : Nat)
    (alternate : Bool)
    (amount : Float) : Bool × List Char :=
  let upper := kind.isUpper
  let shape := fun (text : List Char) => if upper then text.map Char.toUpper else text
  match Number.formOf amount with
  | .notANumber => (false, shape ['n', 'a', 'n'])
  | .infinite negative => (negative, shape ['i', 'n', 'f'])
  | .finite value =>
    let (numerator, denominator) := value.ratio
    let text :=
      match kind.toLower with
      | 'f' =>
        let text := Number.fixedText numerator denominator precision
        if alternate then Number.withPoint text else text
      | 'e' => Number.exponentialText numerator denominator precision alternate
      | _ => Number.generalText numerator denominator precision { keepsZeros := alternate }
    (value.negative, shape text)

/-- The sign in front of a number. -/
def signText (sign : Option Char) (negative : Bool) : List Char :=
  if negative then ['-']
  else
    match sign with
    | some '+' => ['+']
    | some ' ' => [' ']
    | _ => []

/-- Put text into a field of at least some width. -/
def padField
    (fill : CodePoint)
    (align : Char)
    (width : Nat)
    (text : Text) : Text :=
  let missing := width - text.length
  if align == '<' then text ++ List.replicate missing fill
  else if align == '^' then
    let before := missing / 2
    List.replicate before fill ++ text ++ List.replicate (missing - before) fill
  else List.replicate missing fill ++ text

/-- A number apart: what stands in front, the whole digits, and what follows. -/
structure NumberParts where
  lead : List Char
  whole : List Char
  rest : List Char := []

/-- The whole digits in groups, filled up with zeros to at least some width. -/
def groupDigits (grouping : Option Char) (size width : Nat) (digits : List Char) : List Char :=
  match digits, grouping with
  | [], _ => []
  | digits, none => Number.zeroPadded width digits
  | digits, some mark => Number.grouped mark size width digits

/--
Put a number into its field.  What fills the field may stand between the sign and the
digits, and zeros there are digits themselves.
-/
def padNumber (layout : FieldLayout) (size : Nat) (number : NumberParts) : Text :=
  let zero := CodePoint.ofChar '0'
  let fill := layout.fill.getD (if layout.zeroes then zero else CodePoint.ofChar ' ')
  let align := layout.align.getD (if layout.zeroes then '=' else '>')
  let outside := number.lead.length + number.rest.length
  let width := if align == '=' && fill == zero then layout.width - outside else 0
  let digits := groupDigits layout.grouping size width number.whole ++ number.rest
  if align == '=' then
    let missing := layout.width - (number.lead.length + digits.length)
    Text.ofChars number.lead ++ List.replicate missing fill ++ Text.ofChars digits
  else
    padField fill align layout.width (Text.ofChars (number.lead ++ digits))

/-- A base with the mark it is announced by. -/
def baseOf? : Char → Option (Nat × List Char)
  | 'b' => some (2, ['0', 'b'])
  | 'o' => some (8, ['0', 'o'])
  | 'x' => some (16, ['0', 'x'])
  | 'X' => some (16, ['0', 'X'])
  | _ => none

/-- A float without a notation: its shortest text, or general notation with whole ones marked. -/
def unnamedMagnitude
    (precision : Option Nat)
    (alternate : Bool)
    (amount : Float) : Bool × List Char :=
  match Number.formOf amount with
  | .finite value =>
    let (numerator, denominator) := value.ratio
    let text :=
      match precision with
      | some precision =>
        Number.generalText numerator denominator precision
          { keepsZeros := alternate, marksWhole := true }
      | none =>
        let text := Number.magnitudeText value
        let (digits, rest) := text.span fun character => character != 'e'
        if alternate then Number.withPoint digits ++ rest else text
    (value.negative, text)
  | _ => floatMagnitude 'g' 0 false amount

/-- Whether all digits in front of an exponent are zeros. -/
def isWrittenZero (digits : List Char) : Bool :=
  (digits.takeWhile fun digit => digit != 'e' && digit != 'E').all fun digit =>
    digit == '0' || digit == '.'

/-- A float in its field; nothing where the notation is unknown. -/
def layoutFloat? (layout : FieldLayout) (amount : Float) : Option Text :=
  let place := fun (magnitude : Bool × List Char) (suffix : List Char) =>
    let (negative, text) := magnitude
    let negative := negative && !(layout.plainZero && isWrittenZero text)
    let (whole, rest) := text.span Char.isDigit
    padNumber layout 3 ⟨signText layout.sign negative, whole, rest ++ suffix⟩
  let named := fun (kind : Char) (amount : Float) =>
    floatMagnitude kind (layout.precision.getD 6) layout.alternate amount
  match layout.kind with
  | none => some (place (unnamedMagnitude layout.precision layout.alternate amount) [])
  | some kind =>
    if ['e', 'E', 'f', 'F', 'g', 'G'].contains kind then some (place (named kind amount) [])
    else if kind == 'n' then some (place (named 'g' amount) [])
    else if kind == '%' then some (place (named 'f' (amount * 100)) ['%'])
    else none

/-- An integer in its field; nothing where the notation is none for integers. -/
def layoutInteger? (layout : FieldLayout) (integer : Int) : Option Text :=
  let lead := signText layout.sign (integer < 0)
  let kind := layout.kind.getD 'd'
  if layout.precision.isSome || layout.plainZero then none
  else if kind == 'd' || kind == 'n' then
    some (padNumber layout 3 { lead, whole := Number.decimalDigits integer.natAbs })
  else
    match baseOf? kind with
    | some (base, mark) =>
      let digits := Number.digitsInBase base integer.natAbs
      let whole := if kind == 'X' then digits.map Char.toUpper else digits
      some (padNumber layout 4 { lead := lead ++ if layout.alternate then mark else [], whole })
    | none => none

/-- Whether a layout suits a number that is written as a character. -/
def FieldLayout.suitsCharacter (layout : FieldLayout) : Bool :=
  layout.precision.isNone && !layout.plainZero && layout.sign.isNone && !layout.alternate

/-- A character in the field of a number. -/
def layoutCharacter (layout : FieldLayout) (point : CodePoint) : Text :=
  let fill := layout.fill.getD (CodePoint.ofChar (if layout.zeroes then '0' else ' '))
  padField fill (layout.align.getD '>') layout.width [point]

/-- Text in its field; nothing where the layout is one for numbers. -/
def layoutText? (layout : FieldLayout) (text : Text) : Option Text :=
  if layout.sign.isSome || layout.plainZero || layout.alternate || layout.grouping.isSome ||
      layout.align == some '=' || !(layout.kind.isNone || layout.kind == some 's') then
    none
  else
    let text :=
      match layout.precision with
      | some precision => text.take precision
      | none => text
    let fill := layout.fill.getD (CodePoint.ofChar (if layout.zeroes then '0' else ' '))
    some (padField fill (layout.align.getD '<') layout.width text)

/-- A number at the start of a text. -/
def leadingNumber (text : Text) : Option Nat × Text :=
  let digits := text.takeWhile CodePoint.isDecimal
  if digits.isEmpty then (none, text)
  else
    let values := digits.map fun point => (Stencil.Text.decimalValue? point.number).getD 0
    (some (values.foldl (fun number digit => number * 10 + digit) 0), text.drop digits.length)

def isAlignment (point : CodePoint) : Bool :=
  point.is '<' || point.is '>' || point.is '=' || point.is '^'

/-- Fill and alignment at the start of a layout. -/
def readAlignment : Text → Option CodePoint × Option Char × Text
  | first :: second :: rest =>
    if isAlignment second then (some first, some second.shown, rest)
    else if isAlignment first then (none, some first.shown, second :: rest)
    else (none, none, first :: second :: rest)
  | [first] => if isAlignment first then (none, some first.shown, []) else (none, none, [first])
  | [] => (none, none, [])

/-- One of some characters at the start of a text. -/
def readMark (marks : List Char) : Text → Option Char × Text
  | first :: rest =>
    match marks.find? first.is with
    | some mark => (some mark, rest)
    | none => (none, first :: rest)
  | [] => (none, [])

/-- Whether digits of a notation may be put into groups. -/
def allowsGrouping (mark : Char) (kind : Option Char) : Bool :=
  match kind with
  | none => true
  | some kind =>
    if ['b', 'o', 'x', 'X'].contains kind then mark == '_'
    else ['d', 'e', 'E', 'f', 'F', 'g', 'G', '%'].contains kind

/-- Read the layout of a replacement field. -/
def FieldLayout.read? (text : Text) : Option FieldLayout :=
  let (fill, align, text) := readAlignment text
  let (sign, text) := readMark ['+', '-', ' '] text
  let (plainZero, text) := readMark ['z'] text
  let (alternate, text) := readMark ['#'] text
  let (zero, text) := readMark ['0'] text
  let (width, text) := leadingNumber text
  let (grouping, text) := readMark [',', '_'] text
  let (point, text) := readMark ['.'] text
  let (precision, text) := if point.isSome then leadingNumber text else (none, text)
  let (kind, text) :=
    match text with
    | kind :: rest => (some kind.shown, rest)
    | [] => (none, [])
  if (point.isSome && precision.isNone) || !text.isEmpty ||
      !grouping.all (allowsGrouping · kind) then
    none
  else
    some {
      align, sign, grouping, precision, kind
      fill := fill.or (if zero.isSome && align.isSome then some (CodePoint.ofChar '0') else none)
      plainZero := plainZero.isSome
      alternate := alternate.isSome
      zeroes := zero.isSome && align.isNone
      width := width.getD 0 }

end Stencil.Template

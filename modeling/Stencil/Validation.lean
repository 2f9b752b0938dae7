import Stencil.Number.Exact
import Stencil.Number.Numeral
import Stencil.Text.Utf8
import Stencil.Value.Display

/-!
# Checking values

Settings and tasks take values of any type and check them.  Whole numbers may also be
flags, real numbers without a fraction and numerals; texts may also be bytes in stored
form; paths may also be texts.  What does not fit is complained about, and complaints
about several parts are collected.
-/

namespace Stencil.Validation

/-- A checked part, or the complaints about it. -/
abbrev Checked (α : Type) := Except (List Complaint) α

/-- A complaint about a place. -/
def refuse {α : Type} (place kind : String) : Checked α :=
  .error [⟨place, kind, none⟩]

/-- Two checked parts; the complaints about both are collected. -/
def both {α β : Type} : Checked α → Checked β → Checked (α × β)
  | .ok first, .ok second => .ok (first, second)
  | .ok _, .error complaints => .error complaints
  | .error complaints, .ok _ => .error complaints
  | .error complaints, .error more => .error (complaints ++ more)

/-- Checked parts in a row; the complaints about all of them are collected. -/
def all {α : Type} : List (Checked α) → Checked (List α)
  | [] => .ok []
  | part :: parts => (both part (all parts)).map fun (first, rest) => first :: rest

/-- Characters that do not count around a numeral. -/
def isOuterBlank (character : Char) : Bool :=
  let number := character.toNat
  (0x09 ≤ number && number ≤ 0x0D) || number == 0x20 || number == 0x85 || number == 0xA0 ||
    number == 0x1680 || (0x2000 ≤ number && number ≤ 0x200A) || number == 0x2028 ||
    number == 0x2029 || number == 0x202F || number == 0x205F || number == 0x3000

/-- A numeral without the zeros and low lines at its start, the last one seen kept if needed. -/
def afterZeros (last : Char) : List Char → Option (List Char)
  | [] => some [last]
  | character :: rest =>
    if character == '0' || character == '_' then afterZeros character rest
    else if character.isDigit then some (character :: rest)
    else if character == '.' then some (last :: '.' :: rest)
    else none

/-- A numeral without zeros at its start. -/
def withoutZeros : List Char → Option (List Char)
  | [] => none
  | character :: rest =>
    if character == '0' then afterZeros '0' rest
    else if character.isDigit || character == '-' then some (character :: rest)
    else none

/-- A numeral without a fraction of zeros. -/
def withoutFraction (numeral : List Char) : List Char :=
  match Text.cut? ['.'] numeral with
  | some (whole, fraction) => if fraction.all (· == '0') then whole else numeral
  | none => numeral

/-- A numeral without the low lines between its digits. -/
def withoutLowLines (numeral : List Char) : Option (List Char) :=
  if numeral.head? == some '_' || numeral.getLast? == some '_' ||
      (Text.find? ['_', '_'] numeral).isSome then
    none
  else
    some (numeral.filter (· != '_'))

/-- The digits of a plain numeral: its only zero at the start is all there is of it. -/
def plainDigits? : List Char → Option (List Char)
  | [] => none
  | '0' :: rest => if rest.isEmpty then some ['0'] else none
  | digits => if digits.all Char.isDigit then some digits else none

/-- Read a numeral. -/
def readNumeral (place : String) (characters : List Char) : Checked Int :=
  let trimmed := Text.trim isOuterBlank characters
  let unsigned :=
    match trimmed with
    | '+' :: rest => if rest.head? == some '-' then none else some rest
    | numeral => some numeral
  let cleaned := do
    let numeral ← unsigned
    let numeral ← withoutZeros numeral
    withoutLowLines (withoutFraction numeral)
  match cleaned with
  | none => refuse place "int_parsing"
  | some numeral =>
    let (isNegative, magnitude) :=
      match numeral with
      | '-' :: rest => (true, rest)
      | numeral => (false, numeral)
    match plainDigits? magnitude with
    | none => refuse place "int_parsing"
    | some digits =>
      if Number.digitLimit < digits.length then refuse place "int_parsing_size"
      else
        let amount : Int :=
          Number.ofDigits 10 (digits.map fun digit => digit.toNat - '0'.toNat)
        .ok (if isNegative then -amount else amount)

/-- A whole number. -/
def integer (place : String) : Value → Checked Int
  | .bool flag => .ok (if flag then 1 else 0)
  | .int amount => .ok amount
  | .float amount =>
    match Number.formOf amount with
    | .finite value =>
      if value.isIntegral then .ok value.truncate else refuse place "int_from_float"
    | _ => refuse place "finite_number"
  | .text content => readNumeral place content.shown
  | .markup content => readNumeral place content.shown
  | .bytes content =>
    match Text.decode? ⟨content.toArray⟩ with
    | some characters => readNumeral place characters
    | none => refuse place "int_parsing"
  | _ => refuse place "int_type"

/-- A text. -/
def text (place : String) : Value → Checked Text
  | .text content => .ok content
  | .markup content => .ok content
  | .bytes content =>
    match Text.decode? ⟨content.toArray⟩ with
    | some characters => .ok (Text.ofChars characters)
    | none => refuse place "string_unicode"
  | _ => refuse place "string_type"

/-- A path. -/
def path (place : String) : Value → Checked Path
  | .text content => .ok (Path.ofString content.string)
  | .markup content => .ok (Path.ofString content.string)
  | .path location => .ok location
  | _ => refuse place "path_type"

/-- Paths in a row. -/
def paths (place : String) (values : List Value) : Checked (List Path) :=
  all (values.zipIdx.map fun (value, index) => path (place ++ "." ++ toString index) value)

/-- How a key stands in the place of a complaint. -/
def keyPlace (heap : Heap) : Value → String
  | .text content => content.string
  | .bool flag => if flag then "1" else "0"
  | key =>
    match Value.literal heap Value.ObjectDisplay.none key with
    | .ok content => content.string
    | .error _ => ""

/-- The entries of a mapping with text keys, each value checked. -/
def entries
    {α : Type}
    (heap : Heap)
    (place : String)
    (check : String → Value → Checked α)
    (value : Value) : Checked (List (Text × α)) :=
  match value with
  | .dict ref =>
    all ((heap.entries ref).map fun (key, value) =>
      let inner := place ++ "." ++ keyPlace heap key
      both (text (inner ++ ".[key]") key) (check inner value))
  | _ => refuse place "dict_type"

theorem all_map_ok {α : Type} (parts : List α) :
    all (parts.map fun part => (.ok part : Checked α)) = .ok parts := by
  induction parts with
  | nil => rfl
  | cons part parts ih =>
    show (both (.ok part) (all (parts.map fun part => (.ok part : Checked α)))).map _ = _
    rw [ih]
    rfl

end Stencil.Validation

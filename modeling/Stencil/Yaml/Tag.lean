import Stencil.Text.CodePoint
import Stencil.Text.Search
import Stencil.Yaml.Name

/-!
# Tags of YAML nodes

A tag tells what a node stands for.  The known tags share a start; all others are
foreign, and nothing can be made of their nodes.  A plain scalar without a tag is nothing, a
flag, a number or a moment if it looks like one, and a text otherwise.  A single line end
after it does not count.
-/

namespace Stencil.Yaml

inductive Tag
  | nothing
  | flag
  | integer
  | real
  | binary
  | timestamp
  | orderedEntries
  | pairs
  | set
  | text
  | list
  | table
  /-- A key whose value is merged into its mapping. -/
  | merge
  /-- A key whose value stands for its mapping. -/
  | default
  | foreign
deriving DecidableEq

namespace Tag

/-- The start of all known tags. -/
def standardStart : String := "tag:yaml.org,2002:"

/-- The tag of a full name. -/
def ofName (name : String) : Tag :=
  if name.startsWith standardStart then
    match (name.drop standardStart.length).toString with
    | "null" => .nothing
    | "bool" => .flag
    | "int" => .integer
    | "float" => .real
    | "binary" => .binary
    | "timestamp" => .timestamp
    | "omap" => .orderedEntries
    | "pairs" => .pairs
    | "set" => .set
    | "str" => .text
    | "seq" => .list
    | "map" => .table
    | "merge" => .merge
    | "value" => .default
    | _ => .foreign
  else
    .foreign

end Tag

/-- Characters without a line end after them. -/
def withoutLineEnd (characters : List Char) : List Char :=
  if characters.getLast? == some '\n' then characters.dropLast else characters

/-- Characters without a sign before them. -/
def withoutSign : List Char → List Char
  | '-' :: rest => rest
  | '+' :: rest => rest
  | characters => characters

def isDigitOrLine (character : Char) : Bool :=
  character.isDigit || character == '_'

/-- A digit with digits and low lines after it. -/
def isDigitRun : List Char → Bool
  | [] => false
  | first :: rest => first.isDigit && rest.all isDigitOrLine

/-- Digits of a number below sixty. -/
def isSixtieth : List Char → Bool
  | [unit] => unit.isDigit
  | [ten, unit] => '0' ≤ ten && ten ≤ '5' && unit.isDigit
  | _ => false

/-- Whether characters are written as a whole number. -/
def looksInteger (characters : List Char) : Bool :=
  match withoutSign characters with
  | '0' :: 'b' :: digits =>
    !digits.isEmpty && digits.all fun digit => digit == '0' || digit == '1' || digit == '_'
  | '0' :: 'x' :: digits =>
    !digits.isEmpty && digits.all fun digit => isHexDigit digit || digit == '_'
  | '0' :: digits => digits.all fun digit => ('0' ≤ digit && digit ≤ '7') || digit == '_'
  | characters =>
    match Text.pieces ':' characters with
    | [] => false
    | first :: parts => isDigitRun first && parts.all isSixtieth

/-- Whether characters are an exponent with a sign, or nothing. -/
def looksExponent : List Char → Bool
  | [] => true
  | mark :: sign :: digits =>
    (mark == 'e' || mark == 'E') && (sign == '-' || sign == '+') && !digits.isEmpty &&
      digits.all Char.isDigit
  | _ => false

/-- Whether characters are the digits after a decimal point, and perhaps an exponent. -/
def looksFraction (characters : List Char) : Bool :=
  looksExponent (characters.dropWhile isDigitOrLine)

/-- Whether characters are written as a real number. -/
def looksReal (characters : List Char) : Bool :=
  let unsigned := withoutSign characters
  let word := String.ofList unsigned
  let beforePoint := unsigned.takeWhile (· != '.')
  let afterPoint := (unsigned.dropWhile (· != '.')).drop 1
  let hasPoint := unsigned.contains '.'
  let looksDecimal := isDigitRun beforePoint && looksFraction afterPoint
  let looksShort := characters.head? == some '.' && afterPoint.head?.any Char.isDigit &&
    looksFraction afterPoint
  let looksSixty :=
    match Text.pieces ':' beforePoint with
    | first :: part :: parts =>
      isDigitRun first && (part :: parts).all isSixtieth && afterPoint.all isDigitOrLine
    | _ => false
  (hasPoint && (looksDecimal || looksShort || looksSixty)) ||
    [".inf", ".Inf", ".INF"].contains word ||
    [".nan", ".NaN", ".NAN"].contains (String.ofList characters)

/-- Words for nothing. -/
def nothingWords : List String := ["~", "null", "Null", "NULL"]

/-- Words for flags. -/
def flagWords : List String :=
  ["yes", "Yes", "YES", "no", "No", "NO", "true", "True", "TRUE", "false", "False", "FALSE",
    "on", "On", "ON", "off", "Off", "OFF"]

end Stencil.Yaml

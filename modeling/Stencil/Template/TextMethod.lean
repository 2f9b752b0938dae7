import Stencil.Template.Format
import Stencil.Template.Sequence
import Stencil.Text.Case
import Stencil.Text.Entity
import Stencil.Text.Utf8

/-!
# Methods of texts

What templates may ask of a text.  Methods of safe text give safe text and escape
what is put into it.
-/

namespace Stencil.Template

open Run

/-- A method: whether the receiver is safe, the receiver and the arguments. -/
abbrev TextMethod := Evaluator → Bool → Text → Given → Run Value

/-- Text of the receiver's kind. -/
def sameKind (isSafe : Bool) (text : Text) : Value :=
  if isSafe then .markup text else .text text

/-- The text of an argument. -/
def textArgument (value : Value) : Run Text :=
  match value.text? with
  | some text => return text
  | none => refuseType value

/-- The text of an argument that is put into the receiver. -/
def insertedArgument (isSafe : Bool) (value : Value) : Run Text := do
  match value with
  | .markup content => return content
  | value =>
    let text ← textArgument value
    return if isSafe then escapeMarkup text else text

/-- The integer of an argument. -/
def integerArgument (value : Value) : Run Int :=
  match integer? value with
  | some integer => return integer
  | none => refuseType value

/-- An optional integer. -/
def optionalInteger (value : Option Value) : Run (Option Int) := do
  match value with
  | none => return none
  | some .none => return none
  | some value => return some (← integerArgument value)

/-- A method without arguments. -/
def plainMethod (change : Text → Text) : TextMethod := fun _ isSafe text given => do
  let _ ← given.positionalOnly 0 0
  return sameKind isSafe (change text)

/-- A question without arguments. -/
def question (answer : Text → Bool) : TextMethod := fun _ _ text given => do
  let _ ← given.positionalOnly 0 0
  return .bool (answer text)

/-- A search for a text between optional bounds. -/
def searchMethod (answer : Text → Nat → Text → Run Value) (absent : Run Value) : TextMethod :=
  fun _ _ text given => do
    let arguments ← given.positionalOnly 1 3
    let needle ← textArgument (arguments.getD 0 .none)
    let start ← optionalInteger arguments[1]?
    let stop ← optionalInteger arguments[2]?
    match between start stop text with
    | some (offset, part) => answer needle offset part
    | none => absent

def findMethod (fromEnd : Bool) (absent : Run Value) : TextMethod :=
  searchMethod (fun needle offset part =>
    let place :=
      if fromEnd then Stencil.Text.findLast? needle part else Stencil.Text.find? needle part
    match place with
    | some place => return .int (offset + place)
    | none => absent) absent

/-- Whether a text starts or ends with one of the given ones. -/
def affixMethod (accepts : Text → Text → Bool) : TextMethod := fun _ _ text given => do
  let arguments ← given.positionalOnly 1 3
  let start ← optionalInteger arguments[1]?
  let stop ← optionalInteger arguments[2]?
  let wanted ←
    match arguments.getD 0 .none with
    | .tuple items => items.mapM textArgument
    | value => do pure [← textArgument value]
  match between start stop text with
  | some (_, part) => return .bool (wanted.any fun affix => accepts affix part)
  | none => return .bool false

/-- Put a text into a field. -/
def justifyMethod (place : Nat → Nat → Nat) : TextMethod := fun _ isSafe text given => do
  let arguments ← given.positionalOnly 1 2
  let width ← integerArgument (arguments.getD 0 .none)
  let fill ←
    match arguments[1]? with
    | none => pure [CodePoint.ofChar ' ']
    | some value => insertedArgument isSafe value
  match fill with
  | [point] =>
    let missing := width.toNat - text.length
    let before := place missing width.toNat
    return sameKind isSafe
      (List.replicate before point ++ text ++ List.replicate (missing - before) point)
  | _ => wrongType

/-- Remove characters from the ends. -/
def stripMethod (atStart atEnd : Bool) : TextMethod := fun _ isSafe text given => do
  let arguments ← given.positionalOnly 0 1
  let unwanted ←
    match arguments.getD 0 .none with
    | .none => pure CodePoint.isBlank
    | value => do
      let characters ← textArgument value
      pure fun point => characters.contains point
  let text := if atStart then text.dropWhile unwanted else text
  return sameKind isSafe (if atEnd then Stencil.Text.trimEnd unwanted text else text)

/-- The words of a text, at most some of them cut off; what is then left keeps its end. -/
def words : (limit : Nat) → (fuel : Nat) → Text → List Text
  | _, 0, _ => []
  | limit, fuel + 1, text =>
    match text.dropWhile CodePoint.isBlank with
    | [] => []
    | rest =>
      match limit with
      | 0 => [rest]
      | limit + 1 =>
        rest.takeWhile (!·.isBlank) :: words limit fuel (rest.dropWhile (!·.isBlank))

/-- The pieces of a text cut from either end. -/
def cutPieces (fromEnd : Bool) (separator : Option Text) (limit : Nat) (text : Text) : List Text :=
  let cut := fun (text : Text) =>
    match separator with
    | none => words limit (text.length + 1) text
    | some separator =>
      Stencil.Text.splitOn (if fromEnd then separator.reverse else separator) limit text
  if fromEnd then ((cut text.reverse).map List.reverse).reverse else cut text

def splitMethod (fromEnd : Bool) : TextMethod := fun _ isSafe text given => do
  let arguments ← given.bind [("sep", some .none), ("maxsplit", some (.int (-1)))]
  let limit ← integerArgument (arguments.getD 1 .none)
  let limit := if limit < 0 then text.length + 1 else limit.toNat
  let separator ←
    match arguments.getD 0 .none with
    | .none => pure none
    | value => do pure (some (← textArgument value))
  if separator == some [] then
    wrongValue
  newList ((cutPieces fromEnd separator limit text).map (sameKind isSafe))

/-- The lines of a text, with their ends on demand. -/
def linesOf (keepEnds : Bool) : (current : Text) → Text → List Text
  | [], [] => []
  | current, [] => [current.reverse]
  | current, first :: second :: rest =>
    if first.is '\r' && second.is '\n' then
      let line := if keepEnds then second :: first :: current else current
      line.reverse :: linesOf keepEnds [] rest
    else if first.isLineEnd then
      let line := if keepEnds then first :: current else current
      line.reverse :: linesOf keepEnds [] (second :: rest)
    else
      linesOf keepEnds (first :: current) (second :: rest)
  | current, [only] =>
    if only.isLineEnd then
      [(if keepEnds then only :: current else current).reverse]
    else
      [(only :: current).reverse]

/-- Tabulators filled up to the next stop. -/
def expandTabs (size : Nat) : (column : Nat) → Text → Text
  | _, [] => []
  | column, point :: rest =>
    if point.is '\t' then
      let count := if size == 0 then 0 else size - column % size
      List.replicate count (CodePoint.ofChar ' ') ++ expandTabs size (column + count) rest
    else if point.is '\n' || point.is '\r' then
      point :: expandTabs size 0 rest
    else
      point :: expandTabs size (column + 1) rest

/-- The parts before, at and after a separator. -/
def partitionMethod (fromEnd : Bool) : TextMethod := fun _ isSafe text given => do
  let arguments ← given.positionalOnly 1 1
  let separator ← textArgument (arguments.getD 0 .none)
  if separator.isEmpty then
    wrongValue
  let place :=
    if fromEnd then Stencil.Text.findLast? separator text else Stencil.Text.find? separator text
  let parts : List Text :=
    match place with
    | some place => [text.take place, separator, text.drop (place + separator.length)]
    | none => if fromEnd then [[], [], text] else [text, [], []]
  return .tuple (parts.map (sameKind isSafe))

/-- Zeros between the sign and the digits. -/
def zeroFilled (width : Nat) (text : Text) : Text :=
  let zeroes := List.replicate (width - text.length) (CodePoint.ofChar '0')
  match text with
  | first :: rest =>
    if first.is '+' || first.is '-' then first :: zeroes ++ rest else zeroes ++ text
  | [] => zeroes

/-- How text is stored as bytes. -/
inductive Encoding
  | utf8
  /-- One byte for each of the first characters, up to a limit. -/
  | narrow (limit : Nat)

/-- The encoding of a name. -/
def Encoding.ofName? (name : Text) : Option Encoding :=
  let name := Text.string ((Stencil.Text.lower name).filter fun point =>
    !(point.is '-' || point.is '_'))
  if ["utf8", "u8", "utf"].contains name then some .utf8
  else if ["646", "ascii", "usascii"].contains name then some (.narrow 0x80)
  else if ["8859", "cp819", "iso88591", "l1", "latin", "latin1"].contains name then
    some (.narrow 0x100)
  else none

/-- The parameters of storing and reading text. -/
def encodingParameters : List Parameter :=
  [optional "encoding" (Value.ofString "utf-8"), optional "errors" (Value.ofString "strict")]

/-- How text is stored that an encoding cannot hold. -/
def unencodable (errors : Text) (point : CodePoint) : Run (List UInt8) := do
  let ascii := fun (characters : List Char) => characters.map fun c => UInt8.ofNat c.toNat
  if errors == ("ignore" : Text) then return []
  else if errors == ("replace" : Text) then return ascii ['?']
  else if errors == ("xmlcharrefreplace" : Text) then
    return ascii (['&', '#'] ++ Number.decimalDigits point.number ++ [';'])
  else if errors == ("backslashreplace" : Text) then
    return (plainLiteral [point]).map fun point => UInt8.ofNat point.number
  else throw .unencodable

/-- What can be done about text that an encoding cannot hold. -/
def encodingRemedies : List String :=
  ["strict", "ignore", "replace", "xmlcharrefreplace", "backslashreplace"]

def encodeMethod : TextMethod := fun evaluator isSafe text given => do
  let arguments ← given.bind encodingParameters
  let encoding ← textArgument (arguments.getD 0 .none)
  let errors ← textArgument (arguments.getD 1 .none)
  if !encodingRemedies.contains errors.string then
    return ← evaluator.ask (sameKind isSafe text) ["encode"] given
  match Encoding.ofName? encoding with
  | none => evaluator.ask (sameKind isSafe text) ["encode"] given
  | some .utf8 =>
    let bytes ← text.mapM fun point =>
      match point.char? with
      | some character => return (Stencil.Text.encodeChars [character]).toList
      | none => unencodable errors point
    return .bytes bytes.flatten
  | some (.narrow limit) =>
    let bytes ← text.mapM fun point =>
      if point.number < limit then return [UInt8.ofNat point.number]
      else unencodable errors point
    return .bytes bytes.flatten

def joinMethod : TextMethod := fun evaluator isSafe text given => do
  let arguments ← given.positionalOnly 1 1
  let items ← members? evaluator (arguments.getD 0 .none)
  let parts ← items.mapM fun item =>
    if isSafe then escapeValue evaluator item else textArgument item
  return sameKind isSafe (Stencil.Text.joinWith text parts)

def replaceMethod : TextMethod := fun _ isSafe text given => do
  let arguments ← given.positionalOnly 2 3
  let old ← textArgument (arguments.getD 0 .none)
  let new ← insertedArgument isSafe (arguments.getD 1 .none)
  let limit ← integerArgument (arguments.getD 2 (.int (-1)))
  let limit := if limit < 0 then text.length + 1 else limit.toNat
  return sameKind isSafe (Stencil.Text.replaceUpTo limit old new text)

/-- Text without the passages between two marks, the end being looked for from the start on. -/
def withoutPassages (opening closing : Text) : (fuel : Nat) → Text → Text
  | 0, text => text
  | fuel + 1, text =>
    match Stencil.Text.find? opening text with
    | none => text
    | some start =>
      match Stencil.Text.find? closing (text.drop start) with
      | none => text
      | some length =>
        withoutPassages opening closing fuel
          (text.take start ++ text.drop (start + length + closing.length))

/-- Text with its character references replaced. -/
def unescapeMarkup (text : Text) : Text :=
  Stencil.Text.replaceReferences (text.length + 1) text

/-- What stands outside of comments and tags, with its blanks made single. -/
def stripTags (text : Text) : Text :=
  let fuel := text.length + 1
  let shown := withoutPassages "<" ">" fuel (withoutPassages "<!--" "-->" fuel text)
  unescapeMarkup (Stencil.Text.joinWith (Text.ofString " ") (words fuel fuel shown))

/-- The methods of texts, formatting apart. -/
def textMethods : List (String × TextMethod) :=
  [("capitalize", plainMethod Stencil.Text.capitalize),
    ("casefold", plainMethod Stencil.Text.caseFold),
    ("center", justifyMethod fun missing width =>
      missing / 2 + (if missing % 2 == 1 && width % 2 == 1 then 1 else 0)),
    ("count", searchMethod (fun needle _ part =>
      return .int (Stencil.Text.countOccurrences needle part)) (return .int 0)),
    ("encode", encodeMethod),
    ("endswith", affixMethod Stencil.Text.endsWith),
    ("expandtabs", fun _ isSafe text given => do
      let arguments ← given.bind [("tabsize", some (.int 8))]
      let size ← integerArgument (arguments.getD 0 .none)
      return sameKind isSafe (expandTabs size.toNat 0 text)),
    ("find", findMethod false (return .int (-1))),
    ("index", findMethod false wrongValue),
    ("isalnum", question (Text.allAre CodePoint.isLetterOrNumber)),
    ("isalpha", question (Text.allAre CodePoint.isLetter)),
    ("isascii", question fun text => text.all fun point => point.number < 0x80),
    ("isdecimal", question (Text.allAre CodePoint.isDecimal)),
    ("isdigit", question (Text.allAre CodePoint.isDigit)),
    ("isidentifier", question Text.isIdentifier),
    ("islower", question Text.isLower),
    ("isnumeric", question (Text.allAre CodePoint.isNumeric)),
    ("isprintable", question fun text => text.all CodePoint.isPrintable),
    ("isspace", question (Text.allAre CodePoint.isBlank)),
    ("istitle", question Text.isTitle),
    ("isupper", question Text.isUpper),
    ("join", joinMethod),
    ("ljust", justifyMethod fun _ _ => 0),
    ("lower", plainMethod Stencil.Text.lower),
    ("lstrip", stripMethod true false),
    ("partition", partitionMethod false),
    ("removeprefix", fun _ isSafe text given => do
      let arguments ← given.positionalOnly 1 1
      let affix ← textArgument (arguments.getD 0 .none)
      return sameKind isSafe ((Stencil.Text.afterStart? affix text).getD text)),
    ("removesuffix", fun _ isSafe text given => do
      let arguments ← given.positionalOnly 1 1
      let affix ← textArgument (arguments.getD 0 .none)
      let rest := Stencil.Text.afterStart? affix.reverse text.reverse
      return sameKind isSafe ((rest.map List.reverse).getD text)),
    ("replace", replaceMethod),
    ("rfind", findMethod true (return .int (-1))),
    ("rindex", findMethod true wrongValue),
    ("rjust", justifyMethod fun missing _ => missing),
    ("rpartition", partitionMethod true),
    ("rsplit", splitMethod true),
    ("rstrip", stripMethod false true),
    ("split", splitMethod false),
    ("splitlines", fun evaluator isSafe text given => do
      let arguments ← given.bind [("keepends", some (.bool false))]
      let keepEnds ← truth evaluator (arguments.getD 0 .none)
      newList ((linesOf keepEnds [] text).map (sameKind isSafe))),
    ("startswith", affixMethod Stencil.Text.startsWith),
    ("strip", stripMethod true true),
    ("swapcase", plainMethod Stencil.Text.swapCase),
    ("title", plainMethod Stencil.Text.title),
    ("upper", plainMethod Stencil.Text.upper),
    ("zfill", fun _ isSafe text given => do
      let arguments ← given.positionalOnly 1 1
      let width ← integerArgument (arguments.getD 0 .none)
      return sameKind isSafe (zeroFilled width.toNat text))]

/-- Further methods of texts: the ones that format and translate. -/
def furtherTextMethods : List String :=
  ["format", "format_map", "translate"]

/-- Further methods of safe texts. -/
def safeTextMethods : List (String × TextMethod) :=
  [("striptags", fun _ _ text given => do
      let _ ← given.positionalOnly 0 0
      return .text (stripTags text)),
    ("unescape", fun _ _ text given => do
      let _ ← given.positionalOnly 0 0
      return .text (unescapeMarkup text)),
    ("escape", fun evaluator _ _ given => do
      let arguments ← given.positionalOnly 1 1
      return .markup (← escapeValue evaluator (arguments.getD 0 .none)))]

end Stencil.Template

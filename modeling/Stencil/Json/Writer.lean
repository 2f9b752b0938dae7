import Stencil.Value.Display
import Stencil.Value.Order

/-!
# Writing JSON

Values as JSON in plain characters, the entries of mappings in order of their keys.
What JSON cannot express is refused, as are containers that hold themselves.
-/

namespace Stencil.Json

/-- A unit of an escaped character. -/
def escapedUnit (number : Nat) : List Char :=
  '\\' :: 'u' :: Text.hexDigits 4 number

/-- A character within quotes. -/
def quotedCharacter (point : CodePoint) : List Char :=
  let number := point.number
  if point.is '"' then ['\\', '"']
  else if point.is '\\' then ['\\', '\\']
  else if point.is '\n' then ['\\', 'n']
  else if point.is '\r' then ['\\', 'r']
  else if point.is '\t' then ['\\', 't']
  else if number == 8 then ['\\', 'b']
  else if number == 12 then ['\\', 'f']
  else if 0x20 ≤ number && number < 0x7F then [point.shown]
  else if number < 0x10000 then escapedUnit number
  else
    let rest := number - 0x10000
    escapedUnit (0xD800 + rest / 0x400) ++ escapedUnit (0xDC00 + rest % 0x400)

/-- A text as JSON. -/
def quotedText (content : Text) : List Char :=
  '"' :: content.flatMap quotedCharacter ++ ['"']

/-- A float as JSON, with names for what is no finite number. -/
def floatText (amount : Float) : List Char :=
  match Number.formOf amount with
  | .finite _ => Number.floatText amount
  | .infinite negative => (if negative then ['-'] else []) ++ "Infinity".toList
  | .notANumber => "NaN".toList

def integerText (integer : Int) : Except Fault (List Char) := do
  return (← Value.integerDisplay integer).shown

/-- The text of a key. -/
def keyText (key : Value) : Except Fault Text :=
  match key with
  | .none => .ok "null"
  | .bool flag => .ok (if flag then "true" else "false")
  | .int integer => Value.integerDisplay integer
  | .float amount => .ok (Text.ofChars (floatText amount))
  | key =>
    match key.text? with
    | some content => .ok content
    | none => .error .wrongType

/-- How members are set apart: all on one line, or each on its own, indented by a text. -/
abbrev Indentation := Option (List Char)

/-- The start of a line at a depth. -/
def lineStart (indentation : List Char) (depth : Nat) : List Char :=
  '\n' :: (List.replicate depth indentation).flatten

/-- Members between two marks. -/
def enclosed
    (indentation : Indentation)
    (depth : Nat)
    (opening closing : Char)
    (members : List (List Char)) : List Char :=
  if members.isEmpty then [opening, closing]
  else
    match indentation with
    | none => opening :: List.intercalate [',', ' '] members ++ [closing]
    | some indentation =>
      opening :: lineStart indentation (depth + 1) ++
        List.intercalate (',' :: lineStart indentation (depth + 1)) members ++
        lineStart indentation depth ++ [closing]

/-- A value as JSON; the containers around it are known. -/
def writeWithin
    (heap : Heap)
    (indentation : Indentation) :
    (fuel : Nat) → (around : List Ref) → Value → Except Fault (List Char)
  | 0, _, _ => .error .tooDeep
  | fuel + 1, around, value =>
    let sequence := fun (around : List Ref) (items : List Value) => do
      let items ← items.mapM (writeWithin heap indentation fuel around)
      return enclosed indentation (nestingLimit - fuel - 1) '[' ']' items
    match value with
    | .none => .ok "null".toList
    | .bool flag => .ok (if flag then "true" else "false").toList
    | .int integer => integerText integer
    | .float amount => .ok (floatText amount)
    | .text content => .ok (quotedText content)
    | .markup content => .ok (quotedText content)
    | .tuple items => sequence around items
    | .group key members => sequence around [key, .list members]
    | .list ref =>
      if around.contains ref then .error .wrongValue
      else sequence (ref :: around) (heap.items ref)
    | .dict ref =>
      if around.contains ref then .error .wrongValue
      else do
        let less := fun left right => Value.relate heap .less left right
        let entries ← Value.sortBy less (fun (key, value) => .tuple [key, value])
          (heap.entries ref)
        let entries ← entries.mapM fun (key, value) => do
          let key ← keyText key
          let value ← writeWithin heap indentation fuel (ref :: around) value
          return quotedText key ++ [':', ' '] ++ value
        return enclosed indentation (nestingLimit - fuel - 1) '\x7b' '\x7d' entries
    | _ => .error .wrongType

/-- A value as JSON. -/
def write (heap : Heap) (indentation : Indentation) (value : Value) :
    Except Fault (List Char) :=
  writeWithin heap indentation nestingLimit [] value

end Stencil.Json

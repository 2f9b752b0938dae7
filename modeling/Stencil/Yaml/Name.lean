import Stencil.Number.Numeral
import Stencil.Text.Utf8
import Stencil.Yaml.Cursor
import Stencil.Yaml.Token

/-!
# Names in YAML documents

Directives, anchors and tags.  A tag is written as a handle and what follows it, where
bytes may be given in hexadecimal digits.
-/

namespace Stencil.Yaml

/-- Read a whole number. -/
def scanNumber (cursor : Cursor) : Except Fault (Int × Cursor) :=
  let (digits, cursor) := cursor.takeWhile Char.isDigit
  if digits.isEmpty then badToken
  else
    match Number.readInteger 10 (Text.ofChars digits) with
    | .ok number => .ok (number, cursor)
    | .error _ => .error .wrongValue

/-- Characters of tags besides letters and digits. -/
def tagMarks : List Char :=
  ['-', ';', '/', '?', ':', '@', '&', '=', '+', '$', ',', '_', '.', '!', '~', '*', '\'', '(',
    ')', '[', ']']

def isTagCharacter (character : Char) : Bool :=
  character.isAlphanum || tagMarks.contains character

def isHexDigit (character : Char) : Bool :=
  character.toNat < 0x80 && (Number.digitValue? 16 character).isSome

/-- The number that hexadecimal digits stand for. -/
def hexNumber (digits : List Char) : Nat :=
  Number.ofDigits 16 (digits.filterMap (Number.digitValue? 16))

/-- Read bytes that are given in hexadecimal digits, each after a per cent sign. -/
def scanTagBytes : (fuel : Nat) → Cursor → Except Fault (List UInt8 × Cursor)
  | 0, _ => badToken
  | fuel + 1, cursor =>
    match cursor.rest with
    | '%' :: high :: low :: _ =>
      if isHexDigit high && isHexDigit low then do
        let (bytes, cursor) ← scanTagBytes fuel (cursor.forward 3)
        return (UInt8.ofNat (hexNumber [high, low]) :: bytes, cursor)
      else
        badToken
    | '%' :: _ => badToken
    | _ => .ok ([], cursor)

/-- Read the parts of a tag. -/
def scanTagParts : (fuel : Nat) → Cursor → Except Fault (List Char × Cursor)
  | 0, _ => badToken
  | fuel + 1, cursor => do
    let (plain, cursor) := cursor.takeWhile isTagCharacter
    if cursor.isAt '%' then
      let (bytes, cursor) ← scanTagBytes fuel cursor
      match Text.decode? ⟨bytes.toArray⟩ with
      | none => badToken
      | some characters =>
        let (more, cursor) ← scanTagParts fuel cursor
        return (plain ++ characters ++ more, cursor)
    else
      return (plain, cursor)

/-- Read what follows the handle of a tag. -/
def scanTagSuffix (cursor : Cursor) : Except Fault (String × Cursor) := do
  if !(cursor.head?.any fun character => isTagCharacter character || character == '%') then
    badToken
  let (characters, cursor) ← scanTagParts (cursor.rest.length + 1) cursor
  return (String.ofList characters, cursor)

/-- Read the handle of a tag. -/
def scanTagHandle (cursor : Cursor) : Except Fault (String × Cursor) :=
  match cursor.rest with
  | '!' :: ' ' :: _ => .ok ("!", cursor.next)
  | '!' :: rest =>
    let name := rest.takeWhile isNameCharacter
    if (rest.drop name.length).head? == some '!' then
      .ok (String.ofList ('!' :: name ++ ['!']), cursor.forward (name.length + 2))
    else
      badToken
  | _ => badToken

/-- Read a tag. -/
def scanTag (cursor : Cursor) : Except Fault (Token × Cursor) := do
  let (token, cursor) ← scan
  if endsWord cursor.head? then return (token, cursor) else badToken
where
  scan : Except Fault (Token × Cursor) := do
    if cursor.peek? 1 == some '<' then
      let (suffix, cursor) ← scanTagSuffix (cursor.forward 2)
      if cursor.isAt '>' then return (.tag none suffix, cursor.next) else badToken
    else if endsToken (cursor.peek? 1) then
      return (.tag none "!", cursor.next)
    else
      let word := cursor.next.rest.takeWhile fun character => !endsWord (some character)
      if word.contains '!' then
        let (handle, cursor) ← scanTagHandle cursor
        let (suffix, cursor) ← scanTagSuffix cursor
        return (.tag (some handle) suffix, cursor)
      else
        let (suffix, cursor) ← scanTagSuffix cursor.next
        return (.tag (some "!") suffix, cursor)

/-- Characters that may follow an anchor besides the ends of words. -/
def anchorEnds : List Char :=
  ['?', ':', ',', ']', '\x7d', '%', '@', Char.ofNat 0x60]

/-- Read the name of an anchor after its mark. -/
def scanAnchorName (cursor : Cursor) : Except Fault (String × Cursor) := do
  let (name, cursor) := cursor.next.takeWhile isNameCharacter
  if name.isEmpty then badToken
  if endsToken cursor.head? || cursor.head?.any anchorEnds.contains then
    return (String.ofList name, cursor)
  else
    badToken

/-- Read the version that a directive asks for. -/
def scanVersion (cursor : Cursor) : Except Fault (Directive × Cursor) := do
  let (major, cursor) ← scanNumber (cursor.skipWhile isSpace)
  if !cursor.isAt '.' then badToken
  let (minor, cursor) ← scanNumber cursor.next
  if endsWord cursor.head? then return (.version major minor, cursor) else badToken

/-- Read the handle that a directive defines. -/
def scanHandleDefinition (cursor : Cursor) : Except Fault (Directive × Cursor) := do
  let (handle, cursor) ← scanTagHandle (cursor.skipWhile isSpace)
  if !cursor.isAt ' ' then badToken
  let (start, cursor) ← scanTagSuffix (cursor.skipWhile isSpace)
  if endsWord cursor.head? then return (.tagHandle handle start, cursor) else badToken

/-- Read a directive up to the end of its line. -/
def scanDirective (cursor : Cursor) : Except Fault (Token × Cursor) := do
  let (name, cursor) := cursor.next.takeWhile isNameCharacter
  if name.isEmpty || !endsWord cursor.head? then badToken
  let (directive, cursor) ←
    match String.ofList name with
    | "YAML" => scanVersion cursor
    | "TAG" => scanHandleDefinition cursor
    | _ => .ok (.reserved, cursor.skipWhile fun character => !isBreak character)
  return (.directive directive, ← cursor.endLine)

end Stencil.Yaml

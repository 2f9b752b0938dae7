import Stencil.Yaml.Tag
import Stencil.Yaml.TokenQueue

/-!
# Events of YAML documents

Events tell the structure of documents: where lists and mappings start and end, and
which scalars and references stand in them.  Scalars that are left out are empty.

Each event is found from a stage and the next tokens.  What is to be done after a node
waits on a stack of stages.
-/

namespace Stencil.Yaml

/-- The mark of a node by which others refer to it, and its tag if one is given. -/
structure Properties where
  anchor : Option String := none
  tag : Option Tag := none

inductive Event
  | streamStart
  | streamEnd
  | documentStart
  | documentEnd
  | alias (name : String)
  /-- A scalar; one without a tag is what it looks like. -/
  | scalar (properties : Properties) (content : Text)
  | sequenceStart (properties : Properties)
  | sequenceEnd
  | mappingStart (properties : Properties)
  | mappingEnd

/-- Events up to the end of a stream or its first fault. -/
structure Events where
  items : List Event
  fault : Option Fault

/-- What is to be found next. -/
inductive Stage
  | stream
  | firstDocument
  | document
  | documentContent
  | documentEnd
  | blockNode
  | sequenceFirst
  | sequenceEntry
  | indentlessEntry
  | mappingFirst
  | mappingKey
  | mappingValue
  | flowSequenceFirst
  | flowSequenceEntry
  | flowPairKey
  | flowPairValue
  | flowPairEnd
  | flowMappingFirst
  | flowMappingKey
  | flowMappingValue
  | flowMappingNoValue
  | finished
deriving DecidableEq

/-- Where a stream is being read. -/
structure EventReader where
  tokens : Tokens
  stage : Stage := .stream
  stack : List Stage := []
  /-- What the handles of tags stand for. -/
  handles : List (String × String) := []

namespace EventReader

abbrev Step := Except Fault (Event × EventReader)

/-- A fault of the structure that tokens make up. -/
def misplaced {α : Type} : Except Fault α :=
  .error (.document .structure_)

/-- The next token. -/
def peek (reader : EventReader) : Except Fault Token :=
  match reader.tokens.items, reader.tokens.fault with
  | token :: _, _ => .ok token
  | [], some fault => .error fault
  | [], none => misplaced

/-- Go past a token. -/
def next (reader : EventReader) : EventReader :=
  { reader with tokens := { reader.tokens with items := reader.tokens.items.tail } }

def goTo (reader : EventReader) (stage : Stage) : EventReader :=
  { reader with stage }

/-- Put off a stage until a node is complete. -/
def putOff (reader : EventReader) (stage : Stage) : EventReader :=
  { reader with stack := stage :: reader.stack }

/-- Take up the stage that was put off last. -/
def takeUp (reader : EventReader) : EventReader :=
  { reader with
    stage := reader.stack.head?.getD .finished
    stack := reader.stack.tail }

/-- A scalar that is left out. -/
def omitted : Event := .scalar {} []

/-- What the handles of tags stand for unless a document says otherwise. -/
def standardHandles : List (String × String) :=
  [("!", "!"), ("!!", Tag.standardStart)]

/-- The full name of a tag. -/
def fullName (reader : EventReader) (handle : Option String) (suffix : String) :
    Except Fault String :=
  match handle with
  | none => .ok suffix
  | some handle =>
    match reader.handles.lookup handle with
    | some start => .ok (start ++ suffix)
    | none => misplaced

/-- An anchor and the name of a tag, in either order. -/
def readProperties (reader : EventReader) :
    Except Fault (Option String × Option String × EventReader) := do
  match ← reader.peek with
  | .anchor name =>
    let reader := reader.next
    match ← reader.peek with
    | .tag handle suffix =>
      return (some name, some (← reader.fullName handle suffix), reader.next)
    | _ => return (some name, none, reader)
  | .tag handle suffix =>
    let after := reader.next
    match ← after.peek with
    | .anchor name => return (some name, some (← reader.fullName handle suffix), after.next)
    | _ => return (none, some (← reader.fullName handle suffix), after)
  | _ => return (none, none, reader)

/-- A lone exclamation mark is no tag of its own. -/
def properTag (name : Option String) : Option Tag :=
  match name with
  | some "!" => none
  | name => name.map Tag.ofName

/-- The tag of a scalar: quoted ones are texts unless a tag says otherwise. -/
def scalarTag (name : Option String) (isPlain : Bool) : Option Tag :=
  if name.isNone && !isPlain then some .text else properTag name

/-- Find a node. -/
def node (isBlock isIndentless : Bool) (reader : EventReader) : Step := do
  match ← reader.peek with
  | .alias name => return (.alias name, reader.next.takeUp)
  | _ =>
    let (anchor, tagName, reader) ← reader.readProperties
    let properties := { anchor, tag := properTag tagName }
    match ← reader.peek with
    | .scalar content isPlain =>
      return (.scalar { anchor, tag := scalarTag tagName isPlain } content, reader.next.takeUp)
    | .flowSequenceStart => return (.sequenceStart properties, reader.goTo .flowSequenceFirst)
    | .flowMappingStart => return (.mappingStart properties, reader.goTo .flowMappingFirst)
    | token =>
      if isIndentless && token == .blockEntry then
        return (.sequenceStart properties, reader.goTo .indentlessEntry)
      else if isBlock && token == .blockSequenceStart then
        return (.sequenceStart properties, reader.goTo .sequenceFirst)
      else if isBlock && token == .blockMappingStart then
        return (.mappingStart properties, reader.goTo .mappingFirst)
      else if anchor.isSome || tagName.isSome then
        return (.scalar properties [], reader.takeUp)
      else
        misplaced

/-- Find a node, unless one of some tokens shows that it is left out. -/
def nodeUnless
    (reader : EventReader)
    (stops : List Token)
    (after : Stage)
    (find : EventReader → Step) : Step := do
  if stops.contains (← reader.peek) then
    return (omitted, reader.goTo after)
  else
    find (reader.putOff after)

/-- Go past the marks that end documents. -/
def skipEndMarks (tokens : List Token) : List Token :=
  tokens.dropWhile (· == .documentEnd)

/-- Take note of directives; each may be given once. -/
def readDirectives :
    (hasVersion : Bool) → List (String × String) → List Token →
    Except Fault (List (String × String) × List Token)
  | hasVersion, handles, .directive directive :: tokens =>
    match directive with
    | .version major _ =>
      if hasVersion || major != 1 then misplaced else readDirectives true handles tokens
    | .tagHandle handle start =>
      if (handles.lookup handle).isSome then misplaced
      else readDirectives hasVersion ((handle, start) :: handles) tokens
    | .reserved => readDirectives hasVersion handles tokens
  | _, handles, tokens => .ok (handles ++ standardHandles, tokens)

/-- Find the start of a document that is announced, or the end of the stream. -/
def announcedDocument (reader : EventReader) : Step := do
  let items := skipEndMarks reader.tokens.items
  let reader := { reader with tokens := { reader.tokens with items } }
  match ← reader.peek with
  | .streamEnd => return (.streamEnd, reader.next.goTo .finished)
  | _ =>
    let (handles, items) ← readDirectives false [] reader.tokens.items
    let reader := { reader with handles, tokens := { reader.tokens with items } }
    match ← reader.peek with
    | .documentStart =>
      return (.documentStart, (reader.next.putOff .documentEnd).goTo .documentContent)
    | _ => misplaced

def firstDocument (reader : EventReader) : Step := do
  match ← reader.peek with
  | .directive _ => reader.announcedDocument
  | .documentStart => reader.announcedDocument
  | .streamEnd => reader.announcedDocument
  | _ =>
    let reader := { reader with handles := standardHandles }
    return (.documentStart, (reader.putOff .documentEnd).goTo .blockNode)

def documentContent (reader : EventReader) : Step := do
  match ← reader.peek with
  | .directive _ => return (omitted, reader.takeUp)
  | .documentStart => return (omitted, reader.takeUp)
  | .documentEnd => return (omitted, reader.takeUp)
  | .streamEnd => return (omitted, reader.takeUp)
  | _ => reader.node true false

def documentEnd (reader : EventReader) : Step := do
  match ← reader.peek with
  | .documentEnd => return (.documentEnd, reader.next.goTo .document)
  | _ => return (.documentEnd, reader.goTo .document)

/-- Find an entry of a list in a block, or its end. -/
def sequenceEntry (reader : EventReader) : Step := do
  match ← reader.peek with
  | .blockEntry =>
    reader.next.nodeUnless [.blockEntry, .blockEnd] .sequenceEntry (node true false)
  | .blockEnd => return (.sequenceEnd, reader.next.takeUp)
  | _ => misplaced

/-- Find an entry of a list that is indented like the key before it. -/
def indentlessEntry (reader : EventReader) : Step := do
  match ← reader.peek with
  | .blockEntry =>
    reader.next.nodeUnless [.blockEntry, .key, .value, .blockEnd] .indentlessEntry
      (node true false)
  | _ => return (.sequenceEnd, reader.takeUp)

/-- Find a key of a mapping in a block, or its end. -/
def mappingKey (reader : EventReader) : Step := do
  match ← reader.peek with
  | .key => reader.next.nodeUnless [.key, .value, .blockEnd] .mappingValue (node true true)
  | .blockEnd => return (.mappingEnd, reader.next.takeUp)
  | _ => misplaced

def mappingValue (reader : EventReader) : Step := do
  match ← reader.peek with
  | .value => reader.next.nodeUnless [.key, .value, .blockEnd] .mappingKey (node true true)
  | _ => return (omitted, reader.goTo .mappingKey)

/-- Go past the comma before all entries but the first. -/
def skipComma (isFirst : Bool) (reader : EventReader) : Except Fault EventReader := do
  if isFirst then return reader
  match ← reader.peek with
  | .flowEntry => return reader.next
  | _ => misplaced

/-- Find an entry of a list in brackets, or its end. -/
def flowSequenceEntry (isFirst : Bool) (reader : EventReader) : Step := do
  match ← reader.peek with
  | .flowSequenceEnd => return (.sequenceEnd, reader.next.takeUp)
  | _ =>
    let reader ← reader.skipComma isFirst
    match ← reader.peek with
    | .key => return (.mappingStart {}, reader.goTo .flowPairKey)
    | .flowSequenceEnd => return (.sequenceEnd, reader.next.takeUp)
    | _ => (reader.putOff .flowSequenceEntry).node false false

def flowPairValue (reader : EventReader) : Step := do
  match ← reader.peek with
  | .value =>
    reader.next.nodeUnless [.flowEntry, .flowSequenceEnd] .flowPairEnd (node false false)
  | _ => return (omitted, reader.goTo .flowPairEnd)

/-- Find a key of a mapping in brackets, or its end. -/
def flowMappingKey (isFirst : Bool) (reader : EventReader) : Step := do
  match ← reader.peek with
  | .flowMappingEnd => return (.mappingEnd, reader.next.takeUp)
  | _ =>
    let reader ← reader.skipComma isFirst
    match ← reader.peek with
    | .key =>
      reader.next.nodeUnless [.value, .flowEntry, .flowMappingEnd] .flowMappingValue
        (node false false)
    | .flowMappingEnd => return (.mappingEnd, reader.next.takeUp)
    | _ => (reader.putOff .flowMappingNoValue).node false false

def flowMappingValue (reader : EventReader) : Step := do
  match ← reader.peek with
  | .value =>
    reader.next.nodeUnless [.flowEntry, .flowMappingEnd] .flowMappingKey (node false false)
  | _ => return (omitted, reader.goTo .flowMappingKey)

/-- Find the next event. -/
def step (reader : EventReader) : Step :=
  match reader.stage with
  | .stream => do
    let _ ← reader.peek
    return (.streamStart, reader.next.goTo .firstDocument)
  | .firstDocument => reader.firstDocument
  | .document => reader.announcedDocument
  | .documentContent => reader.documentContent
  | .documentEnd => reader.documentEnd
  | .blockNode => reader.node true false
  | .sequenceFirst => reader.next.sequenceEntry
  | .sequenceEntry => reader.sequenceEntry
  | .indentlessEntry => reader.indentlessEntry
  | .mappingFirst => reader.next.mappingKey
  | .mappingKey => reader.mappingKey
  | .mappingValue => reader.mappingValue
  | .flowSequenceFirst => reader.next.flowSequenceEntry true
  | .flowSequenceEntry => reader.flowSequenceEntry false
  | .flowPairKey =>
    reader.next.nodeUnless [.value, .flowEntry, .flowSequenceEnd] .flowPairValue
      (node false false)
  | .flowPairValue => reader.flowPairValue
  | .flowPairEnd => do
    let _ ← reader.peek
    return (.mappingEnd, reader.goTo .flowSequenceEntry)
  | .flowMappingFirst => reader.next.flowMappingKey true
  | .flowMappingKey => reader.flowMappingKey false
  | .flowMappingValue => reader.flowMappingValue
  | .flowMappingNoValue => do
    let _ ← reader.peek
    return (omitted, reader.goTo .flowMappingKey)
  | .finished => misplaced

/-- Find all events; those that were found are at hand, latest first. -/
def run : (fuel : Nat) → List Event → EventReader → Events
  | 0, before, _ => ⟨before.reverse, none⟩
  | fuel + 1, before, reader =>
    if reader.stage == .finished then ⟨before.reverse, none⟩
    else
      match reader.step with
      | .error fault => ⟨before.reverse, some fault⟩
      | .ok (event, reader) => run fuel (event :: before) reader

end EventReader

/-- The events that tokens tell. -/
def Events.ofTokens (tokens : Tokens) : Events :=
  EventReader.run (4 * tokens.items.length + 16) [] { tokens }

end Stencil.Yaml

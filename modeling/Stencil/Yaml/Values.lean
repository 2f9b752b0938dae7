import Stencil.Number.Exact
import Stencil.Text.Base64
import Stencil.Text.Case
import Stencil.Value.Equality
import Stencil.Yaml.Node

/-!
# Values of YAML documents

A node becomes a value according to its tag.  Lists, mappings and sets are made empty
and filled in the order in which they were met, so a node may refer to itself.
-/

namespace Stencil.Yaml

/-- The values that have been made from the nodes of a document. -/
structure Construction where
  nodes : Array Node
  heap : Heap
  values : List (Nat × Value) := []
  /-- Containers that are still to be filled, in order. -/
  unfilled : List (Nat × Ref) := []

/-- A part of the making of values. -/
abbrev Make := EStateM Fault Construction

/-- A fault of what the nodes of a document stand for. -/
def meaningless {α : Type} : Make α :=
  throw (.document .values)

namespace Make

def node (place : Nat) : Make Node := do
  return (← get).nodes.getD place ⟨.foreign, .scalar []⟩

def content (place : Nat) : Make NodeContent := do
  return (← node place).content

/-- The pairs of a node that is a mapping. -/
def pairs (place : Nat) : Make (List (Nat × Nat)) := do
  match ← content place with
  | .mapping pairs => return pairs
  | _ => meaningless

def setNode (place : Nat) (change : Node → Node) : Make Unit :=
  modify fun construction =>
    { construction with nodes := construction.nodes.modify place change }

def setPairs (place : Nat) (pairs : List (Nat × Nat)) : Make Unit :=
  setNode place fun node => { node with content := .mapping pairs }

def setCell (ref : Ref) (cell : Cell) : Make Unit :=
  modify fun construction => { construction with heap := construction.heap.set ref cell }

/-- The text of a scalar; the default value of a mapping stands for it. -/
def scalarText : (fuel : Nat) → (place : Nat) → Make Text
  | 0, _ => throw .tooDeep
  | fuel + 1, place => do
    match ← content place with
    | .scalar content => return content
    | .sequence _ => meaningless
    | .mapping pairs =>
      match ← pairs.findM? fun (key, _) => return (← node key).tag == .default with
      | some (_, value) => scalarText fuel value
      | none => meaningless

def scalar (place : Nat) : Make Text := do
  scalarText ((← get).nodes.size + 1) place

/-- Text without low lines. -/
def withoutLines (content : Text) : Text :=
  content.filter fun point => !point.is '_'

/-- A sign at the start of a text, and the rest; there has to be a character. -/
def signed (content : Text) : Except Fault (Bool × Text) :=
  match content with
  | [] => .error .outOfRange
  | first :: rest =>
    if first.is '-' then .ok (true, rest)
    else if first.is '+' then .ok (false, rest)
    else .ok (false, content)

def readWhole (base : Nat) (content : Text) : Except Fault Int :=
  match Number.readInteger base content with
  | .ok number => .ok number
  | .error _ => .error .wrongValue

def readReal (content : Text) : Except Fault Float :=
  match Number.readFloat? content with
  | some number => .ok number
  | none => .error .wrongValue

/-- The parts of a text between colons. -/
def colonParts (content : Text) : List Text :=
  Text.pieces (CodePoint.ofChar ':') content

/-- A number without sign; parts between colons are sixtieths of the parts before them. -/
def unsignedInteger (content : Text) : Except Fault Int :=
  let start := content.take 2
  if content == "0" then .ok 0
  else if start == "0b" then readWhole 2 (content.drop 2)
  else if start == "0x" then readWhole 16 (content.drop 2)
  else
    match content with
    | [] => .error .outOfRange
    | first :: _ =>
      if first.is '0' then readWhole 8 content
      else do
        let parts ← (colonParts content).mapM (readWhole 10)
        return parts.foldl (fun number part => number * 60 + part) 0

/-- The whole number that a text stands for. -/
def integerOf (content : Text) : Except Fault Int := do
  let (isNegative, content) ← signed (withoutLines content)
  let number ← unsignedInteger content
  return if isNegative then -number else number

/-- The sum of numbers, latest first, each worth sixty times the one before. -/
def sumOfSixtieths : (worth : Nat) → (sum : Float) → List Float → Except Fault Float
  | _, sum, [] => .ok sum
  | worth, sum, number :: rest =>
    match Number.floatOfInt? worth with
    | some factor => sumOfSixtieths (worth * 60) (sum + number * factor) rest
    | none => .error .overflow

/-- The real number that a text stands for. -/
def realOf (content : Text) : Except Fault Float := do
  let (isNegative, content) ← signed (Text.lower (withoutLines content))
  let sign : Float := if isNegative then -1 else 1
  if content == ".inf" then return sign * Number.infinity false
  if content == ".nan" then return Number.notANumber
  match colonParts content with
  | [part] => return sign * (← readReal part)
  | parts =>
    let numbers ← parts.mapM readReal
    return sign * (← sumOfSixtieths 1 0 numbers.reverse)

/-- The flag that a word stands for. -/
def flagOf (content : Text) : Except Fault Bool :=
  match (Text.lower content).string with
  | "yes" => .ok true
  | "no" => .ok false
  | "true" => .ok true
  | "false" => .ok false
  | "on" => .ok true
  | "off" => .ok false
  | _ => .error .missingKey

/-- The bytes that a text stands for. -/
def bytesOf (content : Text) : Except Fault (List UInt8) :=
  let decoded :=
    if content.all fun point => point.number < 0x80 then
      Text.Base64.decode? (content.map fun point => UInt8.ofNat point.number)
    else
      none
  match decoded with
  | some bytes => .ok bytes
  | none => .error (.document .values)

/-- The date or moment that a node stands for. -/
def moment (place : Nat) : Make Value := do
  let _ ← scalar place
  match ← content place with
  | .scalar content =>
    match Timestamp.ofChars? content.shown with
    | none => throw .missingAttribute
    | some timestamp =>
      match timestamp.value with
      | .ok (date, none) => return .date date
      | .ok (_, some moment) => return .moment moment
      | .error fault => throw fault
  | _ => throw .wrongType

/-- A new container that is to be filled later. -/
def newContainer (place : Nat) (cell : Cell) : Make Ref := do
  let construction ← get
  let (ref, heap) := construction.heap.allocate cell
  set { construction with heap, unfilled := construction.unfilled ++ [(place, ref)] }
  return ref

/-- A result, or a fault in its place. -/
def lift {α : Type} : Except Fault α → Make α
  | .ok result => pure result
  | .error fault => throw fault

/-- Make the value of a node for which there is none yet. -/
def newValue (place : Nat) : Make Value := do
  match (← node place).tag with
  | .nothing =>
    let _ ← scalar place
    return .none
  | .flag => return .bool (← lift (flagOf (← scalar place)))
  | .integer => return .int (← lift (integerOf (← scalar place)))
  | .real => return .float (← lift (realOf (← scalar place)))
  | .binary => return .bytes (← lift (bytesOf (← scalar place)))
  | .timestamp => moment place
  | .text => return .text (← scalar place)
  | .orderedEntries => return .list (← newContainer place (.list []))
  | .pairs => return .list (← newContainer place (.list []))
  | .list => return .list (← newContainer place (.list []))
  | .set => return .set (← newContainer place (.set []))
  | .table => return .dict (← newContainer place (.dict []))
  | .merge => meaningless
  | .default => meaningless
  | .foreign => meaningless

/-- The value of a node. -/
def value (place : Nat) : Make Value := do
  match (← get).values.lookup place with
  | some value => return value
  | none =>
    let value ← newValue place
    modify fun construction =>
      { construction with values := (place, value) :: construction.values }
    return value

/-- Whether a pair is to be replaced by the pairs of its value. -/
def isMerge (nodes : Array Node) (pair : Nat × Nat) : Bool :=
  (nodes[pair.1]?.map Node.tag) == some .merge

/-- Put the pairs of merged mappings before the other pairs of a mapping. -/
def flatten : (fuel : Nat) → (place : Nat) → (merged : List (Nat × Nat)) → Make Unit
  | 0, _, _ => throw .tooDeep
  | fuel + 1, place, merged => do
    let own ← pairs place
    let nodes := (← get).nodes
    match own.find? (isMerge nodes) with
    | none =>
      for (key, _) in own do
        setNode key fun node =>
          if node.tag == .default then { node with tag := .text } else node
      setPairs place (merged ++ own)
    | some (_, source) =>
      setPairs place (own.eraseP (isMerge nodes))
      let more ← match ← content source with
        | .mapping _ => do
          flatten fuel source []
          pairs source
        | .sequence items => do
          let parts ← items.mapM fun item => do
            let _ ← pairs item
            flatten fuel item []
            pairs item
          pure parts.reverse.flatten
        | .scalar _ => meaningless
      flatten fuel place (merged ++ more)

/-- The number of pairs in all mappings. -/
def countPairs (nodes : Array Node) : Nat :=
  nodes.foldl (fun count node =>
    match node.content with
    | .mapping pairs => count + pairs.length
    | _ => count) 0

/-- Make the values of pairs; a later pair changes the value of a known key. -/
def makeEntries (known : List (Value × Value)) :
    List (Nat × Nat) → Make (List (Value × Value))
  | [] => return known
  | (keyPlace, valuePlace) :: rest => do
    let key ← value keyPlace
    if (Value.checkKey key).toBool then
      let entry ← value valuePlace
      makeEntries (← lift ((← get).heap.insert known key entry)) rest
    else
      meaningless

/-- The entries of a node that is a mapping. -/
def entries (place : Nat) : Make (List (Value × Value)) := do
  let _ ← pairs place
  flatten (countPairs (← get).nodes + 1) place []
  makeEntries [] (← pairs place)

/-- The items of a node that is a list. -/
def items (place : Nat) : Make (List Nat) := do
  match ← content place with
  | .sequence items => return items
  | _ => meaningless

/-- The pair of values of a mapping that has a single pair. -/
def singleEntry (place : Nat) : Make Value := do
  match ← pairs place with
  | [(key, entry)] => return .tuple [← value key, ← value entry]
  | _ => meaningless

/-- Fill a container. -/
def fill (place : Nat) (ref : Ref) : Make Unit := do
  match (← node place).tag with
  | .list => setCell ref (.list (← (← items place).mapM value))
  | .table => setCell ref (.dict (← entries place))
  | .set => setCell ref (.set ((← entries place).map Prod.fst))
  | _ => setCell ref (.list (← (← items place).mapM singleEntry))

/-- Fill containers until none is left. -/
def fillAll : (fuel : Nat) → Make Unit
  | 0 => return ()
  | fuel + 1 => do
    let construction ← get
    match construction.unfilled with
    | [] => return ()
    | (place, ref) :: unfilled =>
      set { construction with unfilled }
      fill place ref
      fillAll fuel

end Make

/-- The value of a document, its containers stored on a heap. -/
def Document.value (heap : Heap) (document : Document) : Except Fault (Value × Heap) :=
  let make : Make Value := do
    let value ← Make.value document.root
    Make.fillAll (document.nodes.size + 1)
    return value
  match make.run { nodes := document.nodes, heap } with
  | .ok value construction => .ok (value, construction.heap)
  | .error fault _ => .error fault

/-- Whether a character may stand in documents. -/
def isAllowed (character : Char) : Bool :=
  character == '\t' || character == '\n' || character == '\r' || character == '\x85' ||
    (' ' ≤ character && character ≤ '~') ||
    (0xA0 ≤ character.toNat && character.toNat ≠ 0xFFFE && character.toNat ≠ 0xFFFF)

/-- The value that the characters of a stream stand for; an empty stream holds nothing. -/
def read (heap : Heap) (characters : List Char) : Except Fault (Value × Heap) := do
  if !characters.all isAllowed then throw (.document .characters)
  match ← Document.ofEvents (Events.ofTokens (Tokens.ofChars characters)) with
  | none => return (.none, heap)
  | some document => document.value heap

end Stencil.Yaml

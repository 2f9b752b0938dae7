import Stencil.Number.Layout
import Stencil.Number.Numeral
import Stencil.Text.Quoted
import Stencil.Value.Equality

/-!
# Values as text

A value is shown plainly, or as a literal inside of a container.  A container that
holds itself is shown as an ellipsis at the inner place.
-/

namespace Stencil.Value

/-- How the objects of running templates are shown: plainly and as literals. -/
structure ObjectDisplay where
  plain : Nat → Except Fault Text
  literal : Nat → Except Fault Text

/-- Without running templates there are no objects. -/
def ObjectDisplay.none : ObjectDisplay :=
  ⟨fun _ => .ok [], fun _ => .ok []⟩

/-- Texts between commas. -/
def commaJoined : List Text → Text
  | [] => []
  | [last] => last
  | first :: rest => first ++ ("," : Text) ++ (" " : Text) ++ commaJoined rest

/-- An integer in decimal, unless it is too long. -/
def integerDisplay (integer : Int) : Except Fault Text :=
  let digits := Number.integerText integer
  if digits.length > Number.digitLimit + (if integer < 0 then 1 else 0) then
    .error .wrongValue
  else
    .ok (Text.ofChars digits)

/-- The literal of a name that every template knows. -/
def standardLiteral : StandardName → String
  | .range => "<class 'range'>"
  | .dict => "<class 'dict'>"
  | .lipsum => "<function generate_lorem_ipsum>"
  | .cycler => "<class 'jinja2.utils.Cycler'>"
  | .joiner => "<class 'jinja2.utils.Joiner'>"
  | .namespace_ => "<class 'jinja2.utils.Namespace'>"

/-- The literal of a tuple: a single member is followed by a comma. -/
def tupleLiteral : List Text → Text
  | [only] => ("(" : Text) ++ only ++ (",)" : Text)
  | items => ("(" : Text) ++ commaJoined items ++ (")" : Text)

/-- A value as a literal; the containers around it are known. -/
def literalWithin
    (heap : Heap)
    (objects : ObjectDisplay) :
    (fuel : Nat) → (around : List Ref) → Value → Except Fault Text
  | 0, _, _ => .error .tooDeep
  | fuel + 1, around, value =>
    let inner := literalWithin heap objects fuel
    let entry := fun (around : List Ref) (key value : Value) => do
      return (← inner around key) ++ (": " : Text) ++ (← inner around value)
    match value with
    | .none => .ok "None"
    | .bool flag => .ok (if flag then "True" else "False")
    | .int integer => integerDisplay integer
    | .float amount => .ok (Text.ofChars (Number.floatText amount))
    | .text content => .ok (Text.ofChars (Text.quoted content))
    | .markup content =>
      .ok (("Markup(" : Text) ++ Text.ofChars (Text.quoted content) ++ (")" : Text))
    | .bytes content => .ok (Text.ofChars (Text.quotedBytes content))
    | .date day => .ok day.literal
    | .time clock => .ok clock.literal
    | .moment instant => .ok instant.literal
    | .path location => .ok ("PosixPath(" ++ Text.quote location.text ++ ")")
    | .tuple items => do return tupleLiteral (← items.mapM (inner around))
    | .group key members => do
      return tupleLiteral [← inner around key, ← inner around (.list members)]
    | .list ref =>
      if around.contains ref then .ok "[...]"
      else do
        let items ← (heap.items ref).mapM (inner (ref :: around))
        return ("[" : Text) ++ commaJoined items ++ ("]" : Text)
    | .dict ref =>
      if around.contains ref then .ok (Text.ofChars ['{', '.', '.', '.', '}'])
      else do
        let entries ← (heap.entries ref).mapM fun (key, value) => entry (ref :: around) key value
        return Text.ofChars ['{'] ++ commaJoined entries ++ Text.ofChars ['}']
    | .set ref => do
      match heap.members ref with
      | [] => return "set()"
      | members =>
        let members ← members.mapM (inner around)
        return Text.ofChars ['{'] ++ commaJoined members ++ Text.ofChars ['}']
    | .range start stop step => do
      let bounds := [integerDisplay start, integerDisplay stop] ++
        (if step == 1 then [] else [integerDisplay step])
      return ("range(" : Text) ++ commaJoined (← bounds.mapM id) ++ (")" : Text)
    | .view kind ref =>
      if around.contains ref then .ok "..."
      else do
        let entries := heap.entries ref
        let (title, items) : String × List Value :=
          match kind with
          | .keys => ("dict_keys([", entries.map Prod.fst)
          | .values => ("dict_values([", entries.map Prod.snd)
          | .items => ("dict_items([", entries.map fun (key, value) => .tuple [key, value])
        return Text.ofString title ++ commaJoined (← items.mapM (inner (ref :: around))) ++
          ("])" : Text)
    | .undefined _ => .ok "Undefined"
    | .standard name => .ok (standardLiteral name)
    | .method _ name => .ok ("<built-in method " ++ name ++ ">")
    | .object place => objects.literal place

/-- A value as a literal. -/
def literal
    (heap : Heap)
    (objects : ObjectDisplay)
    (value : Value) : Except Fault Text :=
  literalWithin heap objects nestingLimit [] value

/-- A value shown plainly. -/
def plain
    (heap : Heap)
    (objects : ObjectDisplay)
    (value : Value) : Except Fault Text :=
  match value with
  | .text content => .ok content
  | .markup content => .ok content
  | .date day => .ok (Text.ofChars day.text)
  | .time clock => .ok (Text.ofChars clock.text)
  | .moment instant => .ok (Text.ofChars instant.text)
  | .path location => .ok location.text
  | .undefined missing =>
    if missing.strict then .error (.undefinedValue missing.message) else .ok []
  | .object place => objects.plain place
  | other => literal heap objects other

end Stencil.Value

import Stencil.Template.Foreign
import Stencil.Template.ValueMethod

/-!
# Members of values

What stands behind a dot or between brackets.  A name is looked for among the
attributes and methods of a value first and among its items second; an index the
other way round.  What is found nowhere is a missing value that says so.  Attributes
that lead outside of templates are found as well, but only as foreign objects.
-/

namespace Stencil.Template

open Run

/-- The attributes of a loop's state. -/
def loopMember? (evaluator : Evaluator) (place : Nat) (name : String) : Run (Option Value) := do
  match ← object place with
  | .loop state =>
    let peek : Run (Option Value) := do
      match state.after with
      | some value => return some value
      | none =>
        match ← evaluator.next state.stream with
        | some value =>
          let state ← object place
          match state with
          | .loop state => changeObject place (.loop { state with after := some value })
          | _ => pure ()
          return some value
        | none => return none
    if name == "index" then return some (.int (state.index + 1))
    else if name == "index0" then return some (.int state.index)
    else if name == "depth" then return some (.int (state.depth + 1))
    else if name == "depth0" then return some (.int state.depth)
    else if name == "first" then return some (.bool (state.index == 0))
    else if name == "last" then return some (.bool (← peek).isNone)
    else if name == "length" then return some (.int (← loopLength evaluator place))
    else if name == "revindex" then
      return some (.int ((← loopLength evaluator place) - state.index))
    else if name == "revindex0" then
      return some (.int ((← loopLength evaluator place) - (state.index + 1)))
    else if name == "previtem" then
      if state.index == 0 then
        return some (missing "there is no previous item")
      else
        return some (state.before.getD .none)
    else if name == "nextitem" then
      match ← peek with
      | some value => return some value
      | none => return some (missing "there is no next item")
    else if name == "cycle" || name == "changed" then
      return some (.method (.object place) name)
    else
      return none
  | _ => return none

/-- The attributes of an object of templates. -/
def objectMember? (evaluator : Evaluator) (place : Nat) (name : String) : Run (Option Value) := do
  match ← object place with
  | .loop _ => loopMember? evaluator place name
  | .attributes entries =>
    -- The class of a namespace is not hidden by what it holds.
    return if name == "__class__" then none else entries.lookup (Text.ofString name)
  | .module_ _ _ exports => return exports.lookup name
  | .cycler items position =>
    if name == "current" then return items[position]?
    else if name == "items" then return some (.tuple items)
    else if name == "pos" then return some (.int position)
    else if name == "next" || name == "reset" then return some (.method (.object place) name)
    else return none
  | .joiner separator used =>
    if name == "sep" then return some separator
    else if name == "used" then return some (.bool used)
    else return none
  | .blockReference block context stack depth =>
    if name == "super" then
      if stack.length ≤ depth + 1 then
        let message := "there is no parent block called " ++ Stencil.Text.quote block ++ "."
        return some (missing message)
      else
        return some (.object (← newObject (.blockReference block context stack (depth + 1))))
    else if name == "name" then
      return some (Value.ofString block)
    else
      return none
  | .routine routine =>
    let signature := routine.signature
    if name == "name" then
      return some ((signature.name.map Value.ofString).getD .none)
    else if name == "arguments" then
      return some (.tuple (signature.parameters.map Value.ofString))
    else if name == "catch_kwargs" then return some (.bool signature.namedSlot.isSome)
    else if name == "catch_varargs" then return some (.bool signature.positionalSlot.isSome)
    else if name == "caller" then return some (.bool signature.usesCaller)
    else if name == "explicit_caller" then
      return some (.bool (signature.parameters.contains "caller"))
    else
      return none
  | _ => return none

/-- The attributes of a date, time or moment. -/
def calendarMember? (value : Value) (name : String) : Option Value :=
  let ofDate := fun (date : Calendar.Date) =>
    if name == "year" then some (.int date.year)
    else if name == "month" then some (.int date.month)
    else if name == "day" then some (.int date.day)
    else none
  let ofTime := fun (time : Calendar.TimeOfDay) =>
    if name == "hour" then some (.int time.hour)
    else if name == "minute" then some (.int time.minute)
    else if name == "second" then some (.int time.second)
    else if name == "microsecond" then some (.int time.microsecond)
    else if name == "fold" then some (.int 0)
    else none
  match value with
  | .date date => ofDate date
  | .time time => if name == "tzinfo" then some .none else ofTime time
  | .moment moment =>
    match moment.offset, name with
    | none, "tzinfo" => some .none
    | _, _ => (ofDate moment.date).orElse fun _ => ofTime moment.time
  | _ => none

/-- The attributes of a path. -/
def pathMember? (path : Path) (name : String) : Run (Option Value) := do
  let fileName := path.name
  let suffix := String.ofList (fileName.toList.drop path.stem.toList.length)
  if name == "name" then return some (Value.ofString fileName)
  else if name == "stem" then return some (Value.ofString path.stem)
  else if name == "suffix" then return some (Value.ofString suffix)
  else if name == "parent" then return some (.path path.parent)
  else if name == "root" then return some (Value.ofString path.root.text)
  else if name == "parts" then
    let parts := if path.isAbsolute then path.root.text :: path.parts else path.parts
    return some (.tuple (parts.map Value.ofString))
  else return none

/-- The attributes of a number. -/
def numberMember? (value : Value) (name : String) : Option Value :=
  match value with
  | .float _ =>
    if name == "real" then some value
    else if name == "imag" then some (.float 0.0)
    else none
  | value =>
    match integer? value with
    | some integer =>
      if name == "real" || name == "numerator" then some (.int integer)
      else if name == "imag" then some (.int 0)
      else if name == "denominator" then some (.int 1)
      else none
    | none => none

/-- Whether a value has a method of a name. -/
def hasMethod (value : Value) (name : String) : Bool :=
  match value with
  | .text _ => (textMethods.lookup name).isSome || furtherTextMethods.contains name
  | .markup _ =>
    (textMethods.lookup name).isSome || furtherTextMethods.contains name ||
      (safeTextMethods.lookup name).isSome
  | .list _ => (listMethods.lookup name).isSome
  | .dict _ => (dictMethods.lookup name).isSome
  | .set _ => (setMethods.lookup name).isSome
  | value => ((valueMethods value).lookup name).isSome

/-- The attribute or method of a value, as far as it does not lead outside. -/
def ownAttribute? (evaluator : Evaluator) (value : Value) (name : String) :
    Run (Option Value) := do
  match value with
  | .undefined missing =>
    if (commonNames ++ undefinedNames).contains name then return none
    else throw (.undefinedValue missing.message)
  | .object place => objectMember? evaluator place name
  | .path path =>
    match ← pathMember? path name with
    | some member => return some member
    | none => return if hasMethod value name then some (.method value name) else none
  | .group key members =>
    if name == "grouper" then return some key
    else if name == "list" then return some (.list members)
    else return if hasMethod value name then some (.method value name) else none
  | .range start stop step =>
    if name == "start" then return some (.int start)
    else if name == "stop" then return some (.int stop)
    else if name == "step" then return some (.int step)
    else return if hasMethod value name then some (.method value name) else none
  | value =>
    match (numberMember? value name).orElse fun _ => calendarMember? value name with
    | some member => return some member
    | none => return if hasMethod value name then some (.method value name) else none

/-- The attribute or method of a value. -/
def attribute? (evaluator : Evaluator) (value : Value) (name : String) : Run (Option Value) := do
  match ← ownAttribute? evaluator value name with
  | some member => return some member
  | none => foreign? value name

/-- Whether a failed look-up only means that nothing is there. -/
def isAbsence : Fault → Bool
  | .wrongType => true
  | .missingKey => true
  | .outOfRange => true
  | .missingAttribute => true
  | _ => false

/-- The result of a look-up, or nothing where nothing is there. -/
def absentOr (look : Run Value) : Run (Option Value) := do
  try
    return some (← look)
  catch fault =>
    if isAbsence fault then return none else throw fault

/-- The missing value of a name that a value does not have. -/
def missingMember (value : Value) (name : Value) : Run Value := do
  match name.text? with
  | some content =>
    let name ← literalText (.text content)
    let described := Stencil.Text.quote (← describeType value)
    return missing (described ++ " has no attribute " ++ Text.string name)
  | none =>
    let name ← literalText name
    return missing ((← describeType value) ++ " has no element " ++ Text.string name)

/-- What stands behind a dot. -/
def memberOf (evaluator : Evaluator) (value : Value) (name : String) : Run Value := do
  match ← attribute? evaluator value name with
  | some member => return member
  | none =>
    match ← absentOr (itemOf value (Value.ofString name)) with
    | some item => return item
    | none => missingMember value (Value.ofString name)

/-- What stands between brackets. -/
def indexed (evaluator : Evaluator) (value index : Value) : Run Value := do
  match ← absentOr (itemOf value index) with
  | some item => return item
  | none =>
    match index.text? with
    | some content =>
      match ← attribute? evaluator value content.string with
      | some member => return member
      | none => missingMember value index
    | none => missingMember value index

/-- A slice of a value. -/
def sliced (value start stop step : Value) : Run Value := do
  match ← absentOr (sliceValue value start stop step) with
  | some part => return part
  | none =>
    let bounds ← [start, stop, step].mapM literalText
    let described ← describeType value
    return missing (described ++ " has no element slice(" ++
      Text.string (Value.commaJoined bounds) ++ ")")

/-- The attribute of a value as formatting looks it up. -/
def requiredAttribute (evaluator : Evaluator) (value : Value) (name : String) : Run Value := do
  match ← attribute? evaluator value name with
  | some member => return member
  | none => throw .missingAttribute

/-- Translate characters by a mapping from positions. -/
def translateText (ref : Ref) (text : Text) : Run Text := do
  let parts ← text.mapM fun point => do
    match ← findEntry? ref (.int point.number) with
    | none => return [point]
    | some .none => return []
    | some value =>
      match value.text? with
      | some content => return content
      | none =>
        match integer? value with
        | some number => return [CodePoint.ofNat number.toNat]
        | none => wrongType
  return parts.flatten

/-- Call a method of a text. -/
def callTextMethod
    (evaluator : Evaluator)
    (isSafe : Bool)
    (text : Text)
    (name : String)
    (given : Given) : Run Value := do
  let safeMethod := if isSafe then safeTextMethods.lookup name else none
  match safeMethod.orElse fun _ => textMethods.lookup name with
  | some method => method evaluator isSafe text given
  | none =>
    if name == "format" then
      let shown ← formatBraces evaluator (requiredAttribute evaluator) itemOf isSafe text given
      return sameKind isSafe shown
    else if name == "format_map" then
      let named ← entriesOf evaluator (← onlyArgument given)
      let named := named.filterMap fun (key, value) =>
        key.text?.map fun key => (Text.string key, value)
      let shown ←
        formatBraces evaluator (requiredAttribute evaluator) itemOf isSafe text ⟨[], named⟩
      return sameKind isSafe shown
    else if name == "translate" then
      match ← onlyArgument given with
      | .dict ref => return sameKind isSafe (← translateText ref text)
      | table => refuseType table
    else
      wrongType

/-- Call a method of a loop's state. -/
def callLoopMethod (place : Nat) (name : String) (given : Given) : Run Value := do
  match ← object place with
  | .loop state =>
    if !given.named.isEmpty then
      wrongType
    if name == "cycle" then
      match given.positional with
      | [] => wrongType
      | items =>
        let index := (Int.fmod state.index items.length).toNat
        return items.getD index .none
    else
      let same ←
        match state.lastChanged with
        | none => pure false
        | some values =>
          onHeap fun heap => Value.allPairs (Value.equalMember heap) values given.positional
      if same then
        return .bool false
      else
        changeObject place (.loop { state with lastChanged := some given.positional })
        return .bool true
  | _ => wrongType

/-- Call a method of an object of templates. -/
def callObjectMethod (place : Nat) (name : String) (given : Given) : Run Value := do
  match ← object place with
  | .loop _ => callLoopMethod place name given
  | .cycler items position =>
    noArguments given
    if name == "reset" then
      changeObject place (.cycler items 0)
      return .none
    else
      let next := if items.length ≤ position + 1 then 0 else position + 1
      changeObject place (.cycler items next)
      return items.getD position .none
  | _ => wrongType

/-- Call a method of a value. -/
def callMethod
    (evaluator : Evaluator)
    (receiver : Value)
    (name : String)
    (given : Given) : Run Value := do
  let required := fun {α : Type} (method : Option α) (use : α → Run Value) =>
    match method with
    | some method => use method
    | none => wrongType
  match receiver with
  | .text content => callTextMethod evaluator false content name given
  | .markup content => callTextMethod evaluator true content name given
  | .list ref => required (listMethods.lookup name) fun method => method evaluator ref given
  | .dict ref => required (dictMethods.lookup name) fun method => method evaluator ref given
  | .set ref => required (setMethods.lookup name) fun method => method evaluator ref given
  | .object place => callObjectMethod place name given
  | receiver =>
    required ((valueMethods receiver).lookup name) fun method => method evaluator receiver given

end Stencil.Template

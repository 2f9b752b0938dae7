import Stencil.Template.Escape
import Stencil.Template.Evaluator
import Stencil.Text.Search

/-!
# Operations on values

Truth, length, order of members, arithmetic, membership and display of values.  A
strict missing value refuses all of them with its message, and of a value outside of
templates nothing of this is known.
-/

namespace Stencil.Template

open Run

/-- The type of a value in messages, objects of templates included. -/
def describeType (value : Value) : Run String := do
  match value with
  | .object place =>
    match ← object place with
    | .routine _ => return "jinja2.runtime.Macro object"
    | .recursion _ => return "function object"
    | .loop _ => return "jinja2.runtime.LoopContext object"
    | .attributes _ => return "jinja2.utils.Namespace object"
    | .cycler _ _ => return "jinja2.utils.Cycler object"
    | .joiner _ _ => return "jinja2.utils.Joiner object"
    | .module_ _ _ _ => return "jinja2.environment.TemplateModule object"
    | .selfReference _ => return "jinja2.runtime.TemplateReference object"
    | .blockReference _ _ _ _ => return "jinja2.runtime.BlockReference object"
    | .stream _ => return "generator object"
    | .foreign origin names => unanswered origin names
  | value => return value.typeName

/-- Give up something outside of templates, of which no more is known than its names. -/
def refuseForeign (value : Value) : Run Unit := do
  match value with
  | .object place =>
    match ← object place with
    | .foreign origin names => unanswered origin names
    | _ => return ()
  | _ => return ()

/-- Refuse a value for its type. -/
def refuseType {α : Type} (value : Value) : Run α := do
  refuseForeign value
  wrongType

/-- The literal of an object. -/
def objectLiteral (machine : Machine) : (fuel : Nat) → (place : Nat) → Except Fault Text
  | 0, _ => .error .tooDeep
  | fuel + 1, place =>
    match machine.objects.getD place default with
    | .routine routine =>
      match routine.signature.name with
      | some name => .ok ("<Macro " ++ Text.quote name ++ ">")
      | none => .ok "<Macro anonymous>"
    | .recursion _ => .ok "<function loop>"
    | .loop state => .ok
      ("<LoopContext " ++ toString (state.index + 1) ++ "/" ++ toString (state.length.getD 0) ++ ">")
    | .attributes entries =>
      let literal := objectLiteral machine fuel
      let shown := Value.literalWithin machine.heap ⟨literal, literal⟩ Stencil.nestingLimit []
      do
        let entries ← entries.mapM fun (name, value) => do
          return (← shown (.text name)) ++ (": " : Text) ++ (← shown value)
        return ("<Namespace " : Text) ++ Text.ofChars ['{'] ++ Value.commaJoined entries ++
          Text.ofChars ['}', '>']
    | .cycler _ _ => .ok "<jinja2.utils.Cycler object>"
    | .joiner _ _ => .ok "<jinja2.utils.Joiner object>"
    | .module_ name _ _ => .ok ("<TemplateModule " ++ Text.quote name ++ ">")
    | .selfReference context =>
      let template := (machine.contexts.getD context default).template
      let name := (machine.templates.getD template default).program.name
      .ok ("<TemplateReference " ++ Text.quote name ++ ">")
    | .blockReference _ _ _ _ => .ok "<jinja2.runtime.BlockReference object>"
    | .stream _ => .ok "<generator object>"
    | .foreign origin names => .error (.asks (origin.typeName :: names))

/-- How objects are shown. -/
def objectDisplay (machine : Machine) : Value.ObjectDisplay where
  plain := fun place =>
    match machine.objects.getD place default with
    | .module_ _ output _ => .ok output
    | _ => objectLiteral machine Stencil.nestingLimit place
  literal := objectLiteral machine Stencil.nestingLimit

/-- A value as a literal. -/
def literalText (value : Value) : Run Text := do
  let machine ← get
  lift (value.literal machine.heap (objectDisplay machine))

/-- Whether two values are equal. -/
def equalValues (left right : Value) : Run Bool :=
  onHeap fun heap => left.equal heap right

/-- Whether two members of containers count as equal. -/
def equalMembers (left right : Value) : Run Bool :=
  onHeap fun heap => left.equalMember heap right

/-- The integer of a flag or an integer. -/
def integer? : Value → Option Int
  | .int integer => some integer
  | .bool flag => some (if flag then 1 else 0)
  | _ => none

section WithEvaluator

variable (evaluator : Evaluator)

/-- Read a stream to its end. -/
def drain (place : Nat) : Run (List Value) := do
  let found ← repeatFrom ([] : List Value) fun found => do
    match ← evaluator.next place with
    | some value => return some (value :: found)
    | none => return none
  return found.reverse

/-- A stream of the members of a value. -/
def iterate (value : Value) : Run Nat := do
  match value with
  | .text content => newStream (.values (content.map fun point => .text [point]))
  | .markup content => newStream (.values (content.map fun point => .text [point]))
  | .bytes content => newStream (.values (content.map fun byte => .int byte.toNat))
  | .tuple items => newStream (.values items)
  | .group key members => newStream (.values [key, .list members])
  | .list ref => newStream (.listFrom ref 0)
  | .dict ref => newStream (.entriesFrom .keys ref 0 (← entries ref).length)
  | .view kind ref => newStream (.entriesFrom kind ref 0 (← entries ref).length)
  | .set ref => newStream (.membersFrom ref 0 (← members ref).length)
  | .range start stop step => newStream (.values (Value.rangeItems start stop step))
  | .undefined missing =>
    if missing.strict then throw (.undefinedValue missing.message)
    else newStream .finished
  | .object place =>
    match ← object place with
    | .stream _ => return place
    | .loop _ => newStream (.loopItems place)
    | .foreign origin names => unanswered origin names
    | _ => wrongType
  | _ => wrongType

/-- All members of a value. -/
def members? (value : Value) : Run (List Value) := do
  match value with
  | .tuple items => return items
  | .list ref => items ref
  | value => drain evaluator (← iterate value)

/-- The number of values a loop runs over. -/
def loopLength (place : Nat) : Run Int := do
  match ← object place with
  | .loop state =>
    match state.length with
    | some length => return length
    | none =>
      let known : Option Nat ←
        match state.items with
        | .text content => pure (some content.length)
        | .markup content => pure (some content.length)
        | .bytes content => pure (some content.length)
        | .tuple items => pure (some items.length)
        | .group _ _ => pure (some 2)
        | .list ref => do pure (some (← items ref).length)
        | .dict ref => do pure (some (← entries ref).length)
        | .view _ ref => do pure (some (← entries ref).length)
        | .set ref => do pure (some (← Run.members ref).length)
        | .range start stop step => pure (some (Value.rangeLength start stop step))
        | .undefined _ => pure (some 0)
        | _ => pure none
      match known with
      | some length =>
        changeObject place (.loop { state with length := some length })
        return length
      | none =>
        let rest ← drain evaluator state.stream
        let stream ← newStream (.values rest)
        let length := rest.length + (state.index + 1) + (if state.after.isSome then 1 else 0)
        changeObject place (.loop { state with stream, length := some length })
        return length
  | _ => return 0

/-- The number of members of a value. -/
def lengthOf (value : Value) : Run Int := do
  match value with
  | .text content => return content.length
  | .markup content => return content.length
  | .bytes content => return content.length
  | .tuple items => return items.length
  | .group _ _ => return 2
  | .list ref => return (← items ref).length
  | .dict ref => return (← entries ref).length
  | .view _ ref => return (← entries ref).length
  | .set ref => return (← Run.members ref).length
  | .range start stop step => return Value.rangeLength start stop step
  | .undefined missing =>
    if missing.strict then throw (.undefinedValue missing.message) else return 0
  | .object place =>
    match ← object place with
    | .loop _ => loopLength evaluator place
    | .foreign origin names => unanswered origin names
    | _ => wrongType
  | _ => wrongType

/-- Whether a value counts as true. -/
def truth (value : Value) : Run Bool := do
  match value with
  | .none => return false
  | .bool flag => return flag
  | .int integer => return integer != 0
  | .float amount => return !(amount == 0)
  | .undefined missing =>
    if missing.strict then throw (.undefinedValue missing.message) else return false
  | .date _ => return true
  | .time _ => return true
  | .moment _ => return true
  | .path _ => return true
  | .standard _ => return true
  | .method _ _ => return true
  | .object place =>
    match ← object place with
    | .loop _ => return (← loopLength evaluator place) != 0
    | .foreign origin names => unanswered origin names
    | _ => return true
  | value => return (← lengthOf evaluator value) != 0

/-- A value shown plainly. -/
def showValue (value : Value) : Run Text := do
  match value with
  | .object place =>
    match ← object place with
    | .loop _ => do
      let _ ← loopLength evaluator place
      pure ()
    | _ => pure ()
  | _ => pure ()
  let machine ← get
  lift (value.plain machine.heap (objectDisplay machine))

/-- A value shown safely. -/
def escapeValue (value : Value) : Run Text := do
  match value with
  | .markup content => return content
  | .object place =>
    match ← object place with
    | .module_ _ output _ => return output
    | _ => return escapeMarkup (← showValue evaluator value)
  | value => return escapeMarkup (← showValue evaluator value)

/-- Whether some value of a stream is equal to a value. -/
def streamHolds (wanted : Value) (place : Nat) : Run Bool :=
  repeatFrom false fun found => do
    if found then
      return none
    else
      match ← evaluator.next place with
      | some value => return some (← equalMembers value wanted)
      | none => return none

/-- Whether a value is a member of a container. -/
def contains (wanted container : Value) : Run Bool := do
  refuseForeign wanted
  let inText := fun (content : Text) => do
    match wanted.text? with
    | some needle => return (Stencil.Text.find? needle content).isSome
    | none => wrongType
  match container with
  | .text content => inText content
  | .markup content => inText content
  | .bytes content =>
    match wanted with
    | .bytes needle => return (Stencil.Text.find? needle content).isSome
    | wanted =>
      match integer? wanted with
      | some integer =>
        if 0 ≤ integer && integer < 256 then
          return content.contains (UInt8.ofNat integer.toNat)
        else
          wrongValue
      | none => wrongType
  | .dict ref => do
    let entries ← entries ref
    return (← onHeap fun heap => heap.find? entries wanted).isSome
  | .view .keys ref => do
    let entries ← entries ref
    return (← onHeap fun heap => heap.find? entries wanted).isSome
  | .set ref => do
    let members ← Run.members ref
    lift (Value.checkKey wanted)
    onHeap fun heap => Value.anyEqual (Value.equalMember heap) wanted members
  | .undefined missing =>
    if missing.strict then throw (.undefinedValue missing.message) else return false
  | container => do streamHolds evaluator wanted (← iterate container)

end WithEvaluator

/-- The float nearest to an integer. -/
def floatOfInt (integer : Int) : Run Float :=
  match Number.floatOfInt? integer with
  | some amount => return amount
  | none => throw .overflow

def floatOfAmount : Value.Amount → Run Float
  | .whole integer => floatOfInt integer
  | .real amount => return amount

/-- Two amounts as floats. -/
def asFloats (left right : Value.Amount) : Run (Float × Float) := do
  return (← floatOfAmount left, ← floatOfAmount right)

/-- A missing operand refuses arithmetic. -/
def checkOperands (left right : Value) : Run Unit := do
  match left, right with
  | .undefined missing, _ => throw (.undefinedValue missing.message)
  | _, .undefined missing => throw (.undefinedValue missing.message)
  | left, right => do
    refuseForeign left
    refuseForeign right

/-- A sequence repeated; a negative count gives nothing, and one of over 63 bits is refused. -/
def repeated {α : Type} (items : List α) (count : Int) : Run (List α) :=
  if count.natAbs < Nat.pow 2 63 then
    return (List.replicate count.toNat items).flatten
  else
    throw .overflow

def multiplySequence? (left : Value) (count : Int) : Run (Option Value) := do
  match left with
  | .text content => return some (.text (← repeated content count))
  | .markup content => return some (.markup (← repeated content count))
  | .bytes content => return some (.bytes (← repeated content count))
  | .tuple items => return some (.tuple (← repeated items count))
  | .group key members => return some (.tuple (← repeated [key, .list members] count))
  | .list ref => return some (← newList (← repeated (← items ref) count))
  | _ => return none

/-- A quotient of integers as the nearest float. -/
def divideIntegers (left right : Int) : Run Float := do
  if right == 0 then
    throw .divisionByZero
  let amount := Number.ofRatio ((left < 0) != (right < 0)) left.natAbs right.natAbs
  match Number.formOf amount with
  | .finite _ => return amount
  | _ => throw .overflow

/-- The power of two floats. -/
def powerFloats (left right : Float) : Run Float := do
  if left == 0 && right < 0 then
    throw .divisionByZero
  if left < 0 && !(right.floor == right) && left.isFinite && right.isFinite then
    throw .wrongType
  let amount := Float.pow left right
  if left.isFinite && right.isFinite && amount.isInf then
    throw .overflow
  return amount

/-- Arithmetic on two amounts. -/
def computeAmounts
    (operator : BinaryOperator)
    (left right : Value.Amount) : Run Value := do
  match operator, left, right with
  | .add, .whole left, .whole right => return .int (left + right)
  | .subtract, .whole left, .whole right => return .int (left - right)
  | .multiply, .whole left, .whole right => return .int (left * right)
  | .divide, .whole left, .whole right => return .float (← divideIntegers left right)
  | .floorDivide, .whole left, .whole right =>
    if right == 0 then throw .divisionByZero else return .int (Int.fdiv left right)
  | .modulo, .whole left, .whole right =>
    if right == 0 then throw .divisionByZero else return .int (Int.fmod left right)
  | .power, .whole left, .whole right =>
    if 0 ≤ right then
      return .int (Int.pow left right.toNat)
    else
      return .float (← powerFloats (← floatOfInt left) (← floatOfInt right))
  | operator, left, right => do
    let (left, right) ← asFloats left right
    match operator with
    | .add => return .float (left + right)
    | .subtract => return .float (left - right)
    | .multiply => return .float (left * right)
    | .divide => if right == 0 then throw .divisionByZero else return .float (left / right)
    | .floorDivide =>
      if right == 0 then throw .divisionByZero
      else return .float (Number.floatFloorDivide left right).1
    | .modulo =>
      if right == 0 then throw .divisionByZero
      else return .float (Number.floatFloorDivide left right).2
    | .power => return .float (← powerFloats left right)

/-- The sum of values that are no numbers. -/
def addSequences (left right : Value) : Run Value := do
  match left, right with
  | .text left, .text right => return .text (left ++ right)
  | .markup left, .text right => return .markup (left ++ escapeMarkup right)
  | .text left, .markup right => return .markup (escapeMarkup left ++ right)
  | .markup left, .markup right => return .markup (left ++ right)
  | .bytes left, .bytes right => return .bytes (left ++ right)
  | .list left, .list right => newList ((← items left) ++ (← items right))
  | left, right =>
    match left.tupleItems?, right.tupleItems? with
    | some left, some right => return .tuple (left ++ right)
    | _, _ => wrongType

/-- Members of a set that another one lacks. -/
def withoutMembers (members others : List Value) : Run (List Value) :=
  onHeap fun heap => members.filterM fun member => do
    return !(← Value.anyEqual (Value.equalMember heap) member others)

/-- Arithmetic on two values, text formatting apart. -/
def compute (operator : BinaryOperator) (left right : Value) : Run Value := do
  checkOperands left right
  match left.amount?, right.amount? with
  | some left, some right => computeAmounts operator left right
  | _, _ =>
    match operator with
    | .add => addSequences left right
    | .multiply =>
      match integer? right with
      | some count =>
        match ← multiplySequence? left count with
        | some value => return value
        | none => wrongType
      | none =>
        match integer? left with
        | some count =>
          match ← multiplySequence? right count with
          | some value => return value
          | none => wrongType
        | none => wrongType
    | .divide =>
      match left, right with
      | .path left, .path right => return .path (left.join right)
      | .path left, right =>
        match right.text? with
        | some right => return .path (left.join (Path.ofString right.string))
        | none => wrongType
      | left, .path right =>
        match left.text? with
        | some left => return .path ((Path.ofString left.string).join right)
        | none => wrongType
      | _, _ => wrongType
    | .subtract =>
      let heap := (← get).heap
      match left.setMembers? heap, right.setMembers? heap with
      | some left, some right => newSet (← withoutMembers left right)
      | _, _ => wrongType
    | _ => wrongType

/-- A number with its sign changed or kept. -/
def computeSigned (negative : Bool) (operand : Value) : Run Value := do
  match operand with
  | .undefined missing => throw (.undefinedValue missing.message)
  | .float amount => return .float (if negative then -amount else amount)
  | operand =>
    match integer? operand with
    | some integer => return .int (if negative then -integer else integer)
    | none => refuseType operand

/-- A comparison of two values. -/
def compareValues
    (evaluator : Evaluator)
    (comparison : Comparison)
    (left right : Value) : Run Bool := do
  refuseForeign left
  refuseForeign right
  let related := fun relation => onHeap fun heap => left.relate heap relation right
  match comparison with
  | .equal => equalValues left right
  | .notEqual => return !(← equalValues left right)
  | .less => related .less
  | .lessEqual => related .lessEqual
  | .greater => related .greater
  | .greaterEqual => related .greaterEqual
  | .within => contains evaluator left right
  | .notWithin => return !(← contains evaluator left right)

end Stencil.Template

import Stencil.Template.Arithmetic
import Stencil.Template.Filter.Basic

/-!
# Tests

A test answers a question about a value.
-/

namespace Stencil.Template

open Run

/-- A test: what it asks about, and the arguments of the question. -/
abbrev TestRule := Evaluator → Value → Given → Run Bool

/-- A question without arguments. -/
def plainTest (rule : Evaluator → Value → Run Bool) : TestRule := fun evaluator subject given => do
  let _ ← given.bind []
  rule evaluator subject

/-- A question about a value and another one that a parameter gives. -/
def testWith (parameter : String) (rule : Evaluator → Value → Value → Run Bool) : TestRule :=
  fun evaluator subject given => do
    let arguments ← given.bind [required parameter]
    rule evaluator subject (arguments.getD 0 .none)

/-- A comparison. -/
def comparisonTest (comparison : Comparison) : TestRule := fun evaluator subject given => do
  compareValues evaluator comparison subject (← onlyArgument given)

/-- Whether a remainder has a value. -/
def remainderTest (divisor : Int) (rest : Int) : TestRule :=
  plainTest fun evaluator subject => do
    equalValues (← arithmetic evaluator .modulo subject (.int divisor)) (.int rest)

/-- Whether a value can be called. -/
def isCallable (value : Value) : Run Bool := do
  match value with
  | .standard _ => return true
  | .method _ _ => return true
  | .undefined _ => return true
  | .object place =>
    match ← object place with
    | .routine _ => return true
    | .loop _ => return true
    | .joiner _ _ => return true
    | .blockReference _ _ _ _ => return true
    | _ => return false
  | _ => return false

/-- Whether a value has a length and members at indices. -/
def isSequence (value : Value) : Bool :=
  match value with
  | .text _ => true
  | .markup _ => true
  | .bytes _ => true
  | .tuple _ => true
  | .group _ _ => true
  | .list _ => true
  | .dict _ => true
  | .range _ _ _ => true
  | .undefined missing => !missing.strict
  | _ => false

/-- Whether a value can be iterated over. -/
def isIterable (value : Value) : Run Bool := do
  match value with
  | .undefined missing =>
    if missing.strict then throw (.undefinedValue missing.message) else return true
  | .object place =>
    match ← object place with
    | .selfReference _ => return true
    | _ => hasMembers value
  | value => hasMembers value
where
  hasMembers (value : Value) : Run Bool := do
    try
      let _ ← iterate value
      return true
    catch fault =>
      if fault == .wrongType then return false else throw fault

/-- Whether two values are the same one. -/
def isSame (left right : Value) : Bool :=
  match left, right with
  | .none, .none => true
  | .bool left, .bool right => left == right
  | .int left, .int right => left == right && -5 ≤ left && left ≤ 256
  | .text left, .text right => left == right
  | .standard left, .standard right => left == right
  | .tuple [], .tuple [] => true
  | left, right => Value.samePlace left right

/-- Whether a name is among the known ones. -/
def isKnown (known : List String) : TestRule := plainTest fun _ subject => do
  lift (Value.checkKey subject)
  match subject.text? with
  | some content => return known.contains content.string
  | none => return false

/-- Whether a shown value passes a question about texts. -/
def shownTest (question : Text → Bool) : TestRule := plainTest fun evaluator subject => do
  return question (← showValue evaluator subject)

/-- A question about the form of a value. -/
def formTest (question : Value → Bool) : TestRule := plainTest fun _ subject =>
  return question subject

/-- The tests of templates. -/
def testRules : List (String × TestRule) :=
  let equal := comparisonTest .equal
  let notEqual := comparisonTest .notEqual
  let less := comparisonTest .less
  let lessEqual := comparisonTest .lessEqual
  let greater := comparisonTest .greater
  let greaterEqual := comparisonTest .greaterEqual
  let isUndefined := fun (value : Value) =>
    match value with
    | .undefined _ => true
    | _ => false
  [("!=", notEqual), ("<", less), ("<=", lessEqual), ("==", equal), (">", greater),
    (">=", greaterEqual),
    ("boolean", formTest fun value =>
      match value with
      | .bool _ => true
      | _ => false),
    ("callable", plainTest fun _ subject => isCallable subject),
    ("defined", formTest fun value => !isUndefined value),
    ("divisibleby", testWith "num" fun evaluator subject divisor => do
      equalValues (← arithmetic evaluator .modulo subject divisor) (.int 0)),
    ("eq", equal), ("equalto", equal),
    ("escaped", plainTest fun _ subject => showsMarkup subject),
    ("even", remainderTest 2 0),
    ("false", formTest fun value =>
      match value with
      | .bool flag => !flag
      | _ => false),
    ("filter", isKnown filterNames),
    ("float", formTest fun value =>
      match value with
      | .float _ => true
      | _ => false),
    ("ge", greaterEqual), ("greaterthan", greater), ("gt", greater),
    ("in", testWith "seq" contains),
    ("integer", formTest fun value =>
      match value with
      | .int _ => true
      | _ => false),
    ("iterable", plainTest fun _ subject => isIterable subject),
    ("le", lessEqual), ("lessthan", less),
    ("lower", shownTest Text.isLower),
    ("lt", less),
    ("mapping", formTest fun value =>
      match value with
      | .dict _ => true
      | _ => false),
    ("ne", notEqual),
    ("none", formTest fun value =>
      match value with
      | .none => true
      | _ => false),
    ("number", formTest fun value => value.amount?.isSome),
    ("odd", remainderTest 2 1),
    ("sameas", testWith "other" fun _ subject other => return isSame subject other),
    ("sequence", formTest isSequence),
    ("string", formTest fun value => value.text?.isSome),
    ("test", isKnown testNames),
    ("true", formTest fun value =>
      match value with
      | .bool flag => flag
      | _ => false),
    ("undefined", formTest isUndefined),
    ("upper", shownTest Text.isUpper)]

/-- Ask a question by name. -/
def applyTest
    (evaluator : Evaluator)
    (name : String)
    (subject : Value)
    (given : Given) : Run Bool := do
  match testRules.lookup name with
  | some rule =>
    refuseForeign subject
    rule evaluator subject given
  | none => throw (.template ("No test named " ++ Stencil.Text.quote name ++ " found."))

end Stencil.Template

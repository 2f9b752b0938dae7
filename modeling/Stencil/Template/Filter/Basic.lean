import Stencil.Template.Stream

/-!
# Filters

A filter turns a value into another one.  Its arguments are bound to parameters by
position, by name or by default.
-/

namespace Stencil.Template

open Run

/-- A filter: where it is applied, to what, and with which arguments. -/
abbrev FilterRule := Evaluator → Site → Value → Given → Run Value

namespace FilterRule

/-- A filter with parameters. -/
def withParameters
    (parameters : List Parameter)
    (rule : Evaluator → Site → Value → List Value → Run Value) : FilterRule :=
  fun evaluator site subject given => do
    rule evaluator site subject (← given.bind parameters)

/-- A filter without parameters. -/
def plain (rule : Evaluator → Value → Run Value) : FilterRule :=
  withParameters [] fun evaluator _ subject _ => rule evaluator subject

end FilterRule

/-- The text of a value, with whether it is safe. -/
def softText (evaluator : Evaluator) (value : Value) : Run (Bool × Text) := do
  match value with
  | .text content => return (false, content)
  | .markup content => return (true, content)
  | value => return (false, ← showValue evaluator value)

/-- Whether a value shows itself as safe text. -/
def showsMarkup (value : Value) : Run Bool := do
  match value with
  | .markup _ => return true
  | .object place =>
    match ← object place with
    | .module_ _ _ _ => return true
    | _ => return false
  | _ => return false

/-- A filter that changes text. -/
def textFilter (change : Text → Text) : FilterRule :=
  FilterRule.plain fun evaluator subject => do
    let (isSafe, text) ← softText evaluator subject
    return sameKind isSafe (change text)

/-- A filter that asks a method of text. -/
def methodFilter (parameters : List Parameter) (name : String) : FilterRule :=
  FilterRule.withParameters parameters fun evaluator _ subject arguments => do
    let (isSafe, text) ← softText evaluator subject
    callTextMethod evaluator isSafe text name ⟨arguments, []⟩

end Stencil.Template

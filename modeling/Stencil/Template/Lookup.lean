import Stencil.Template.Member

/-!
# Looking members up by path

Filters reach into the items they work on by a path of names and indices, written
with dots between them.
-/

namespace Stencil.Template

open Run

/-- One step of a path: an index where it is written in digits. -/
def pathStep (step : Text) : Run Value := do
  if Stencil.Text.allAre CodePoint.isDigit step then
    match Number.readInteger 10 step with
    | .ok index => return .int index
    | .error _ => wrongValue
  else
    return .text step

/-- The steps of a path. -/
def pathSteps (path : Value) : Run (List Value) := do
  match path with
  | .none => return []
  | path =>
    match path.text? with
    | some content =>
      (Stencil.Text.pieces (CodePoint.ofChar '.') content).mapM pathStep
    | none => return [path]

/-- The paths that are written with commas between them. -/
def pathsOf (path : Value) : Run (List (List Value)) := do
  match path.text? with
  | some content =>
    (Stencil.Text.pieces (CodePoint.ofChar ',') content).mapM fun path => pathSteps (.text path)
  | none => return [← pathSteps path]

/-- What a path leads to; a default stands in for whatever is missing on the way. -/
def follow
    (evaluator : Evaluator)
    (default : Option Value)
    (path : List Value)
    (item : Value) : Run Value :=
  path.foldlM (fun item step => do
    let member ← indexed evaluator item step
    match member, default with
    | .undefined _, some default => return default
    | member, _ => return member) item

/-- Text without its case; other values as they are. -/
def withoutCase (value : Value) : Value :=
  match value with
  | .text content => .text (Stencil.Text.lower content)
  | .markup content => .markup (Stencil.Text.lower content)
  | value => value

/-- What a path leads to, its case kept or not. -/
def comparedAt
    (evaluator : Evaluator)
    (default : Option Value)
    (keepsCase : Bool)
    (path : List Value)
    (item : Value) : Run Value := do
  let value ← follow evaluator default path item
  return if keepsCase then value else withoutCase value

/-- A default given as a value, where none stands for no default. -/
def defaultOf (value : Value) : Option Value :=
  match value with
  | .none => none
  | value => some value

end Stencil.Template

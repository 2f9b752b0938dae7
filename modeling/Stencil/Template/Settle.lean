import Stencil.Template.Evaluate
import Stencil.Template.Parse

/-!
# Constant expressions

Expressions that mention no names are computed when a template is resolved.  They
run on a machine of their own, apart from any context.
-/

namespace Stencil.Template

open Run

/-- The evaluator for constant expressions, which get nothing from outside. -/
def constantEvaluator : Evaluator :=
  evaluator ⟨fun _ => throw .unknownName, fun origin names _ => unanswered origin names⟩ 40

/-- The result of a computation on the value of a constant expression. -/
def constantResult?
    {α : Type}
    (escape : EscapeState)
    (expression : Expression String)
    (use : Value → Run α) : Option α :=
  let site : Site := { (default : Site) with constant := some escape }
  let run : Run α := do
    use (← valueOf constantEvaluator site (expression.map fun name => ⟨0, name⟩))
  match run.run default with
  | .ok result _ => some result
  | .error _ _ => none

/-- Whether a value can be written down. -/
def isPlain (heap : Heap) : (fuel : Nat) → Value → Bool
  | 0, _ => false
  | fuel + 1, value =>
    match value with
    | .none => true
    | .bool _ => true
    | .int _ => true
    | .float _ => true
    | .text _ => true
    | .markup _ => true
    | .range _ _ _ => true
    | .tuple items => items.all (isPlain heap fuel)
    | .list ref => (heap.items ref).all (isPlain heap fuel)
    | .set ref => (heap.members ref).all (isPlain heap fuel)
    | .dict ref => (heap.entries ref).all fun (key, value) =>
      isPlain heap fuel key && isPlain heap fuel value
    | _ => false

/-- How constant expressions are recognized. -/
def settler : Settler where
  truth := fun escape expression =>
    constantResult? escape expression (truth constantEvaluator)
  isConstant := fun escape expression =>
    (constantResult? escape expression fun value => do
      return isPlain (← get).heap nestingLimit value) == some true
  shown := fun escape expression =>
    constantResult? escape expression fun value =>
      if escape.escaping then escapeValue constantEvaluator value
      else showValue constantEvaluator value

/-- The program of a template's text. -/
def compile (delimiters : Delimiters) (name : String) (source : List Char) :
    Except Fault Program := do
  let statements ← parse delimiters source
  resolveTemplate settler name statements

end Stencil.Template

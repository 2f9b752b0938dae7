import Stencil.Template.Format

/-!
# Arithmetic on values

The operators of templates.  The remainder of a text puts values into it.
-/

namespace Stencil.Template

open Run

/-- An operator between two values. -/
def arithmetic
    (evaluator : Evaluator)
    (operator : BinaryOperator)
    (left right : Value) : Run Value := do
  match operator, left with
  | .modulo, .text template => return .text (← formatPercent evaluator false template right)
  | .modulo, .markup template => return .markup (← formatPercent evaluator true template right)
  | operator, left => compute operator left right

/-- An operator before a value. -/
def arithmeticSign (evaluator : Evaluator) (operator : UnaryOperator) (operand : Value) :
    Run Value := do
  match operator with
  | .negative => computeSigned true operand
  | .positive => computeSigned false operand
  | .not => return .bool (!(← truth evaluator operand))

/-- Texts of values joined; where escaping is known ahead, safe text makes the result safe. -/
def joinTexts (evaluator : Evaluator) (site : Site) (values : List Value) : Run Value := do
  let parts ← values.mapM fun value => do
    match value with
    | .markup content => return (true, content)
    | value => return (false, ← showValue evaluator value)
  let escapes := site.constant.isNone && site.mode == .always
  if escapes && parts.any Prod.fst then
    return .markup (parts.flatMap fun (isSafe, text) =>
      if isSafe then text else escapeMarkup text)
  else
    return .text (parts.flatMap Prod.snd)

end Stencil.Template

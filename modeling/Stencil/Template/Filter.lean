import Stencil.Template.Filter.Number
import Stencil.Template.Filter.Sequence
import Stencil.Template.Filter.Text

/-!
# The filters of templates

All filters by name.  Some of them need the context they are applied in, so they
cannot be applied ahead of time.  Of a foreign object only attributes can be taken.
-/

namespace Stencil.Template

open Run

/-- The filters that call further filters or tests by name, and the one that depends on chance. -/
def contextFilters : List String :=
  ["map", "random", "reject", "rejectattr", "select", "selectattr"]

def filterRules : List (String × FilterRule) :=
  textFilters ++ numberFilters ++ sequenceFilters

/-- Apply a filter by name. -/
def applyFilter
    (evaluator : Evaluator)
    (site : Site)
    (name : String)
    (subject : Value)
    (given : Given) : Run Value := do
  match filterRules.lookup name with
  | some rule =>
    if site.constant.isSome && contextFilters.contains name then
      throw (.unknownName)
    else
      if name != "attr" then
        refuseForeign subject
      rule evaluator site subject given
  | none => throw (.template ("No filter named " ++ Stencil.Text.quote name ++ " found."))

end Stencil.Template

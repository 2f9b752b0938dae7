import Stencil.Template.Method

/-!
# Assigning values

A value is assigned to a slot, its members to several targets, or it becomes the
attribute of a namespace.
-/

namespace Stencil.Template

open Run

/-- Set the attribute of a namespace, or the entry of a mapping. -/
def assignMember (holder : Option Value) (name : String) (value : Value) : Run Unit := do
  match holder with
  | some (.object place) =>
    match ← object place with
    | .attributes entries =>
      changeObject place (.attributes (Level.put (Text.ofString name) value entries))
    | _ => wrongType
  | some (.dict ref) =>
    let _ ← putEntry ref (Value.ofString name) value
    return ()
  | _ => wrongType

section WithEvaluator

variable (evaluator : Evaluator) (site : Site)

mutual

/-- Assign a value to a target. -/
def assignTarget : Target Slot → Value → Run Unit
  | .name _ slot, value => setSlot site slot (some value)
  | .member slot name, value => do assignMember (← slot? site slot) name value
  | .tuple targets, value => do
    let members ← members? evaluator value
    if members.length == targets.length then
      assignTargets targets members
    else
      wrongValue

def assignTargets : List (Target Slot) → List Value → Run Unit
  | target :: targets, value :: values => do
    assignTarget target value
    assignTargets targets values
  | _, _ => return ()

end

mutual

/-- The value that the slots of a target hold. -/
def targetValue : Target Slot → Run Value
  | .name _ slot => do return (← slot? site slot).getD .none
  | .member _ _ => return .none
  | .tuple targets => do return .tuple (← targetValues targets)

def targetValues : List (Target Slot) → Run (List Value)
  | [] => return []
  | target :: targets => do
    let value ← targetValue target
    return value :: (← targetValues targets)

end

end WithEvaluator

/-- Fill the slots of an entered scope. -/
def enterScope (site : Site) (entry : Entry) : Run Unit := do
  let context ← context site.context
  entry.forM fun (slot, load) => do
    match load with
    | .parameter => return ()
    | .undefined => setSlot site slot none
    | .copy outer => setSlot site slot (← slot? site outer)
    | .resolve name => setSlot site slot (resolve? context name)

/-- Empty the slots of a scope that is left. -/
def leaveScope (site : Site) (entry : Entry) : Run Unit :=
  entry.forM fun (slot, _) => setSlot site slot none

end Stencil.Template

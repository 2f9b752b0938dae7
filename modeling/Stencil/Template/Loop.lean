import Stencil.Template.Filter.Sequence

/-!
# Loops

A loop assigns every value of a source to its target and runs its body.  Loops that
ask for it keep a state with positions and neighbours, and recursive loops can be
run again on further values from within.
-/

namespace Stencil.Template

open Run

/-- A loop whose parts can be run. -/
structure LoopParts where
  target : Target Slot
  condition : Option LoopCondition
  /-- The slot of the state, for loops that keep one. -/
  state : Option Slot
  entry : Entry
  body : Site → Run Unit
  otherwise : Option (Entry × (Site → Run Unit))

/-- Run a loop over the members of a value. -/
def runLoop
    (evaluator : Evaluator)
    (site : Site)
    (parts : LoopParts)
    (recursion : Option Nat)
    (depth : Nat)
    (items : Value) : Run Unit := do
  let source ←
    match parts.condition with
    | none => pure items
    | some condition => pendingStream site items (.conditioned parts.target condition)
  let stream ← iterate source
  let next : Run (Option (Value × Run Unit)) ←
    match parts.state with
    | none =>
      pure do
        match ← evaluator.next stream with
        | some value => return some (value, pure ())
        | none => return none
    | some slot => do
      setSlot site slot none
      let place ← newObject (.loop { items := source, stream, depth, recursion })
      pure do
        match ← nextOfLoop evaluator place with
        | some value => return some (value, setSlot site slot (some (.object place)))
        | none => return none
  let (hasRun, _) ← repeatFrom (false, false) fun (hasRun, isDone) => do
    if isDone then
      return none
    else
      match ← next with
      | none => return some (hasRun, true)
      | some (value, showState) =>
        assignTarget evaluator site parts.target value
        showState
        enterScope site parts.entry
        parts.body site
        return some (true, false)
  leaveScope site parts.entry
  match parts.otherwise with
  | some (entry, body) =>
    if !hasRun then
      enterScope site entry
      body site
      leaveScope site entry
  | none => return ()

/-- Captured text as a value, escaped or not as is known where it was captured. -/
def capturedValue (site : Site) (text : Text) : Run Value := do
  match site.mode with
  | .never => return .text text
  | .always => return .markup text
  | .dynamic => return sameKind (← escaping site) text

/-- Run a recursive loop on a value. -/
def runRecursion
    (evaluator : Evaluator)
    (place : Nat)
    (recursion : Recursion)
    (depth : Nat)
    (items : Value) : Run Value := do
  let activation ← newActivation (some recursion.site.activation)
  let captures := (← get).captures.length
  let site := { recursion.site with activation, depth := captures + 1 }
  let parts : LoopParts :=
    { target := recursion.target
      condition := recursion.condition
      state := recursion.state
      entry := recursion.entry
      body := fun site => evaluator.steps site recursion.body
      otherwise := recursion.otherwise.map fun (entry, body) =>
        (entry, fun site => evaluator.steps site body) }
  let text ← capture (runLoop evaluator site parts (some place) depth items)
  capturedValue site text

end Stencil.Template

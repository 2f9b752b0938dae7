import Stencil.Template.Load
import Stencil.Template.Version
import Stencil.World

/-!
# Engines

An engine renders the templates of one directory.  It is set up for templates of a
certain version, and with marks for interpolations that differ from the other marks.

An engine by itself stops at what a template asks for outside of templates.  Where somebody
answers, a rendering may do anything, so how templates are rendered is left open: whatever
renders them on a run is an instance of `Rendering`.  Wherever no other one is named, the
engine renders by itself.
-/

namespace Stencil

namespace Engine

open Template

/-- Whether the mark of interpolations differs from the marks of blocks and comments. -/
def marksDiffer (delimiters : Delimiters) : Bool :=
  delimiters.interpolationStart != blockStart && delimiters.interpolationStart != commentStart

/-- The next number of an engine. -/
def nextNumber : Run Nat := do
  let machine ← get
  set { machine with engines := machine.engines + 1 }
  return machine.engines

/-- Set up the engine for the templates of a directory. -/
def setUp (directory : Path) (version : String) (delimiters : Delimiters) : Act Engine := do
  Act.lift (checkVersion version)
  Act.detail ("Creating template environment for " ++ directory.text ++
    " (engine version " ++ version ++ ")")
  if !marksDiffer delimiters then
    Act.fail (.assertion "block, variable and comment start strings must be different.")
  return { directory, delimiters, number := ← Act.onMachine nextNumber }

/-- Load a template by its name. -/
def load (engine : Engine) (name : String) : Act Nat := fun world =>
  Act.onMachine (loadTemplate world.files engine name) world

/-- The text that a loaded template gives for a data model, if it asks for nothing outside. -/
def render (engine : Engine) (place : Nat) (model : Value) : Act Text := fun world =>
  Act.onMachine (renderTemplate world.files engine place model) world

/-- The text that a loaded template gives where a host answers it. -/
def renderHosted (host : Host) (engine : Engine) (place : Nat) (model : Value) : Act Text :=
  fun world =>
    let release := fun (machine : Machine) =>
      { world with
        files := machine.files
        machine := { machine with files := world.machine.files } }
    match (renderWith (host.outside engine) place model).run
        { world.machine with files := world.files } with
    | .ok text machine => .ok text (release machine)
    | .error fault machine => .error (.unforeseen fault) (release machine)

theorem renderHosted_error {host : Host} {engine : Engine} {place : Nat} {model : Value}
    {world after : World} {failure : Failure}
    (failed : renderHosted host engine place model world = .error failure after) :
    ∃ fault, failure = .unforeseen fault := by
  unfold renderHosted at failed
  dsimp only at failed
  split at failed <;> cases failed
  exact ⟨_, rfl⟩

/-- Whether a rendering has stopped at what a template asks for. -/
def asks {α : Type} : EStateM.Result Failure World α → Bool
  | .error (.unforeseen (.asks _)) _ => true
  | _ => false

theorem asks_iff {α : Type} {result : EStateM.Result Failure World α} :
    asks result = true ↔ ∃ names after, result = .error (.unforeseen (.asks names)) after := by
  unfold asks
  split <;> simp_all

/-- A rendering that takes a host where the engine alone would stop at a question. -/
def renderAmong (host : Host) (engine : Engine) (place : Nat) (model : Value) : Act Text :=
  fun world =>
    if asks (render engine place model world) then renderHosted host engine place model world
    else render engine place model world

section

variable {host : Host} {engine : Engine} {place : Nat} {model : Value} {world : World}

theorem renderAmong_of_asks (asked : asks (render engine place model world) = true) :
    renderAmong host engine place model world = renderHosted host engine place model world :=
  if_pos asked

theorem renderAmong_of_not_asks (asked : asks (render engine place model world) = false) :
    renderAmong host engine place model world = render engine place model world :=
  if_neg (by rw [asked]; exact Bool.false_ne_true)

end

end Engine

/-- How templates are rendered on a run.  A rendering has no failures of its own. -/
class Rendering where
  /-- The text that a loaded template gives for a data model. -/
  render : Template.Engine → Nat → Value → Act Text
  unforeseen {engine : Template.Engine} {place : Nat} {model : Value} {world after : World}
    {failure : Failure} (failed : render engine place model world = .error failure after) :
    ∃ fault, failure = .unforeseen fault

namespace Rendering

/-- The engine renders by itself. -/
instance alone : Rendering where
  render := Engine.render
  unforeseen failed := Act.onMachine_error failed

/-- A host answers what templates ask for. -/
@[reducible]
def among (host : Template.Host) : Rendering where
  render := Engine.renderAmong host
  unforeseen {engine place model world after failure} failed := by
    cases asked : Engine.asks (Engine.render engine place model world) with
    | true =>
      rw [Engine.renderAmong_of_asks asked] at failed
      exact Engine.renderHosted_error failed
    | false =>
      rw [Engine.renderAmong_of_not_asks asked] at failed
      exact Act.onMachine_error failed

end Rendering

end Stencil

import Stencil.Naming
import Stencil.Template.Sequence
import Stencil.Validation
import Stencil.World

/-!
# Tasks

A task is to render templates for one data file.  Its data model is a mapping of its
own whose values may be shared.
-/

namespace Stencil

/-- Templates to render for one data file. -/
structure Task where
  /-- When the descriptors of the projects were last changed, in milliseconds. -/
  timestamp : Int
  source : Path
  templates : List Path
  folder : Path
  model : Value
  mode : Int

namespace Task

/-- The mode of outputs unless another one is given. -/
def defaultMode : Int := 0o644

/-- The parts of a task whose data model has no place yet. -/
structure Parts where
  timestamp : Int
  source : Path
  templates : List Path
  folder : Path
  entries : List (Text × Value)
  mode : Int

/-- A task of these parts. -/
def ofParts (parts : Parts) : Template.Run Task := do
  let model ← Template.Run.buildDict (parts.entries.map fun (key, value) => (.text key, value))
  return {
    timestamp := parts.timestamp
    source := parts.source
    templates := parts.templates
    folder := parts.folder
    model
    mode := parts.mode }

/-- The templates of a list, each where it stands first. -/
def distinct : List Path → List Path
  | [] => []
  | template :: templates => template :: (distinct templates).filter (· != template)

/-- Each template of a task with the output that it renders into. -/
def outputs (task : Task) : List (Path × Path) :=
  (distinct task.templates).map fun template =>
    (template, Naming.outputPath task.source template task.folder)

/-- A made task keeps its parts; an attempt to assign one is refused. -/
def assign (_task : Task) (part : String) : Except Fault Task :=
  .error (.invalid [⟨part, "frozen_instance", none⟩])

end Task

end Stencil

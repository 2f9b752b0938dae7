import Stencil.Engine
import Stencil.Task.Basic
import Stencil.Template.Reclaim

/-!
# Carrying out tasks

A task renders its templates one by one and stops at the first failure.  An output
is only left as it is where none is there yet and its time, which then counts as zero,
is later than the times of the data file, the template and the descriptors.  What a
rendering leaves on the machine is dropped where nothing refers to it.
-/

namespace Stencil.Task

open Files (Change)

/-- Whether there is no output that would have to be newer. -/
def isFresh (task : Task) (template output : Path) : Act Bool := do
  if ← Act.askFiles fun files => files.has output then
    return false
  let files := (← get).files
  let time := files.lastModified output
  return files.lastModified task.source < time && files.lastModified template < time &&
    task.timestamp < time

/-- Refuse an output directory that is none. -/
def checkFolder (task : Task) : Act Unit := do
  if ← Act.askFiles fun files => files.has task.folder then
    if !(← Act.askFiles fun files => files.isDirectory task.folder) then
      let here := (← get).files.here
      let folder := if task.folder.isAbsolute then task.folder
        else ⟨.slash, here ++ task.folder.parts⟩
      throw (.config (.outputNoDirectory folder))

/-- The result of an act, whose fault is put off. -/
def postponed {α : Type} (act : Act α) : Act (Except Fault α) := fun world =>
  match act world with
  | .ok result world => .ok (.ok result) world
  | .error (.unforeseen fault) world => .ok (.error fault) world
  | .error failure world => .error failure world

section WithRendering

variable [Rendering]

/-- The stored form of what a template gives for the data model of a task. -/
def content (task : Task) (engine : Template.Engine) (template : Nat) : Act ByteArray := do
  Act.onMachine (modify fun machine => { machine with storesOutput := true })
  let text ← Rendering.render engine template task.model
  match Change.storedPieces [text] none with
  | .ok bytes => return bytes
  | .error fault => Act.fail fault

/-- Write an output. -/
def write (task : Task) (engine : Template.Engine) (template : Nat) (output : Path) :
    Act Unit := do
  let spare ← Act.onFiles (Change.startFile output)
  let bytes ← postponed (task.content engine template)
  Act.onFiles (Change.finishFile output task.mode spare bytes)

/-- Render one template, and tell whether its output was written. -/
def generateOne
    (task : Task)
    (engine : Template.Engine)
    (template output : Path) : Act Bool := do
  if ← task.isFresh template output then
    Act.detail ("Up to date, skipping " ++ output.text)
    return false
  let start ← Act.machine
  let loaded ← Act.naming (.templateLoad template.name) (Engine.load engine template.name)
  task.checkFolder
  Act.naming (.render task.source) (task.write engine loaded output)
  Act.onMachine (Template.Run.reclaim start)
  Act.detail ("Rendered " ++ template.name ++ " → " ++ output.text)
  return true

/-- Render templates in a row. -/
def generateAll (task : Task) (engine : Template.Engine) :
    List (Path × Path) → Act (List Path)
  | [] => return []
  | (template, output) :: rest => do
    let isWritten ← task.generateOne engine template output
    let others ← generateAll task engine rest
    return if isWritten then output :: others else others

/-- Render every template; gives the outputs that were written. -/
def generate (task : Task) (engine : Template.Engine) : Act (List Path) :=
  task.generateAll engine task.outputs

end WithRendering

end Stencil.Task

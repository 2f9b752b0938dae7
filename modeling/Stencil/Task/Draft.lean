import Stencil.Task.Basic
import Stencil.Value.Members

/-!
# Drafts of tasks

A task is drafted part by part: the walk over the data files fills in where things
are, and a reader of data files adds to the data model.  A draft takes any values;
they are checked when the task is made.
-/

namespace Stencil

/-- A task that is not complete yet. -/
structure Draft where
  timestamp : Value := .none
  source : Value := .none
  templates : Value := .none
  folder : Value := .none
  model : Value := .none
  mode : Value := .int Task.defaultMode
deriving Inhabited

namespace Draft

open Template.Run (newDict newList wrongType changeCell entries items onHeap)

/-- A draft with a data model, an empty one unless there is one already. -/
def withModel (draft : Draft) : Act Draft :=
  match draft.model with
  | .none => do
    return { draft with model := ← Act.onMachine (newDict []) }
  | _ => return draft

/-- Put a value under a key of a data model. -/
def putEntry (model key value : Value) : Template.Run Unit := do
  match model with
  | .dict ref =>
    let known ← entries ref
    changeCell ref (.dict (← onHeap fun heap => heap.insert known key value))
  | .list ref =>
    let known ← items ref
    match Template.integer? key with
    | some index =>
      match Template.placeOf? known.length index with
      | some place => changeCell ref (.list (known.set place value))
      | none => throw .outOfRange
    | none => wrongType
  | _ => wrongType

/-- Put a value under a key of the data model. -/
def add (draft : Draft) (key value : Value) : Act Draft := do
  let draft ← draft.withModel
  Act.onMachine (putEntry draft.model key value)
  return draft

/-- Refuse a part that has not been given. -/
def require (part : Value) (problem : Misconfiguration) : Act Unit :=
  match part with
  | .none => throw (.config problem)
  | _ => return ()

/-- The checked parts of a draft. -/
def check (heap : Heap) (draft : Draft) (templates : List Value) :
    Validation.Checked Task.Parts :=
  let checked :=
    Validation.both (Validation.integer "pom_modified_timestamp" draft.timestamp)
      (Validation.both (Validation.path "generator_location" draft.source)
        (Validation.both (Validation.paths "template_locations" templates)
          (Validation.both (Validation.path "output_dir" draft.folder)
            (Validation.both
              (Validation.entries heap "data_model" (fun _ value => .ok value) draft.model)
              (Validation.integer "file_mode" draft.mode)))))
  checked.map fun (timestamp, source, templates, folder, entries, mode) =>
    { timestamp, source, templates, folder, entries, mode }

/-- Make the task. -/
def create (draft : Draft) : Act Task := do
  require draft.timestamp .noTimestamp
  require draft.source (.noPart "generator_location")
  require draft.templates (.noPart "template_locations")
  require draft.folder (.noPart "output_dir")
  require draft.model (.noPart "data_model")
  let heap ← Act.heap
  match draft.templates.membersOf heap with
  | .error fault => Act.fail fault
  | .ok templates =>
    match draft.check heap templates with
    | .error complaints => Act.fail (.invalid complaints)
    | .ok parts => Act.onMachine (Task.ofParts parts)

end Draft

end Stencil

import Stencil.Task.Draft

/-!
# Readers of data files

A reader interprets a data file and adds what it finds to the draft of a task.  The
reader of entities only looks at the name of a file.
-/

namespace Stencil

/-- A reader that is not one of the library's own. -/
structure Plugin where
  name : String
  contribute : Path → Draft → Act Draft

/-- A reader of data files. -/
inductive Reader
  | entity
  | yaml
  | plugin (custom : Plugin)

namespace Reader

/-- The name of the kind of a reader. -/
def name : Reader → String
  | .entity => "EntityParser"
  | .yaml => "YamlDataParser"
  | .plugin custom => custom.name

/-- The key that a data file's entity is put under. -/
def entityKey : Value := Value.ofString "entityName"

/-- Add the entity that a file names. -/
def contributeEntity (path : Path) (draft : Draft) : Act Draft := do
  let name ← Act.lift (Naming.entityName path)
  draft.add entityKey (Value.ofString name)

end Reader

end Stencil

import Stencil.Reader.Basic
import Stencil.Yaml.Values

/-!
# What readers contribute

The reader of YAML files adds every key of the mapping that a file holds.  The entity
is named by the file unless the mapping names it.
-/

namespace Stencil.Reader

/-- The failure that a fault of a data file leads to. -/
def failureOf (path : Path) : Fault → Failure
  | .system fault => .uninterpretable path (.unreadable (.system fault))
  | .document stage => .uninterpretable path (.malformed (.document stage))
  | fault => .unforeseen fault

/-- The value that a YAML file holds. -/
def readDocument (files : Files.Tree) (heap : Heap) (path : Path) :
    Except Fault (Value × Heap) := do
  let bytes ← files.read path
  match Text.decode? bytes with
  | none => .error .undecodable
  | some characters => Yaml.read heap (Text.unifyLineEnds characters)

/-- The entries of the mapping that a YAML file holds; an empty file holds none. -/
def documentEntries (path : Path) : Act (List (Value × Value)) := do
  let world ← get
  match readDocument world.files world.machine.heap path with
  | .error fault => throw (failureOf path fault)
  | .ok (value, heap) =>
    set { world with machine := { world.machine with heap } }
    match value with
    | .none => return []
    | .dict ref => return heap.entries ref
    | _ => throw (.uninterpretable path .noMapping)

/-- Add entries whose keys are shown plainly. -/
def addEntries (draft : Draft) : List (Value × Value) → Act Draft
  | [] => return draft
  | (key, value) :: rest => do
    let name ← Act.lift (Failure.ofFault (Value.plain (← Act.heap) .none key))
    addEntries (← draft.add (.text name) value) rest

/-- Add the entries of a YAML file. -/
def contributeDocument (path : Path) (draft : Draft) : Act Draft := do
  let entries ← documentEntries path
  let draft ← draft.add entityKey (Value.ofString path.stem)
  let draft ← addEntries draft entries
  Act.detail ("Loaded " ++ toString entries.length ++ " key(s) from " ++ path.text)
  return draft

/-- Add what a reader finds in a data file. -/
def contribute : Reader → Path → Draft → Act Draft
  | .entity => contributeEntity
  | .yaml => contributeDocument
  | .plugin custom => custom.contribute

end Stencil.Reader

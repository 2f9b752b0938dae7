import Stencil.Project
import Stencil.Settings.Basic
import Stencil.Value.Members

/-!
# Loading settings

Settings that are given for a run come before those of the project's descriptor, and
these before the environment and the defaults.  Readers that are given for a run are
added to those of the descriptor.
-/

namespace Stencil.Settings

open Data (Item Table)

/-- Items as values by name, stored on a heap. -/
def storeTable (heap : Heap) : Table → Given × Heap
  | [] => ([], heap)
  | (name, item) :: rest =>
    let (value, heap) := item.store heap
    let (given, heap) := storeTable heap rest
    ((name, value) :: given, heap)

/-- The references to readers in a descriptor. -/
def configuredExtensions (table : Table) : Except Failure Table :=
  match table.lookup "extensions" with
  | none => .ok []
  | some (.table entries) => .ok entries
  | some item =>
    if item.isTrue then .error (.config .extensionsNoTable) else .ok []

/-- A key and a value that are given as a pair. -/
def pairOf (heap : Heap) (item : Value) : Except Fault (Value × Value) := do
  match ← item.membersOf heap with
  | [key, value] =>
    Value.checkKey key
    return (key, value)
  | _ => .error .wrongValue

/-- The entries that a value gives: those of a mapping, or members that are pairs. -/
def entriesOf (heap : Heap) : Value → Except Fault (List (Value × Value))
  | .dict ref => .ok (heap.entries ref)
  | value => do (← value.membersOf heap).mapM (pairOf heap)

/-- The references to readers that are given for a run; what counts as nothing gives none. -/
def overridingEntries (heap : Heap) : Option Value → Except Fault (List (Value × Value))
  | none => .ok []
  | some value => if value.isTrue heap then entriesOf heap value else .ok []

/-- Values with all references to readers; without any, they are left as they are. -/
def withExtensions (heap : Heap) (given : Given) (table : Table) (override : Option Value) :
    Except Failure (Given × Heap) := do
  let configured ← configuredExtensions table
  let (entries, heap) := Data.storeEntries heap configured
  let overriding ← Failure.ofFault (overridingEntries heap override)
  let entries ← Failure.ofFault (heap.insertAll entries overriding)
  if entries.isEmpty then
    return (given, heap)
  else
    let (ref, heap) := heap.allocate (.dict entries)
    return (put "extensions" (.dict ref) given, heap)

/-- Whether a value has been given. -/
def isGiven : Value → Bool
  | .none => false
  | _ => true

/-- Load the settings of the project at a root directory. -/
def load (environment : List (String × String)) (root : Path) (overrides : Given) :
    Act Settings := do
  let world ← get
  let table ← Act.lift (Project.settingsTable world.files root)
  let (given, heap) := storeTable world.machine.heap table
  let (given, heap) ←
    Act.lift (withExtensions heap given table (overrides.lookup "extensions"))
  let others := overrides.filter fun (name, value) => name != "extensions" && isGiven value
  let given := others.foldl (fun given (name, value) => put name value given) given
  match make heap environment given with
  | .ok settings => return settings.anchor root
  | .error (.invalid complaints) => throw (.config (.invalidSettings complaints))
  | .error fault => throw (.unforeseen fault)

end Stencil.Settings

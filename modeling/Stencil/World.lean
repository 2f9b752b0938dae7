import Stencil.Failure
import Stencil.Files.Writer
import Stencil.Template.Machine

/-!
# What a run works on

A run changes a file tree and the machine that templates run on, and it gives notice
of what it does.  Everything that it does is an act: it may stop with a failure and
then leaves things as they are at that point.
-/

namespace Stencil

/-- A notice of what a run does. -/
inductive Notice
  /-- A notice for those who look closely. -/
  | detail (text : String)
  | report (text : String)
  | failure (failure : Failure)
deriving DecidableEq

/-- What a run works on. -/
structure World where
  files : Files.Tree
  machine : Template.Machine := {}
  /-- The notices that were given, latest first. -/
  notices : List Notice := []

/-- A part of a run. -/
abbrev Act := EStateM Failure World

namespace Act

/-- A change of the files. -/
def onFiles {α : Type} (change : Files.Change α) : Act α := fun world =>
  match change.run world.files with
  | .ok result files => .ok result { world with files }
  | .error fault files => .error (.unforeseen fault) { world with files }

/-- An answer about the files. -/
def askFiles {α : Type} (question : Files.Tree → Except Fault α) : Act α :=
  onFiles (Files.Change.ask question)

/-- A computation on the machine. -/
def onMachine {α : Type} (run : Template.Run α) : Act α := fun world =>
  match run.run world.machine with
  | .ok result machine => .ok result { world with machine }
  | .error fault machine => .error (.unforeseen fault) { world with machine }

theorem onMachine_error {α : Type} {run : Template.Run α} {world after : World}
    {failure : Failure} (failed : onMachine run world = .error failure after) :
    ∃ fault, failure = .unforeseen fault := by
  unfold onMachine at failed
  split at failed <;> cases failed
  exact ⟨_, rfl⟩

/-- A result that is already there. -/
def lift {α : Type} : Except Failure α → Act α
  | .ok result => pure result
  | .error failure => throw failure

/-- Stop with a fault that no part of a run is prepared for. -/
def fail {α : Type} (fault : Fault) : Act α :=
  throw (.unforeseen fault)

/-- Put another failure for a fault that no part of a run is prepared for. -/
def naming {α : Type} (name : Fault → Failure) (act : Act α) : Act α :=
  tryCatch act fun failure =>
    match failure with
    | .unforeseen fault => throw (name fault)
    | failure => throw failure

/-- Give notice. -/
def notify (notice : Notice) : Act Unit :=
  modify fun world => { world with notices := notice :: world.notices }

/-- Give notice to those who look closely. -/
def detail (text : String) : Act Unit :=
  notify (.detail text)

/-- The machine that templates run on. -/
def machine : Act Template.Machine := do
  return (← get).machine

/-- The shared containers. -/
def heap : Act Heap := do
  return (← get).machine.heap

end Act

end Stencil

import Stencil.Template.Machine

/-!
# What a rendering leaves behind

Rendering makes containers, scopes and objects that nothing refers to once the output is
written.  A machine can be taken back to an earlier state of it, except that the containers
of then hold what they hold now.  This is done where nobody can tell: the old containers
refer to old ones only, and no module is kept that could have changed since it was made.
Templates are forgotten as well and read again when they are needed.
-/

namespace Stencil

mutual

/-- Whether a value refers to containers before a place only, and to no objects. -/
def Value.isBefore (bound : Ref) : Value → Bool
  | .tuple items => Value.areBefore bound items
  | .group key members => key.isBefore bound && decide (members < bound)
  | .list ref => decide (ref < bound)
  | .dict ref => decide (ref < bound)
  | .set ref => decide (ref < bound)
  | .view _ ref => decide (ref < bound)
  | .method receiver _ => receiver.isBefore bound
  | .object _ => false
  | _ => true

def Value.areBefore (bound : Ref) : List Value → Bool
  | [] => true
  | value :: values => value.isBefore bound && Value.areBefore bound values

end

/-- Whether the content of a container refers to containers before a place only. -/
def Cell.isBefore (bound : Ref) : Cell → Bool
  | .list items => items.all (Value.isBefore bound)
  | .dict entries => entries.all fun (key, value) => key.isBefore bound && value.isBefore bound
  | .set members => members.all (Value.isBefore bound)

namespace Template

/-- A step that leaves a module nothing that could change later. -/
def Step.isConstant : Step → Bool
  | .emit .. => true
  | .routine .. => true
  | .assign _ (.constant _) _ => true
  | .importAs _ _ _ _ none => true
  | .importNames _ _ _ _ none => true
  | _ => false

/-- Whether the module of a template stays as it is, whatever is done with it. -/
def Program.isLibrary (program : Program) : Bool :=
  !program.extends_ && program.main.body.all Step.isConstant

/-- Whether a template could as well be loaded again. -/
def LoadedTemplate.isReplaceable (loaded : LoadedTemplate) : Bool :=
  loaded.defaultModule.isNone || loaded.program.isLibrary

namespace Machine

/-- The containers that were there before a place. -/
def oldCells (machine : Machine) (bound : Ref) : Array Cell :=
  machine.heap.cells.extract 0 bound

/-- Whether nothing but old containers is needed any more. -/
def isSettled (machine : Machine) (bound : Ref) : Bool :=
  (machine.oldCells bound).all (Cell.isBefore bound) &&
    machine.templates.all LoadedTemplate.isReplaceable

/-- A machine as it was earlier, with what its containers hold now, unless more is needed. -/
def reclaim (machine earlier : Machine) : Machine :=
  let bound := earlier.heap.cells.size
  if machine.isSettled bound then
    { earlier with heap := ⟨machine.oldCells bound⟩, engines := machine.engines }
  else machine

/-- The old containers hold what they held. -/
theorem get_reclaim (machine earlier : Machine) {ref : Ref}
    (isOld : ref < earlier.heap.cells.size) :
    (machine.reclaim earlier).heap.get ref = machine.heap.get ref := by
  unfold reclaim
  dsimp only
  split
  · simp only [Heap.get, oldCells, Array.getD_eq_getD_getElem?, Array.getElem?_extract]
    split
    · rw [Nat.zero_add]
    · next missing =>
      rw [Nat.sub_zero, Nat.lt_min, not_and, Nat.not_lt] at missing
      rw [Array.getElem?_eq_none (missing isOld)]
  · rfl

/-- What is settled and has changed no old container is taken back as a whole. -/
theorem reclaim_eq {machine earlier : Machine}
    (settled : machine.isSettled earlier.heap.cells.size = true)
    (cells : machine.oldCells earlier.heap.cells.size = earlier.heap.cells)
    (engines : machine.engines = earlier.engines) : machine.reclaim earlier = earlier := by
  unfold reclaim
  dsimp only
  rw [if_pos settled, cells, engines]

end Machine

namespace Run

/-- Drop what is not needed any more of what came after an earlier state. -/
def reclaim (earlier : Machine) : Run Unit :=
  modify fun machine => machine.reclaim earlier

end Run

end Template

end Stencil

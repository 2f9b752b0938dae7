import Stencil.Proofs.Outcome
import Stencil.Value.Display

/-!
# Values that cannot be shown

Where no templates run, a value is only not shown if an integer in it has too many digits
or if it is nested too deeply.
-/

namespace Stencil

/-- A fault of showing a value. -/
inductive Fault.OfDisplay : Fault → Prop
  | wrongValue : OfDisplay .wrongValue
  | tooDeep : OfDisplay .tooDeep

namespace Value

/-- An integer of too many digits to be shown; the sign is no digit. -/
def IsLong : Value → Prop
  | .int number =>
    Number.digitLimit + (if number < 0 then 1 else 0) < (Number.integerText number).length
  | _ => False

theorem integerDisplay_eq_error_iff {number : Int} {fault : Fault} :
    integerDisplay number = .error fault ↔ (Value.int number).IsLong ∧ fault = .wrongValue := by
  rw [integerDisplay, IsLong]
  generalize Number.digitLimit + (if number < 0 then 1 else 0) = limit
  by_cases long : limit < (Number.integerText number).length
  · simp [long, eq_comm]
  · simp [long]

private theorem failsOnly_integerDisplay (number : Int) :
    FailsOnly Fault.OfDisplay (integerDisplay number) := by
  intro fault failed
  obtain ⟨-, rfl⟩ := integerDisplay_eq_error_iff.mp failed
  exact .wrongValue

theorem failsOnly_literalWithin (heap : Heap) (fuel : Nat) (around : List Ref) (value : Value) :
    FailsOnly Fault.OfDisplay (literalWithin heap .none fuel around value) := by
  induction fuel generalizing around value with
  | zero => exact .error .tooDeep
  | succ fuel ih =>
    have each (around : List Ref) (items : List Value) :
        FailsOnly Fault.OfDisplay (items.mapM (literalWithin heap .none fuel around)) :=
      .mapM fun item _ => ih around item
    unfold literalWithin
    cases value with
    | int number => exact failsOnly_integerDisplay number
    | tuple items => exact .bind (each _ _) fun _ => .ok _
    | group key members => exact .bind (ih _ _) fun _ => .bind (ih _ _) fun _ => .ok _
    | list ref => exact .ite (.ok _) (.bind (each _ _) fun _ => .ok _)
    | dict ref =>
      refine .ite (.ok _) (.bind (.mapM fun entry _ => ?_) fun _ => .ok _)
      exact .bind (ih _ _) fun _ => .bind (ih _ _) fun _ => .ok _
    | set ref =>
      dsimp only
      split
      · exact .ok _
      · exact .bind (each _ _) fun _ => .ok _
    | range start stop step =>
      refine .bind (.mapM fun bound member => ?_) fun _ => .ok _
      rcases List.mem_append.mp member with first | last
      · rcases List.mem_cons.mp first with rfl | second
        · exact failsOnly_integerDisplay start
        · rw [List.mem_singleton.mp second]
          exact failsOnly_integerDisplay stop
      · split at last
        · cases last
        · rw [List.mem_singleton.mp last]
          exact failsOnly_integerDisplay step
    | view kind ref => exact .ite (.ok _) (.bind (each _ _) fun _ => .ok _)
    | _ => exact .ok _

end Value

end Stencil

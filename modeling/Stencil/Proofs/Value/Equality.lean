import Stencil.Proofs.Outcome
import Stencil.Value.Equality

/-!
# Faults of comparing values

Values cannot be compared where one of them is not defined, or where they are nested too
deeply.  Entries cannot be put under values that may change, either.
-/

namespace Stencil

open Outcome

/-- A fault of comparing values, or of taking one for a key. -/
inductive Fault.Compares : Fault → Prop
  | tooDeep : Compares .tooDeep
  | undefinedValue (text : String) : Compares (.undefinedValue text)
  | wrongType : Compares .wrongType

namespace Value

variable {equal : Value → Value → Except Fault Bool} {kind : Fault → Prop}

section Members

variable (each : ∀ left right, FailsOnly kind (equal left right))

include each

theorem failsOnly_allPairs (lefts rights : List Value) :
    FailsOnly kind (allPairs equal lefts rights) := by
  induction lefts generalizing rights with
  | nil => cases rights <;> exact .ok _
  | cons left lefts ih =>
    cases rights with
    | nil => exact .ok false
    | cons right rights =>
      refine .bind (each left right) fun same => ?_
      cases same
      · exact .ok false
      · exact ih rights

theorem failsOnly_anyEqual (wanted : Value) (members : List Value) :
    FailsOnly kind (anyEqual equal wanted members) := by
  induction members with
  | nil => exact .ok false
  | cons member members ih =>
    refine .bind (each member wanted) fun same => ?_
    cases same
    · exact ih
    · exact .ok true

theorem failsOnly_lookup (key : Value) (entries : List (Value × Value)) :
    FailsOnly kind (lookup equal key entries) := by
  induction entries with
  | nil => exact .ok Option.none
  | cons entry entries ih =>
    rcases entry with ⟨known, value⟩
    refine .bind (each known key) fun same => ?_
    cases same
    · exact ih
    · exact .ok (some value)

theorem failsOnly_entriesWithin (others entries : List (Value × Value)) :
    FailsOnly kind (entriesWithin equal others entries) := by
  induction entries with
  | nil => exact .ok true
  | cons entry entries ih =>
    rcases entry with ⟨key, value⟩
    refine .bind (failsOnly_lookup each key others) fun found => ?_
    cases found with
    | none => exact .ok false
    | some other =>
      refine .bind (each value other) fun same => ?_
      cases same
      · exact .ok false
      · exact ih

theorem failsOnly_membersWithin (others members : List Value) :
    FailsOnly kind (membersWithin equal others members) := by
  induction members with
  | nil => exact .ok true
  | cons member members ih =>
    refine .bind (failsOnly_anyEqual each member others) fun same => ?_
    cases same
    · exact .ok false
    · exact ih

end Members

theorem failsOnly_equalWithin (heap : Heap) (fuel : Nat) (left right : Value) :
    FailsOnly Fault.Compares (equalWithin heap fuel left right) := by
  induction fuel generalizing left right with
  | zero => exact .error .tooDeep
  | succ fuel ih =>
    have inner : ∀ left right : Value, FailsOnly Fault.Compares
        (if samePlace left right then .ok true else equalWithin heap fuel left right) := by
      intro left right
      split
      · exact .ok true
      · exact ih left right
    unfold equalWithin
    dsimp only
    repeat' split
    all_goals first
      | exact .ok _
      | exact .error (.undefinedValue _)
      | exact ih _ _
      | exact failsOnly_allPairs inner _ _
      | exact failsOnly_entriesWithin inner _ _
      | exact failsOnly_membersWithin inner _ _

theorem failsOnly_equalMember (heap : Heap) (left right : Value) :
    FailsOnly Fault.Compares (equalMember heap left right) := by
  unfold equalMember
  split
  · exact .ok true
  · exact failsOnly_equalWithin heap nestingLimit left right

mutual

theorem failsOnly_checkKey (key : Value) : FailsOnly Fault.Compares (checkKey key) := by
  cases key with
  | tuple items => exact failsOnly_checkKeys items
  | undefined missing =>
    rcases missing with ⟨strict, text⟩
    cases strict
    · exact .ok ()
    · exact .error (.undefinedValue _)
  | list ref => exact .error .wrongType
  | dict ref => exact .error .wrongType
  | set ref => exact .error .wrongType
  | view kind ref => exact .error .wrongType
  | group key members => exact .error .wrongType
  | _ => exact .ok ()
termination_by sizeOf key

theorem failsOnly_checkKeys (items : List Value) :
    FailsOnly Fault.Compares (checkKey.checkKeys items) := by
  cases items with
  | nil => exact .ok ()
  | cons item items =>
    exact .bind (failsOnly_checkKey item) fun _ => failsOnly_checkKeys items
termination_by sizeOf items

end

end Value

namespace Heap

theorem failsOnly_insertEntry (heap : Heap) (key value : Value) (entries : List (Value × Value)) :
    FailsOnly Fault.Compares (heap.insertEntry key value entries) := by
  induction entries with
  | nil => exact .ok _
  | cons entry entries ih =>
    rcases entry with ⟨known, old⟩
    refine .bind (Value.failsOnly_equalMember heap known key) fun same => ?_
    cases same
    · exact .bind ih fun rest => .ok ((known, old) :: rest)
    · exact .ok _

theorem failsOnly_insertAll (heap : Heap) (entries more : List (Value × Value)) :
    FailsOnly Fault.Compares (heap.insertAll entries more) := by
  induction more generalizing entries with
  | nil => exact .ok entries
  | cons entry more ih =>
    rcases entry with ⟨key, value⟩
    refine .bind ?_ fun between => ih between
    exact .bind (Value.failsOnly_checkKey key) fun _ =>
      failsOnly_insertEntry heap key value entries

end Heap

end Stencil

import Stencil.Template.Operator

/-!
# Positions in sequences

Indices count from the end where they are negative.  Bounds of slices are cut to the
sequence, and a slice with a negative step runs backward.
-/

namespace Stencil.Template

open Run

/-- The place that an index means. -/
def placeOf? (length : Nat) (index : Int) : Option Nat :=
  let index := if index < 0 then index + length else index
  if 0 ≤ index && index < length then some index.toNat else none

/-- A bound cut to a sequence. -/
def clampBound (length : Nat) (bound : Int) : Nat :=
  let bound := if bound < 0 then bound + length else bound
  min length bound.toNat

/-- The members between two bounds, and where they start; nothing where the bounds are crossed. -/
def between {α : Type} (start stop : Option Int) (items : List α) : Option (Nat × List α) :=
  let length := items.length
  let first : Int :=
    match start with
    | none => 0
    | some start => if start < 0 then max 0 (start + length) else start
  let last : Nat :=
    match stop with
    | none => length
    | some stop => clampBound length stop
  if first ≤ (last : Int) then some (first.toNat, (items.take last).drop first.toNat)
  else none

/-- Where a slice starts and stops, and its step. -/
structure SliceBounds where
  start : Int
  stop : Int
  step : Int

/-- The bounds of a slice of a sequence. -/
def sliceBounds (length : Nat) (start stop : Option Int) (step : Int) : SliceBounds :=
  let low : Int := if step < 0 then -1 else 0
  let high : Int := if step < 0 then (length : Int) - 1 else length
  let cut := fun (bound : Option Int) (default : Int) =>
    match bound with
    | none => default
    | some bound =>
      if bound < 0 then max low (bound + length) else min high bound
  if step < 0 then ⟨cut start high, cut stop low, step⟩
  else ⟨cut start low, cut stop high, step⟩

/-- The members of a slice. -/
def sliceItems {α : Type} (bounds : SliceBounds) (items : List α) : List α :=
  let array := items.toArray
  let count := Value.rangeLength bounds.start bounds.stop bounds.step
  (List.range count).filterMap fun (index : Nat) =>
    array[(bounds.start + bounds.step * index).toNat]?

/-- A bound of a slice: an integer or none. -/
def sliceBound (value : Value) : Run (Option Int) := do
  match value with
  | .none => return none
  | value =>
    match integer? value with
    | some integer => return some integer
    | none => wrongType

/-- The members of a value between the bounds of a slice. -/
def sliceValue (value start stop step : Value) : Run Value := do
  let bounds := fun (length : Nat) => do
    let step := (← sliceBound step).getD 1
    if step == 0 then
      wrongValue
    return sliceBounds length (← sliceBound start) (← sliceBound stop) step
  match value with
  | .text content => return .text (sliceItems (← bounds content.length) content)
  | .markup content => return .markup (sliceItems (← bounds content.length) content)
  | .bytes content => return .bytes (sliceItems (← bounds content.length) content)
  | .tuple items => return .tuple (sliceItems (← bounds items.length) items)
  | .group key members =>
    let items := [key, .list members]
    return .tuple (sliceItems (← bounds 2) items)
  | .list ref =>
    let items ← items ref
    newList (sliceItems (← bounds items.length) items)
  | .range first last step =>
    let length := Value.rangeLength first last step
    let cut ← bounds length
    return .range (first + cut.start * step) (first + cut.stop * step) (step * cut.step)
  | .undefined missing => throw (.undefinedValue missing.message)
  | value => refuseType value

/-- The member of a list at an index. -/
def memberAt {α : Type} (items : List α) (index : Value) : Run α :=
  match integer? index with
  | some place =>
    match (placeOf? items.length place).bind fun place => items[place]? with
    | some item => return item
    | none => throw .outOfRange
  | none => wrongType

/-- The member of a value at an index or under a key. -/
def itemOf (value index : Value) : Run Value := do
  match value with
  | .text content => return .text [← memberAt content index]
  | .markup content => return .markup [← memberAt content index]
  | .bytes content => return .int (← memberAt content index).toNat
  | .tuple items => memberAt items index
  | .group key members => memberAt [key, .list members] index
  | .list ref => memberAt (← items ref) index
  | .dict ref =>
    let entries ← entries ref
    match ← onHeap fun heap => heap.find? entries index with
    | some value => return value
    | none => throw .missingKey
  | .range start stop step =>
    match integer? index with
    | some place =>
      match placeOf? (Value.rangeLength start stop step) place with
      | some place => return .int (start + step * place)
      | none => throw .outOfRange
    | none => wrongType
  | .undefined missing => throw (.undefinedValue missing.message)
  | .object place =>
    match ← object place with
    | .selfReference context =>
      match index.text? with
      | some name =>
        match (← Run.context context).blocks.lookup name.string with
        | some stack => return .object (← newObject (.blockReference name.string context stack 0))
        | none => throw .missingKey
      | none => throw .missingKey
    | _ => wrongType
  | _ => wrongType

end Stencil.Template

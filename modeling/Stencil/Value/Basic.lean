import Stencil.Calendar
import Stencil.Path
import Stencil.Text.CodePoint

/-!
# Values

The values that data files, settings and templates work with.  Lists, mappings and
sets are shared and may change, so a value only refers to them; all other values
are what they show.
-/

namespace Stencil

/-- The place of a shared list, mapping or set. -/
abbrev Ref := Nat

/-- Which part of a mapping a view shows. -/
inductive ViewKind
  | keys
  | values
  | items
deriving DecidableEq

/-- The callable names that every template knows. -/
inductive StandardName
  | range
  | dict
  | lipsum
  | cycler
  | joiner
  | namespace_
deriving DecidableEq

/-- A missing value: a strict one refuses nearly every use. -/
structure Undefined where
  strict : Bool
  message : String
deriving DecidableEq

/-- A value. -/
inductive Value
  | none
  | bool (flag : Bool)
  | int (integer : Int)
  | float (float : Float)
  | text (text : Text)
  /-- Text that is safe to show without escaping. -/
  | markup (text : Text)
  | bytes (bytes : List UInt8)
  | date (date : Calendar.Date)
  | time (time : Calendar.TimeOfDay)
  | moment (moment : Calendar.Moment)
  | path (path : Path)
  | tuple (items : List Value)
  /-- A key and the list of the items that share it. -/
  | group (key : Value) (members : Ref)
  | list (ref : Ref)
  | dict (ref : Ref)
  | set (ref : Ref)
  | range (start stop step : Int)
  | view (kind : ViewKind) (ref : Ref)
  | undefined (missing : Undefined)
  | standard (name : StandardName)
  /-- An operation of a value, not yet called. -/
  | method (receiver : Value) (name : String)
  /-- An object of a running template. -/
  | object (place : Nat)
deriving Inhabited

/-- The content of a shared container. -/
inductive Cell
  | list (items : List Value)
  | dict (entries : List (Value × Value))
  | set (members : List Value)
deriving Inhabited

/-- All shared containers, in order of creation. -/
structure Heap where
  cells : Array Cell := #[]
deriving Inhabited

namespace Heap

/-- The content at a place. -/
def get (heap : Heap) (ref : Ref) : Cell :=
  heap.cells.getD ref default

/-- Change the content at a place. -/
def set (heap : Heap) (ref : Ref) (cell : Cell) : Heap :=
  ⟨heap.cells.setIfInBounds ref cell⟩

/-- A new container. -/
def allocate (heap : Heap) (cell : Cell) : Ref × Heap :=
  (heap.cells.size, ⟨heap.cells.push cell⟩)

/-- The items of a list. -/
def items (heap : Heap) (ref : Ref) : List Value :=
  match heap.get ref with
  | .list items => items
  | _ => []

/-- The entries of a mapping in order of insertion. -/
def entries (heap : Heap) (ref : Ref) : List (Value × Value) :=
  match heap.get ref with
  | .dict entries => entries
  | _ => []

/-- The members of a set. -/
def members (heap : Heap) (ref : Ref) : List Value :=
  match heap.get ref with
  | .set members => members
  | _ => []

theorem get_allocate (heap : Heap) (cell : Cell) :
    (heap.allocate cell).2.get (heap.allocate cell).1 = cell := by
  simp [allocate, get]

theorem get_set_of_ne (heap : Heap) {ref other : Ref} (cell : Cell) (distinct : ref ≠ other) :
    (heap.set ref cell).get other = heap.get other := by
  simp [Heap.set, get, distinct]

end Heap

namespace Value

/-- The text value of a string. -/
def ofString (string : String) : Value :=
  .text (Text.ofString string)

/-- The text value of characters. -/
def ofChars (characters : List Char) : Value :=
  .text (Text.ofChars characters)

/-- The name of a value's type in messages. -/
def typeName : Value → String
  | .none => "None"
  | .bool _ => "bool object"
  | .int _ => "int object"
  | .float _ => "float object"
  | .text _ => "str object"
  | .markup _ => "markupsafe.Markup object"
  | .bytes _ => "bytes object"
  | .date _ => "datetime.date object"
  | .time _ => "datetime.time object"
  | .moment _ => "datetime.datetime object"
  | .path _ => "pathlib.PosixPath object"
  | .tuple _ => "tuple object"
  | .group .. => "jinja2.filters._GroupTuple object"
  | .list _ => "list object"
  | .dict _ => "dict object"
  | .set _ => "set object"
  | .range .. => "range object"
  | .view .keys _ => "dict_keys object"
  | .view .values _ => "dict_values object"
  | .view .items _ => "dict_items object"
  | .undefined missing =>
    if missing.strict then "jinja2.runtime.StrictUndefined object"
    else "jinja2.runtime.Undefined object"
  | .standard .lipsum => "function object"
  | .standard _ => "type object"
  | .method .. => "builtin_function_or_method object"
  | .object _ => "object"

/-- Text of either kind. -/
def text? : Value → Option Text
  | .text content => some content
  | .markup content => some content
  | _ => Option.none

/-- The number of members of an arithmetic progression. -/
def rangeLength (start stop step : Int) : Nat :=
  if step > 0 then (Int.fdiv (stop - start + step - 1) step).toNat
  else if step < 0 then (Int.fdiv (start - stop - step - 1) (-step)).toNat
  else 0

/-- The members of an arithmetic progression. -/
def rangeItems (start stop step : Int) : List Value :=
  (List.range (rangeLength start stop step)).map fun (index : Nat) => .int (start + step * index)

end Value

end Stencil

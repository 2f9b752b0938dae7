import Stencil.Value.Display

/-!
# Items of written data

Written data is made of items: texts, flags, numbers, dates, lists and tables.  An item
becomes a value when its lists and tables are given places on a heap.
-/

namespace Stencil.Data

/-- An item of written data. -/
inductive Item
  | nothing
  | text (content : String)
  | flag (isSet : Bool)
  | integer (amount : Int)
  | real (amount : Float)
  | date (day : Calendar.Date)
  | time (clock : Calendar.TimeOfDay)
  | moment (instant : Calendar.Moment)
  | list (items : List Item)
  | table (entries : List (String × Item))
deriving Inhabited

/-- The entries of a table in order. -/
abbrev Table := List (String × Item)

mutual

/-- The value of an item, its lists and tables stored on a heap. -/
def Item.store (heap : Heap) : Item → Value × Heap
  | .nothing => (.none, heap)
  | .text content => (Value.ofString content, heap)
  | .flag isSet => (.bool isSet, heap)
  | .integer amount => (.int amount, heap)
  | .real amount => (.float amount, heap)
  | .date day => (.date day, heap)
  | .time clock => (.time clock, heap)
  | .moment instant => (.moment instant, heap)
  | .list items =>
    let (values, heap) := storeItems heap items
    let (ref, heap) := heap.allocate (.list values)
    (.list ref, heap)
  | .table entries =>
    let (values, heap) := storeEntries heap entries
    let (ref, heap) := heap.allocate (.dict values)
    (.dict ref, heap)

/-- The values of items in a row. -/
def storeItems (heap : Heap) : List Item → List Value × Heap
  | [] => ([], heap)
  | item :: items =>
    let (value, heap) := item.store heap
    let (values, heap) := storeItems heap items
    (value :: values, heap)

/-- The entries of a table with the values of its items. -/
def storeEntries (heap : Heap) : List (String × Item) → List (Value × Value) × Heap
  | [] => ([], heap)
  | (key, item) :: entries =>
    let (value, heap) := item.store heap
    let (values, heap) := storeEntries heap entries
    ((Value.ofString key, value) :: values, heap)

end

/-- An item shown plainly. -/
def Item.plain (item : Item) : Except Fault Text :=
  let (value, heap) := item.store {}
  Value.plain heap Value.ObjectDisplay.none value

/-- Whether an item counts as something: nothing, zeros and what is empty do not. -/
def Item.isTrue : Item → Bool
  | .nothing => false
  | .text content => !content.isEmpty
  | .flag isSet => isSet
  | .integer amount => amount != 0
  | .real amount => amount != 0
  | .list items => !items.isEmpty
  | .table entries => !entries.isEmpty
  | _ => true

end Stencil.Data

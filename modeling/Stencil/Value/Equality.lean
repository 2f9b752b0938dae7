import Stencil.Fault
import Stencil.Number.Exact
import Stencil.Value.Basic

/-!
# Equality of values and keys

Numbers are equal by amount whatever their type, texts by their characters, and
containers by their content.  Keys of mappings are values that cannot change.
-/

namespace Stencil

/-- How deeply containers may be nested before an operation gives up. -/
def nestingLimit : Nat := 900

namespace Value

/-- The amount of a number: flags count as zero and one. -/
inductive Amount
  | whole (integer : Int)
  | real (amount : Float)

def amount? : Value → Option Amount
  | .bool flag => some (.whole (if flag then 1 else 0))
  | .int integer => some (.whole integer)
  | .float amount => some (.real amount)
  | _ => Option.none

namespace Amount

/-- Compare two amounts; what is no number compares with nothing. -/
def compare? : Amount → Amount → Option Ordering
  | .whole left, .whole right => some (Ord.compare left right)
  | .whole left, .real right => Number.compareIntFloat? left right
  | .real left, .whole right => (Number.compareIntFloat? right left).map Ordering.swap
  | .real left, .real right => Number.compareFloats? left right

end Amount

/-- Combine comparisons of the members of two lists. -/
def allPairs
    (equal : Value → Value → Except Fault Bool) :
    List Value → List Value → Except Fault Bool
  | [], [] => .ok true
  | left :: lefts, right :: rights => do
    if ← equal left right then allPairs equal lefts rights else .ok false
  | _, _ => .ok false

/-- Whether some member of a list is equal to a value. -/
def anyEqual
    (equal : Value → Value → Except Fault Bool)
    (wanted : Value) :
    List Value → Except Fault Bool
  | [] => .ok false
  | member :: members => do
    if ← equal member wanted then .ok true else anyEqual equal wanted members

/-- The value stored under a key. -/
def lookup
    (equal : Value → Value → Except Fault Bool)
    (key : Value) :
    List (Value × Value) → Except Fault (Option Value)
  | [] => .ok Option.none
  | (known, value) :: entries => do
    if ← equal known key then .ok (some value) else lookup equal key entries

/-- Whether every entry of a mapping stands in another one too. -/
def entriesWithin
    (equal : Value → Value → Except Fault Bool)
    (others : List (Value × Value)) :
    List (Value × Value) → Except Fault Bool
  | [] => .ok true
  | (key, value) :: entries => do
    match ← lookup equal key others with
    | some other =>
      if ← equal value other then entriesWithin equal others entries else .ok false
    | Option.none => .ok false

/-- Whether every member of a list is equal to some member of another one. -/
def membersWithin
    (equal : Value → Value → Except Fault Bool)
    (others : List Value) :
    List Value → Except Fault Bool
  | [] => .ok true
  | member :: members => do
    if ← anyEqual equal member others then membersWithin equal others members else .ok false

/-- The members of values that count as tuples. -/
def tupleItems? : Value → Option (List Value)
  | .tuple items => some items
  | .group key members => some [key, .list members]
  | _ => Option.none

/-- The members of a set or of a view that behaves as a set. -/
def setMembers? (heap : Heap) : Value → Option (List Value)
  | .set ref => some (heap.members ref)
  | .view .keys ref => some ((heap.entries ref).map Prod.fst)
  | .view .items ref => some ((heap.entries ref).map fun (key, value) => .tuple [key, value])
  | _ => Option.none

/-- Whether two values are the same one, for values that have a place of their own. -/
def samePlace : Value → Value → Bool
  | .list left, .list right => left == right
  | .dict left, .dict right => left == right
  | .set left, .set right => left == right
  | .object left, .object right => left == right
  | _, _ => false

/-- Equality of values. -/
def equalWithin (heap : Heap) : (fuel : Nat) → Value → Value → Except Fault Bool
  | 0, _, _ => .error .tooDeep
  | fuel + 1, left, right =>
    let inner := fun left right =>
      if samePlace left right then .ok true else equalWithin heap fuel left right
    match left, right with
    | .undefined missing, other =>
      if missing.strict then .error (.undefinedValue missing.message)
      else
        match other with
        | .undefined missing =>
          if missing.strict then .error (.undefinedValue missing.message) else .ok true
        | _ => .ok false
    | _, .undefined missing =>
      if missing.strict then .error (.undefinedValue missing.message) else .ok false
    | .list left, .list right => allPairs inner (heap.items left) (heap.items right)
    | .dict left, .dict right =>
      let lefts := heap.entries left
      let rights := heap.entries right
      if lefts.length == rights.length then entriesWithin inner rights lefts else .ok false
    | .none, .none => .ok true
    | .bytes left, .bytes right => .ok (left == right)
    | .date left, .date right => .ok (left == right)
    | .time left, .time right => .ok (left == right)
    | .moment left, .moment right => .ok (left.compare? right == some .eq)
    | .path left, .path right => .ok (left == right)
    | .range start stop step, .range start' stop' step' =>
      let length := rangeLength start stop step
      let length' := rangeLength start' stop' step'
      .ok (length == length' &&
        (length == 0 || (start == start' && (length == 1 || step == step'))))
    | .view .values left, .view .values right => .ok (left == right)
    | .standard left, .standard right => .ok (left == right)
    | .method left name, .method right name' =>
      if name == name' then inner left right else .ok false
    | .object left, .object right => .ok (left == right)
    | left, right =>
      match left.text?, right.text? with
      | some left, some right => .ok (left == right)
      | _, _ =>
        match left.amount?, right.amount? with
        | some left, some right => .ok (left.compare? right == some .eq)
        | _, _ =>
          match left.tupleItems?, right.tupleItems? with
          | some lefts, some rights => allPairs inner lefts rights
          | _, _ =>
            match left.setMembers? heap, right.setMembers? heap with
            | some lefts, some rights =>
              if lefts.length == rights.length then membersWithin inner rights lefts
              else .ok false
            | _, _ => .ok false

/-- Whether two values are equal. -/
def equal (heap : Heap) (left right : Value) : Except Fault Bool :=
  equalWithin heap nestingLimit left right

/-- Members of containers also count as equal where they are the same one. -/
def equalMember (heap : Heap) (left right : Value) : Except Fault Bool :=
  if samePlace left right then .ok true else equal heap left right

/-- Values that can change have no fixed key; neither has a missing value. -/
def checkKey : Value → Except Fault Unit
  | .list _ => .error .wrongType
  | .dict _ => .error .wrongType
  | .set _ => .error .wrongType
  | .view _ _ => .error .wrongType
  | .group .. => .error .wrongType
  | .undefined missing =>
    if missing.strict then .error (.undefinedValue missing.message) else .ok ()
  | .tuple items => checkKeys items
  | _ => .ok ()
where
  checkKeys : List Value → Except Fault Unit
    | [] => .ok ()
    | item :: items => do
      checkKey item
      checkKeys items

end Value

namespace Heap

/-- The value under a key. -/
def find?
    (heap : Heap)
    (entries : List (Value × Value))
    (key : Value) : Except Fault (Option Value) := do
  Value.checkKey key
  Value.lookup (Value.equalMember heap) key entries

/-- Entries with one more key, or with the value of a known key changed. -/
def insertEntry
    (heap : Heap)
    (key value : Value) :
    List (Value × Value) → Except Fault (List (Value × Value))
  | [] => .ok [(key, value)]
  | (known, old) :: entries => do
    if ← Value.equalMember heap known key then
      .ok ((known, value) :: entries)
    else
      return (known, old) :: (← insertEntry heap key value entries)

/-- Put a value under a key. -/
def insert
    (heap : Heap)
    (entries : List (Value × Value))
    (key value : Value) : Except Fault (List (Value × Value)) := do
  Value.checkKey key
  heap.insertEntry key value entries

/-- Entries without a key. -/
def eraseEntry
    (heap : Heap)
    (key : Value) :
    List (Value × Value) → Except Fault (List (Value × Value))
  | [] => .ok []
  | (known, old) :: entries => do
    if ← Value.equalMember heap known key then
      .ok entries
    else
      return (known, old) :: (← eraseEntry heap key entries)

/-- Entries put one after the other. -/
def insertAll
    (heap : Heap)
    (entries : List (Value × Value)) :
    List (Value × Value) → Except Fault (List (Value × Value))
  | [] => .ok entries
  | (key, value) :: more => do
    heap.insertAll (← heap.insert entries key value) more

/-- Add a member to a set. -/
def addMember
    (heap : Heap)
    (members : List Value)
    (member : Value) : Except Fault (List Value) := do
  Value.checkKey member
  if ← Value.anyEqual (Value.equalMember heap) member members then
    return members
  else
    return members ++ [member]

end Heap

end Stencil

import Stencil.Value.Equality

/-!
# Order of values

Numbers compare by amount, texts and bytes by their elements, sequences by their
first difference, sets by inclusion.  All other comparisons are refused.
-/

namespace Stencil.Value

/-- The four order relations. -/
inductive Relation
  | less
  | lessEqual
  | greater
  | greaterEqual
deriving DecidableEq

namespace Relation

def accepts : Relation → Ordering → Bool
  | .less, .lt => true
  | .lessEqual, .lt => true
  | .lessEqual, .eq => true
  | .greater, .gt => true
  | .greaterEqual, .gt => true
  | .greaterEqual, .eq => true
  | _, _ => false

def acceptsOption (relation : Relation) (order : Option Ordering) : Bool :=
  match order with
  | some order => relation.accepts order
  | Option.none => false

end Relation

/-- Lexicographic order of bytes. -/
def compareBytes : List UInt8 → List UInt8 → Ordering
  | [], [] => .eq
  | [], _ :: _ => .lt
  | _ :: _, [] => .gt
  | left :: lefts, right :: rights =>
    if left < right then .lt else if right < left then .gt else compareBytes lefts rights

/-- Compare two sequences at their first difference, or by their lengths. -/
def relateItems
    (equal : Value → Value → Except Fault Bool)
    (relate : Value → Value → Except Fault Bool)
    (relation : Relation) :
    List Value → List Value → Except Fault Bool
  | [], [] => .ok (relation.accepts .eq)
  | [], _ :: _ => .ok (relation.accepts .lt)
  | _ :: _, [] => .ok (relation.accepts .gt)
  | left :: lefts, right :: rights => do
    if ← equal left right then
      relateItems equal relate relation lefts rights
    else
      relate left right

/-- Inclusion of sets. -/
def relateMembers
    (heap : Heap)
    (relation : Relation)
    (lefts rights : List Value) : Except Fault Bool := do
  let within := fun members others => membersWithin (equalMember heap) others members
  match relation with
  | .less => return lefts.length < rights.length && (← within lefts rights)
  | .lessEqual => return lefts.length ≤ rights.length && (← within lefts rights)
  | .greater => return rights.length < lefts.length && (← within rights lefts)
  | .greaterEqual => return rights.length ≤ lefts.length && (← within rights lefts)

/-- Compare the names of two paths. -/
def compareNames : List String → List String → Ordering
  | [], [] => .eq
  | [], _ :: _ => .lt
  | _ :: _, [] => .gt
  | left :: lefts, right :: rights =>
    match Text.compare (Text.ofString left) (Text.ofString right) with
    | .eq => compareNames lefts rights
    | order => order

/-- The names of a path with its root before them. -/
def pathOrderParts (path : Path) : List String :=
  match path.root with
  | .none => path.parts
  | root => root.text :: path.parts

/-- Whether two values stand in an order relation. -/
def relateWithin
    (heap : Heap) :
    (fuel : Nat) → Relation → Value → Value → Except Fault Bool
  | 0, _, _, _ => .error .tooDeep
  | fuel + 1, relation, left, right =>
    match left, right with
    | .undefined missing, _ => .error (.undefinedValue missing.message)
    | _, .undefined missing => .error (.undefinedValue missing.message)
    | .bytes left, .bytes right => .ok (relation.accepts (compareBytes left right))
    | .date left, .date right => .ok (relation.accepts (left.compare right))
    | .time left, .time right => .ok (relation.accepts (left.compare right))
    | .moment left, .moment right =>
      match left.compare? right with
      | some order => .ok (relation.accepts order)
      | Option.none => .error .wrongType
    | .path left, .path right =>
      .ok (relation.accepts (compareNames (pathOrderParts left) (pathOrderParts right)))
    | .list left, .list right =>
      relateItems (equalMember heap) (relateWithin heap fuel relation) relation
        (heap.items left) (heap.items right)
    | left, right =>
      match left.text?, right.text? with
      | some left, some right => .ok (relation.accepts (Text.compare left right))
      | _, _ =>
        match left.amount?, right.amount? with
        | some left, some right => .ok (relation.acceptsOption (left.compare? right))
        | _, _ =>
          match left.tupleItems?, right.tupleItems? with
          | some lefts, some rights =>
            relateItems (equalMember heap) (relateWithin heap fuel relation) relation
              lefts rights
          | _, _ =>
            match left.setMembers? heap, right.setMembers? heap with
            | some lefts, some rights => relateMembers heap relation lefts rights
            | _, _ => .error .wrongType

/-- Whether two values stand in an order relation. -/
def relate
    (heap : Heap)
    (relation : Relation)
    (left right : Value) : Except Fault Bool :=
  relateWithin heap nestingLimit relation left right

/-- The members that continue an ascending or a strictly descending run, and the rest. -/
def splitRun
    {α : Type}
    (less : Value → Value → Except Fault Bool)
    (key : α → Value)
    (descending : Bool) :
    α → List α → Except Fault (List α × List α)
  | _, [] => .ok ([], [])
  | previous, item :: items => do
    if (← less (key item) (key previous)) == descending then
      let (run, rest) ← splitRun less key descending item items
      return (item :: run, rest)
    else
      return ([], item :: items)

/-- The place of the first larger member, found by halving the range between two bounds. -/
def insertionPlace
    {α : Type}
    (less : Value → Value → Except Fault Bool)
    (key : α → Value)
    (item : α)
    (sorted : List α) :
    (fuel low high : Nat) → Except Fault Nat
  | 0, low, _ => .ok low
  | fuel + 1, low, high =>
    if low < high then
      let middle := low + (high - low) / 2
      match sorted[middle]? with
      | some member => do
        if ← less (key item) (key member) then
          insertionPlace less key item sorted fuel low middle
        else
          insertionPlace less key item sorted fuel (middle + 1) high
      | Option.none => .ok low
    else
      .ok low

/-- Insert into a sorted list before the first larger member. -/
def insertSorted
    {α : Type}
    (less : Value → Value → Except Fault Bool)
    (key : α → Value)
    (sorted : List α)
    (item : α) : Except Fault (List α) := do
  let length := sorted.length
  let place ← insertionPlace less key item sorted (length + 1) 0 length
  return sorted.take place ++ item :: sorted.drop place

/-- A stable sort by a key under a relation that may refuse to compare. -/
def sortBy
    {α : Type}
    (less : Value → Value → Except Fault Bool)
    (key : α → Value) :
    List α → Except Fault (List α)
  | [] => .ok []
  | [only] => .ok [only]
  | first :: second :: items => do
    let descending ← less (key second) (key first)
    let (run, rest) ← splitRun less key descending second items
    let run := first :: second :: run
    rest.foldlM (insertSorted less key) (if descending then run.reverse else run)

end Stencil.Value

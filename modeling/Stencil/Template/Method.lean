import Stencil.Template.TextMethod

/-!
# Methods of containers

What templates may ask of lists, mappings and sets.  They change in place, for everyone
who refers to them.
-/

namespace Stencil.Template

open Run

/-- A method of a container at a place. -/
abbrev CellMethod := Evaluator → Ref → Given → Run Value

/-- The only argument. -/
def onlyArgument (given : Given) : Run Value := do
  let arguments ← given.positionalOnly 1 1
  return arguments.getD 0 .none

def noArguments (given : Given) : Run Unit := do
  let _ ← given.positionalOnly 0 0
  return ()

def setItems (ref : Ref) (items : List Value) : Run Value := do
  changeCell ref (.list items)
  return .none

def setEntries (ref : Ref) (entries : List (Value × Value)) : Run Value := do
  changeCell ref (.dict entries)
  return .none

def setMembers (ref : Ref) (members : List Value) : Run Value := do
  changeCell ref (.set members)
  return .none

/-- The number of members equal to a value. -/
def countEqual (items : List Value) (wanted : Value) : Run Value := do
  let equal ← items.filterM fun item => equalMembers item wanted
  return .int equal.length

/-- The place of the first member equal to a value. -/
def indexOf (items : List Value) (given : Given) : Run Value := do
  let arguments ← given.positionalOnly 1 3
  let start ← optionalInteger arguments[1]?
  let stop ← optionalInteger arguments[2]?
  match between start stop items with
  | none => wrongValue
  | some (offset, part) =>
    let place ← repeatFrom (part, offset, false) fun (rest, place, found) => do
      match found, rest with
      | true, _ => return none
      | false, [] => return none
      | false, item :: rest =>
        if ← equalMembers item (arguments.getD 0 .none) then
          return some (rest, place, true)
        else
          return some (rest, place + 1, false)
    if place.2.2 then return .int place.2.1 else wrongValue

/-- Values in ascending order of their keys. -/
def sortedBy {α : Type} (key : α → Value) (reverse : Bool) (items : List α) : Run (List α) := do
  let less := fun (heap : Heap) (left right : Value) => left.relate heap .less right
  if reverse then
    let sorted ← onHeap fun heap => Value.sortBy (less heap) key items.reverse
    return sorted.reverse
  else
    onHeap fun heap => Value.sortBy (less heap) key items

/-- The methods of lists. -/
def listMethods : List (String × CellMethod) :=
  [("append", fun _ ref given => do
      let item ← onlyArgument given
      setItems ref ((← items ref) ++ [item])),
    ("clear", fun _ ref given => do
      noArguments given
      setItems ref []),
    ("copy", fun _ ref given => do
      noArguments given
      newList (← items ref)),
    ("count", fun _ ref given => do
      countEqual (← items ref) (← onlyArgument given)),
    ("extend", fun evaluator ref given => do
      let more ← members? evaluator (← onlyArgument given)
      setItems ref ((← items ref) ++ more)),
    ("index", fun _ ref given => do
      indexOf (← items ref) given),
    ("insert", fun _ ref given => do
      let arguments ← given.positionalOnly 2 2
      let items ← items ref
      let place := clampBound items.length (← integerArgument (arguments.getD 0 .none))
      setItems ref (items.take place ++ [arguments.getD 1 .none] ++ items.drop place)),
    ("pop", fun _ ref given => do
      let arguments ← given.positionalOnly 0 1
      let items ← items ref
      let place ← integerArgument (arguments.getD 0 (.int (-1)))
      match placeOf? items.length place with
      | some place =>
        let _ ← setItems ref (items.take place ++ items.drop (place + 1))
        return items.getD place .none
      | none => throw .outOfRange),
    ("remove", fun _ ref given => do
      let items ← items ref
      match ← indexOf items given with
      | .int place => setItems ref (items.take place.toNat ++ items.drop (place.toNat + 1))
      | _ => wrongValue),
    ("reverse", fun _ ref given => do
      noArguments given
      setItems ref (← items ref).reverse),
    ("sort", fun evaluator ref given => do
      let arguments ← given.bind [("key", some .none), ("reverse", some (.bool false))]
      if !given.positional.isEmpty then
        wrongType
      let items ← items ref
      let keys ←
        match arguments.getD 0 .none with
        | .none => pure items
        | function => items.mapM fun item => evaluator.call default function ⟨[item], []⟩
      let reverse ← integerArgument (arguments.getD 1 .none)
      let sorted ← sortedBy Prod.fst (reverse != 0) (keys.zip items)
      setItems ref (sorted.map Prod.snd))]

/-- The entries that a mapping or a list of pairs gives. -/
def entriesOf (evaluator : Evaluator) (value : Value) : Run (List (Value × Value)) := do
  match value with
  | .dict ref => entries ref
  | value =>
    let pairs ← members? evaluator value
    pairs.mapM fun pair => do
      match ← members? evaluator pair with
      | [key, value] => return (key, value)
      | _ => wrongValue

/-- Entries for named arguments. -/
def namedEntries (named : List (String × Value)) : List (Value × Value) :=
  named.map fun (name, value) => (Value.ofString name, value)

/-- The entries given by an optional mapping and by named arguments. -/
def givenEntries (evaluator : Evaluator) (given : Given) : Run (List (Value × Value)) := do
  let first ←
    match given.positional with
    | [] => pure []
    | [value] => entriesOf evaluator value
    | _ => wrongType
  return first ++ namedEntries given.named

def findEntry? (ref : Ref) (key : Value) : Run (Option Value) := do
  let entries ← entries ref
  onHeap fun heap => heap.find? entries key

def putEntry (ref : Ref) (key value : Value) : Run Value := do
  let entries ← entries ref
  setEntries ref (← onHeap fun heap => heap.insert entries key value)

/-- The methods of mappings. -/
def dictMethods : List (String × CellMethod) :=
  [("clear", fun _ ref given => do
      noArguments given
      setEntries ref []),
    ("copy", fun _ ref given => do
      noArguments given
      newDict (← entries ref)),
    ("fromkeys", fun evaluator _ given => do
      let arguments ← given.positionalOnly 1 2
      let keys ← members? evaluator (arguments.getD 0 .none)
      buildDict (keys.map fun key => (key, arguments.getD 1 .none))),
    ("get", fun _ ref given => do
      let arguments ← given.positionalOnly 1 2
      return (← findEntry? ref (arguments.getD 0 .none)).getD (arguments.getD 1 .none)),
    ("items", fun _ ref given => do
      noArguments given
      return .view .items ref),
    ("keys", fun _ ref given => do
      noArguments given
      return .view .keys ref),
    ("pop", fun _ ref given => do
      let arguments ← given.positionalOnly 1 2
      let key := arguments.getD 0 .none
      match ← findEntry? ref key with
      | some value =>
        let entries ← entries ref
        let _ ← setEntries ref (← onHeap fun heap => heap.eraseEntry key entries)
        return value
      | none =>
        match arguments[1]? with
        | some value => return value
        | none => throw .missingKey),
    ("popitem", fun _ ref given => do
      noArguments given
      let entries ← entries ref
      match entries.getLast? with
      | some (key, value) =>
        let _ ← setEntries ref entries.dropLast
        return .tuple [key, value]
      | none => throw .missingKey),
    ("setdefault", fun _ ref given => do
      let arguments ← given.positionalOnly 1 2
      let key := arguments.getD 0 .none
      match ← findEntry? ref key with
      | some value => return value
      | none =>
        let value := arguments.getD 1 .none
        let _ ← putEntry ref key value
        return value),
    ("update", fun evaluator ref given => do
      let more ← givenEntries evaluator given
      let entries ← entries ref
      setEntries ref (← onHeap fun heap => heap.insertAll entries more)),
    ("values", fun _ ref given => do
      noArguments given
      return .view .values ref)]

/-- Members put into a set one after the other. -/
def addMembers (members more : List Value) : Run (List Value) :=
  onHeap fun heap => more.foldlM (fun members member => heap.addMember members member) members

/-- Members that stand in another list too, or do not. -/
def keepMembers (members others : List Value) (keep : Bool) : Run (List Value) :=
  onHeap fun heap => members.filterM fun member => do
    return (← Value.anyEqual (Value.equalMember heap) member others) == keep

def setOperation
    (combine : List Value → List Value → Run (List Value))
    (inPlace : Bool) : CellMethod := fun evaluator ref given => do
  let others ← given.positional.mapM (members? evaluator)
  let start ← Run.members ref
  let result ← others.foldlM combine start
  if inPlace then setMembers ref result else newSet result

/-- The methods of sets. -/
def setMethods : List (String × CellMethod) :=
  [("add", fun _ ref given => do
      let member ← onlyArgument given
      setMembers ref (← addMembers (← Run.members ref) [member])),
    ("clear", fun _ ref given => do
      noArguments given
      setMembers ref []),
    ("copy", fun _ ref given => do
      noArguments given
      newSet (← Run.members ref)),
    ("difference", setOperation (fun left right => keepMembers left right false) false),
    ("difference_update", setOperation (fun left right => keepMembers left right false) true),
    ("discard", fun _ ref given => do
      let member ← onlyArgument given
      setMembers ref (← keepMembers (← Run.members ref) [member] false)),
    ("intersection", setOperation (fun left right => keepMembers left right true) false),
    ("intersection_update", setOperation (fun left right => keepMembers left right true) true),
    ("isdisjoint", fun evaluator ref given => do
      let others ← members? evaluator (← onlyArgument given)
      return .bool (← keepMembers (← Run.members ref) others true).isEmpty),
    ("issubset", fun evaluator ref given => do
      let others ← members? evaluator (← onlyArgument given)
      return .bool (← keepMembers (← Run.members ref) others false).isEmpty),
    ("issuperset", fun evaluator ref given => do
      let others ← members? evaluator (← onlyArgument given)
      return .bool (← keepMembers others (← Run.members ref) false).isEmpty),
    ("pop", fun _ ref given => do
      noArguments given
      match ← Run.members ref with
      | member :: rest =>
        let _ ← setMembers ref rest
        return member
      | [] => throw .missingKey),
    ("remove", fun _ ref given => do
      let member ← onlyArgument given
      let members ← Run.members ref
      let rest ← keepMembers members [member] false
      if rest.length == members.length then throw .missingKey else setMembers ref rest),
    ("symmetric_difference", setOperation (fun left right => do
      return (← keepMembers left right false) ++ (← keepMembers right left false)) false),
    ("symmetric_difference_update", setOperation (fun left right => do
      return (← keepMembers left right false) ++ (← keepMembers right left false)) true),
    ("union", setOperation addMembers false),
    ("update", setOperation addMembers true)]

end Stencil.Template

import Stencil.Template.Statement

/-!
# Scopes of names

Before a template runs, every name of a scope gets a slot.  A name that is only
read is looked up in the context when the scope is entered, a name that is also
stored starts from the slot of an outer scope or undefined, and a name stored in a
branch of a conditional falls back to what it was outside.
-/

namespace Stencil.Template

/-- A place for the value of a name at a level of nesting. -/
structure Slot where
  level : Nat
  name : String
deriving DecidableEq

/-- What a slot holds when its scope is entered. -/
inductive Load
  /-- It is filled from outside. -/
  | parameter
  /-- The value of the name in the context. -/
  | resolve (name : String)
  /-- The value of a slot of an outer scope. -/
  | copy (slot : Slot)
  | undefined
deriving DecidableEq

/-- The names of one level. -/
structure Level where
  depth : Nat
  slots : List (String × Slot) := []
  loads : List (Slot × Load) := []
  stores : List String := []

/-- The names of a level and of the levels around it, the nearest first. -/
structure Scope where
  own : Level
  outer : List Level

namespace Level

/-- Put an entry first, in place of an older one with its key. -/
def put {κ α : Type} [DecidableEq κ] (key : κ) (value : α) (entries : List (κ × α)) :
    List (κ × α) :=
  if entries.any fun entry => decide (entry.1 = key) then
    entries.map fun entry => if entry.1 = key then (key, value) else entry
  else
    entries ++ [(key, value)]

def slot? (level : Level) (name : String) : Option Slot :=
  level.slots.lookup name

def store (level : Level) (name : String) : Level :=
  if level.stores.contains name then level else { level with stores := level.stores ++ [name] }

/-- Give a name a slot at this level. -/
def define (level : Level) (name : String) (load : Load) : Level :=
  let slot : Slot := ⟨level.depth, name⟩
  { level with
    slots := put name slot level.slots
    loads := put slot load level.loads }

end Level

namespace Scope

/-- The outermost scope. -/
def outermost : Scope := ⟨⟨0, [], [], []⟩, []⟩

/-- A scope inside of another one. -/
def inner (scope : Scope) : Scope :=
  ⟨⟨scope.own.depth + 1, [], [], []⟩, scope.own :: scope.outer⟩

def outerSlot? (scope : Scope) (name : String) : Option Slot :=
  scope.outer.findSome? fun level => level.slot? name

/-- The slot that a name stands for. -/
def slot? (scope : Scope) (name : String) : Option Slot :=
  (scope.own.slot? name).orElse fun _ => scope.outerSlot? name

/-- A name is read. -/
def load (scope : Scope) (name : String) : Scope :=
  match scope.slot? name with
  | some _ => scope
  | none => { scope with own := scope.own.define name (.resolve name) }

/-- A name is stored. -/
def store (scope : Scope) (name : String) : Scope :=
  let own := scope.own.store name
  match own.slot? name with
  | some _ => { scope with own }
  | none =>
    match scope.outerSlot? name with
    | some slot => { scope with own := own.define name (.copy slot) }
    | none => { scope with own := own.define name .undefined }

/-- A name is filled from outside. -/
def declare (scope : Scope) (name : String) : Scope :=
  { scope with own := (scope.own.store name).define name .parameter }

def loadAll (scope : Scope) (names : List String) : Scope :=
  names.foldl load scope

/-- Names read by an expression. -/
def loadExpression (scope : Scope) (expression : Expression String) : Scope :=
  scope.loadAll expression.mentions.names

/-- Join the names of branches: names stored in any of them fall back to the outside. -/
def mergeBranches (scope : Scope) (branches : List Scope) : Scope :=
  let stored := (branches.flatMap fun branch => branch.own.stores).filter fun name =>
    !scope.own.stores.contains name
  let own := branches.foldl (fun (own : Level) (branch : Scope) =>
    { own with
      slots := branch.own.slots.foldl (fun slots (name, slot) => Level.put name slot slots)
        own.slots
      loads := branch.own.loads.foldl (fun loads (slot, load) => Level.put slot load loads)
        own.loads
      stores := branch.own.stores.foldl
        (fun stores name => if stores.contains name then stores else stores ++ [name])
        own.stores }) scope.own
  let merged : Scope := { scope with own }
  stored.foldl (fun (merged : Scope) name =>
    match merged.slot? name with
    | none => merged
    | some slot =>
      let load := match scope.outerSlot? name with
        | some outer => Load.copy outer
        | none => .resolve name
      { merged with own := { merged.own with loads := Level.put slot load merged.own.loads } })
    merged

mutual

/-- Names assigned by a target, either stored or filled from outside. -/
def assign (scope : Scope) (fromOutside : Bool) : Target String → Scope
  | .name _ name => if fromOutside then scope.declare name else scope.store name
  | .tuple items => assignAll scope fromOutside items
  | .member name _ => scope.load name

def assignAll (scope : Scope) (fromOutside : Bool) : List (Target String) → Scope
  | [] => scope
  | item :: items => assignAll (assign scope fromOutside item) fromOutside items

end

/-- Names read by the parts of an output statement. -/
def loadParts (scope : Scope) : List OutputPart → Scope
  | [] => scope
  | .data _ :: parts => loadParts scope parts
  | .expression expression :: parts => loadParts (scope.loadExpression expression) parts

mutual

/-- Names of a statement that belong to the scope around it. -/
def visit (scope : Scope) : Statement → Scope
  | .output parts => scope.loadParts parts
  | .conditional branches otherwise =>
    match branches with
    | [] => scope
    | (condition, body) :: rest =>
      let scope := scope.loadExpression condition
      let first := visitAll scope body
      let others := visitBranches scope rest
      let last := visitAll scope otherwise
      scope.mergeBranches [first, others, last]
  | .loop _ _ items _ _ _ _ => scope.loadExpression items
  | .assign target value => (scope.loadExpression value).assign false target
  | .assignBlock target _ _ => scope.assign false target
  | .bind bindings _ => bindings.foldl (fun scope (_, value) => scope.loadExpression value) scope
  | .routine _ name _ _ _ => scope.store name
  | .callBlock _ _ _ call _ => scope.loadExpression call
  | .filterBlock filter _ => scope.loadExpression filter
  | .block _ _ _ _ _ => scope
  | .extend _ template => scope.loadExpression template
  | .embed template _ _ => scope.loadExpression template
  | .importAs template target _ => (scope.loadExpression template).store target
  | .importNames _ template names _ =>
    names.foldl (fun scope (_, name) => scope.store name) (scope.loadExpression template)
  | .escaping _ _ => scope

def visitAll (scope : Scope) : List Statement → Scope
  | [] => scope
  | statement :: statements => visitAll (visit scope statement) statements

/-- Further branches of a conditional, each a conditional of its own. -/
def visitBranches (scope : Scope) : List (Expression String × List Statement) → Scope
  | [] => scope
  | (condition, body) :: rest =>
    let scope := scope.loadExpression condition
    let first := visitAll scope body
    visitBranches (scope.mergeBranches [first, scope, scope]) rest

end

/-- The slots filled when the scope is entered. -/
def loads (scope : Scope) : List (Slot × Load) :=
  scope.own.loads

/-- Every stored name in reach with its slot, the nearest level first. -/
def storedSlots (scope : Scope) : List (String × Slot) :=
  let names := (scope.own :: scope.outer).flatMap Level.stores
  let distinct := names.foldl
    (fun (found : List String) name => if found.contains name then found else found ++ [name]) []
  distinct.filterMap fun name => (scope.slot? name).map fun slot => (name, slot)

end Scope

/-- A name as it is met in reading order: read, or put to another use. -/
structure NameUse where
  isRead : Bool
  name : String

namespace NameUse

def reads (expression : Expression String) : List NameUse :=
  expression.mentions.names.map fun name => ⟨true, name⟩

def readsOptional : Option (Expression String) → List NameUse
  | none => []
  | some expression => reads expression

def assigns (target : Target String) : List NameUse :=
  target.assigned.map fun (_, name) => ⟨false, name⟩

def parameters (names : List String) : List NameUse :=
  names.map fun name => ⟨false, name⟩

mutual

/-- The names of a statement and of all it holds, blocks apart. -/
def inStatement : Statement → List NameUse
  | .output parts => parts.flatMap fun part =>
    match part with
    | .data _ => []
    | .expression expression => reads expression
  | .conditional branches otherwise => inBranches branches ++ inStatements otherwise
  | .loop _ target items condition _ body otherwise =>
    assigns target ++ reads items ++ inStatements body ++ inStatements otherwise ++
      readsOptional condition
  | .assign target value => assigns target ++ reads value
  | .assignBlock target filter body => assigns target ++ readsOptional filter ++ inStatements body
  | .bind bindings body =>
    bindings.flatMap (fun binding => assigns binding.1) ++
      bindings.flatMap (fun binding => reads binding.2) ++ inStatements body
  | .routine _ _ names defaults body =>
    parameters names ++ defaults.flatMap reads ++ inStatements body
  | .callBlock _ names defaults call body =>
    reads call ++ parameters names ++ defaults.flatMap reads ++ inStatements body
  | .filterBlock filter body => inStatements body ++ reads filter
  | .block _ _ _ _ _ => []
  | .extend _ template => reads template
  | .embed template _ _ => reads template
  | .importAs template _ _ => reads template
  | .importNames _ template _ _ => reads template
  | .escaping value body => reads value ++ inStatements body

def inStatements : List Statement → List NameUse
  | [] => []
  | statement :: statements => inStatement statement ++ inStatements statements

def inBranches : List (Expression String × List Statement) → List NameUse
  | [] => []
  | (condition, body) :: rest => reads condition ++ inStatements body ++ inBranches rest

end

end NameUse

/-- The wanted names that are read before they are put to another use. -/
def undeclared (wanted : List String) (statements : List Statement) : List String :=
  let step := fun (state : List String × List String) (use : NameUse) =>
    let (wanted, found) := state
    if use.isRead && wanted.contains use.name then
      (wanted, if found.contains use.name then found else found ++ [use.name])
    else
      (wanted.filter (· != use.name), found)
  ((NameUse.inStatements statements).foldl step (wanted, [])).2

end Stencil.Template

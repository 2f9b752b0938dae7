import Stencil.Fault
import Stencil.Template.Program
import Stencil.Text.Quoted

/-!
# Resolving templates

Statements become a program in the order in which they stand.  What has no meaning
is refused here: two blocks of one name, unknown filters and tests outside of
conditionals, assignments to the state of a loop, and extending from an inner scope.
-/

namespace Stencil.Template

/-- The filters that templates know. -/
def filterNames : List String :=
  ["abs", "attr", "batch", "capitalize", "center", "count", "d", "default", "dictsort", "e",
    "escape", "filesizeformat", "first", "float", "forceescape", "format", "groupby", "indent",
    "int", "items", "join", "last", "length", "list", "lower", "map", "max", "min", "pprint",
    "random", "reject", "rejectattr", "replace", "reverse", "round", "safe", "select",
    "selectattr", "slice", "sort", "string", "striptags", "sum", "title", "tojson", "trim",
    "truncate", "unique", "upper", "urlencode", "urlize", "wordcount", "wordwrap", "xmlattr"]

/-- The tests that templates know. -/
def testNames : List String :=
  ["!=", "<", "<=", "==", ">", ">=", "boolean", "callable", "defined", "divisibleby", "eq",
    "equalto", "escaped", "even", "false", "filter", "float", "ge", "greaterthan", "gt", "in",
    "integer", "iterable", "le", "lessthan", "lower", "lt", "mapping", "ne", "none", "number",
    "odd", "sameas", "sequence", "string", "test", "true", "undefined", "upper"]

/-- Words that are passed by name in a form which admits repetition. -/
def reservedWords : List String :=
  ["False", "None", "True", "and", "as", "assert", "async", "await", "break", "class", "continue",
    "def", "del", "elif", "else", "except", "finally", "for", "from", "global", "if", "import",
    "in", "is", "lambda", "nonlocal", "not", "or", "pass", "raise", "return", "try", "while",
    "with", "yield"]

/-- How constant expressions are recognized: by value, and by the text they show. -/
structure Settler where
  truth : EscapeState → Expression String → Option Bool
  isConstant : EscapeState → Expression String → Bool
  shown : EscapeState → Expression String → Option Text

/-- Where a statement stands. -/
structure Position where
  scope : Scope
  isTop : Bool := false
  isRoot : Bool := false
  isSoft : Bool := false
  guarded : Bool := false
  escape : EscapeState := {}

namespace Position

/-- An inner position with a scope of its own. -/
def within (position : Position) (scope : Scope) : Position :=
  { scope, guarded := position.guarded, escape := position.escape }

/-- The position inside of a conditional, which shares the scope around it. -/
def soft (position : Position) : Position :=
  { position with isRoot := false, isSoft := true }

end Position

/-- What has been seen of the tags that extend other templates. -/
structure ExtendState where
  count : Nat := 0
  certain : Bool := false

/-- Resolving keeps track of extending tags and may fail. -/
abbrev Resolver := EStateM Fault ExtendState

/-- The slot of a name that its scope must know. -/
def slotOf (scope : Scope) (name : String) : Except Fault Slot :=
  match scope.slot? name with
  | some slot => .ok slot
  | none => .error (.assertion
      ("Tried to resolve a name to a reference that was unknown to the frame (" ++
        Text.quote name ++ ")"))

/-- Arguments may be named once only, unless one of them is a reserved word. -/
def checkNamed (extra : List String) (named : List (String × Code)) : Except Fault Unit :=
  let names := named.map Prod.fst ++ extra
  if names.any reservedWords.contains then .ok ()
  else if names.eraseDups.length == names.length then .ok ()
  else .error .malformedCode

section Expressions

variable (settler : Settler) (scope : Scope) (escape : EscapeState)

/-- Put a constant part aside, or resolve it. -/
def settleOr
    (expression : Expression String)
    (resolved : Except Fault Code) : Except Fault Code :=
  if !escape.isOpen && settler.isConstant escape expression then
    .ok (.settled escape.escaping (expression.map fun name => ⟨0, name⟩))
  else
    resolved

mutual

/-- An expression over slots; unknown filters and tests are admitted in soft positions. -/
def resolveExpression (soft : Bool) : Expression String → Except Fault Code
  | .constant literal => .ok (.constant literal)
  | .name name => do return .name (← slotOf scope name)
  | .tuple items => do return .tuple (← resolveAll soft items)
  | .list items => do return .list (← resolveAll soft items)
  | .dict entries => do return .dict (← resolveEntries soft entries)
  | .unary operator operand =>
    settleOr settler escape (.unary operator operand) do
      return .unary operator (← resolveExpression soft operand)
  | .binary operator left right =>
    settleOr settler escape (.binary operator left right) do
      let left ← resolveExpression soft left
      return .binary operator left (← resolveExpression soft right)
  | .both left right =>
    settleOr settler escape (.both left right) do
      let left ← resolveExpression soft left
      return .both left (← resolveExpression soft right)
  | .either left right =>
    settleOr settler escape (.either left right) do
      let left ← resolveExpression soft left
      return .either left (← resolveExpression soft right)
  | .concat items =>
    settleOr settler escape (.concat items) do
      return .concat (← resolveAll soft items)
  | .compare first rest =>
    settleOr settler escape (.compare first rest) do
      let first ← resolveExpression soft first
      return .compare first (← resolveCompared soft rest)
  | .choice line condition chosen otherwise =>
    settleOr settler escape (.choice line condition chosen otherwise) do
      let condition ← resolveExpression true condition
      let chosen ← resolveExpression true chosen
      return .choice line condition chosen (← resolveOptional true otherwise)
  | .member subject field =>
    settleOr settler escape (.member subject field) do
      return .member (← resolveExpression soft subject) field
  | .item subject index =>
    settleOr settler escape (.item subject index) do
      let subject ← resolveExpression soft subject
      return .item subject (← resolveExpression soft index)
  | .slice start stop step => do
    let start ← resolveOptional soft start
    let stop ← resolveOptional soft stop
    return .slice start stop (← resolveOptional soft step)
  | .call function arguments => do
    let function ← resolveExpression soft function
    return .call function (← resolveArguments soft [] arguments)
  | .filter line subject used arguments =>
    settleOr settler escape (.filter line subject used arguments) do
      if !filterNames.contains used && !soft then
        throw (.templateMeaning line ("No filter named " ++ Text.quote used ++ "."))
      let subject ← resolveExpression soft subject
      return .filter line subject used (← resolveArguments soft [] arguments)
  | .test line subject used arguments =>
    settleOr settler escape (.test line subject used arguments) do
      if !testNames.contains used && !soft then
        throw (.templateMeaning line ("No test named " ++ Text.quote used ++ "."))
      let subject ← resolveExpression soft subject
      return .test line subject used (← resolveArguments soft [] arguments)
  | .captured => .ok .captured
  | .settled escaping expression => do
    return .settled escaping (← resolveExpression soft expression)

def resolveAll (soft : Bool) : List (Expression String) → Except Fault (List Code)
  | [] => .ok []
  | first :: rest => do
    let first ← resolveExpression soft first
    return first :: (← resolveAll soft rest)

def resolveEntries (soft : Bool) :
    List (Expression String × Expression String) → Except Fault (List (Code × Code))
  | [] => .ok []
  | (key, value) :: rest => do
    let key ← resolveExpression soft key
    let value ← resolveExpression soft value
    return (key, value) :: (← resolveEntries soft rest)

def resolveCompared (soft : Bool) :
    List (Comparison × Expression String) → Except Fault (List (Comparison × Code))
  | [] => .ok []
  | (comparison, operand) :: rest => do
    let operand ← resolveExpression soft operand
    return (comparison, operand) :: (← resolveCompared soft rest)

def resolveNamed (soft : Bool) :
    List (String × Expression String) → Except Fault (List (String × Code))
  | [] => .ok []
  | (name, value) :: rest => do
    let value ← resolveExpression soft value
    return (name, value) :: (← resolveNamed soft rest)

def resolveOptional (soft : Bool) : Option (Expression String) → Except Fault (Option Code)
  | none => .ok none
  | some expression => do return some (← resolveExpression soft expression)

def resolveArguments (soft : Bool) (extra : List String) :
    Arguments (Expression String) → Except Fault (Arguments Code)
  | ⟨positional, named, spread, spreadNamed⟩ => do
    let positional ← resolveAll soft positional
    let named ← resolveNamed soft named
    checkNamed extra named
    let spread ← resolveOptional soft spread
    return ⟨positional, named, spread, ← resolveOptional soft spreadNamed⟩

end

end Expressions

/-- Lift a computation without state. -/
def liftExcept {α : Type} : Except Fault α → Resolver α
  | .ok result => pure result
  | .error fault => throw fault

/-- The code of an expression where it stands. -/
def resolveAt
    (settler : Settler)
    (position : Position)
    (expression : Expression String) : Resolver Code :=
  liftExcept
    (resolveExpression settler position.scope position.escape position.isSoft expression)

/-- The code of a call with arguments that the call block adds. -/
def resolveBlockCall
    (settler : Settler)
    (position : Position) : Expression String → Resolver Code
  | .call function arguments => liftExcept do
    let function ← resolveExpression settler position.scope position.escape position.isSoft function
    let arguments ← resolveArguments settler position.scope position.escape position.isSoft
      ["caller"] arguments
    return .call function arguments
  | expression => resolveAt settler position expression

mutual

/-- The slots a target assigns. -/
def resolveTarget (scope : Scope) : Target String → Except Fault (Target Slot)
  | .name line name => do return .name line (← slotOf scope name)
  | .tuple items => do return .tuple (← resolveTargets scope items)
  | .member name field => do return .member (← slotOf scope name) field

def resolveTargets (scope : Scope) : List (Target String) → Except Fault (List (Target Slot))
  | [] => .ok []
  | item :: items => do
    let item ← resolveTarget scope item
    return item :: (← resolveTargets scope items)

end

/-- The slots that a scope fills when it is entered. -/
def entryOf (scope : Scope) : Entry :=
  scope.loads

/-- The names that become visible beyond a template's top level. -/
def publishedNames (position : Position) (target : Target String) : Except Fault Published :=
  if position.isTop then do
    let names := (target.assigned.map Prod.snd).eraseDups
    let slots ← names.mapM fun name => do return (name, ← slotOf position.scope name)
    return ⟨slots⟩
  else
    .ok {}

/-- One part of an output statement. -/
def resolvePart
    (settler : Settler)
    (position : Position) : OutputPart → Resolver EmitPart
  | .data text => return .text (Text.ofChars text)
  | .expression expression =>
    match settler.shown position.escape expression with
    | some text => return .text text
    | none => do
      let code ← resolveAt settler position expression
      return .value position.escape.mode code

/-- Stored slots handed to another template or block. -/
def seenNames (position : Position) (handedOn : Bool) : Option (List (String × Slot)) :=
  if handedOn then some position.scope.storedSlots else none

mutual

/-- All names assigned by statements, blocks included, each with its line. -/
def assignedNames : Statement → List (Nat × String)
  | .output _ => []
  | .conditional branches otherwise => assignedInBranches branches ++ assignedInAll otherwise
  | .loop _ target _ _ _ body otherwise =>
    target.assigned ++ assignedInAll body ++ assignedInAll otherwise
  | .assign target _ => target.assigned
  | .assignBlock target _ body => target.assigned ++ assignedInAll body
  | .bind _ body => assignedInAll body
  | .routine _ _ _ _ body => assignedInAll body
  | .callBlock _ _ _ _ body => assignedInAll body
  | .filterBlock _ body => assignedInAll body
  | .block _ _ _ _ body => assignedInAll body
  | .extend _ _ => []
  | .embed _ _ _ => []
  | .importAs _ _ _ => []
  | .importNames _ _ _ _ => []
  | .escaping _ body => assignedInAll body

def assignedInAll : List Statement → List (Nat × String)
  | [] => []
  | statement :: statements => assignedNames statement ++ assignedInAll statements

def assignedInBranches :
    List (Expression String × List Statement) → List (Nat × String)
  | [] => []
  | (_, body) :: rest => assignedInAll body ++ assignedInBranches rest

end

/-- A block of a template. -/
structure BlockSource where
  line : Nat
  name : String
  isScoped : Bool
  isRequired : Bool
  body : List Statement

mutual

/-- All blocks within a statement, outer ones first. -/
def blocksIn : Statement → List BlockSource
  | .output _ => []
  | .conditional branches otherwise => blocksInBranches branches ++ blocksInAll otherwise
  | .loop _ _ _ _ _ body otherwise => blocksInAll body ++ blocksInAll otherwise
  | .assign _ _ => []
  | .assignBlock _ _ body => blocksInAll body
  | .bind _ body => blocksInAll body
  | .routine _ _ _ _ body => blocksInAll body
  | .callBlock _ _ _ _ body => blocksInAll body
  | .filterBlock _ body => blocksInAll body
  | .block line name isScoped isRequired body =>
    ⟨line, name, isScoped, isRequired, body⟩ :: blocksInAll body
  | .extend _ _ => []
  | .embed _ _ _ => []
  | .importAs _ _ _ => []
  | .importNames _ _ _ _ => []
  | .escaping _ body => blocksInAll body

def blocksInAll : List Statement → List BlockSource
  | [] => []
  | statement :: statements => blocksIn statement ++ blocksInAll statements

def blocksInBranches : List (Expression String × List Statement) → List BlockSource
  | [] => []
  | (_, body) :: rest => blocksInAll body ++ blocksInBranches rest

end

mutual

/-- Whether some statement extends another template. -/
def hasExtend : Statement → Bool
  | .output _ => false
  | .conditional branches otherwise => anyBranchExtends branches || anyExtends otherwise
  | .loop _ _ _ _ _ body otherwise => anyExtends body || anyExtends otherwise
  | .assign _ _ => false
  | .assignBlock _ _ body => anyExtends body
  | .bind _ body => anyExtends body
  | .routine _ _ _ _ body => anyExtends body
  | .callBlock _ _ _ _ body => anyExtends body
  | .filterBlock _ body => anyExtends body
  | .block _ _ _ _ body => anyExtends body
  | .extend _ _ => true
  | .embed _ _ _ => false
  | .importAs _ _ _ => false
  | .importNames _ _ _ _ => false
  | .escaping _ body => anyExtends body

def anyExtends : List Statement → Bool
  | [] => false
  | statement :: statements => hasExtend statement || anyExtends statements

def anyBranchExtends : List (Expression String × List Statement) → Bool
  | [] => false
  | (_, body) :: rest => anyExtends body || anyBranchExtends rest

end

/-- The defaults of parameters: the last parameters have them. -/
def defaultFor (count : Nat) (defaults : List Code) (index : Nat) : Option Code :=
  if count ≤ index + defaults.length then defaults[index + defaults.length - count]? else none

/-- The parameters of a routine resolved within its scope, and that scope. -/
def resolveSignature
    (settler : Settler)
    (position : Position)
    (line : Nat)
    (name : Option String)
    (parameters : List String)
    (defaults : List (Expression String))
    (body : List Statement) : Resolver (Signature × Position) := do
  let scope := parameters.foldl Scope.declare position.scope.inner
  let scope := (defaults.foldl Scope.loadExpression scope).visitAll body
  let special := undeclared ["caller", "kwargs", "varargs"] body
  let hasCaller := parameters.contains "caller"
  if special.contains "caller" && hasCaller then
    let after := (parameters.reverse.takeWhile (· != "caller")).length
    if defaults.length < after + 1 then
      throw (.templateMeaning line
        ("When defining macros or call blocks the special \"caller\" argument must be omitted " ++
          "or be given a default."))
  let declareIf := fun (used : Bool) (name : String) (scope : Scope) =>
    if used then scope.declare name else scope
  let usesCaller := special.contains "caller"
  let addsCaller := usesCaller && !hasCaller
  let addsNamed := special.contains "kwargs" && !parameters.contains "kwargs"
  let addsPositional := special.contains "varargs" && !parameters.contains "varargs"
  let scope := declareIf addsPositional "varargs"
    (declareIf addsNamed "kwargs" (declareIf addsCaller "caller" scope))
  let slotIf := fun (used : Bool) (name : String) => if used then scope.slot? name else none
  let inside : Position := { scope, guarded := false, escape := position.escape }
  let defaults ← defaults.mapM (resolveAt settler inside)
  if parameters.eraseDups.length != parameters.length then
    throw .malformedCode
  let slots ← (parameters.zipIdx).mapM fun (parameter, index) => do
    let slot ← liftExcept (slotOf scope parameter)
    return (slot, defaultFor parameters.length defaults index)
  let signature : Signature := {
    name, parameters, slots, usesCaller
    callerSlot := slotIf addsCaller "caller"
    namedSlot := slotIf addsNamed "kwargs"
    positionalSlot := slotIf addsPositional "varargs"
    entry := entryOf scope }
  return (signature, inside)

/-- The scope of a loop's body, with the state of the loop where it is used. -/
def loopScope
    (position : Position)
    (target : Target String)
    (usesState : Bool)
    (body : List Statement) : Scope :=
  let scope := position.scope.inner
  let scope := if usesState then scope.declare "loop" else scope
  (scope.assign true target).visitAll body

/-- Whether a loop keeps a state that its body can see. -/
def usesLoopState (recursive : Bool) (body otherwise : List Statement) : Bool :=
  recursive || !(undeclared ["loop"] body).isEmpty ||
    (blocksInAll body ++ blocksInAll otherwise).any BlockSource.isScoped

/-- The condition of a loop within a scope of its own. -/
def resolveCondition
    (settler : Settler)
    (position : Position)
    (target : Target String) : Option (Expression String) → Resolver (Option LoopCondition)
  | none => return none
  | some condition => do
    let scope := (position.scope.inner.assign true target).loadExpression condition
    let code ← resolveAt settler (position.within scope) condition
    return some ⟨entryOf scope, code⟩

mutual

/-- The steps of a statement; the flag says that nothing after it is reached. -/
def resolveStatement (settler : Settler) (position : Position) :
    Statement → Resolver (List Step × Bool)
  | .output parts => do
    let state ← get
    if position.guarded && state.certain then
      return ([], false)
    let parts ← parts.mapM (resolvePart settler position)
    return ([.emit position.guarded parts], false)
  | .conditional branches otherwise => do
    let inside := position.soft
    let branches ← resolveBranches settler inside branches
    let otherwise ← resolveBody settler inside otherwise
    return ([.branch branches otherwise], false)
  | .loop _ target items condition recursive body otherwise => do
    let usesState := usesLoopState recursive body otherwise
    let scope := loopScope position target usesState body
    let condition ← resolveCondition settler position target condition
    let assigned := target.assigned ++ assignedInAll body ++ assignedInAll otherwise
    match assigned.find? fun (_, name) => name == "loop" with
    | some (line, _) =>
      throw (.templateMeaning line "Can't assign to special loop variable in for-loop target")
    | none => pure ()
    let inside := position.within scope
    let slots ← liftExcept (resolveTarget scope target)
    let early ← if recursive then pure none else do
      let code ← resolveAt settler position items
      pure (some code)
    let steps ← resolveBody settler inside body
    let last ←
      if otherwise.isEmpty then
        pure none
      else do
        let scope := position.scope.inner.visitAll otherwise
        let steps ← resolveBody settler (position.within scope) otherwise
        pure (some (entryOf scope, steps))
    let items ←
      match early with
      | some code => pure code
      | none => resolveAt settler position items
    let state := if usesState then scope.slot? "loop" else none
    return ([.loop slots items condition recursive state (entryOf scope) steps last], false)
  | .assign target value => do
    let slots ← liftExcept (resolveTarget position.scope target)
    let code ← resolveAt settler position value
    let published ← liftExcept (publishedNames position target)
    return ([.assign slots code published], false)
  | .assignBlock target filter body => do
    let scope := position.scope.inner.visitAll body
    let inside := { position.within scope with guarded := false }
    let steps ← resolveBody settler inside body
    let slots ← liftExcept (resolveTarget position.scope target)
    let filter ←
      match filter with
      | none => pure none
      | some filter => do
        let code ← resolveAt settler inside filter
        pure (some code)
    let published ← liftExcept (publishedNames position target)
    return ([.capture (entryOf scope) steps filter slots published], false)
  | .bind bindings body => do
    let scope := bindings.foldl (fun scope binding => scope.assign true binding.1)
      position.scope.inner
    let scope := scope.visitAll body
    let resolved ← bindings.mapM fun (target, value) => do
      let slots ← liftExcept (resolveTarget scope target)
      let code ← resolveAt settler position value
      return (slots, code)
    let steps ← resolveBody settler (position.within scope) body
    return ([.bind (entryOf scope) resolved steps], false)
  | .routine line name parameters defaults body => do
    let (signature, inside) ←
      resolveSignature settler position line (some name) parameters defaults body
    let steps ← resolveBody settler inside body
    let slot ← liftExcept (slotOf position.scope name)
    return ([.routine signature steps slot position.isTop], false)
  | .callBlock line parameters defaults call body => do
    let (signature, inside) ←
      resolveSignature settler position line none parameters defaults body
    let steps ← resolveBody settler inside body
    let call ← resolveBlockCall settler position call
    return ([.callBlock signature steps call], false)
  | .filterBlock filter body => do
    let scope := (position.scope.inner.visitAll body).loadExpression filter
    let inside := position.within scope
    let steps ← resolveBody settler inside body
    let code ← resolveAt settler inside filter
    return ([.filterBlock (entryOf scope) steps code], false)
  | .block _ name isScoped isRequired _ => do
    let state ← get
    if position.isTop && state.certain then
      return ([], false)
    let guarded := position.isTop && 0 < state.count
    return ([.block guarded name (seenNames position isScoped) isRequired], false)
  | .extend line template => do
    if !position.isTop then
      throw (.templateMeaning line "cannot use extend from a non top-level scope")
    let state ← get
    if 0 < state.count && state.certain then
      return ([.extendAgain true], true)
    let code ← resolveAt settler position template
    set (⟨state.count + 1, state.certain || position.isRoot⟩ : ExtendState)
    let again := if 0 < state.count then [Step.extendAgain false] else []
    return (again ++ [.extend code], false)
  | .embed template ignoreMissing withContext => do
    let code ← resolveAt settler position template
    return ([.embed code ignoreMissing (seenNames position withContext)], false)
  | .importAs template target withContext => do
    let code ← resolveAt settler position template
    let slot ← liftExcept (slotOf position.scope target)
    return ([.importAs code target slot position.isTop (seenNames position withContext)], false)
  | .importNames line template names withContext => do
    let code ← resolveAt settler position template
    let names ← names.mapM fun (name, alias_) => do
      let slot ← liftExcept (slotOf position.scope alias_)
      return (name, alias_, slot)
    let seen := seenNames position withContext
    return ([.importNames line code names position.isTop seen], false)
  | .escaping value body => do
    let scope := (position.scope.inner.loadExpression value).visitAll body
    let inside := position.within scope
    let code ← resolveAt settler inside value
    let escape : EscapeState :=
      match settler.truth position.escape value with
      | some escaping => { position.escape with escaping }
      | none => { position.escape with isOpen := true }
    let steps ← resolveSequence settler { inside with escape } body
    return ([.escaping (entryOf scope) code escape.mode steps], false)

/-- The steps of statements in a row, up to one after which nothing is reached. -/
def resolveBody (settler : Settler) (position : Position) :
    List Statement → Resolver (List Step)
  | [] => return []
  | statement :: statements => do
    let (steps, ended) ← resolveStatement settler position statement
    if ended then
      return steps
    else
      return steps ++ (← resolveBody settler position statements)

/-- The steps of statements in a row. -/
def resolveSequence (settler : Settler) (position : Position) :
    List Statement → Resolver (List Step)
  | [] => return []
  | statement :: statements => do
    let (steps, _) ← resolveStatement settler position statement
    return steps ++ (← resolveSequence settler position statements)

def resolveBranches (settler : Settler) (position : Position) :
    List (Expression String × List Statement) → Resolver (List (Code × List Step))
  | [] => return []
  | (condition, body) :: rest => do
    let code ← resolveAt settler position condition
    let steps ← resolveBody settler position body
    return (code, steps) :: (← resolveBranches settler position rest)

end

/-- The slot of a special name that a section uses. -/
def specialSlot? (used : List String) (scope : Scope) (name : String) : Option Slot :=
  if used.contains name then scope.slot? name else none

/-- The body of a template or block resolved. -/
def resolveSection
    (settler : Settler)
    (wanted : List String)
    (position : Position)
    (body : List Statement) : Resolver Section := do
  let used := undeclared wanted body
  let scope := (used.foldl Scope.declare position.scope).visitAll body
  let steps ← resolveBody settler { position with scope } body
  return {
    entry := entryOf scope
    selfSlot := specialSlot? used scope "self"
    superSlot := specialSlot? used scope "super"
    body := steps }

/-- The first block whose name an earlier block has. -/
def repeatedBlock? : List String → List BlockSource → Option BlockSource
  | _, [] => none
  | known, block :: blocks =>
    if known.contains block.name then some block
    else repeatedBlock? (known ++ [block.name]) blocks

/-- The program of a template. -/
def resolveTemplate
    (settler : Settler)
    (name : String)
    (statements : List Statement) : Except Fault Program :=
  let whole : Resolver Program := do
    let blocks := blocksInAll statements
    match repeatedBlock? [] blocks with
    | some block =>
      throw (.templateMeaning block.line ("block " ++ Text.quote block.name ++ " defined twice"))
    | none => pure ()
    let extends_ := anyExtends statements
    let position : Position :=
      { scope := .outermost, isTop := true, isRoot := true, guarded := extends_ }
    let main ← resolveSection settler ["self"] position statements
    let blocks ← blocks.mapM fun block => do
      let body ← resolveSection settler ["self", "super"] { scope := .outermost } block.body
      return (block.name, body)
    return { name, main, blocks, extends_ }
  match whole.run {} with
  | .ok program _ => .ok program
  | .error fault _ => .error fault

end Stencil.Template

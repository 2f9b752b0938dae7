import Stencil.Template.Loop

/-!
# Calling values

Routines of templates, recursive loops, blocks, methods, and the names that every
template knows can be called.  Whatever lies outside of templates is asked for.
-/

namespace Stencil.Template

open Run

/-- The arguments of a routine in the order of its parameters, and those left over. -/
structure RoutineArguments where
  declared : List (Option Value)
  positional : List Value
  named : List (String × Value)

/-- Give parameters without an argument by position their arguments by name. -/
def takeNamed : List String → List (String × Value) →
    List (Option Value) × List (String × Value)
  | [], named => ([], named)
  | parameter :: parameters, named =>
    let rest := named.filter fun entry => entry.1 != parameter
    let (values, rest) := takeNamed parameters rest
    (named.lookup parameter :: values, rest)

def routineArguments (signature : Signature) (given : Given) : RoutineArguments :=
  let count := signature.parameters.length
  let positional := given.positional.take count
  let (values, named) := takeNamed (signature.parameters.drop positional.length) given.named
  ⟨positional.map some ++ values, given.positional.drop count, named⟩

/-- The value of the special name for the block that a routine was called with. -/
def callerArgument (signature : Signature) (given : Given) (named : List (String × Value)) :
    Run (Option Value × List (String × Value)) := do
  let count := signature.parameters.length
  let consumed := given.positional.length
  let isDeclared :=
    if consumed < count then (signature.parameters.drop consumed).contains "caller"
    else signature.parameters.contains "caller"
  if signature.usesCaller && !isDeclared then
    if signature.callerSlot.isNone then
      wrongType
    match named.lookup "caller" with
    | some .none => return (missing "No caller defined", named.filter (·.1 != "caller"))
    | some caller => return (caller, named.filter (·.1 != "caller"))
    | none => return (missing "No caller defined", named)
  else
    return (none, named)

/-- Fill the slots of the declared parameters that got no argument. -/
def fillDefaults
    (evaluator : Evaluator)
    (site : Site) :
    List (String × (Slot × Option Code) × Option Value) → Run Unit
  | [] => return ()
  | (_, _, some _) :: rest => fillDefaults evaluator site rest
  | (name, (slot, default), none) :: rest => do
    let value ←
      match default with
      | some code => evaluator.value site code
      | none =>
        pure (missing ("parameter " ++ Stencil.Text.quote name ++ " was not provided"))
    setSlot site slot (some value)
    fillDefaults evaluator site rest

def setOptional (site : Site) (slot : Option Slot) (value : Option Value) : Run Unit :=
  match slot with
  | some slot => setSlot site slot value
  | none => return ()

/-- Call a routine. -/
def callRoutine
    (evaluator : Evaluator)
    (escapes : Bool)
    (routine : Routine)
    (given : Given) : Run Value := do
  let signature := routine.signature
  let arguments := routineArguments signature given
  let (caller, named) ← callerArgument signature given arguments.named
  if signature.namedSlot.isNone && !named.isEmpty then
    wrongType
  if signature.positionalSlot.isNone && !arguments.positional.isEmpty then
    wrongType
  let activation ← newActivation (some routine.site.activation)
  let captures := (← get).captures.length
  let site := { routine.site with activation, depth := captures + 1 }
  (signature.slots.zip arguments.declared).forM fun ((slot, _), value) =>
    setSlot site slot value
  setOptional site signature.callerSlot caller
  if signature.namedSlot.isSome then
    setOptional site signature.namedSlot (some (← newDict (namedEntries named)))
  setOptional site signature.positionalSlot (some (.tuple arguments.positional))
  enterScope site signature.entry
  fillDefaults evaluator site
    (signature.parameters.zip (signature.slots.zip arguments.declared))
  let text ← capture (evaluator.steps site routine.body)
  return sameKind escapes text

/-- The text of a block from a stack of blocks. -/
def runSection
    (evaluator : Evaluator)
    (template context : Nat)
    (current : Section)
    (parent : Option Value) : Run Unit := do
  let activation ← newActivation none
  let captures := (← get).captures.length
  let site : Site := { template, context, activation, depth := captures }
  if current.selfSlot.isSome then
    let self ← newObject (.selfReference context)
    setOptional site current.selfSlot (some (.object self))
  setOptional site current.superSlot parent
  enterScope site current.entry
  evaluator.steps site current.body

/-- What a block finds below itself in a stack of blocks. -/
def parentBlock (context : Nat) (block : BlockReference) : Run Value := do
  let stack := ((← Run.context context).blocks.lookup block.name).getD []
  let depth := (stack.idxOf block) + 1
  if depth < stack.length then
    return .object (← newObject (.blockReference block.name context stack depth))
  else
    return missing ("there is no parent block called " ++ Stencil.Text.quote block.name ++ ".")

/-- Run a block in a context. -/
def runBlock (evaluator : Evaluator) (context : Nat) (block : BlockReference) : Run Unit := do
  let loaded ← template block.template
  match loaded.program.blocks.lookup block.name with
  | some current =>
    let parent ←
      if current.superSlot.isSome then do pure (some (← parentBlock context block))
      else pure none
    runSection evaluator block.template context current parent
  | none => throw .missingKey

/-- Call one of the names that every template knows. -/
def callStandard (evaluator : Evaluator) (name : StandardName) (given : Given) : Run Value := do
  match name with
  | .range =>
    let arguments ← given.positionalOnly 1 3
    let bounds ← arguments.mapM integerArgument
    match bounds with
    | [stop] => return .range 0 stop 1
    | [start, stop] => return .range start stop 1
    | [start, stop, step] => if step == 0 then wrongValue else return .range start stop step
    | _ => wrongType
  | .dict => buildDict (← givenEntries evaluator given)
  | .namespace_ =>
    let .dict ref ← buildDict (← givenEntries evaluator given) | wrongType
    let entries := (← entries ref).filterMap fun (key, value) =>
      key.text?.map fun key => (key, value)
    return .object (← newObject (.attributes entries))
  | .cycler =>
    if !given.named.isEmpty then
      wrongType
    if given.positional.isEmpty then
      throw .emptyCycle
    return .object (← newObject (.cycler given.positional 0))
  | .joiner =>
    let arguments ← given.bind [("sep", some (Value.ofString ", "))]
    return .object (← newObject (.joiner (arguments.getD 0 .none) false))
  | .lipsum => evaluator.ask (.standard .lipsum) [] given

/-- Call an object of templates. -/
def callObject (evaluator : Evaluator) (site : Site) (place : Nat) (given : Given) :
    Run Value := do
  match ← object place with
  | .routine routine => callRoutine evaluator (← escaping site) routine given
  | .loop state =>
    let arguments ← given.bind [("iterable", none)]
    match state.recursion with
    | none => wrongType
    | some recursionPlace =>
      match ← object recursionPlace with
      | .recursion recursion =>
        runRecursion evaluator recursionPlace recursion (state.depth + 1) (arguments.getD 0 .none)
      | _ => wrongType
  | .joiner separator used =>
    noArguments given
    if used then
      return separator
    else
      changeObject place (.joiner separator true)
      return Value.ofString ""
  | .blockReference _ context stack depth =>
    noArguments given
    match stack[depth]? with
    | some block =>
      let text ← capture (runBlock evaluator context block)
      let machine ← get
      let escapes := machine.escapes.getD (machine.contexts.getD context default).escaping false
      return sameKind escapes text
    | none => throw .outOfRange
  | .foreign origin names => evaluator.ask origin names given
  | _ => wrongType

/-- Call a value. -/
def callValue (evaluator : Evaluator) (site : Site) (function : Value) (given : Given) :
    Run Value := do
  match function with
  | .standard name => callStandard evaluator name given
  | .method receiver name => callMethod evaluator receiver name given
  | .object place => callObject evaluator site place given
  | .undefined missing => throw (.undefinedValue missing.message)
  | _ => wrongType

end Stencil.Template

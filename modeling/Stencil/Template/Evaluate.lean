import Stencil.Template.Arithmetic
import Stencil.Template.Filter
import Stencil.Template.Include
import Stencil.Template.Test

/-!
# Running programs

Expressions have values and steps write output.  Both follow the structure of the
program; only calls, streams and repeated runs go through an evaluator, whose depth
bounds how far they nest.
-/

namespace Stencil.Template

open Run

/-- A value written down in a template. -/
def constantValue (site : Site) : Constant → Run Value
  | .none => return .none
  | .bool value => return .bool value
  | .int integer => return .int integer
  | .float amount =>
    if amount.isFinite || site.constant.isSome then return .float amount
    else throw .unknownName
  | .text content => return .text content

/-- Whether a value holds a float that is no finite number. -/
def holdsUnbounded (heap : Heap) : (fuel : Nat) → Value → Bool
  | 0, _ => false
  | fuel + 1, value =>
    match value with
    | .float amount => !amount.isFinite
    | .tuple items => items.any (holdsUnbounded heap fuel)
    | .list ref => (heap.items ref).any (holdsUnbounded heap fuel)
    | .dict ref => (heap.entries ref).any fun (key, value) =>
      holdsUnbounded heap fuel key || holdsUnbounded heap fuel value
    | _ => false

/-- The entries of a mapping that spreads named arguments. -/
def spreadEntries (value : Value) : Run (List (String × Value)) := do
  match value with
  | .dict ref =>
    (← entries ref).mapM fun (key, value) =>
      match key.text? with
      | some name => return (name.string, value)
      | none => wrongType
  | .undefined missing => throw (.undefinedValue missing.message)
  | _ => wrongType

/-- All arguments together; a name given twice is refused unless reserved words are among them. -/
def joinArguments
    (positional : List Value)
    (named : List (String × Value))
    (more : List (String × Value)) : Run Given := do
  if named.any fun entry => reservedWords.contains entry.1 then
    let named := (named ++ more).foldl
      (fun known (name, value) => Level.put name value known) []
    return ⟨positional, named⟩
  else if more.any fun entry => (named.lookup entry.1).isSome then
    wrongType
  else
    return ⟨positional, named ++ more⟩

section WithEvaluator

variable (evaluator : Evaluator)

mutual

/-- The value of an expression. -/
def valueOf (site : Site) : Code → Run Value
  | .constant literal => constantValue site literal
  | .name slot => do
    if site.constant.isSome then
      throw .unknownName
    match ← slot? site slot with
    | some value => return value
    | none => return missing (Stencil.Text.quote slot.name ++ " is undefined")
  | .tuple items => do return .tuple (← valuesOf site items)
  | .list items => do newList (← valuesOf site items)
  | .dict entries => do buildDict (← entryValues site entries)
  | .unary operator operand => do
    arithmeticSign evaluator operator (← valueOf site operand)
  | .binary operator left right => do
    let left ← valueOf site left
    arithmetic evaluator operator left (← valueOf site right)
  | .both left right => do
    let left ← valueOf site left
    if ← truth evaluator left then valueOf site right else return left
  | .either left right => do
    let left ← valueOf site left
    if ← truth evaluator left then return left else valueOf site right
  | .concat items => do joinTexts evaluator site (← valuesOf site items)
  | .compare first rest => do
    let first ← valueOf site first
    return .bool (← holdsChain site first rest)
  | .choice line condition chosen otherwise => do
    if ← truth evaluator (← valueOf site condition) then
      valueOf site chosen
    else
      match otherwise with
      | some otherwise => valueOf site otherwise
      | none =>
        if site.constant.isSome then
          throw .unknownName
        let loaded ← template site.template
        return .undefined
          ⟨false,
            "the inline if-expression on line " ++ toString line ++ " in " ++
              Stencil.Text.quote loaded.program.name ++
              " evaluated to false and no else section was defined."⟩
  | .member subject name => do memberOf evaluator (← valueOf site subject) name
  | .item subject index => do
    let subject ← valueOf site subject
    match index with
    | .slice start stop step =>
      let start ← boundOf site start
      let stop ← boundOf site stop
      let step ← boundOf site step
      if site.constant.isSome then sliced subject start stop step
      else sliceValue subject start stop step
    | index => indexed evaluator subject (← valueOf site index)
  | .slice _ _ _ => wrongType
  | .call function arguments => do
    if site.constant.isSome then
      throw .unknownName
    let function ← valueOf site function
    callValue evaluator site function (← givenBy site arguments)
  | .filter _ subject name arguments => do
    if site.constant.any EscapeState.isOpen then
      throw .unknownName
    let subject ← valueOf site subject
    applyFilter evaluator site name subject (← givenBy site arguments)
  | .test _ subject name arguments => do
    if site.constant.any EscapeState.isOpen then
      throw .unknownName
    let subject ← valueOf site subject
    return .bool (← applyTest evaluator name subject (← givenBy site arguments))
  | .captured => capturedValue site site.captured
  | .settled escaping expression => do
    let value ← valueOf { site with constant := some ⟨escaping, false⟩ } expression
    if site.constant.isNone && holdsUnbounded (← get).heap nestingLimit value then
      throw .unknownName
    return value

def valuesOf (site : Site) : List Code → Run (List Value)
  | [] => return []
  | first :: rest => do
    let first ← valueOf site first
    return first :: (← valuesOf site rest)

def entryValues (site : Site) : List (Code × Code) → Run (List (Value × Value))
  | [] => return []
  | (key, value) :: rest => do
    let key ← valueOf site key
    let value ← valueOf site value
    return (key, value) :: (← entryValues site rest)

/-- Whether a chain of comparisons holds; it ends at the first that does not. -/
def holdsChain (site : Site) (left : Value) : List (Comparison × Code) → Run Bool
  | [] => return true
  | (comparison, operand) :: rest => do
    let right ← valueOf site operand
    if ← compareValues evaluator comparison left right then
      holdsChain site right rest
    else
      return false

def boundOf (site : Site) : Option Code → Run Value
  | none => return .none
  | some code => valueOf site code

def namedValues (site : Site) : List (String × Code) → Run (List (String × Value))
  | [] => return []
  | (name, code) :: rest => do
    let value ← valueOf site code
    return (name, value) :: (← namedValues site rest)

/-- The arguments of a call. -/
def givenBy (site : Site) : Arguments Code → Run Given
  | ⟨positional, named, spread, spreadNamed⟩ => do
    let positional ← valuesOf site positional
    let positional ←
      match spread with
      | none => pure positional
      | some code => do
        let value ← valueOf site code
        pure (positional ++ (← members? evaluator value))
    let named ← namedValues site named
    match spreadNamed with
    | none => joinArguments positional named []
    | some code => do
      let value ← valueOf site code
      joinArguments positional named (← spreadEntries value)

end

/-- The text of a value as output. -/
def outputText (site : Site) (mode : EscapeMode) (value : Value) : Run Text := do
  let escapes ←
    match mode with
    | .never => pure false
    | .always => pure true
    | .dynamic => escaping site
  if escapes then escapeValue evaluator value else showValue evaluator value

/-- Write a part of an output step. -/
def emitPart (site : Site) : EmitPart → Run Unit
  | .text content => emit (some content)
  | .value mode code => do
    let value ← valueOf evaluator site code
    emit (some (← outputText evaluator site mode value))

/-- Write a value as it is; what is no text cannot be written. -/
def emitRaw (value : Value) : Run Unit :=
  emit value.text?

/-- Whether the running template has extended another one. -/
def hasExtended (site : Site) : Run Bool := do
  let outermost ← outermost site
  return (← activation outermost).extended.isSome

/-- Only namespaces have attributes to assign. -/
def checkNamespaces (site : Site) (target : Target Slot) : Run Unit :=
  target.namespaces.eraseDups.forM fun slot => do
    let refuse : Run Unit :=
      throw (.template "cannot assign attribute on non-namespace object")
    match ← slot? site slot with
    | some (.object place) =>
      match ← object place with
      | .attributes _ => return ()
      | _ => refuse
    | _ => refuse

/-- Captured text as it is assigned: safe where output is escaped. -/
def capturedResult (site : Site) (value : Value) : Run Value := do
  if ← escaping site then
    match value with
    | .markup content => return .markup content
    | value => return .markup (← showValue evaluator value)
  else
    return value

/-- The routine of a signature at a site. -/
def newRoutine (site : Site) (signature : Signature) (body : List Step) : Run Value := do
  let escaping ← escaping site
  return .object (← newObject (.routine { signature, body, site, escaping }))

mutual

/-- Run a step. -/
def runStep (site : Site) : Step → Run Unit
  | .emit guarded parts => do
    let isSilent ← if guarded then hasExtended site else pure false
    if !isSilent then
      parts.forM (emitPart evaluator site)
  | .branch branches otherwise => do
    if !(← runBranches site branches) then
      runSteps site otherwise
  | .loop target items condition recursive state entry body otherwise => do
    if recursive then
      let recursion : Recursion := { target, condition, state, entry, body, otherwise, site }
      let place ← newObject (.recursion recursion)
      let items ← valueOf evaluator site items
      emitRaw (← runRecursion evaluator place recursion 0 items)
    else
      let items ← valueOf evaluator site items
      let otherwise :=
        match otherwise with
        | some (entry, steps) => some (entry, fun site => runSteps site steps)
        | none => none
      runLoop evaluator site
        { target, condition, state, entry, otherwise, body := fun site => runSteps site body }
        none 0 items
  | .assign target value published => do
    checkNamespaces site target
    let value ← valueOf evaluator site value
    assignTarget evaluator site target value
    publish site published
  | .capture entry body filter target published => do
    enterScope site entry
    let text ← capture (runSteps site body)
    let value ←
      match filter with
      | none => pure (.text text)
      | some code => valueOf evaluator { site with captured := text } code
    assignTarget evaluator site target (← capturedResult evaluator site value)
    publish site published
    leaveScope site entry
  | .bind entry bindings body => do
    enterScope site entry
    bindings.forM fun (target, code) => do
      assignTarget evaluator site target (← valueOf evaluator site code)
    runSteps site body
    leaveScope site entry
  | .routine signature body slot isPublished => do
    let routine ← newRoutine site signature body
    match signature.name with
    | some name =>
      if isPublished then
        exportName site name
        assignInContext site name routine
    | none => pure ()
    setSlot site slot (some routine)
  | .callBlock signature body call => do
    let caller ← newRoutine site signature body
    match call with
    | .call function arguments =>
      let function ← valueOf evaluator site function
      let given ← givenBy evaluator site arguments
      if (given.named.lookup "caller").isSome then
        wrongType
      let given : Given := { given with named := given.named ++ [("caller", caller)] }
      emitRaw (← callValue evaluator site function given)
    | code => emitRaw (← valueOf evaluator site code)
  | .filterBlock entry body filter => do
    enterScope site entry
    let text ← capture (runSteps site body)
    emitRaw (← valueOf evaluator { site with captured := text } filter)
    leaveScope site entry
  | .block guarded name seen isRequired => do
    let isSilent ← if guarded then hasExtended site else pure false
    if !isSilent then
      let place ←
        match seen with
        | some seen => derivedContext site seen
        | none => pure site.context
      let stack := ((← context site.context).blocks.lookup name).getD []
      if isRequired && stack.length ≤ 1 then
        throw (.template ("Required block " ++ Stencil.Text.quote name ++ " not found"))
      match stack with
      | block :: _ => runBlock evaluator place block
      | [] => throw .missingKey
  | .extend code => do
    let name ← valueOf evaluator site code
    let parent ← templateNamed evaluator name
    addBlocks site.context parent
    let outermost ← outermost site
    changeActivation outermost fun activation => { activation with extended := some parent }
  | .extendAgain certain => do
    let isExtended ← if certain then pure true else hasExtended site
    if isExtended then
      throw (.template "extended multiple times")
  | .embed code ignoreMissing seen => do
    let load : Run (Option Nat) := do
      let name ← valueOf evaluator site code
      return some (← includedTemplate evaluator (Naming.ofCode code) name)
    let place ←
      if ignoreMissing then
        orElse load fun fault =>
          match fault with
          | .templateNotFound _ => return none
          | .templatesNotFound _ => return none
          | fault => throw fault
      else
        load
    match place with
    | some place => writeIncluded evaluator site place seen
    | none => return ()
  | .importAs code target slot isPublished seen => do
    let name ← valueOf evaluator site code
    let moduleObject : Value := .object (← importedModule evaluator site name seen)
    if isPublished then
      assignInContext site target moduleObject
      withdrawName site target
    setSlot site slot (some moduleObject)
  | .importNames line code names isPublished seen => do
    let name ← valueOf evaluator site code
    let moduleObject ← importedModule evaluator site name seen
    names.forM fun (wanted, _, slot) => do
      setSlot site slot (some (← exportedValue site line moduleObject wanted))
    if isPublished then
      names.forM fun (_, target, slot) => do
        assignInContext site target ((← slot? site slot).getD .none)
        withdrawName site target
  | .escaping entry code mode body => do
    enterScope site entry
    let before ← escaping site
    let escapes ← truth evaluator (← valueOf evaluator site code)
    setEscaping site escapes
    runSteps { site with mode } body
    setEscaping site before
    leaveScope site entry

/-- Run steps one after the other. -/
def runSteps (site : Site) : List Step → Run Unit
  | [] => return ()
  | step :: steps => do
    runStep site step
    runSteps site steps

/-- Run the first branch whose condition holds, and say whether there is one. -/
def runBranches (site : Site) : List (Code × List Step) → Run Bool
  | [] => return false
  | (condition, body) :: rest => do
    let condition ← valueOf evaluator site condition
    if ← truth evaluator condition then
      runSteps site body
      return true
    else
      runBranches site rest

end

end WithEvaluator

/-- The evaluator that nests calls to a depth. -/
def evaluator (outside : Outside) : (depth : Nat) → Evaluator
  | 0 => Evaluator.exhausted
  | depth + 1 =>
    let inner := evaluator outside depth
    { outside with
      next := nextOf inner
      call := callValue inner
      filter := applyFilter inner
      test := fun _ => applyTest inner
      steps := runSteps inner
      value := valueOf inner }

/-- How deeply calls may be nested. -/
def callDepth : Nat := 600

end Stencil.Template

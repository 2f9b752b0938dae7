import Stencil.Template.Call

/-!
# Templates within templates

Templates extend, include and import other templates.  An included template sees the
names around it or none of them; an imported one becomes a module of the names it
assigns.
-/

namespace Stencil.Template

open Run

/-- The names that every template knows. -/
def standardNames : List (String × Value) :=
  [("range", .standard .range), ("dict", .standard .dict), ("lipsum", .standard .lipsum),
    ("cycler", .standard .cycler), ("joiner", .standard .joiner),
    ("namespace", .standard .namespace_)]

/-- The blocks of a template, each on a stack of its own. -/
def blockStacks (place : Nat) (program : Program) : List (String × List BlockReference) :=
  program.blocks.map fun (name, _) => (name, [⟨place, name⟩])

/-- A new context for a template. -/
def contextFor (place : Nat) (given : List (String × Value)) : Run Nat := do
  let loaded ← template place
  let escaping ← newEscaping false
  newContext { template := place, given, blocks := blockStacks place loaded.program, escaping }

/-- Stored slots that hold a value. -/
def seenValues (site : Site) (seen : List (String × Slot)) : Run (List (String × Value)) := do
  let values ← seen.mapM fun (name, slot) => do
    return (← slot? site slot).map fun value => (name, value)
  return values.filterMap id

/-- The names visible at a site, those of its scopes included. -/
def namesAt (site : Site) (seen : List (String × Slot)) : Run (List (String × Value)) := do
  let names := visibleNames (← context site.context)
  let locals ← seenValues site seen
  return locals.foldl (fun names (name, value) => Level.put name value names) names

/-- A context for a block that sees the names of the scopes around it. -/
def derivedContext (site : Site) (seen : List (String × Slot)) : Run Nat := do
  let given ← namesAt site seen
  let around ← context site.context
  newContext { around with given, assigned := [], exported := [] }

/-- Put the blocks of a parent template under those of a context. -/
def addBlocks (place parent : Nat) : Run Unit := do
  let loaded ← template parent
  changeContext place fun context =>
    { context with
      blocks := loaded.program.blocks.foldl (fun blocks (name, _) =>
        Level.put name ((blocks.lookup name).getD [] ++ [⟨parent, name⟩]) blocks)
        context.blocks }

/-- Run a template, and then the templates it extends. -/
def runTemplate (evaluator : Evaluator) (place context : Nat) : Run Unit := do
  let _ ← repeatFrom (some place) fun current => do
    match current with
    | none => return none
    | some place =>
      let loaded ← template place
      let activation := (← get).activations.size
      runSection evaluator place context loaded.program.main none
      if loaded.program.extends_ then
        return some (← Run.activation activation).extended
      else
        return none
  return ()

/-- The names that a context exports. -/
def exportsOf (context : Context) : List (String × Value) :=
  context.exported.filterMap fun name =>
    (context.assigned.lookup name).map fun value => (name, value)

/-- The module of a template that runs on given names. -/
def makeModule (evaluator : Evaluator) (place : Nat) (given : List (String × Value)) :
    Run Nat := do
  let context ← contextFor place given
  let output ← capture (runTemplate evaluator place context)
  let loaded ← template place
  let exports := exportsOf (← Run.context context)
  newObject (.module_ loaded.program.name output exports)

/-- The module of a template that sees no names but the standard ones, made once. -/
def defaultModule (evaluator : Evaluator) (place : Nat) : Run Nat := do
  let loaded ← template place
  match loaded.defaultModule with
  | some made => return made
  | none =>
    let made ← makeModule evaluator place standardNames
    modify fun machine =>
      { machine with
        templates := machine.templates.modify place fun loaded =>
          { loaded with defaultModule := some made } }
    return made

/-- Load the template that a value names. -/
def templateNamed (evaluator : Evaluator) (name : Value) : Run Nat := do
  lift (Value.checkKey name)
  match name with
  | .bytes _ => wrongType
  | name =>
    match name.text? with
    | some content => evaluator.load content.string
    | none => throw .missingAttribute

/-- A name in the message about templates that were not found. -/
def missedName (evaluator : Evaluator) (name : Value) : Run Text := do
  match name with
  | .undefined missing => return Text.ofString missing.message
  | name => showValue evaluator name

/-- Load the first template that is found. -/
def selectTemplate (evaluator : Evaluator) (names : Value) : Run Nat := do
  if !(← truth evaluator names) then
    throw (.templatesNotFound "Tried to select from an empty list of templates.")
  let members ← members? evaluator names
  let found ← repeatFrom (members, (none : Option Nat)) fun (rest, found) => do
    match found, rest with
    | some _, _ => return none
    | none, [] => return none
    | none, name :: rest =>
      orElse
        (do return some (rest, some (← templateNamed evaluator name)))
        (fun fault =>
          match fault with
          | .templateNotFound _ => return some (rest, none)
          | .templatesNotFound _ => return some (rest, none)
          | .undefinedValue _ => return some (rest, none)
          | fault => throw fault)
  match found.2 with
  | some place => return place
  | none =>
    let _ ← itemOf names (.int (-1))
    let missed ← members.mapM (missedName evaluator)
    throw (.templatesNotFound
      ("none of the templates given were found: " ++ (Value.commaJoined missed).string))

/-- How the template of an inclusion is written down. -/
inductive Naming
  | one
  | several
  | open_
deriving DecidableEq

/-- How a piece of code names templates. -/
def Naming.ofCode : Code → Naming
  | .constant (.text _) => .one
  | .tuple _ => .several
  | .list _ => .several
  | _ => .open_

/-- Load the template of an inclusion. -/
def includedTemplate (evaluator : Evaluator) (naming : Naming) (name : Value) : Run Nat := do
  match naming, name.text? with
  | .several, _ => selectTemplate evaluator name
  | _, some _ => templateNamed evaluator name
  | _, none => selectTemplate evaluator name

/-- Write what a template gives, seeing the given names or none. -/
def writeIncluded
    (evaluator : Evaluator)
    (site : Site)
    (place : Nat)
    (seen : Option (List (String × Slot))) : Run Unit := do
  match seen with
  | some seen =>
    let context ← contextFor place (← namesAt site seen)
    runTemplate evaluator place context
  | none =>
    match ← object (← defaultModule evaluator place) with
    | .module_ _ output _ => emitAt site.depth (some output)
    | _ => return ()

/-- The module of an imported template. -/
def importedModule
    (evaluator : Evaluator)
    (site : Site)
    (name : Value)
    (seen : Option (List (String × Slot))) : Run Nat := do
  let place ← templateNamed evaluator name
  match seen with
  | some seen => makeModule evaluator place (← namesAt site seen)
  | none => defaultModule evaluator place

/-- What a module exports under a name, or a missing value that says where it was wanted. -/
def exportedValue
    (site : Site)
    (line : Nat)
    (moduleObject : Nat)
    (name : String) : Run Value := do
  match ← object moduleObject with
  | .module_ moduleName _ exports =>
    match exports.lookup name with
    | some value => return value
    | none =>
      let loaded ← template site.template
      return missing
        ("the template " ++ Stencil.Text.quote moduleName ++ " (imported on line " ++
          toString line ++ " in " ++ Stencil.Text.quote loaded.program.name ++
          ") does not export the requested name " ++ Stencil.Text.quote name)
  | _ => return .none

/-- Make an assigned name visible in the context. -/
def assignInContext (site : Site) (name : String) (value : Value) : Run Unit :=
  changeContext site.context fun context =>
    { context with assigned := Level.put name value context.assigned }

def exportName (site : Site) (name : String) : Run Unit :=
  changeContext site.context fun context =>
    if name.startsWith "_" || context.exported.contains name then context
    else { context with exported := context.exported ++ [name] }

def withdrawName (site : Site) (name : String) : Run Unit :=
  changeContext site.context fun context =>
    if name.startsWith "_" then context
    else { context with exported := context.exported.filter (· != name) }

/-- Make assigned names visible beyond their template. -/
def publish (site : Site) (published : Published) : Run Unit :=
  published.names.forM fun (name, slot) => do
    assignInContext site name ((← slot? site slot).getD .none)
    exportName site name

end Stencil.Template

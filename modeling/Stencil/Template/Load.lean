import Stencil.Files.Tree
import Stencil.Template.Settle

/-!
# Loading and rendering templates

Templates are looked for by name within one directory and compiled once.  Rendering
runs a template on the entries of a data model and gives the written text.  What a template
asks for outside of templates an engine cannot answer by itself; a host can, and what it
does may change the files.
-/

namespace Stencil.Template

open Run

/-- Where templates are looked for and how interpolations are marked in them. -/
structure Engine where
  directory : Path
  delimiters : Delimiters
  /-- Tells engines apart: each one loads its templates for itself. -/
  number : Nat

/-- The names of a template within its directory; two dots lead out of it. -/
def namesOf? (name : String) : Option (List String) :=
  let pieces := Stencil.Text.splitString '/' name
  if pieces.contains ".." then none
  else some (pieces.filter fun piece => piece != "" && piece != ".")

/-- Find the file of a template. -/
def fileOf (tree : Files.Tree) (engine : Engine) (name : String) : Except Fault Path :=
  match namesOf? name with
  | none => .error (.templateNotFound name)
  | some names =>
    let path : Path := { engine.directory with parts := engine.directory.parts ++ names }
    match tree.find true path with
    | .ok (.file _) => .ok path
    | _ => .error (.templateNotFound
        (Stencil.Text.quote name ++ " not found in search path: " ++
          Stencil.Text.quote engine.directory.text))

/-- The text of a file. -/
def sourceOf (tree : Files.Tree) (path : Path) : Except Fault (List Char) := do
  match Stencil.Text.decode? (← tree.read path) with
  | some characters => return characters
  | none => .error .undecodable

/-- Read and compile a template. -/
def readTemplate (tree : Files.Tree) (engine : Engine) (name : String) :
    Except Fault LoadedTemplate := do
  let path ← fileOf tree engine name
  let program ← compile engine.delimiters name (← sourceOf tree path)
  return { program, stamp := (tree.stamp? path).getD 0 }

/-- Whether a loaded template is still as its file is. -/
def isCurrent (tree : Files.Tree) (engine : Engine) (name : String) (loaded : LoadedTemplate) :
    Bool :=
  match fileOf tree engine name with
  | .ok path => tree.stamp? path == some loaded.stamp
  | .error _ => false

/-- The place of a template, which is read unless it is loaded and current. -/
def loadTemplate (tree : Files.Tree) (engine : Engine) (name : String) : Run Nat := do
  let machine ← get
  let known := (machine.loaded.lookup (engine.number, name)).bind fun place =>
    match machine.templates[place]? with
    | some loaded => if isCurrent tree engine name loaded then some place else none
    | none => none
  match known with
  | some place => return place
  | none =>
    let loaded ← lift (readTemplate tree engine name)
    let place := machine.templates.size
    set { machine with
      templates := machine.templates.push loaded
      loaded := Level.put (engine.number, name) place machine.loaded }
    return place

/-- What templates get from an engine alone: other templates. -/
def Engine.outside (tree : Files.Tree) (engine : Engine) : Outside where
  load := loadTemplate tree engine
  ask := fun origin names _ => unanswered origin names

/-- Somebody who answers what templates ask for, and works on the same files. -/
abbrev Host := Value → List String → Given → Run Value

/-- What templates get where there is a host: templates as the files have them by then. -/
def Host.outside (host : Host) (engine : Engine) : Outside where
  load := fun name => do loadTemplate (← get).files engine name
  ask := host

/-- The names that a data model gives to a template, after the standard ones. -/
def modelNames (entries : List (Value × Value)) : Run (List (String × Value)) := do
  let names ← entries.mapM fun (key, value) =>
    match key.text? with
    | some name => return (name.string, value)
    | none => wrongType
  return names.foldl (fun known (name, value) => Level.put name value known) standardNames

/-- The text that a template gives for a data model, with what it gets from outside. -/
def renderWith (outside : Outside) (place : Nat) (model : Value) : Run Text := do
  let evaluator := evaluator outside callDepth
  modify fun machine => { machine with captures := [], written := [] }
  let given ← modelNames (← entriesOf evaluator model)
  let context ← contextFor place given
  runTemplate evaluator place context
  return (← get).written.reverse.flatten

/-- The text that a template gives for a data model. -/
def renderTemplate (tree : Files.Tree) (engine : Engine) (place : Nat) (model : Value) :
    Run Text :=
  renderWith (engine.outside tree) place model

end Stencil.Template

import Stencil.Generation.Listing
import Stencil.Project
import Stencil.Reader.Contribute
import Stencil.Reader.Registry
import Stencil.Settings.Basic
import Stencil.Task.Generate

/-!
# Generating from data files

Every data file becomes a task: the reader for its extension drafts the data model, the
properties of the project are added, and all templates are rendered.  Before the next task
is made, what the one before has left on the machine is dropped where nothing refers to it.

A run generates from all data files that its settings name.  The directories of the
templates and of the data files have to be there; that of the outputs is made.
-/

namespace Stencil

/-- What every data file of a run is generated with. -/
structure Generation where
  engine : Template.Engine
  /-- The properties of the project, a mapping that all data models share. -/
  properties : Value
  readers : Registry.Table
  templateFolder : Path
  outputFolder : Path
  fileMode : Int
  /-- When the descriptors of the projects were last changed. -/
  timestamp : Int
  /-- The machine that the first task is made on. -/
  start : Template.Machine := {}

namespace Generation

/-- The key that the properties of the project are put under. -/
def propertiesKey : Value := Value.ofString "pomProperties"

/-- Set up a generation for a session. -/
def setUp
    (engine : Template.Engine)
    (session : Session)
    (readers : Registry.Table)
    (templateFolder outputFolder : Path)
    (fileMode : Int) : Act Generation := do
  let entries := session.current.properties.map fun (name, content) =>
    (Value.ofString name, Value.text content)
  let properties ← Act.onMachine (Template.Run.buildDict entries)
  let timestamp := session.lastModified (← get).files
  let start ← Act.machine
  return {
    engine, properties, readers, templateFolder, outputFolder, fileMode, timestamp, start }

/-- What is known of a task before its data file has been read. -/
def draftFor (generation : Generation) (path : Path) : Act Draft := do
  let templates ← Act.askFiles fun files => listTemplates files generation.templateFolder
  let templates ← Act.onMachine (Template.Run.newList (templates.map Value.path))
  return {
    timestamp := .int generation.timestamp
    source := .path path
    templates
    folder := .path generation.outputFolder
    mode := .int generation.fileMode }

/-- The reader for a data file. -/
def readerFor (generation : Generation) (path : Path) : Except Failure Reader :=
  match (Naming.extension? path).bind fun extension => generation.readers.lookup extension with
  | some reader => .ok reader
  | none => .error (.unknownExtension path)

/-- Whether a path leads to a data file: a regular file and no link to one. -/
def isDataFile (files : Files.Tree) (path : Path) : Except Fault Bool := do
  if ← files.isFile path then
    return !(← files.isLink path)
  else
    return false

/-- Make the task of a data file. -/
def makeTask (generation : Generation) (path : Path) : Act Task := do
  let draft ← generation.draftFor path
  let reader ← Act.lift (generation.readerFor path)
  let draft ← reader.contribute path draft
  let draft ← draft.add propertiesKey generation.properties
  Act.detail ("Generating from " ++ path.text)
  draft.create

/-- The task of a data file, made when what earlier ones have left is dropped. -/
def taskFor (generation : Generation) (path : Path) : Act Task := do
  Act.onMachine (Template.Run.reclaim generation.start)
  generation.makeTask path

/-- Refuse a directory that is not there. -/
def requireFolder (folder : Path) (label : String) : Act Unit := do
  if !(← Act.askFiles fun files => files.isDirectory folder) then
    throw (.config (.noDirectory label folder))

/-- The failure to make the directory of the outputs. -/
def outputFailure (folder : Path) : Fault → Failure
  | .system fault => .config (.noOutputDirectory folder (.system fault))
  | fault => .unforeseen fault

/-- Make the directory of the outputs unless something is there. -/
def provideFolder (folder : Path) : Act Unit := do
  if !(← Act.askFiles fun files => files.has folder) then
    Act.naming (outputFailure folder) (Act.onFiles (Files.Change.makeDirectory folder))

/-- Set up a generation, all that comes before the walk over the data files. -/
def prepare (modules : List Registry.Module) (settings : Settings) (session : Session) :
    Act Generation := do
  requireFolder settings.templateFolder "template"
  requireFolder settings.dataFolder "data"
  provideFolder settings.outputFolder
  let readers ← Registry.build modules settings.extensions
  let engine ← Engine.setUp settings.templateFolder settings.engineVersion
    ⟨settings.interpolationStart.toList, settings.interpolationEnd.toList⟩
  Act.detail ("Generating from " ++ settings.dataFolder.text ++ " with templates in " ++
    settings.templateFolder.text ++ " into " ++ settings.outputFolder.text)
  setUp engine session readers settings.templateFolder settings.outputFolder settings.fileMode

section WithRendering

variable [Rendering]

/-- Generate from one data file; gives the outputs that were written. -/
def visit (generation : Generation) (path : Path) : Act (List Path) := do
  if ← Act.askFiles fun files => isDataFile files path then
    let task ← generation.taskFor path
    task.generate generation.engine
  else
    return []

/-- Generate from every data file below a directory, up to the first failure. -/
def walk (generation : Generation) (folder : Path) : Act (List Path) := do
  let limit := depthLimit (← get).files generation.outputFolder
  visitBelow generation.visit limit folder

/-- Generate from all data files; gives the outputs that were written. -/
def run (modules : List Registry.Module) (settings : Settings) (session : Session) :
    Act (List Path) := do
  let generation ← prepare modules settings session
  generation.walk settings.dataFolder

end WithRendering

end Generation

end Stencil

import Stencil.Toml.Document
import Stencil.World

/-!
# Projects and sessions

A project is described by a file in its root directory.  One table of it holds what
concerns the templates: settings, properties of the project that templates may show,
and the directories of the members that belong to the project.

A session knows the project that is generated for and all projects that belong to it.
-/

namespace Stencil

/-- A project: its descriptor and the properties that templates may show. -/
structure Project where
  descriptor : Path
  properties : List (String × Text)
deriving DecidableEq

namespace Project

open Data (Item Table)
open Files (Tree)

/-- The name of every descriptor. -/
def descriptorName : String := "pyproject.toml"

def descriptorOf (root : Path) : Path :=
  root.child descriptorName

/-- Whether a fault only says that a descriptor cannot be read. -/
def isReadingFault : Fault → Bool
  | .system _ => true
  | .descriptorSyntax => true
  | _ => false

/-- The document in a descriptor; where there is no descriptor the document is empty. -/
def readDescriptor (files : Tree) (descriptor : Path) : Except Failure Table := do
  if !(← Failure.ofFault (files.isFile descriptor)) then
    return []
  match files.read descriptor >>= Toml.readBytes with
  | .ok document => return document
  | .error fault =>
    if isReadingFault fault then
      throw (.config (.unreadableDescriptor descriptor fault))
    else
      throw (.unforeseen fault)

/-- The table under a name, empty where there is none. -/
def innerTable (descriptor : Path) (title name : String) (table : Table) :
    Except Failure Table :=
  match table.lookup name with
  | none => .ok []
  | some (.table inner) => .ok inner
  | some _ => .error (.config (.noTable title descriptor))

/-- What concerns the templates in the descriptor of a root directory. -/
def toolTable (files : Tree) (root : Path) : Except Failure Table := do
  let descriptor := descriptorOf root
  let document ← readDescriptor files descriptor
  let tool ← innerTable descriptor "tool" "tool" document
  innerTable descriptor "tool.templategen" "templategen" tool

/-- The names in the table that describe the project and are no settings. -/
def projectKeys : List String := ["properties", "members"]

/-- The settings in the descriptor of a root directory. -/
def settingsTable (files : Tree) (root : Path) : Except Failure Table := do
  return (← toolTable files root).filter fun (name, _) => !projectKeys.contains name

/-- A property as text: flags in lower case, everything else as it is shown plainly. -/
def propertyText : Item → Except Fault Text
  | .flag isSet => .ok (if isSet then "true" else "false")
  | item => item.plain

/-- The project that a table describes. -/
def ofTable (descriptor : Path) (table : Table) : Except Failure Project := do
  let properties ← innerTable descriptor "tool.templategen.properties" "properties" table
  let texts ← properties.mapM fun (name, item) => do
    return (name, ← Failure.ofFault (propertyText item))
  return ⟨descriptor, texts⟩

/-- The project of a root directory. -/
def load (files : Tree) (root : Path) : Except Failure Project := do
  ofTable (descriptorOf root) (← toolTable files root)

/-- When the descriptor of a project was last changed, in milliseconds. -/
def lastModified (files : Tree) (project : Project) : Int :=
  files.lastModified project.descriptor

end Project

/-- The current project, and all projects. -/
structure Session where
  current : Project
  projects : List Project
deriving DecidableEq

namespace Session

open Data (Item Table)
open Files (Tree)

/-- The members that a table lists. -/
def memberItems (descriptor : Path) (table : Table) : Except Failure (List Item) :=
  match table.lookup "members" with
  | none => .ok []
  | some (.list items) => .ok items
  | some _ => .error (.config (.membersNoList descriptor))

/-- The project of a member. -/
def loadMember (files : Tree) (root : Path) (member : Item) : Except Failure Project := do
  let place ← Failure.ofFault member.plain
  Project.load files (root.join (Path.ofString place.string))

/-- The projects of the session at a root directory. -/
def read (files : Tree) (root : Path) : Except Failure Session := do
  let descriptor := Project.descriptorOf root
  let table ← Project.toolTable files root
  let current ← Project.ofTable descriptor table
  let members ← memberItems descriptor table
  return ⟨current, current :: (← members.mapM (loadMember files root))⟩

/-- Load the session at a root directory. -/
def load (root : Path) : Act Session := do
  let session ← Act.lift (read (← get).files root)
  Act.detail ("Loaded session with " ++ toString session.projects.length ++
    " project(s) from " ++ root.text)
  return session

/-- When any descriptor of a session was last changed; zero where there is no project. -/
def lastModified (files : Tree) (session : Session) : Int :=
  match session.projects.map (Project.lastModified files) with
  | [] => 0
  | first :: rest => rest.foldl max first

end Session

end Stencil

import Stencil.Files.Writer
import Stencil.Template.Load

/-!
# The system as a host

The names that every template knows lead to the functions of the system.  Two of them are
answered here, for paths in their usual spelling: the one that makes a directory and the one
that removes a file.  They are carried out on the files at once, while the template is still
being rendered.  Everything else stays unanswered.
-/

namespace Stencil

open Files (Change)

namespace Files.Change

/-- Remove what stands at a path, unless it is a directory. -/
def removeFile (path : Path) : Change Unit := do
  let tree ← get
  match tree.walk false path with
  | .error reason => refuse reason path.text
  | .ok spot =>
    match spot.entry with
    | none => refuse .noSuchEntry path.text
    | some .directory => refuse .isDirectory path.text
    | some _ => set (tree.remove spot.place)

end Files.Change

namespace Template

/-- A change of the files that templates reach. -/
def Run.onFiles {α : Type} (change : Change α) : Run α := fun machine =>
  match change.run machine.files with
  | .ok result files => .ok result { machine with files }
  | .error fault files => .error fault { machine with files }

namespace Host

/-- The function of the system that names lead to. -/
def systemFunction? : Value → List String → Option String
  | .standard .lipsum, ["__globals__", "os", function] => some function
  | .standard .cycler, ["__init__", "__globals__", "os", function] => some function
  | .standard .joiner, ["__init__", "__globals__", "os", function] => some function
  | .standard .namespace_, ["__init__", "__globals__", "os", function] => some function
  | _, _ => none

/-- The only argument as a path, if it spells the path as it is shown. -/
def pathArgument? (given : Given) : Option Path :=
  match given.named, given.positional with
  | [], [.text content] =>
    let path := Path.ofString content.string
    if Text.ofString path.text == content && !path.text.toList.contains (Char.ofNat 0) then
      some path
    else none
  | _, _ => none

/-- What a function of the system does at a path. -/
def systemChange? (function : String) (path : Path) : Option (Change Unit) :=
  if function == "mkdir" then some (Change.makeOne path)
  else if function == "remove" || function == "unlink" then some (Change.removeFile path)
  else none

/-- The host that carries out what is known of the system. -/
def system : Host := fun origin names given => do
  let change := do
    systemChange? (← systemFunction? origin names) (← pathArgument? given)
  match change with
  | some change =>
    Run.onFiles change
    return .none
  | none => unanswered origin names

end Host

end Template

end Stencil

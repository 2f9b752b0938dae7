import Stencil.Command.Run
import Stencil.Template.Host

/-!
# The command

The directories that the command works in are read into a file tree, the command is run
on it, and what it has made, written or removed is put back.
-/

namespace Stencil.Main

open Files (Entry Place Tree)

/-- The path of a place. -/
def pathOf (place : Place) : String :=
  "/" ++ String.intercalate "/" place

/-- The place of a path without links and dots. -/
def placeOf (path : String) : Place :=
  (Path.ofString path).parts

/-- A tree with the directories around a place. -/
def withFolders (tree : Tree) (place : Place) : Tree :=
  (List.range place.length).foldl (fun tree count =>
    let folder := place.take count
    if (tree.at? folder).isSome then tree else tree.put folder .directory) tree

/-- The stamp of a time. -/
def stampOf (time : IO.FS.SystemTime) : Int :=
  time.sec * 1000000000 + time.nsec.toNat

/-- Read what stands at a place, and everything below it. -/
partial def readPlace (tree : Tree) (place : Place) : IO Tree := do
  if (tree.at? place).any fun entry => !entry.isDirectory then
    return tree
  let path := (← IO.currentDir).join (pathOf place)
  let found ← path.symlinkMetadata.toBaseIO
  match found with
  | .error _ => return tree
  | .ok details =>
    let tree := withFolders tree place
    match details.type with
    | .dir =>
      let entries ← path.readDir.toBaseIO
      let names :=
        match entries with
        | .ok entries => entries.toList.map IO.FS.DirEntry.fileName
        | .error _ => []
      names.foldlM (fun tree name => readPlace tree (place ++ [name]))
        (tree.put place .directory)
    | .file =>
      let bytes ← IO.FS.readBinFile path
      let stamp := stampOf details.modified
      return tree.put place (.file { bytes, mode := 0o644, stamp, serial := 0 })
    | .symlink =>
      match ← (IO.FS.realPath path).toBaseIO with
      | .ok target => readPlace (tree.put place (.link target.toString)) (placeOf target.toString)
      | .error _ => return tree.put place (.link "")
    | .other => return tree.put place .pipe

/-- Read the first names of a path one after the other, and everything below the last one. -/
def readPath (tree : Tree) (path : Path) : IO Tree := do
  let here ← IO.currentDir
  match ← (IO.FS.realPath (here.join path.text)).toBaseIO with
  | .ok real => readPlace tree (placeOf real.toString)
  | .error _ => return tree

/-- The rights that three bits of a mode stand for. -/
def rightsOf (mode shift : Nat) : IO.AccessRight :=
  let bits := mode / shift
  ⟨bits / 4 % 2 == 1, bits / 2 % 2 == 1, bits % 2 == 1⟩

/-- Take away what is no longer there. -/
def takeAway (after : Tree) (place : Place) (entry : Entry) : IO Unit := do
  let isKept := (after.at? place).any fun entry => !entry.isDirectory
  if !entry.isDirectory && !isKept then
    IO.FS.removeFile (pathOf place)

/-- Put an entry that is new or has been written where it belongs. -/
def putBack (before : Tree) (place : Place) (entry : Entry) : IO Unit := do
  let path := pathOf place
  match entry with
  | .directory =>
    if before.at? place != some .directory then IO.FS.createDirAll path
  | .file content =>
    if before.written ≤ content.serial then
      let spare := path ++ ".new"
      IO.FS.writeBinFile spare content.bytes
      let mode := content.mode
      IO.setAccessRights spare ⟨rightsOf mode 64, rightsOf mode 8, rightsOf mode 1⟩
      IO.FS.rename spare path
  | _ => return ()

/-- Put back all that has changed. -/
def putBackAll (before after : Tree) : IO Unit := do
  for (place, entry) in before.entries do
    takeAway after place entry
  let entries := after.entries.mergeSort fun left right => left.1.length ≤ right.1.length
  for (place, entry) in entries do
    putBack before place entry

/-- The variables of the environment, in the order in which the system lists them. -/
def readEnvironment : IO (List (String × String)) := do
  let bytes ← IO.FS.readBinFile "/proc/self/environ"
  return (Text.pieces 0 bytes.toList).filterMap fun variable_ => do
    let characters ← Text.decode? ⟨variable_.toArray⟩
    let (name, content) := characters.span (· != '=')
    return (String.ofList name, String.ofList (content.drop 1))

/-- The words for a fault within the text of a failure. -/
def wording (fault : Fault) : String :=
  fault.text?.getD "malformed content"

/-- What is said at the end about a command that did not come to an end as it should. -/
def lastWord? : Command.Outcome → Option String
  | .misused fault => some ("Error: " ++ fault.message)
  | .crashed failure => some ("Error: " ++ failure.message wording)
  | _ => none

/-- Run a command line.  The system answers what templates ask for. -/
def run (arguments : List String) : IO UInt32 := do
  let here ← IO.currentDir
  let start : Tree := { entries := [], here := placeOf here.toString, written := 1 }
  let surroundings : Command.Surroundings := ⟨Registry.ownModules, ← readEnvironment⟩
  let tree ← readPlace start start.here
  let tree ← (Command.workplaces surroundings arguments { files := tree }).foldlM readPath tree
  let tree ← (Command.workplaces surroundings arguments { files := tree }).foldlM readPath tree
  let rendering := Rendering.among Template.Host.system
  let (outcome, world) := @Command.run rendering surroundings arguments { files := tree }
  putBackAll tree world.files
  let lines := Command.log wording (Command.isVerbose arguments) world.notices
  for line in lines ++ (lastWord? outcome).toList do
    IO.eprintln line
  return UInt32.ofNat outcome.exitCode

end Stencil.Main

def main (arguments : List String) : IO UInt32 :=
  Stencil.Main.run arguments

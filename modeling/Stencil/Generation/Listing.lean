import Stencil.World

/-!
# Listing files

The templates of a run are the entries of one directory; the data files are all entries
below another one.  Both are taken in the order of their names, and links to
directories are not followed.
-/

namespace Stencil.Generation

/-- Put a name before the first one that is not less. -/
def insertName (name : String) : List String → List String
  | [] => [name]
  | first :: rest =>
    if name ≤ first then name :: first :: rest else first :: insertName name rest

/-- Names in the order of their code points. -/
def inOrder (names : List String) : List String :=
  names.foldr insertName []

/-- The entries of a directory in the order of their names. -/
def entriesOf (files : Files.Tree) (folder : Path) : Except Fault (List Path) := do
  return (inOrder (← files.list folder)).map folder.child

/-- The templates in a directory; there are none where there is no directory. -/
def listTemplates (files : Files.Tree) (folder : Path) : Except Fault (List Path) := do
  if ← files.isDirectory folder then entriesOf files folder else return []

/-- Whether an entry is itself a directory, and no link to one. -/
def isFolder (files : Files.Tree) (path : Path) : Bool :=
  match files.find false path with
  | .ok entry => entry.isDirectory
  | .error _ => false

/-- The entries of a directory, each with whether it is a directory. -/
def markedEntries (files : Files.Tree) (folder : Path) : Except Fault (List (Path × Bool)) := do
  return (← entriesOf files folder).map fun path => (path, isFolder files path)

/--
Visit everything below a directory but directories themselves, depth first; the results
are put together.  What a directory holds is settled when it is entered.
-/
def visitBelow {α : Type} (visit : Path → Act (List α)) :
    (fuel : Nat) → (folder : Path) → Act (List α)
  | 0, _ => Act.fail .tooDeep
  | fuel + 1, folder => do
    let entries ← Act.askFiles fun files => markedEntries files folder
    let results ← entries.mapM fun (path, isFolder) =>
      if isFolder then visitBelow visit fuel path else visit path
    return results.flatten

/--
More levels of directories than there can be, even if a directory is made meanwhile, and
than anybody could wait for.
-/
def depthLimit (files : Files.Tree) (made : Path) : Nat :=
  files.entries.length + files.here.length + made.parts.length + 1 + Template.Run.stepLimit

/-- The data files below a directory. -/
def listFiles (folder : Path) : Act (List Path) := do
  visitBelow (fun path => return [path]) (depthLimit (← get).files .here) folder

end Stencil.Generation

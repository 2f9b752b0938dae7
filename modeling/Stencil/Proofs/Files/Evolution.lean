import Stencil.Proofs.Files.Writing

/-!
# How trees evolve

While outputs are written directories stay what they are, a link stays or gives way to a
file, and a file stays a file.  A path that leads into a directory before and after then
leads into the same one.
-/

namespace Stencil.Files

/-- The changes that making directories and writing files can bring about. -/
structure Evolves (before after : Tree) : Prop where
  sound : after.Sound
  here : after.here = before.here
  directory : ∀ place, before.at? place = some .directory →
    after.at? place = some .directory
  link : ∀ place target, before.at? place = some (.link target) →
    after.at? place = some (.link target) ∨ ∃ content, after.at? place = some (.file content)
  file : ∀ place content, before.at? place = some (.file content) →
    ∃ later, after.at? place = some (.file later)

namespace Evolves

theorem refl {tree : Tree} (sound : tree.Sound) : Evolves tree tree where
  sound := sound
  here := rfl
  directory := fun _ there => there
  link := fun _ _ there => .inl there
  file := fun _ content there => ⟨content, there⟩

theorem trans {before middle after : Tree} (first : Evolves before middle)
    (second : Evolves middle after) : Evolves before after where
  sound := second.sound
  here := second.here.trans first.here
  directory := fun place there => second.directory place (first.directory place there)
  link := fun place target there => by
    rcases first.link place target there with kept | ⟨content, replaced⟩
    · exact second.link place target kept
    · exact .inr (second.file place content replaced)
  file := fun place content there => by
    obtain ⟨between, replaced⟩ := first.file place content there
    exact second.file place between replaced

theorem of_eq {before after : Tree} (sound : before.Sound) (same : after = before) :
    Evolves before after := by
  subst same
  exact .refl sound

end Evolves

theorem Grown.evolves {path : Path} {before after : Tree} (grown : Grown path before after) :
    Evolves before after where
  sound := grown.sound
  here := grown.here
  directory := fun place => grown.kept place _
  link := fun place _ there => .inl (grown.kept place _ there)
  file := fun place content there => ⟨content, grown.kept place _ there⟩

theorem Placed.evolves {folder : Place} {name : String} {content : FileContent}
    {before after : Tree} (placed : Placed folder name content before after)
    (noDirectory : before.at? (folder ++ [name]) ≠ some .directory) :
    Evolves before after where
  sound := placed.sound
  here := placed.here
  directory := fun place there => by
    rw [placed.others _ fun same => noDirectory (same ▸ there), there]
  link := fun place target there => by
    by_cases same : place = folder ++ [name]
    · exact .inr ⟨content, same ▸ placed.there⟩
    · exact .inl (by rw [placed.others _ same, there])
  file := fun place found there => by
    by_cases same : place = folder ++ [name]
    · exact ⟨content, same ▸ placed.there⟩
    · exact ⟨found, by rw [placed.others _ same, there]⟩

theorem Change.Written.evolves {path : Path} {mode : Int} {bytes : ByteArray}
    {before after : Tree} (written : Change.Written path mode bytes before after) :
    Evolves before after := by
  obtain ⟨trail, folder, content, replaceable, -, -, -, -, placed⟩ := written
  exact placed.evolves replaceable.noDirectory

/-- A way into a directory that is still open takes the same links to the same place. -/
theorem Leads.evolve
    {before after : Tree} (evolves : Evolves before after)
    {follow : Bool} {links : Nat} {place folder later : Place} {names : List String}
    {trail other : List Place}
    (leads : Leads before follow links place names trail ⟨folder, some .directory⟩)
    (again : Leads after follow links place names other ⟨later, some .directory⟩) :
    trail = other ∧ folder = later := by
  generalize spotEq : (⟨folder, some .directory⟩ : Tree.Spot) = spot at leads
  induction leads generalizing other with
  | done =>
    generalize lastEq : (⟨later, some .directory⟩ : Tree.Spot) = last at again
    cases again
    exact ⟨rfl, (congrArg Tree.Spot.place spotEq).trans (congrArg Tree.Spot.place lastEq).symm⟩
  | skip blank _ ih => exact ih (again.of_blank blank) spotEq
  | up _ ih => exact ih again.of_up spotEq
  | enter isName there _ ih =>
    exact ih (again.of_directory isName (evolves.directory _ there)) spotEq
  | follow isName there followed _ ih =>
    rcases evolves.link _ _ there with kept | ⟨content, replaced⟩
    · obtain ⟨fewer, front, linksEq, rfl, onward⟩ := again.of_link isName kept followed
      cases linksEq
      obtain ⟨rfl, folderEq⟩ := ih onward spotEq
      exact ⟨rfl, folderEq⟩
    · obtain ⟨-, impossible⟩ := again.of_end isName replaced (by simp) (by simp)
      cases impossible
  | stop _ _ noDirectory =>
    cases spotEq
    exact absurd rfl noDirectory

theorem LeadsInto.evolve
    {before after : Tree} {path : Path} {trail other : List Place} {folder later : Place}
    (leads : LeadsInto before path trail folder)
    (evolves : Evolves before after)
    (again : LeadsInto after path other later) : trail = other ∧ folder = later := by
  unfold LeadsInto LeadsTo at again
  rw [Tree.startOf_eq evolves.here] at again
  exact Leads.evolve evolves leads again

end Stencil.Files

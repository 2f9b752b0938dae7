import Stencil.Proofs.Files.Evolution

/-!
# The footprint of outputs

Outputs are files put directly into one directory.  What they leave of a tree is told in two
steps: the directories on the way of the path to that directory, which only add to the
tree, and the files in the directory, each in the place of no directory.

Outputs may replace links, so a path that led into a directory before may be blocked
afterwards; but it never comes to lead into another one.
-/

namespace Stencil.Files

/--
Files have been put directly into the directory that a path leads into, under allowed
names; nothing else is changed.
-/
structure Overwritten (path : Path) (allowed : String → Prop) (base current : Tree) : Prop where
  sound : current.Sound
  here : current.here = base.here
  changed : ∀ place, current.at? place = base.at? place ∨
    ∃ trail folder name content, LeadsInto base path trail folder ∧ allowed name ∧
      place = folder ++ [name] ∧ base.at? place ≠ some .directory ∧
      current.at? place = some (.file content)

variable {path : Path} {allowed : String → Prop} {base current after : Tree}

namespace Overwritten

theorem of_alike (alike : Alike base current) : Overwritten path allowed base current :=
  ⟨alike.sound, alike.here, fun place => .inl (alike.at?_eq place)⟩

theorem refl (sound : base.Sound) : Overwritten path allowed base base :=
  of_alike (.refl sound)

theorem weaken {others : String → Prop} (overwritten : Overwritten path allowed base current)
    (included : ∀ name, allowed name → others name) :
    Overwritten path others base current where
  sound := overwritten.sound
  here := overwritten.here
  changed := fun place => by
    rcases overwritten.changed place with same | ⟨trail, folder, name, content, leads,
      isAllowed, rest⟩
    · exact .inl same
    · exact .inr ⟨trail, folder, name, content, leads, included name isAllowed, rest⟩

/-- What is no file stood there before. -/
theorem at?_base (overwritten : Overwritten path allowed base current) {place : Place}
    {entry : Entry} (there : current.at? place = some entry)
    (noFile : ∀ content, entry ≠ .file content) : base.at? place = some entry := by
  rcases overwritten.changed place with same | ⟨_, _, _, content, _, _, _, _, isFile⟩
  · rw [← same, there]
  · rw [there] at isFile
    cases isFile
    exact absurd rfl (noFile content)

theorem directory (overwritten : Overwritten path allowed base current) {place : Place}
    (there : base.at? place = some .directory) : current.at? place = some .directory := by
  rcases overwritten.changed place with same | ⟨_, _, _, _, _, _, _, noDirectory, _⟩
  · rw [same, there]
  · exact absurd there noDirectory

/-- No new way into a directory is opened. -/
theorem leadsInto_base (overwritten : Overwritten path allowed base current) {other : Path}
    {trail : List Place} {folder : Place} (leads : LeadsInto current other trail folder) :
    LeadsInto base other trail folder := by
  refine leads.transfer overwritten.here.symm
    (fun place there => overwritten.at?_base there (by simp)) fun place member => ?_
  obtain ⟨target, there⟩ := Leads.link_of_mem_trail leads member
  rw [there, overwritten.at?_base there (by simp)]

/-- A way into a directory stays open as long as none of its links is replaced. -/
theorem leadsInto_current (overwritten : Overwritten path allowed base current) {other : Path}
    {trail : List Place} {folder : Place} (leads : LeadsInto base other trail folder)
    (beside : ∀ front target name, LeadsInto base path front target → allowed name →
      target ++ [name] ∉ trail) : LeadsInto current other trail folder := by
  refine leads.transfer overwritten.here (fun place => overwritten.directory)
    fun place member => ?_
  rcases overwritten.changed place with same | ⟨front, target, name, _, around, isAllowed, rfl,
    _, _⟩
  · exact same
  · exact absurd member (beside front target name around isAllowed)

/-- What lies below a directory that the outputs do not lie in is as it was. -/
theorem at?_below (overwritten : Overwritten path allowed base current) {place : Place}
    (directory : base.at? place = some .directory)
    (apart : ∀ front target, LeadsInto base path front target → ¬place <+: target)
    (names : List String) : current.at? (place ++ names) = base.at? (place ++ names) := by
  rcases overwritten.changed (place ++ names) with same | ⟨front, target, name, _, around, _,
    targetEq, noDirectory, _⟩
  · exact same
  · exfalso
    rcases List.eq_nil_or_concat names with rfl | ⟨inner, last, rfl⟩
    · rw [List.append_nil] at noDirectory
      exact noDirectory directory
    · rw [List.concat_eq_append, ← List.append_assoc] at targetEq
      obtain ⟨rfl, -⟩ := List.append_inj' targetEq rfl
      exact apart front _ around (List.prefix_append ..)

/-- One more file is put into the directory. -/
theorem placed {output : Path} {trail : List Place} {folder : Place} {content : FileContent}
    (overwritten : Overwritten path allowed base current)
    (replaceable : Replaceable current output trail folder)
    (inside : output.parent = path)
    (isAllowed : allowed output.name)
    (isPlaced : Placed folder output.name content current after) :
    Overwritten path allowed base after where
  sound := isPlaced.sound
  here := isPlaced.here.trans overwritten.here
  changed := fun place => by
    by_cases target : place = folder ++ [output.name]
    · refine .inr ⟨trail, folder, output.name, content, ?_, isAllowed, target, ?_, ?_⟩
      · exact overwritten.leadsInto_base (inside ▸ replaceable.leads)
      · intro directory
        exact replaceable.noDirectory (target ▸ overwritten.directory directory)
      · rw [target, isPlaced.there]
    · rw [isPlaced.others _ target]
      exact overwritten.changed place

end Overwritten

/-- A tree has grown on the way of a path, and then outputs have been put at its end. -/
def Footprint (path : Path) (allowed : String → Prop) (start current : Tree) : Prop :=
  ∃ grown, Grown path start grown ∧ Overwritten path allowed grown current

/--
A footprint to which outputs can be added: as soon as there are outputs, the path still
leads to them.
-/
def OpenFootprint (path : Path) (allowed : String → Prop) (start current : Tree) : Prop :=
  ∃ grown, Grown path start grown ∧ Overwritten path allowed grown current ∧
    (Alike grown current ∨ ∃ trail folder, LeadsInto current path trail folder)

theorem Grown.openFootprint {start : Tree} (grown : Grown path start current) :
    OpenFootprint path allowed start current :=
  ⟨current, grown, .refl grown.sound, .inl (.refl grown.sound)⟩

namespace OpenFootprint

variable {start : Tree}

theorem footprint (isOpen : OpenFootprint path allowed start current) :
    Footprint path allowed start current := by
  obtain ⟨grown, growth, overwritten, -⟩ := isOpen
  exact ⟨grown, growth, overwritten⟩

theorem sound (isOpen : OpenFootprint path allowed start current) : current.Sound := by
  obtain ⟨grown, -, overwritten, -⟩ := isOpen
  exact overwritten.sound

theorem weaken {others : String → Prop} (isOpen : OpenFootprint path allowed start current)
    (included : ∀ name, allowed name → others name) :
    OpenFootprint path others start current := by
  obtain ⟨grown, growth, overwritten, way⟩ := isOpen
  exact ⟨grown, growth, overwritten.weaken included, way⟩

/-- Directories are only made while there are no outputs. -/
theorem withDirectories (isOpen : OpenFootprint path allowed start current) :
    Footprint path allowed start (current.withDirectories path) := by
  obtain ⟨grown, growth, overwritten, alike | ⟨trail, folder, leads⟩⟩ := isOpen
  · have more := alike.sound.grown_withDirectories path
    exact ⟨_, (growth.trans (alike.grown path)).trans more, .refl more.sound⟩
  · rw [leads.withDirectories_eq]
    exact ⟨grown, growth, overwritten⟩

/-- An output that is written is added. -/
theorem written {output : Path} {mode : Int} {bytes : ByteArray}
    (isOpen : OpenFootprint path allowed start current)
    (inside : output.parent = path)
    (isAllowed : allowed output.name)
    (isWritten : Change.Written output mode bytes (current.withDirectories path) after) :
    OpenFootprint path allowed start after := by
  obtain ⟨grown, growth, overwritten⟩ := isOpen.withDirectories
  obtain ⟨trail, folder, content, replaceable, beside, -, -, -, placed⟩ := isWritten
  exact ⟨grown, growth, overwritten.placed replaceable inside isAllowed placed,
    .inr ⟨trail, folder, inside ▸ placed.leadsInto replaceable beside⟩⟩

/-- An output whose mode could not be set is added, but the path may be blocked now. -/
theorem stranded {output : Path} {mode : Int} {bytes : ByteArray}
    (isOpen : OpenFootprint path allowed start current)
    (inside : output.parent = path)
    (isAllowed : allowed output.name)
    (isStranded : Change.Stranded output mode bytes (current.withDirectories path) after) :
    Footprint path allowed start after := by
  obtain ⟨grown, growth, overwritten⟩ := isOpen.withDirectories
  obtain ⟨trail, folder, content, replaceable, -, -, -, placed⟩ := isStranded
  exact ⟨grown, growth, overwritten.placed replaceable inside isAllowed placed⟩

end OpenFootprint

theorem Footprint.weaken {others : String → Prop} {start : Tree}
    (footprint : Footprint path allowed start current)
    (included : ∀ name, allowed name → others name) : Footprint path others start current := by
  obtain ⟨grown, growth, overwritten⟩ := footprint
  exact ⟨grown, growth, overwritten.weaken included⟩

/-- Trees that agree have the same footprints. -/
theorem Footprint.alike {start : Tree} (footprint : Footprint path allowed start current)
    (alike : Alike current after) : Footprint path allowed start after := by
  obtain ⟨grown, growth, overwritten⟩ := footprint
  refine ⟨grown, growth, alike.sound, alike.here.trans overwritten.here, fun place => ?_⟩
  rw [alike.at?_eq]
  exact overwritten.changed place

/-- Entries are kept or have become files, and only directories and files are new. -/
theorem Footprint.kept {start : Tree} (footprint : Footprint path allowed start current)
    {place : Place} {entry : Entry} (there : start.at? place = some entry) :
    current.at? place = some entry ∨ ∃ content, current.at? place = some (.file content) := by
  obtain ⟨grown, growth, overwritten⟩ := footprint
  rcases overwritten.changed place with same | ⟨_, _, _, content, _, _, _, _, isFile⟩
  · exact .inl (same.trans (growth.kept place entry there))
  · exact .inr ⟨content, isFile⟩

end Stencil.Files

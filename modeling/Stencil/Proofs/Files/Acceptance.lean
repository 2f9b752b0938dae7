import Stencil.Proofs.Files.AllOrNothing
import Stencil.Proofs.Files.Levels
import Stencil.Proofs.Files.Replacing

/-!
# What a write does to its path

A path accepts a file where its directory is there or can be made, a spare file can be opened
in it, no directory stands in the file's place and the mode can be set.  Then a write is
complete.  A write that breaks off for its content only makes directories.  Those that are
made for a path without two dots are new, and so is all that stands in them, so they never
give a meaning to the path that it did not have.
-/

namespace Stencil.Files

open Outcome

/-! ## Writes that come about -/

namespace Change

/-- A file with this mode can be written at a path. -/
def Accepts (path : Path) (mode : Int) (tree : Tree) : Prop :=
  FitsMode mode ∧ ∃ grown trail folder, ensureDirectory path.parent tree = .ok ⟨⟩ grown ∧
    (∃ spare opened, openSpare path grown = .ok spare opened) ∧
    Replaceable grown path trail folder ∧ folder ++ [path.name] ∉ trail

variable {path : Path} {mode : Int} {tree : Tree}

theorem writeFile_of_accepts (sound : tree.Sound) (accepts : Accepts path mode tree)
    (bytes : ByteArray) :
    ∃ after, writeFile path mode (.ok bytes) tree = .ok ⟨⟩ after ∧
      Complete path mode bytes tree after := by
  obtain ⟨fits, grown, trail, folder, made, opens, replaceable, beside⟩ := accepts
  have reaches : Reaches path (.ok bytes) tree grown trail folder bytes :=
    ⟨made, opens, rfl, replaceable⟩
  rcases writeFile_of_reaches sound mode reaches with ⟨-, -, after, writes, written⟩ | refused
  · exact ⟨after, writes, written.complete ((ensureDirectory_grows path.parent).of_ok made sound)⟩
  · exact absurd ⟨fits, beside⟩ refused.1

theorem writeFile_of_not_accepts (sound : tree.Sound) (refuses : ¬Accepts path mode tree)
    (content : Except Fault ByteArray) :
    ∃ fault after, writeFile path mode content tree = .error fault after := by
  by_cases reach : ∃ grown trail folder bytes, Reaches path content tree grown trail folder bytes
  · obtain ⟨grown, trail, folder, bytes, reaches⟩ := reach
    rcases writeFile_of_reaches sound mode reaches with
      ⟨fits, beside, -⟩ | ⟨-, fault, after, -, writes, -⟩
    · exact absurd ⟨fits, grown, trail, folder, reaches.made, reaches.opened,
        reaches.replaceable, beside⟩ refuses
    · exact ⟨fault, after, writes⟩
  · obtain ⟨fault, after, writes, -⟩ := writeFile_of_not_reaches sound mode reach
    exact ⟨fault, after, writes⟩

end Change

/-! ## Directories that reveal nothing -/

/-- Below a place without links, names without two dots only lead further down. -/
theorem Leads.down {tree : Tree} {root place : Place} {follow : Bool} {links : Nat}
    {names : List String} {trail : List Place} {spot : Tree.Spot}
    (noLinks : ∀ below target, tree.at? (root ++ below) ≠ some (.link target))
    (leads : Leads tree follow links place names trail spot) (straight : ".." ∉ names)
    (inside : root <+: place) :
    ∃ more, spot.place = place ++ more ∧ ∀ last ∈ names, IsName last → more ≠ [] := by
  induction leads with
  | done => exact ⟨[], (List.append_nil _).symm, by simp⟩
  | skip blank _ ih =>
    obtain ⟨more, same, further⟩ := ih (not_or.mp (mt List.mem_cons.mpr straight)).2 inside
    refine ⟨more, same, fun last member isName => ?_⟩
    rcases List.mem_cons.mp member with rfl | later
    · exact absurd blank isName.not_blank
    · exact further last later isName
  | up => exact absurd (List.mem_cons_self ..) straight
  | enter _ _ _ ih =>
    obtain ⟨more, same, -⟩ := ih (not_or.mp (mt List.mem_cons.mpr straight)).2
      (inside.trans (List.prefix_append ..))
    exact ⟨_ :: more, same.trans (List.append_cons ..).symm, by simp⟩
  | follow _ there =>
    obtain ⟨below, rfl⟩ := inside
    rw [List.append_assoc] at there
    exact absurd there (noLinks _ _)
  | stop => exact ⟨_, rfl, by simp⟩

/-- Where a path leads whose last name is no dots, this name is one of an entry. -/
theorem LeadsTo.isName_of_child {tree : Tree} (sound : tree.Sound) {folder : Path}
    {name : String} (noDots : name ≠ "" ∧ name ≠ "." ∧ name ≠ "..") {follow : Bool}
    {trail : List Place} {spot : Tree.Spot}
    (leads : LeadsTo tree follow (folder.child name) trail spot) : IsName name := by
  obtain ⟨_, _, _, _, _, last, _⟩ := Leads.of_concat sound leads (sound.directory_startOf _)
  cases last with
  | skip blank => exact absurd blank (not_or.mpr ⟨noDots.2.1, noDots.1⟩)
  | up => exact absurd rfl noDots.2.2
  | enter isName => exact isName
  | follow isName => exact isName
  | stop isName => exact isName

section Revealing

variable {folder : Path} {name : String} {before after : Tree}

/-- What a path leads to stands below everything that is made for it. -/
theorem Grown.exists_append (sound : before.Sound) (grown : Grown folder before after)
    (isName : IsName name) (straight : ".." ∉ folder.parts) {trail : List Place}
    {spot : Tree.Spot} (leads : LeadsTo after false (folder.child name) trail spot)
    {place : Place} {entry : Entry} (absent : before.at? place = none)
    (there : after.at? place = some entry) :
    ∃ more, spot.place = place ++ more ∧ more ≠ [] := by
  obtain ⟨rfl, names, first, others, around, ⟨rest, split⟩, rfl, into⟩ :=
    grown.made _ _ absent there
  have parts : (folder.child name).parts = names ++ first :: (rest ++ [name]) := by
    rw [Path.child, ← split]
    simp
  have walked : after.walkFrom false Tree.linkLimit (after.startOf folder)
      (names ++ first :: (rest ++ [name])) = .ok spot := by
    rw [← parts]
    exact LeadsTo.walk_eq leads
  obtain ⟨fewer, passed⟩ := @Leads.walkFrom_append after false _ _ _ _ _ _ into
    (List.cons_ne_nil first (rest ++ [name]))
  obtain ⟨later, onward⟩ := walkFrom_eq_ok_iff.mp (passed.symm.trans walked)
  have below := onward.of_directory (grown.sound.named _ _ _ there) there
  have noLinks : ∀ names target, after.at? (around ++ [first] ++ names) ≠ some (.link target) := by
    intro names target link
    have new := sound.at?_append_of_none absent names
    cases (grown.made _ _ new link).1
  have straightOn : ".." ∉ rest ++ [name] := by
    intro member
    rcases List.mem_append.mp member with inside | last
    · apply straight
      rw [← split]
      exact List.mem_append_right _ inside
    · exact isName.notAround (List.mem_singleton.mp last).symm
  obtain ⟨more, same, further⟩ := below.down noLinks straightOn (List.prefix_refl _)
  exact ⟨more, same, further name (List.mem_append_right _ (List.mem_singleton_self _)) isName⟩

/-- Directories that are made for a path without two dots change nothing about what it shows. -/
theorem Grown.shown?_child (sound : before.Sound) (grown : Grown folder before after)
    (noDots : name ≠ "" ∧ name ≠ "." ∧ name ≠ "..") (straight : ".." ∉ folder.parts) :
    after.shown? (folder.child name) = before.shown? (folder.child name) := by
  cases shown : before.shown? (folder.child name) with
  | some bare => exact grown.shown?_eq_some shown
  | none =>
    cases revealed : after.shown? (folder.child name) with
    | none => rfl
    | some bare =>
      obtain ⟨trail, place, entry, leads, -⟩ := Tree.shown?_eq_some_iff.mp revealed
      have isName := leads.isName_of_child grown.sound noDots
      have there : after.at? place = some entry := (Leads.entry_eq leads).symm
      have stood : before.at? place ≠ none := by
        intro absent
        obtain ⟨more, same, further⟩ :=
          grown.exists_append sound isName straight leads absent there
        exact further (List.self_eq_append_right.mp same)
      have nothing : ∀ other, after.at? other = before.at? other := by
        intro other
        cases old : before.at? other with
        | some found => exact grown.kept _ _ old
        | none =>
          cases new : after.at? other with
          | none => rfl
          | some found =>
            obtain ⟨more, same, -⟩ := grown.exists_append sound isName straight leads old new
            exact absurd (show before.at? place = none by
              rw [show place = other ++ more from same]
              exact sound.at?_append_of_none old more) stood
      have alike : Alike before after := ⟨grown.sound, grown.here, nothing⟩
      rw [alike.shown?_eq, shown] at revealed
      cases revealed

end Revealing

/-! ## Writes that break off -/

/--
What stood is kept, and only directories are new.  A path that showed something shows it
still, and one without two dots shows nothing new either.
-/
structure Spared (path : Path) (before after : Tree) : Prop where
  kept : ∀ place entry, before.at? place = some entry → after.at? place = some entry
  clean : ∀ place entry, before.at? place = none → after.at? place = some entry →
    entry = .directory
  shown : before.shown? path ≠ none ∨ ".." ∉ path.parts →
    after.shown? path = before.shown? path

theorem Grown.spared {folder : Path} {name : String} {before after : Tree}
    (sound : before.Sound) (grown : Grown folder before after)
    (noDots : name ≠ "" ∧ name ≠ "." ∧ name ≠ "..") :
    Spared (folder.child name) before after where
  kept := grown.kept
  clean := fun _ _ absent there => (grown.made _ _ absent there).1
  shown := by
    rintro (shown | straight)
    · obtain ⟨bare, known⟩ := Option.ne_none_iff_exists'.mp shown
      rw [known]
      exact grown.shown?_eq_some known
    · refine grown.shown?_child sound noDots fun member => straight ?_
      exact List.mem_append_left _ member

/-- A write without content spares its path, and fails for what is missing once it has begun. -/
theorem Change.writeFile_of_fault {folder : Path} {name : String} {tree : Tree} {fault : Fault}
    (sound : tree.Sound) (noDots : name ≠ "" ∧ name ≠ "." ∧ name ≠ "..") (mode : Int) :
    ∃ cause after, writeFile (folder.child name) mode (.error fault) tree = .error cause after ∧
      Spared (folder.child name) tree after ∧
      ((∃ spare opened, startFile (folder.child name) tree = .ok spare opened) →
        cause = fault) := by
  have stuck : ¬∃ grown trail place bytes,
      Reaches (folder.child name) (.error fault) tree grown trail place bytes := by
    rintro ⟨_, _, _, _, reaches⟩
    cases reaches.stored
  obtain ⟨cause, after, writes, alike⟩ := writeFile_of_not_reaches sound mode stuck
  rw [Path.parent_child] at alike
  have growth := (sound.grown_withDirectories folder).trans (alike.grown folder)
  refine ⟨cause, after, writes, growth.spared sound noDots, ?_⟩
  rintro ⟨spare, opened, started⟩
  have finished : writeFile (folder.child name) mode (.error fault) tree =
      finishFile (folder.child name) mode spare (.error fault) opened := bind_apply_of_ok started
  rw [writes, finishFile_of_fault] at finished
  cases finished
  rfl

end Stencil.Files

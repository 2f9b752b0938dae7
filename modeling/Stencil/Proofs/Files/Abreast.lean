import Stencil.Proofs.Files.Site

/-!
# Two trees side by side

Two trees that are the same but for what a site covers stay so when the same outputs are
written to both, and a write that fails in one fails in the other.
-/

namespace Stencil.Files

open Outcome

/-! ## Trees that do not come apart -/

/-- Files with the same bytes and the same mode. -/
def SameFile (first second : Option Entry) : Prop :=
  ∃ content other, first = some (.file content) ∧ second = some (.file other) ∧
    content.bytes = other.bytes ∧ content.mode = other.mode

theorem SameFile.similar {first second : Option Entry} (same : SameFile first second) :
    Similar first second := by
  obtain ⟨content, other, rfl, rfl, -, -⟩ := same
  exact .inr ⟨plain_iff.mpr (.inr ⟨content, rfl⟩), plain_iff.mpr (.inr ⟨other, rfl⟩)⟩

/--
At every place two trees hold the same, or files with the same bytes and the same mode, or
each holds what it did at the start.
-/
def NoFurtherApart (left right first second : Tree) : Prop :=
  ∀ place, first.at? place = second.at? place ∨
    SameFile (first.at? place) (second.at? place) ∨
    (first.at? place = left.at? place ∧ second.at? place = right.at? place)

namespace NoFurtherApart

variable {left right first second after later : Tree}

theorem start (left right : Tree) : NoFurtherApart left right left right :=
  fun _ => .inr (.inr ⟨rfl, rfl⟩)

theorem same (left right tree : Tree) : NoFurtherApart left right tree tree :=
  fun _ => .inl rfl

theorem of_alike (apart : NoFurtherApart left right first second)
    (alike : Alike first after) (alikeAlso : Alike second later) :
    NoFurtherApart left right after later := by
  intro place
  rw [alike.at?_eq, alikeAlso.at?_eq]
  exact apart place

/-- A file that is put into both trees does not set them apart. -/
theorem placed (apart : NoFurtherApart left right first second)
    {folder : Place} {name : String} {content other : FileContent}
    (isPlaced : Placed folder name content first after)
    (isPlacedAlso : Placed folder name other second later)
    (bytes : content.bytes = other.bytes) (mode : content.mode = other.mode) :
    NoFurtherApart left right after later := by
  intro place
  by_cases there : place = folder ++ [name]
  · subst there
    exact .inr (.inl ⟨content, other, isPlaced.there, isPlacedAlso.there, bytes, mode⟩)
  · rw [isPlaced.others _ there, isPlacedAlso.others _ there]
    exact apart place

end NoFurtherApart

/-- The faults are alike, and the trees that are left are no further apart. -/
def FaultsAbreast (left right : Tree) (fault : Fault) (first : Tree) (another : Fault)
    (second : Tree) : Prop :=
  Change.FaultsAlike left.here fault another ∧ NoFurtherApart left right first second

namespace Site

/--
Two trees are the same but for the levels that are there and the regular files that the
directory directly holds.
-/
structure Twins (site : Site) (left right : Tree) : Prop where
  fits : site.Fits left
  fitsAlso : site.Fits right
  agrees : AgreesOff site.Covers left right
  children : ∀ name,
    Similar (left.at? (site.place ++ [name])) (right.at? (site.place ++ [name]))

/-! ## Outputs in two trees -/

/--
Outputs of some names have been written to two trees, the same to both, and what else the
directory holds in each is as it was.
-/
structure Abreast (site : Site) (left right : Tree) (done : List String)
    (first second : Tree) : Prop where
  holds : site.Holds left first
  holdsAlso : site.Holds left second
  written : ∀ name ∈ done,
    SameFile (first.at? (site.place ++ [name])) (second.at? (site.place ++ [name]))
  kept : ∀ name, name ∉ done →
    first.at? (site.place ++ [name]) = left.at? (site.place ++ [name]) ∧
      second.at? (site.place ++ [name]) = right.at? (site.place ++ [name])

variable {site : Site} {left right first second : Tree} {done : List String}

/-- A tree differs in nothing from itself. -/
theorem Fits.twins (fits : site.Fits left) : site.Twins left left :=
  ⟨fits, fits, .refl fits.sound, fun _ => .inl rfl⟩

/-- When the directory has been provided in both trees, no outputs are written yet. -/
theorem Twins.abreast (twins : site.Twins left right)
    (isMade : Made site.base site.names left first)
    (isMadeAlso : Made site.base site.names right second) :
    site.Abreast left right [] first second where
  holds := twins.fits.holds (.refl twins.fits.sound) isMade
  holdsAlso := twins.fitsAlso.holds twins.agrees isMadeAlso
  written := fun _ member => nomatch member
  kept := fun name _ =>
    ⟨isMade.others _ (not_onLevels_child name), isMadeAlso.others _ (not_onLevels_child name)⟩

namespace Abreast

theorem here_eq (abreast : site.Abreast left right done first second) :
    second.here = first.here :=
  abreast.holdsAlso.agrees.here.trans abreast.holds.agrees.here.symm

/-- A path that avoids what the site covers shows the same. -/
theorem sameAt (abreast : site.Abreast left right done first second) (sound : left.Sound)
    {path : Path} (avoids : Avoids left site.Covers path) : SameAt first second path :=
  abreast.holds.agrees.sameAt sound abreast.holdsAlso.agrees avoids

theorem children (abreast : site.Abreast left right done first second)
    (twins : site.Twins left right) (name : String) :
    Similar (first.at? (site.place ++ [name])) (second.at? (site.place ++ [name])) := by
  by_cases written : name ∈ done
  · exact (abreast.written name written).similar
  · obtain ⟨firstEq, secondEq⟩ := abreast.kept name written
    rw [firstEq, secondEq]
    exact twins.children name

/-- The trees are alike everywhere. -/
theorem similar (abreast : site.Abreast left right done first second)
    (twins : site.Twins left right) (place : Place) :
    Similar (first.at? place) (second.at? place) := by
  by_cases covered : site.Covers place
  · rcases covered with level | ⟨name, rfl⟩
    · rw [abreast.holds.levels level, abreast.holdsAlso.levels level]
      exact .inl rfl
    · exact abreast.children twins name
  · rw [abreast.holds.agrees.at?_eq place covered, abreast.holdsAlso.agrees.at?_eq place covered]
    exact .inl rfl

theorem noFurtherApart (abreast : site.Abreast left right done first second) :
    NoFurtherApart left right first second := by
  intro place
  by_cases covered : site.Covers place
  · rcases covered with level | ⟨name, rfl⟩
    · exact .inl ((abreast.holds.levels level).trans (abreast.holdsAlso.levels level).symm)
    · by_cases written : name ∈ done
      · exact .inr (.inl (abreast.written name written))
      · exact .inr (.inr (abreast.kept name written))
  · exact .inl ((abreast.holds.agrees.at?_eq place covered).trans
      (abreast.holdsAlso.agrees.at?_eq place covered).symm)

/-- An output that is written to both trees is written the same. -/
theorem placed (abreast : site.Abreast left right done first second)
    {name : String} {content other : FileContent} {after later : Tree}
    (holds : site.Holds left after)
    (holdsAlso : site.Holds left later)
    (isPlaced : Placed site.place name content first after)
    (isPlacedAlso : Placed site.place name other second later)
    (bytes : content.bytes = other.bytes) (mode : content.mode = other.mode) :
    site.Abreast left right (done ++ [name]) after later := by
  have others {output : String} (distinct : output ≠ name) :
      after.at? (site.place ++ [output]) = first.at? (site.place ++ [output]) ∧
        later.at? (site.place ++ [output]) = second.at? (site.place ++ [output]) := by
    have apart : site.place ++ [output] ≠ site.place ++ [name] := by simpa using distinct
    exact ⟨isPlaced.others _ apart, isPlacedAlso.others _ apart⟩
  refine ⟨holds, holdsAlso, fun output member => ?_, fun output outside => ?_⟩
  · by_cases same : output = name
    · rw [same]
      exact ⟨content, other, isPlaced.there, isPlacedAlso.there, bytes, mode⟩
    · obtain ⟨firstEq, secondEq⟩ := others same
      rw [firstEq, secondEq]
      rcases List.mem_append.mp member with before | last
      · exact abreast.written output before
      · exact absurd (List.mem_singleton.mp last) same
  · rw [List.mem_append, List.mem_singleton, not_or] at outside
    obtain ⟨firstEq, secondEq⟩ := others outside.2
    rw [firstEq, secondEq]
    exact abreast.kept output outside.1

/-- What is completed in one tree is completed in the other, and what fails fails in both. -/
theorem finishes (abreast : site.Abreast left right done first second)
    (twins : site.Twins left right)
    {name : String}
    (isOutput : IsOutputName name)
    (isName : IsName name)
    {spare other : Change.Spare} {opened openedAlso : Tree} {mark another : String}
    (isOpened : Change.Opened (site.path.child name) first spare (Change.newContent first)
      opened)
    (isOpenedAlso : Change.Opened (site.path.child name) second other
      (Change.newContent second) openedAlso)
    (marks : opened.marks = first.marks)
    (marksAlso : openedAlso.marks = second.marks)
    (spareEq : spare.name = Change.spareName left.here (site.path.child name) mark)
    (otherEq : other.name = Change.spareName left.here (site.path.child name) another)
    (mode : Int) (content : Except Fault ByteArray) :
    Matches (fun _ => site.Abreast left right (done ++ [name]))
      (FaultsAbreast left right)
      (Change.finishFile (site.path.child name) mode spare content opened)
      (Change.finishFile (site.path.child name) mode other content openedAlso) := by
  cases content with
  | error fault =>
    rw [Change.finishFile_of_fault, Change.finishFile_of_fault]
    exact .error ⟨.same fault, abreast.noFurtherApart.of_alike isOpened.alike_remove
      isOpenedAlso.alike_remove⟩
  | ok bytes =>
    have children := abreast.children twins name
    rcases abreast.holds.finishes isOutput isName isOpened marks mode bytes with
      ⟨directory, after, failed, alike⟩ | ⟨vacant, refused, after, failed, isPlaced⟩ |
      ⟨vacant, fits, after, finished, isPlaced, holds⟩ <;>
    rcases abreast.holdsAlso.finishes isOutput isName isOpenedAlso marksAlso mode bytes with
      ⟨also, later, failedAlso, alikeAlso⟩ |
      ⟨alsoVacant, alsoRefused, later, failedAlso, isPlacedAlso⟩ |
      ⟨alsoVacant, alsoFits, later, finishedAlso, isPlacedAlso, holdsAlso⟩
    · rw [failed, failedAlso, spareEq, otherEq]
      exact .error ⟨.spare _ _ _ _ _, abreast.noFurtherApart.of_alike alike alikeAlso⟩
    · exact absurd (children.directory directory) alsoVacant
    · exact absurd (children.directory directory) alsoVacant
    · exact absurd (children.symm.directory also) vacant
    · rw [failed, failedAlso]
      exact .error ⟨.same _, abreast.noFurtherApart.placed isPlaced isPlacedAlso rfl rfl⟩
    · exact absurd alsoFits refused
    · exact absurd (children.symm.directory also) vacant
    · exact absurd fits alsoRefused
    · rw [finished, finishedAlso]
      exact .ok (abreast.placed holds holdsAlso isPlaced isPlacedAlso rfl rfl)

/--
A tree that outputs have been written to is a twin of what it was before, unless something
else than regular files had to make way.
-/
theorem twins {after : Tree} (fits : site.Fits left)
    (abreast : site.Abreast left left done after after)
    (vacant : ∀ name ∈ done, Plain (left.at? (site.place ++ [name]))) :
    site.Twins left after := by
  have holds := abreast.holds
  have others : ∀ place, ¬site.Covers place → after.at? place = left.at? place :=
    holds.agrees.at?_eq
  have children : ∀ name,
      Similar (left.at? (site.place ++ [name])) (after.at? (site.place ++ [name])) := by
    intro name
    by_cases written : name ∈ done
    · obtain ⟨content, -, there, -⟩ := abreast.written name written
      exact .inr ⟨vacant name written, plain_iff.mpr (.inr ⟨content, there⟩)⟩
    · exact .inl (abreast.kept name written).1.symm
  have directories : ∀ place, left.at? place = some .directory →
      after.at? place = some .directory := by
    intro place there
    by_cases covered : site.Covers place
    · rcases covered with level | ⟨name, rfl⟩
      · exact holds.levels level
      · exact (children name).directory there
    · rw [others place covered, there]
  obtain ⟨trail, leads, beside⟩ := fits.leads
  exact {
    fits
    fitsAlso := {
      sound := holds.agrees.sound
      straight := fits.straight
      isNames := fits.isNames
      leads := ⟨trail, leadsInto_front holds.agrees.here directories others leads beside, beside⟩
      levels := fun _ level => .inl (holds.levels level)
      spares := holds.spares }
    agrees := holds.agrees
    children }

end Abreast

end Site

end Stencil.Files

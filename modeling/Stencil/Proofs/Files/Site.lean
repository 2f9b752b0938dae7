import Mathlib.Data.List.Infix
import Stencil.Naming
import Stencil.Proofs.Files.Levels
import Stencil.Proofs.Files.Likeness
import Stencil.Proofs.Files.Replacing

/-!
# The site of outputs

The directory that outputs are put into may be there or not, and so may directories around
it.  A site splits its path at a directory that is there in any case.  Trees that differ
only in what a site covers, its missing levels and the regular files directly in it, come to
have the directory when it is provided, and still do when outputs are written.
-/

namespace Stencil.Files

open Outcome

/-- A path in two parts: names that lead to a base, and plain names from there on. -/
structure Site where
  root : PathRoot
  front : List String
  base : Place
  names : List String

namespace Site

def path (site : Site) : Path :=
  ⟨site.root, site.front ++ site.names⟩

/-- The place of the directory. -/
def place (site : Site) : Place :=
  site.base ++ site.names

/-- A place is one of the levels from the base on, or lies directly in the directory. -/
def Covers (site : Site) (place : Place) : Prop :=
  OnLevels site.base site.names place ∨ ∃ name, place = site.place ++ [name]

/-- A name ends as those of outputs do. -/
def IsOutputName (name : String) : Prop :=
  ∃ front, name = front ++ Naming.outputEnding

/-- There is always a mark for spare names that no entry of a directory has, nor any output. -/
def Spares (tree : Tree) (folder : Place) : Prop :=
  ∀ count, ∃ mark ∈ tree.marks count, ∀ opening,
    tree.at? (folder ++ [opening ++ "." ++ mark]) = none ∧
      ¬IsOutputName (opening ++ "." ++ mark)

/--
The front of the path leads to the base, past all that the site covers, and on the levels
from there on stand directories as far as there is anything.
-/
structure Fits (site : Site) (tree : Tree) : Prop where
  sound : tree.Sound
  straight : ".." ∉ site.front
  isNames : ∀ name ∈ site.names, IsName name
  leads : ∃ trail, LeadsInto tree ⟨site.root, site.front⟩ trail site.base ∧
    ∀ crossed ∈ trail, ¬site.Covers crossed
  levels : ∀ place, OnLevels site.base site.names place →
    tree.at? place = some .directory ∨ tree.at? place = none
  spares : Spares tree site.place

/-- The directory is there, and only what the site covers may differ from another tree. -/
structure Holds (site : Site) (start current : Tree) : Prop where
  straight : ".." ∉ site.path.parts
  agrees : AgreesOff site.Covers start current
  leads : ∃ trail, LeadsInto current site.path trail site.place ∧
    ∀ crossed ∈ trail, ¬site.Covers crossed
  spares : Spares current site.place

variable {site : Site} {tree made : Tree}

theorem Fits.straight_path (fits : site.Fits tree) : ".." ∉ site.path.parts := by
  rw [path, List.mem_append, not_or]
  exact ⟨fits.straight, fun member => (fits.isNames _ member).notAround rfl⟩

theorem not_onLevels_child (name : String) :
    ¬OnLevels site.base site.names (site.place ++ [name]) := by
  rintro ⟨front, -, short, same⟩
  unfold place at same
  rw [List.append_assoc, List.append_right_inj] at same
  have lengths := short.length_le
  rw [← same, List.length_append, List.length_singleton] at lengths
  omega

/-! ## What is covered -/

theorem covers_iff {place : Place} :
    site.Covers place ↔
      (∃ front ∈ site.names.inits, front ≠ [] ∧ place = site.base ++ front) ∨
        (place ≠ [] ∧ place.dropLast = site.place) := by
  have levels : OnLevels site.base site.names place ↔
      ∃ front ∈ site.names.inits, front ≠ [] ∧ place = site.base ++ front :=
    exists_congr fun front => by
      rw [List.mem_inits]
      tauto
  refine or_congr levels ⟨?_, fun ⟨inside, same⟩ => ⟨place.getLast inside, ?_⟩⟩
  · rintro ⟨name, rfl⟩
    exact ⟨by simp, List.dropLast_concat⟩
  · rw [← same, List.dropLast_append_getLast]

instance (place : Place) : Decidable (site.Covers place) :=
  decidable_of_iff _ covers_iff.symm

/-- All that is covered lies at the first level or below. -/
theorem Covers.below {first : String} {rest : List String} {place : Place}
    (covers : site.Covers place) (split : site.names = first :: rest) :
    site.base ++ [first] <+: place := by
  rcases covers with ⟨front, nonempty, short, rfl⟩ | ⟨name, rfl⟩
  · rw [List.prefix_append_right_inj]
    rw [split] at short
    obtain ⟨head, tail, rfl⟩ := List.exists_cons_of_ne_nil nonempty
    rw [List.cons_prefix_cons] at short
    rw [short.1]
    exact ⟨tail, rfl⟩
  · rw [Site.place, split, List.append_assoc, List.prefix_append_right_inj]
    exact ⟨rest ++ [name], rfl⟩

/-- Without links a path that starts beside the first level avoids what is covered. -/
theorem avoids_of_beside {path : Path} {name first : String} {rest more : List String}
    (noLinks : ∀ place target, tree.at? place ≠ some (.link target))
    (straight : ".." ∉ path.parts)
    (start : tree.startOf path = site.base)
    (parts : path.parts = name :: rest)
    (isName : IsName name)
    (split : site.names = first :: more)
    (beside : name ≠ first) : Avoids tree site.Covers path := by
  intro visited member covers
  have below : site.base ++ [name] <+: visited := by
    unfold Tree.visits at member
    rw [start, parts] at member
    rw [parts, List.mem_cons, not_or] at straight
    exact first_prefix_of_mem_visitNames noLinks straight.2 isName member
  have same := List.prefix_of_prefix_length_le below (covers.below split) (by simp)
  have equal := same.eq_of_length (by simp)
  rw [List.append_right_inj, List.cons.injEq] at equal
  exact beside equal.1

/-- The mark that is tried where nothing else is agreed ends no other name. -/
theorem spares_of_entries {folder : Place} (marks : tree.marks = fun _ => [spareMark])
    (endings : ∀ known ∈ tree.entries, ∀ name ∈ known.1.getLast?,
      name.toList.getLast? ≠ some '>') : Spares tree folder := by
  intro count
  refine ⟨spareMark, by rw [marks]; exact List.mem_singleton_self _, fun opening => ?_⟩
  have ending : (opening ++ "." ++ spareMark).toList.getLast? = some '>' := by
    simp [spareMark, String.toList_append]
  refine ⟨?_, ?_⟩
  · cases there : tree.at? (folder ++ [opening ++ "." ++ spareMark]) with
    | none => rfl
    | some entry => exact absurd ending (endings _ (Tree.mem_of_at? there (by simp)) _ (by simp))
  · rintro ⟨front, same⟩
    rw [same] at ending
    simp [Naming.outputEnding, String.toList_append] at ending

/-! ## Providing the directory -/

/-- Levels are all there, or there is a first one that is missing. -/
private theorem exists_missing {base : Place} {names : List String}
    (levels : ∀ place, OnLevels base names place →
      tree.at? place = some .directory ∨ tree.at? place = none) :
    (∀ place, OnLevels base names place → tree.at? place = some .directory) ∨
      ∃ there first rest, names = there ++ first :: rest ∧
        (∀ place, OnLevels base there place → tree.at? place = some .directory) ∧
        tree.at? (base ++ there ++ [first]) = none := by
  induction names using List.reverseRecOn with
  | nil => exact .inl fun _ level => absurd level not_onLevels_nil
  | append_singleton names name ih =>
    rcases ih fun place level => levels place (onLevels_concat.mpr (.inl level)) with
      all | ⟨there, first, rest, rfl, directories, absent⟩
    · rcases levels _ (onLevels_concat.mpr (.inr rfl)) with directory | absent
      · refine .inl fun place level => ?_
        rcases onLevels_concat.mp level with before | rfl
        · exact all place before
        · exact directory
      · exact .inr ⟨names, name, [], rfl, all, by rwa [List.append_assoc]⟩
    · exact .inr ⟨there, first, rest ++ [name], by simp, directories, absent⟩

/-- A path that goes through a missing directory leads to nothing. -/
private theorem has_of_absent {root : PathRoot} {front rest : List String} {first : String}
    {trail : List Place} {base : Place}
    (leads : LeadsInto tree ⟨root, front⟩ trail base)
    (isName : IsName first)
    (absent : tree.at? (base ++ [first]) = none) :
    tree.has ⟨root, front ++ first :: rest⟩ = .ok false := by
  obtain ⟨fewer, walked⟩ : ∃ fewer, tree.walk true ⟨root, front ++ first :: rest⟩ =
      tree.walkFrom true fewer base (first :: rest) :=
    Leads.walkFrom_append leads (List.cons_ne_nil first rest)
  rw [walkFrom_cons _ _ _ _ _ _ isName, absent] at walked
  have found : tree.find true ⟨root, front ++ first :: rest⟩ = .error .noSuchEntry := by
    unfold Tree.find
    rw [walked]
    cases rest <;> rfl
  unfold Tree.has Tree.leadsTo
  rw [found]
  rfl

/-- Directories that lead to the base lead on where all levels are there. -/
private theorem leadsInto_path {trail : List Place}
    (isNames : ∀ name ∈ site.names, IsName name)
    (leads : LeadsInto tree ⟨site.root, site.front⟩ trail site.base)
    (levels : ∀ place, OnLevels site.base site.names place →
      tree.at? place = some .directory) :
    LeadsInto tree site.path trail site.place :=
  Leads.append_directories leads isNames levels

/-- The directory is there already, or it is made with all that is missing around it. -/
theorem Fits.provides (fits : site.Fits tree) :
    ∃ made, ((tree.has site.path = .ok true ∧ made = tree) ∨
        (tree.has site.path = .ok false ∧
          Change.makeDirectory site.path tree = .ok ⟨⟩ made)) ∧
      Made site.base site.names tree made := by
  obtain ⟨trail, leads, -⟩ := fits.leads
  rcases exists_missing fits.levels with all | ⟨there, first, rest, split, directories, absent⟩
  · refine ⟨tree, .inl ⟨?_, rfl⟩, fits.sound, rfl, rfl, all, fun _ _ => rfl⟩
    exact has_eq_true_iff.mpr ⟨trail, _, _, leadsInto_path fits.isNames leads all⟩
  · have isNames := fits.isNames
    rw [split] at isNames
    have around : LeadsInto tree ⟨site.root, site.front ++ there⟩ trail (site.base ++ there) :=
      Leads.append_directories leads
        (fun name member => isNames name (List.mem_append_left _ member)) directories
    have parts : site.path = ⟨site.root, site.front ++ there ++ first :: rest⟩ := by
      rw [path, split, List.append_assoc]
    obtain ⟨made, making, isMade⟩ := Change.makeWithParents_of_absent fits.sound around
      (fun name member => isNames name (List.mem_append_right _ member)) absent false
    refine ⟨made, .inr ⟨?_, ?_⟩, isMade.sound, isMade.here, isMade.marks, ?_, ?_⟩
    · rw [parts]
      exact has_of_absent around (isNames first (by simp)) absent
    · rw [parts]
      exact making
    · intro place level
      rw [split, onLevels_append] at level
      by_cases new : OnLevels (site.base ++ there) (first :: rest) place
      · exact isMade.levels place new
      · rw [isMade.others place new]
        exact directories place (level.resolve_right new)
    · intro place other
      rw [split, onLevels_append, not_or] at other
      exact isMade.others place other.2

/-! ## While outputs are written -/

/-- Directories that are kept and links that are not covered lead on as before. -/
theorem leadsInto_front {trail : List Place}
    (here : made.here = tree.here)
    (directories : ∀ place, tree.at? place = some .directory →
      made.at? place = some .directory)
    (others : ∀ place, ¬site.Covers place → made.at? place = tree.at? place)
    {path : Path} {place : Place}
    (leads : LeadsInto tree path trail place)
    (beside : ∀ crossed ∈ trail, ¬site.Covers crossed) : LeadsInto made path trail place :=
  leads.transfer here directories fun crossed member => others crossed (beside crossed member)

/-- When the directory has been provided it holds what it did. -/
theorem Fits.holds {start : Tree} (fits : site.Fits tree)
    (agrees : AgreesOff site.Covers start tree)
    (isMade : Made site.base site.names tree made) : site.Holds start made := by
  obtain ⟨trail, leads, beside⟩ := fits.leads
  have others : ∀ place, ¬site.Covers place → made.at? place = tree.at? place :=
    fun place outside => isMade.others place fun level => outside (.inl level)
  have directories : ∀ place, tree.at? place = some .directory →
      made.at? place = some .directory := by
    intro place there
    by_cases level : OnLevels site.base site.names place
    · exact isMade.levels place level
    · rw [isMade.others place level, there]
  refine ⟨fits.straight_path, ⟨isMade.sound, isMade.here.trans agrees.here, fun place outside =>
    (others place outside).trans (agrees.at?_eq place outside)⟩, ⟨trail, ?_, beside⟩,
    fun count => ?_⟩
  · exact leadsInto_path fits.isNames
      (leadsInto_front isMade.here directories others leads beside) isMade.levels
  · obtain ⟨mark, agreed, free⟩ := fits.spares count
    refine ⟨mark, isMade.marks ▸ agreed, fun opening => ?_⟩
    rw [isMade.others _ (not_onLevels_child _)]
    exact free opening

namespace Holds

variable {start current after : Tree} {name : String} {content : FileContent}

/-- On the levels stand directories. -/
theorem levels (holds : site.Holds start current) {place : Place}
    (level : OnLevels site.base site.names place) : current.at? place = some .directory := by
  obtain ⟨trail, leads, -⟩ := holds.leads
  have directory : current.at? site.place = some .directory := (Leads.entry_eq leads).symm
  obtain ⟨front, -, ⟨rest, split⟩, rfl⟩ := level
  rw [Site.place, ← split, ← List.append_assoc] at directory
  exact holds.agrees.sound.directory_of_append directory

/-- An output can be replaced unless a directory stands in its place. -/
theorem replaceable (holds : site.Holds start current)
    (isName : IsName name)
    (noDirectory : current.at? (site.place ++ [name]) ≠ some .directory) :
    ∃ trail, Replaceable current (site.path.child name) trail site.place ∧
      site.place ++ [name] ∉ trail := by
  obtain ⟨trail, leads, beside⟩ := holds.leads
  refine ⟨trail, ⟨by simp [Path.child], ?_, ?_, ?_⟩, fun member =>
    beside _ member (.inr ⟨name, rfl⟩)⟩
  · rwa [Path.parent_child]
  · rwa [Path.name_child]
  · rwa [Path.name_child]

/-- An output that is put into the directory is one more covered file. -/
theorem placed (holds : site.Holds start current)
    (noDirectory : current.at? (site.place ++ [name]) ≠ some .directory)
    (isOutput : IsOutputName name)
    (isPlaced : Placed site.place name content current after)
    (marks : after.marks = current.marks) : site.Holds start after := by
  obtain ⟨trail, leads, beside⟩ := holds.leads
  have others : ∀ place, ¬site.Covers place → after.at? place = current.at? place := by
    intro place outside
    exact isPlaced.others place fun same => outside (.inr ⟨name, same⟩)
  refine ⟨holds.straight, ⟨isPlaced.sound, isPlaced.here.trans holds.agrees.here,
    fun place outside => (others place outside).trans (holds.agrees.at?_eq place outside)⟩,
    ⟨trail, ?_, beside⟩, fun count => ?_⟩
  · refine leadsInto_front isPlaced.here (fun place there => ?_) others leads beside
    rw [isPlaced.others place fun same => noDirectory (same ▸ there), there]
  · obtain ⟨mark, agreed, free⟩ := holds.spares count
    refine ⟨mark, marks ▸ agreed, fun opening => ⟨?_, (free opening).2⟩⟩
    rw [isPlaced.others]
    · exact (free opening).1
    · intro same
      obtain ⟨-, nameEq⟩ := List.append_inj' same rfl
      cases nameEq
      exact (free opening).2 isOutput

/-! ## Writing an output -/

/-- An output whose name leaves room for a spare name has a name that can be given. -/
theorem isName_of_room {path : Path} (isOutput : IsOutputName path.name)
    (room : ¬Change.Crowded path) : IsName path.name := by
  obtain ⟨front, nameEq⟩ := isOutput
  have long : 5 ≤ path.name.length := by
    have ending : Naming.outputEnding.length = 5 := rfl
    rw [nameEq, String.length_append, ending]
    omega
  have shorter {other : String} (short : other.length < 5) : path.name ≠ other := by
    rintro same
    rw [same] at long
    omega
  refine ⟨shorter (by decide), shorter (by decide), shorter (by decide), ?_⟩
  unfold Change.Crowded Change.spareOpening at room
  rw [Change.storedLength_append, Change.storedLength_append] at room
  omega

/-- An output is started under a spare name if its own name leaves room for one. -/
theorem starts_of_room (holds : site.Holds start current)
    (room : ¬Change.Crowded (site.path.child name)) :
    ∃ mark spare opened,
      Change.startFile (site.path.child name) current = .ok spare opened ∧
      spare.name = Change.spareName start.here (site.path.child name) mark ∧
      opened.marks = current.marks ∧
      Change.Opened (site.path.child name) current spare (Change.newContent current) opened ∧
      AgreesOff site.Covers start opened := by
  obtain ⟨trail, leads, -⟩ := holds.leads
  obtain ⟨mark, agreed, free⟩ := holds.spares current.written
  have sound := holds.agrees.sound
  have parent : (site.path.child name).parent = site.path := Path.parent_child ..
  obtain ⟨chosen, spare, opened, starts, nameEq, ⟨last, placeEq⟩, marks, isOpened⟩ :=
    Change.startFile_of_free sound (by rw [parent]; exact holds.straight)
      (by rw [parent]; exact leads) room agreed (free _).1
  refine ⟨chosen, spare, opened, starts, ?_, marks, isOpened, isOpened.sound,
    isOpened.here.trans holds.agrees.here, fun place outside => ?_⟩
  · rw [nameEq, holds.agrees.here]
  · rw [isOpened.others place fun same => outside (.inr ⟨last, same.trans placeEq⟩)]
    exact holds.agrees.at?_eq place outside

theorem starts_of_crowded (holds : site.Holds start current)
    (crowded : Change.Crowded (site.path.child name)) :
    ∃ mark, Change.startFile (site.path.child name) current =
      .error (.system ⟨.nameTooLong, Change.spareName start.here (site.path.child name) mark,
        none⟩) current := by
  obtain ⟨trail, leads, -⟩ := holds.leads
  have parent : (site.path.child name).parent = site.path := Path.parent_child ..
  rw [← holds.agrees.here]
  exact Change.startFile_of_crowded holds.agrees.sound (by rw [parent]; exact holds.straight)
    (by rw [parent]; exact leads) crowded

/-- How an output that has been started is completed. -/
theorem finishes (holds : site.Holds start current)
    (isOutput : IsOutputName name)
    (isName : IsName name)
    {spare : Change.Spare} {old : FileContent} {opened : Tree}
    (isOpened : Change.Opened (site.path.child name) current spare old opened)
    (marks : opened.marks = current.marks)
    (mode : Int) (bytes : ByteArray) :
    (current.at? (site.place ++ [name]) = some .directory ∧ ∃ after,
        Change.finishFile (site.path.child name) mode spare (.ok bytes) opened =
          .error (.system ⟨.isDirectory, spare.name, some (site.path.child name).text⟩)
            after ∧
          Alike current after) ∨
      (current.at? (site.place ++ [name]) ≠ some .directory ∧ ¬Change.FitsMode mode ∧
        ∃ after, Change.finishFile (site.path.child name) mode spare (.ok bytes) opened =
          .error .overflow after ∧
          Placed site.place name { old with bytes } current after) ∨
      (current.at? (site.place ++ [name]) ≠ some .directory ∧ Change.FitsMode mode ∧
        ∃ after, Change.finishFile (site.path.child name) mode spare (.ok bytes) opened =
            .ok ⟨⟩ after ∧
          Placed site.place name { old with bytes, mode := Change.storedMode mode } current
            after ∧
          site.Holds start after) := by
  have nameEq : (site.path.child name).name = name := Path.name_child ..
  by_cases directory : current.at? (site.place ++ [name]) = some .directory
  · obtain ⟨trail, leads, -⟩ := holds.leads
    refine .inl ⟨directory, Change.finishFile_of_directory isOpened
      ((Path.parent_child site.path name).symm ▸ leads) (by simp [Path.child])
      (nameEq.symm ▸ isName) (nameEq.symm ▸ directory) mode bytes⟩
  · obtain ⟨trail, replaceable, beside⟩ := holds.replaceable isName directory
    have outcomes := Change.finishFile_of_replaceable isOpened replaceable
      (nameEq.symm ▸ beside) mode bytes
    rw [nameEq] at outcomes
    rcases outcomes with ⟨fits, after, finished, isPlaced⟩ | ⟨refused, failed⟩
    · have keeps := (Change.sameMarks_finishFile (site.path.child name) mode spare
        (.ok bytes)).of_ok finished
      exact .inr (.inr ⟨directory, fits, after, finished, isPlaced,
        holds.placed directory isOutput isPlaced (keeps.trans marks)⟩)
    · exact .inr (.inl ⟨directory, refused, failed⟩)

end Holds

end Site

end Stencil.Files

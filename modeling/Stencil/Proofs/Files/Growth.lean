import Mathlib.Data.List.Induction
import Mathlib.Data.List.Nodup
import Mathlib.Data.List.Perm.Subperm
import Mathlib.Order.Defs.Unbundled
import Stencil.Proofs.Files.Resolution
import Stencil.Proofs.Outcome

/-!
# Making directories

Making a directory with the directories around it only adds directories, each on the way
of the path.  This holds for failed attempts too: what was made before the failure stays.
After a success the path leads into a directory, and where it did so before nothing is
changed.
-/

namespace Stencil.Files

open Outcome

/-! ## Changes of sound trees -/

theorem Tree.Sound.put
    {tree : Tree} (sound : tree.Sound) {folder : Place} {name : String} {entry : Entry}
    (directory : tree.at? folder = some .directory)
    (isName : IsName name)
    (noDirectory : tree.at? (folder ++ [name]) ≠ some .directory) :
    (tree.put (folder ++ [name]) entry).Sound := by
  have kept : ∀ place, tree.at? place = some .directory →
      (tree.put (folder ++ [name]) entry).at? place = some .directory := by
    intro place there
    have distinct : place ≠ folder ++ [name] := by
      rintro rfl
      exact noDirectory there
    rw [Tree.at?_put_of_ne _ _ distinct]
    exact there
  constructor
  · rw [Tree.put, List.map_cons, List.nodup_cons]
    refine ⟨?_, (List.filter_sublist.map _).nodup sound.distinct⟩
    simp
  · intro place last found there
    by_cases same : place ++ [last] = folder ++ [name]
    · obtain ⟨rfl, -⟩ := List.append_inj' same rfl
      exact kept _ directory
    · rw [Tree.at?_put_of_ne _ _ same] at there
      exact kept _ (sound.closed _ _ _ there)
  · intro place last found there
    by_cases same : place ++ [last] = folder ++ [name]
    · obtain ⟨-, lastEq⟩ := List.append_inj' same rfl
      cases lastEq
      exact isName
    · rw [Tree.at?_put_of_ne _ _ same] at there
      exact sound.named _ _ _ there
  · exact kept _ sound.here
  · exact sound.marked

theorem Tree.Sound.remove
    {tree : Tree} (sound : tree.Sound) {place : Place}
    (noDirectory : tree.at? place ≠ some .directory) : (tree.remove place).Sound := by
  have unchanged : ∀ other entry, (tree.remove place).at? other = some entry →
      tree.at? other = some entry := by
    intro other entry there
    by_cases same : other = place
    · subst same
      cases other with
      | nil => exact there
      | cons name names => rw [Tree.at?_remove _ _ (by simp)] at there; cases there
    · rwa [Tree.at?_remove_of_ne _ same] at there
  have kept : ∀ other, tree.at? other = some .directory →
      (tree.remove place).at? other = some .directory := by
    intro other there
    have distinct : other ≠ place := by
      rintro rfl
      exact noDirectory there
    rw [Tree.at?_remove_of_ne _ distinct]
    exact there
  constructor
  · exact (List.filter_sublist.map _).nodup sound.distinct
  · intro other last entry there
    exact kept _ (sound.closed _ _ _ (unchanged _ _ there))
  · intro other last entry there
    exact sound.named _ _ _ (unchanged _ _ there)
  · exact kept _ sound.here
  · exact sound.marked

/-! ## Paths that lead nowhere yet -/

/-- Where nothing stands at the end of a path, the end is its last name in a directory. -/
theorem Leads.last_of_none
    {tree : Tree} (sound : tree.Sound)
    {links : Nat} {place free : Place} {names : List String} {trail : List Place}
    (leads : Leads tree false links place names trail ⟨free, none⟩)
    (start : tree.at? place = some .directory) :
    ∃ before name folder, names = before ++ [name] ∧ free = folder ++ [name] ∧
      IsName name ∧ Leads tree true links place before trail ⟨folder, some .directory⟩ := by
  generalize spotEq : (⟨free, none⟩ : Tree.Spot) = spot at leads
  induction leads with
  | done =>
    simp only [Tree.Spot.mk.injEq] at spotEq
    rw [start] at spotEq
    cases spotEq.2
  | skip blank _ ih =>
    obtain ⟨before, name, folder, rfl, freeEq, isName, leads⟩ := ih start spotEq
    exact ⟨_ :: before, name, folder, rfl, freeEq, isName, .skip blank leads⟩
  | up _ ih =>
    obtain ⟨before, name, folder, rfl, freeEq, isName, leads⟩ :=
      ih (sound.directory_dropLast start) spotEq
    exact ⟨_ :: before, name, folder, rfl, freeEq, isName, .up leads⟩
  | enter isName' there _ ih =>
    obtain ⟨before, name, folder, rfl, freeEq, isName, leads⟩ := ih there spotEq
    exact ⟨_ :: before, name, folder, rfl, freeEq, isName, .enter isName' there leads⟩
  | @follow links place crossed target rest trail spot isName' there followed _ ih =>
    obtain ⟨before, name, folder, namesEq, freeEq, isName, leads⟩ :=
      ih (tree.directory_linkStart target start) spotEq
    have more : rest ≠ [] := by simpa using followed
    -- The last name is one of the path and none of the link.
    obtain ⟨inner, last, rfl⟩ := (List.eq_nil_or_concat rest).resolve_left more
    rw [List.concat_eq_append] at *
    rw [← List.append_assoc] at namesEq
    obtain ⟨rfl, lastEq⟩ := List.append_inj' namesEq rfl
    cases lastEq
    exact ⟨crossed :: inner, _, folder, rfl, freeEq, isName,
      .follow isName' there (.inr rfl) leads⟩
  | @stop links place name entry isName there noDirectory unfollowed =>
    simp only [Tree.Spot.mk.injEq] at spotEq
    obtain ⟨rfl, rfl⟩ := spotEq
    exact ⟨[], name, place, rfl, rfl, isName, start ▸ .done⟩

/-- A path that leads to something also does so when a link at its end is not followed. -/
theorem Leads.unfollowed
    {tree : Tree} {links : Nat} {place : Place} {names : List String} {trail : List Place}
    {spot : Tree.Spot}
    (leads : Leads tree true links place names trail spot)
    (present : spot.entry ≠ none) :
    ∃ before last, Leads tree false links place names before last ∧ last.entry ≠ none := by
  induction leads with
  | done => exact ⟨[], _, .done, present⟩
  | skip blank _ ih =>
    obtain ⟨before, last, leads, there⟩ := ih present
    exact ⟨before, last, .skip blank leads, there⟩
  | up _ ih =>
    obtain ⟨before, last, leads, there⟩ := ih present
    exact ⟨before, last, .up leads, there⟩
  | enter isName there _ ih =>
    obtain ⟨before, last, leads, present⟩ := ih present
    exact ⟨before, last, .enter isName there leads, present⟩
  | @follow links place name target rest trail spot isName there _ _ ih =>
    cases rest with
    | nil => exact ⟨[], _, .stop isName there (by simp) fun _ _ => rfl, by simp⟩
    | cons next more =>
      obtain ⟨before, last, leads, present⟩ := ih present
      exact ⟨_, last, .follow isName there (.inl (by simp)) leads, present⟩
  | stop isName there noDirectory _ =>
    exact ⟨[], _, .stop isName there noDirectory fun _ _ => rfl, present⟩

/-! ## Growth -/

/--
The place of a name on the way of a path: the names of the path before it lead to the
directory around the place.
-/
def OnTheWay (tree : Tree) (path : Path) (place : Place) : Prop :=
  ∃ names name trail folder, names ++ [name] <+: path.parts ∧ place = folder ++ [name] ∧
    LeadsInto tree ⟨path.root, names⟩ trail folder

/-- A tree has grown by directories on the way of a path, and is otherwise as it was. -/
structure Grown (path : Path) (before after : Tree) : Prop where
  sound : after.Sound
  here : after.here = before.here
  kept : ∀ place entry, before.at? place = some entry → after.at? place = some entry
  made : ∀ place entry, before.at? place = none → after.at? place = some entry →
    entry = .directory ∧ OnTheWay after path place

/-- Where everything is kept, paths lead to where they did. -/
theorem LeadsInto.mono
    {before after : Tree} {path : Path} {trail : List Place} {folder : Place}
    (here : after.here = before.here)
    (kept : ∀ place entry, before.at? place = some entry → after.at? place = some entry)
    (leads : LeadsInto before path trail folder) : LeadsInto after path trail folder := by
  apply leads.transfer here (fun place there => kept _ _ there)
  intro place member
  obtain ⟨target, there⟩ := Leads.link_of_mem_trail leads member
  rw [there, kept _ _ there]

theorem OnTheWay.mono
    {before after : Tree} {path : Path} {place : Place}
    (here : after.here = before.here)
    (kept : ∀ place entry, before.at? place = some entry → after.at? place = some entry)
    (onTheWay : OnTheWay before path place) : OnTheWay after path place := by
  obtain ⟨names, name, trail, folder, isPrefix, placeEq, leads⟩ := onTheWay
  exact ⟨names, name, trail, folder, isPrefix, placeEq, leads.mono here kept⟩

namespace Grown

theorem refl {path : Path} {tree : Tree} (sound : tree.Sound) : Grown path tree tree where
  sound := sound
  here := rfl
  kept := fun _ _ there => there
  made := fun _ _ absent there => by rw [absent] at there; cases there

theorem trans {path : Path} {before middle after : Tree}
    (first : Grown path before middle) (second : Grown path middle after) :
    Grown path before after where
  sound := second.sound
  here := second.here.trans first.here
  kept := fun place entry there => second.kept place entry (first.kept place entry there)
  made := by
    intro place entry absent there
    cases between : middle.at? place with
    | none => exact second.made place entry between there
    | some found =>
      obtain ⟨rfl, onTheWay⟩ := first.made place found absent between
      rw [second.kept _ _ between] at there
      cases there
      exact ⟨rfl, onTheWay.mono second.here second.kept⟩

/-- Directories on the way of a shorter path are on the way of a longer one. -/
theorem widen {path longer : Path} {before after : Tree}
    (grown : Grown path before after)
    (root : path.root = longer.root)
    (parts : path.parts <+: longer.parts) : Grown longer before after where
  sound := grown.sound
  here := grown.here
  kept := grown.kept
  made := by
    intro place entry absent there
    obtain ⟨entryEq, names, name, trail, folder, shorter, placeEq, leads⟩ :=
      grown.made place entry absent there
    exact ⟨entryEq, names, name, trail, folder, shorter.trans parts, placeEq, root ▸ leads⟩

/-- What was no directory is kept as it was or is still absent or has become a directory. -/
theorem at?_eq_of_some {path : Path} {before after : Tree} (grown : Grown path before after)
    {place : Place} {entry : Entry} (there : after.at? place = some entry)
    (noDirectory : entry ≠ .directory) : before.at? place = some entry := by
  cases known : before.at? place with
  | none => exact absurd (grown.made place entry known there).1 noDirectory
  | some found => rw [← there, grown.kept _ _ known]

end Grown

/-- A path that leads to something still does when the tree has grown. -/
theorem LeadsTo.mono
    {path other : Path} {before after : Tree} {follow : Bool} {trail : List Place}
    {place : Place} {entry : Entry}
    (grown : Grown other before after)
    (leads : LeadsTo before follow path trail ⟨place, some entry⟩) :
    LeadsTo after follow path trail ⟨place, some entry⟩ := by
  unfold LeadsTo
  rw [Tree.startOf_eq grown.here]
  have there : before.at? place = some entry := (Leads.entry_eq leads).symm
  refine Leads.transfer leads (fun place => grown.kept place _) (fun place member => ?_) ?_
  · obtain ⟨target, link⟩ := Leads.link_of_mem_trail leads member
    rw [link, grown.kept _ _ link]
  · rw [there, grown.kept _ _ there]

/-- Sound trees grow. -/
def Grows (path : Path) (before after : Tree) : Prop :=
  before.Sound → Grown path before after

instance (path : Path) : IsPreorder Tree (Grows path) where
  refl := fun _ sound => .refl sound
  trans := fun _ _ _ first second sound => (first sound).trans (second (first sound).sound)

/-! ## Making one directory -/

namespace Change

theorem ask_apply {α : Type} (question : Tree → Except Fault α) (tree : Tree) :
    ask question tree =
      match question tree with
      | .ok answer => .ok answer tree
      | .error fault => .error fault tree := by
  unfold ask
  rw [bind_apply_of_ok (get_apply tree)]
  cases question tree <;> rfl

theorem makeOne_apply (path : Path) (tree : Tree) :
    makeOne path tree =
      match tree.walk false path with
      | .ok ⟨place, none⟩ => .ok ⟨⟩ (tree.put place .directory)
      | .ok ⟨_, some _⟩ => .error (.system ⟨.entryExists, path.text, none⟩) tree
      | .error reason => .error (.system ⟨reason, path.text, none⟩) tree := by
  unfold makeOne
  rw [bind_apply_of_ok (get_apply tree)]
  cases tree.walk false path with
  | error reason => rfl
  | ok spot =>
    obtain ⟨place, entry⟩ := spot
    cases entry <;> rfl

/-- Making one directory adds it, and then the path leads into it. -/
theorem makeOne_ok
    {path : Path} {before after : Tree} (sound : before.Sound)
    (made : makeOne path before = .ok ⟨⟩ after) :
    Grown path before after ∧ ∃ trail folder, LeadsInto after path trail folder := by
  rw [makeOne_apply] at made
  cases walked : before.walk false path with
  | error reason => simp [walked] at made
  | ok spot =>
    obtain ⟨place, entry⟩ := spot
    cases entry with
    | some entry => simp [walked] at made
    | none =>
      simp only [walked, EStateM.Result.ok.injEq, true_and] at made
      subst made
      obtain ⟨trail, leads⟩ := walk_eq_ok_iff.mp walked
      obtain ⟨names, name, folder, parts, rfl, isName, around⟩ :=
        Leads.last_of_none sound leads (sound.directory_startOf path)
      have absent : before.at? (folder ++ [name]) = none := (Leads.entry_eq leads).symm
      have directory : before.at? folder = some .directory := (Leads.entry_eq around).symm
      have kept : ∀ other entry, before.at? other = some entry →
          (before.put (folder ++ [name]) .directory).at? other = some entry := by
        intro other entry there
        rw [Tree.at?_put_of_ne _ _ fun same => by simp [same, absent] at there]
        exact there
      have there : (before.put (folder ++ [name]) .directory).at? (folder ++ [name]) =
          some .directory := Tree.at?_put _ _ _ (by simp)
      have around : LeadsInto before ⟨path.root, names⟩ trail folder := around
      have inside : LeadsInto (before.put (folder ++ [name]) .directory) ⟨path.root, names⟩
          trail folder := around.mono (by rfl) kept
      refine ⟨⟨sound.put directory isName (by simp [absent]), rfl, kept, ?_⟩,
        trail, folder ++ [name], ?_⟩
      · intro other entry none there
        by_cases same : other = folder ++ [name]
        · subst same
          rw [Tree.at?_put _ _ _ (by simp)] at there
          cases there
          exact ⟨rfl, names, name, trail, folder, by simp [parts], rfl, inside⟩
        · rw [Tree.at?_put_of_ne _ _ same, none] at there
          cases there
      · have child := inside.child_of_there true isName there (by simp)
        have pathEq : (⟨path.root, names⟩ : Path).child name = path := by
          rw [Path.child, ← parts]
        rwa [pathEq] at child

/-- A directory that is not made leaves the tree as it is. -/
theorem makeOne_error
    {path : Path} {before after : Tree} {fault : Fault}
    (failed : makeOne path before = .error fault after) : after = before := by
  rw [makeOne_apply] at failed
  split at failed <;> cases failed <;> rfl

theorem makeOne_grows (path : Path) : Moves (Grows path) (makeOne path) := by
  intro before sound
  cases made : makeOne path before with
  | ok _ after => exact (makeOne_ok sound made).1
  | error fault after =>
    rw [makeOne_error made]
    exact .refl sound

/-! ## Making directories with those around them -/

theorem acceptDirectory_ok
    {path : Path} {fault : Fault} {before after : Tree}
    (accepted : acceptDirectory path fault before = .ok ⟨⟩ after) :
    after = before ∧ ∃ trail folder, LeadsInto before path trail folder := by
  unfold acceptDirectory at accepted
  obtain ⟨answer, middle, asked, accepted⟩ := bind_eq_ok_iff.mp accepted
  rw [ask_apply] at asked
  split at asked
  · next known =>
    cases asked
    cases answer with
    | false => cases accepted
    | true =>
      cases accepted
      exact ⟨rfl, isDirectory_eq_true_iff.mp known⟩
  · cases asked

theorem acceptDirectory_error
    {path : Path} {fault other : Fault} {before after : Tree}
    (failed : acceptDirectory path fault before = .error other after) : after = before := by
  unfold acceptDirectory at failed
  rcases bind_eq_error_iff.mp failed with failed | ⟨answer, middle, asked, failed⟩
  · rw [ask_apply] at failed
    split at failed <;> cases failed
    rfl
  · rw [ask_apply] at asked
    split at asked
    · cases asked
      cases answer <;> cases failed
      rfl
    · cases asked

theorem acceptDirectory_grows (path grown : Path) (fault : Fault) :
    Moves (Grows grown) (acceptDirectory path fault) := by
  intro before sound
  cases accepted : acceptDirectory path fault before with
  | ok _ after =>
    rw [(acceptDirectory_ok accepted).1]
    exact .refl sound
  | error other after =>
    rw [acceptDirectory_error accepted]
    exact .refl sound

/-- What is done about a directory that cannot be made although there is one around it. -/
private theorem settleRefusal_grows (path grown : Path) (isLenient : Bool) (fault : Fault) :
    Moves (Grows grown)
      (if isAbsence fault || !isLenient then throw fault else acceptDirectory path fault) := by
  split
  · exact .throw fault
  · exact acceptDirectory_grows path grown fault

private theorem settleRefusal_ok
    {path : Path} {isLenient : Bool} {fault : Fault} {before after : Tree}
    (settled : (if isAbsence fault || !isLenient then throw fault
      else acceptDirectory path fault : Change Unit) before = .ok ⟨⟩ after) :
    after = before ∧ ∃ trail folder, LeadsInto before path trail folder := by
  split at settled
  · cases settled
  · exact acceptDirectory_ok settled

/-- Whatever its outcome, making a directory only adds directories on the way. -/
theorem makeWithParents_grows (root : PathRoot) (isLenient : Bool) (names : List String) :
    Moves (Grows ⟨root, names.reverse⟩) (makeWithParents root isLenient names) := by
  induction names generalizing isLenient with
  | nil =>
    unfold makeWithParents
    exact .tryCatch (makeOne_grows _) fun fault => settleRefusal_grows _ _ _ _
  | cons name names ih =>
    unfold makeWithParents
    refine .tryCatch (makeOne_grows _) fun fault => ?_
    split
    · refine .bind (fun before sound => ?_) fun _ =>
        .tryCatch (makeOne_grows _) fun fault => settleRefusal_grows _ _ _ _
      exact (ih true before sound).widen rfl (by simp)
    · split
      · exact acceptDirectory_grows _ _ _
      · exact .throw fault

/-- A directory that is made is there afterwards. -/
theorem makeWithParents_ok
    {root : PathRoot} {isLenient : Bool} {names : List String} {before after : Tree}
    (sound : before.Sound)
    (made : makeWithParents root isLenient names before = .ok ⟨⟩ after) :
    ∃ trail folder, LeadsInto after ⟨root, names.reverse⟩ trail folder := by
  -- The last step is to make the directory or to accept the one that is there.
  have settle : ∀ {middle : Tree}, middle.Sound →
      (tryCatch (makeOne ⟨root, names.reverse⟩) fun fault =>
        if isAbsence fault || !isLenient then throw fault
        else acceptDirectory ⟨root, names.reverse⟩ fault) middle = .ok ⟨⟩ after →
      ∃ trail folder, LeadsInto after ⟨root, names.reverse⟩ trail folder := by
    intro middle sound settled
    cases made : makeOne ⟨root, names.reverse⟩ middle with
    | ok _ grown =>
      rw [tryCatch_apply_of_ok made] at settled
      cases settled
      exact (makeOne_ok sound made).2
    | error fault grown =>
      rw [tryCatch_apply_of_error made, makeOne_error made] at settled
      obtain ⟨rfl, leads⟩ := settleRefusal_ok settled
      exact leads
  cases names with
  | nil =>
    unfold makeWithParents at made
    exact settle sound made
  | cons name names =>
    unfold makeWithParents at made
    cases first : makeOne ⟨root, (name :: names).reverse⟩ before with
    | ok _ grown =>
      rw [tryCatch_apply_of_ok first] at made
      cases made
      exact (makeOne_ok sound first).2
    | error fault grown =>
      rw [tryCatch_apply_of_error first, makeOne_error first] at made
      split at made
      · obtain ⟨_, middle, around, made⟩ := bind_eq_ok_iff.mp made
        have grown := (makeWithParents_grows root true names).of_ok around sound
        exact settle grown.sound made
      · split at made
        · obtain ⟨rfl, leads⟩ := acceptDirectory_ok made
          exact leads
        · cases made

theorem ensureDirectory_grows (path : Path) : Moves (Grows path) (ensureDirectory path) := by
  have grows := makeWithParents_grows path.root true path.parts.reverse
  rwa [List.reverse_reverse] at grows

theorem makeDirectory_grows (path : Path) : Moves (Grows path) (makeDirectory path) := by
  have grows := makeWithParents_grows path.root false path.parts.reverse
  rwa [List.reverse_reverse] at grows

theorem makeDirectory_ok
    {path : Path} {before after : Tree} (sound : before.Sound)
    (made : makeDirectory path before = .ok ⟨⟩ after) :
    ∃ trail folder, LeadsInto after path trail folder := by
  have leads := makeWithParents_ok sound made
  rwa [List.reverse_reverse] at leads

/-- Where a path leads into a directory already there is nothing to make. -/
theorem ensureDirectory_of_leads
    {tree : Tree} {path : Path} {trail : List Place} {folder : Place}
    (leads : LeadsInto tree path trail folder) :
    ensureDirectory path tree = .ok ⟨⟩ tree := by
  obtain ⟨_, spot, unfollowed, present⟩ := Leads.unfollowed leads (by simp)
  have refused : makeOne path tree = .error (.system ⟨.entryExists, path.text, none⟩) tree := by
    rw [makeOne_apply, LeadsTo.walk_eq unfollowed]
    obtain ⟨place, entry⟩ := spot
    cases entry with
    | none => simp at present
    | some entry => rfl
  have accepted (fault : Fault) : acceptDirectory path fault tree = .ok ⟨⟩ tree := by
    have asked : ask (fun tree => tree.isDirectory path) tree = .ok true tree := by
      rw [ask_apply, isDirectory_eq_true_iff.mpr ⟨trail, folder, leads⟩]
    exact bind_apply_of_ok asked
  have pathEq : (⟨path.root, path.parts.reverse.reverse⟩ : Path) = path := by
    rw [List.reverse_reverse]
  unfold ensureDirectory
  cases names : path.parts.reverse with
  | nil =>
    rw [names, List.reverse_nil] at pathEq
    unfold makeWithParents
    simp only [pathEq]
    exact (tryCatch_apply_of_error refused).trans (accepted _)
  | cons name more =>
    rw [names] at pathEq
    unfold makeWithParents
    simp only [pathEq]
    exact (tryCatch_apply_of_error refused).trans (accepted _)

end Change

/-- A tree with the directories of a path, as far as they can be made. -/
def Tree.withDirectories (tree : Tree) (path : Path) : Tree :=
  left (Change.ensureDirectory path tree)

theorem Tree.Sound.grown_withDirectories {tree : Tree} (sound : tree.Sound) (path : Path) :
    Grown path tree (tree.withDirectories path) :=
  Change.ensureDirectory_grows path tree sound

theorem LeadsInto.withDirectories_eq
    {tree : Tree} {path : Path} {trail : List Place} {folder : Place}
    (leads : LeadsInto tree path trail folder) : tree.withDirectories path = tree := by
  rw [Tree.withDirectories, Change.ensureDirectory_of_leads leads, left_ok]

/-! ## How deep a tree can be -/

/-- The places on the way down to a place, itself included. -/
def levels (place : Place) : List Place :=
  (List.range place.length).map fun count => place.take (count + 1)

theorem length_levels (place : Place) : (levels place).length = place.length := by
  simp [levels]

theorem nodup_levels (place : Place) : (levels place).Nodup := by
  refine List.Nodup.of_map List.length ?_
  have lengths : (levels place).map List.length = (List.range place.length).map (· + 1) := by
    rw [levels, List.map_map]
    apply List.map_congr_left
    intro count inRange
    have short := List.mem_range.mp inRange
    simp only [Function.comp_apply, List.length_take]
    omega
  rw [lengths]
  exact List.nodup_range.map fun _ _ same => by simpa using same

/-- What stands on the way down to an entry. -/
theorem Tree.Sound.at?_take
    {tree : Tree} (sound : tree.Sound) {place : Place} {entry : Entry}
    (there : tree.at? place = some entry) (count : Nat) :
    ∃ found, tree.at? (place.take count) = some found := by
  induction place using List.reverseRecOn generalizing entry with
  | nil => exact ⟨entry, by simpa using there⟩
  | append_singleton folder name ih =>
    by_cases all : count ≤ folder.length
    · rw [List.take_append_of_le_length all]
      exact ih (sound.closed _ _ _ there)
    · rw [List.take_of_length_le (by simp; omega)]
      exact ⟨entry, there⟩

/-- Where the first names of a path lead. -/
private def stations (tree : Tree) (path : Path) : List Place :=
  (List.range path.parts.length).filterMap fun count =>
    (tree.walk true ⟨path.root, path.parts.take (count + 1)⟩).toOption.map Tree.Spot.place

private theorem length_stations_le (tree : Tree) (path : Path) :
    (stations tree path).length ≤ path.parts.length := by
  simpa [stations] using List.length_filterMap_le _ (List.range path.parts.length)

private theorem mem_stations {tree : Tree} {path : Path} {place : Place}
    (sound : tree.Sound)
    (onTheWay : OnTheWay tree path place) (there : tree.at? place = some .directory) :
    place ∈ stations tree path := by
  obtain ⟨names, name, trail, folder, ⟨rest, parts⟩, rfl, leads⟩ := onTheWay
  have isName : IsName name := sound.named _ _ _ there
  have child := leads.child_of_there true isName there (by simp)
  refine List.mem_filterMap.mpr ⟨names.length, ?_, ?_⟩
  · rw [List.mem_range, ← parts]
    simp
  · have pathEq : (⟨path.root, path.parts.take (names.length + 1)⟩ : Path) =
        (⟨path.root, names⟩ : Path).child name := by
      rw [Path.child, ← parts, List.take_left' (by simp)]
    rw [pathEq, child.walk_eq]
    rfl

/-- A grown tree has no more entries than there were before and the path has names. -/
theorem Grown.count_le
    {path : Path} {before after : Tree} (grown : Grown path before after)
    {places : List Place} (nodup : places.Nodup) (inside : ∀ place ∈ places, place ≠ [])
    (there : ∀ place ∈ places, ∃ entry, after.at? place = some entry) :
    places.length ≤ before.entries.length + path.parts.length := by
  have known : places ⊆ before.entries.map Prod.fst ++ stations after path := by
    intro place member
    obtain ⟨entry, standing⟩ := there place member
    rw [List.mem_append]
    cases earlier : before.at? place with
    | some old =>
      exact .inl (List.mem_map.mpr ⟨_, Tree.mem_of_at? earlier (inside place member), rfl⟩)
    | none =>
      obtain ⟨rfl, onTheWay⟩ := grown.made _ _ earlier standing
      exact .inr (mem_stations grown.sound onTheWay standing)
  have count := (nodup.subperm known).length_le
  rw [List.length_append, List.length_map] at count
  exact Nat.le_trans count (Nat.add_le_add_left (length_stations_le _ _) _)

/-- A grown tree is no deeper than its entries before and the names of the path allow. -/
theorem Grown.length_le
    {path : Path} {before after : Tree} (grown : Grown path before after)
    {place : Place} {entry : Entry} (there : after.at? place = some entry) :
    place.length ≤ before.entries.length + path.parts.length := by
  rw [← length_levels place]
  refine grown.count_le (nodup_levels place) (fun level member => ?_) fun level member => ?_
  · obtain ⟨count, inRange, rfl⟩ := List.mem_map.mp member
    have short := List.mem_range.mp inRange
    intro none
    have lengths := congrArg List.length none
    simp at lengths
    simp [lengths] at short
  · obtain ⟨count, -, rfl⟩ := List.mem_map.mp member
    exact grown.sound.at?_take there (count + 1)

end Stencil.Files

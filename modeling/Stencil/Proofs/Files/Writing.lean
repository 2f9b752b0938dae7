import Stencil.Proofs.Files.Growth

/-!
# Writing a file

A file is written in four steps: directories, a spare file, the move to the target, and
the mode.  For each step there is one account of what it leaves, on success and on failure.
The spare file is never the target and never on the way to it, so the move is the only
step that changes the entry at the target before the mode is set.
-/

namespace Stencil.Files

open Outcome

/-! ## Trees that agree -/

/-- A sound tree with the same entries as another one. -/
structure Alike (before after : Tree) : Prop where
  sound : after.Sound
  here : after.here = before.here
  at?_eq : ∀ place, after.at? place = before.at? place

/-- A file has been put into a directory; nothing else is changed. -/
structure Placed (folder : Place) (name : String) (content : FileContent)
    (before after : Tree) : Prop where
  sound : after.Sound
  here : after.here = before.here
  there : after.at? (folder ++ [name]) = some (.file content)
  others : ∀ place, place ≠ folder ++ [name] → after.at? place = before.at? place

namespace Alike

theorem refl {tree : Tree} (sound : tree.Sound) : Alike tree tree := ⟨sound, rfl, fun _ => rfl⟩

theorem grown {before after : Tree} (alike : Alike before after) (path : Path) :
    Grown path before after where
  sound := alike.sound
  here := alike.here
  kept := fun place entry there => (alike.at?_eq place).trans there
  made := fun place entry absent there => by
    rw [alike.at?_eq, absent] at there
    cases there

end Alike

/-! ## Targets -/

/--
A path can be replaced: the names before its last one lead into a directory in which the
last name stands for an entry of its own, and no directory stands there.
-/
structure Replaceable (tree : Tree) (path : Path) (trail : List Place) (folder : Place) :
    Prop where
  named : path.parts ≠ []
  leads : LeadsInto tree path.parent trail folder
  isName : IsName path.name
  noDirectory : tree.at? (folder ++ [path.name]) ≠ some .directory

/-- A path with names is put together from its last one and the others. -/
theorem child_parent_name {path : Path} (named : path.parts ≠ []) :
    path.parent.child path.name = path := by
  obtain ⟨root, parts⟩ := path
  obtain ⟨names, name, rfl⟩ := (List.eq_nil_or_concat parts).resolve_left named
  simp [Path.parent, Path.child, Path.name]

theorem endsInDots_of_isName {path : Path} (named : path.parts ≠ [])
    (isName : IsName path.name) : Change.endsInDots path = false := by
  obtain ⟨names, name, parts⟩ := (List.eq_nil_or_concat path.parts).resolve_left named
  have notAround := isName.notAround
  rw [List.concat_eq_append] at parts
  simpa [Change.endsInDots, Path.name, parts] using notAround

theorem Replaceable.child_eq {tree : Tree} {path : Path} {trail : List Place}
    {folder : Place} (replaceable : Replaceable tree path trail folder) :
    path.parent.child path.name = path :=
  child_parent_name replaceable.named

/-- A file beside the way to its directory leaves that way open. -/
theorem Placed.leadsInto
    {path : Path} {before after : Tree} {trail : List Place} {folder : Place}
    {content : FileContent}
    (placed : Placed folder path.name content before after)
    (replaceable : Replaceable before path trail folder)
    (beside : folder ++ [path.name] ∉ trail) : LeadsInto after path.parent trail folder := by
  apply replaceable.leads.transfer placed.here
  · intro place there
    rw [placed.others _ fun same => replaceable.noDirectory (same ▸ there), there]
  · intro place member
    exact placed.others _ fun same => beside (same ▸ member)

/-- A file beside the way to it is found where it has been put. -/
theorem Placed.leadsTo
    {path : Path} {before after : Tree} {trail : List Place} {folder : Place}
    {content : FileContent}
    (placed : Placed folder path.name content before after)
    (replaceable : Replaceable before path trail folder)
    (beside : folder ++ [path.name] ∉ trail) (follow : Bool) :
    LeadsTo after follow path trail ⟨folder ++ [path.name], some (.file content)⟩ := by
  have around := placed.leadsInto replaceable beside
  have child := around.child_of_there follow replaceable.isName placed.there (by simp)
  rwa [replaceable.child_eq] at child

/-- The way to a file that has taken the place of a link on that way is blocked. -/
theorem Placed.not_leadsTo
    {path : Path} {before after : Tree} {trail : List Place} {folder : Place}
    {content : FileContent}
    (placed : Placed folder path.name content before after)
    (replaceable : Replaceable before path trail folder)
    (crossed : folder ++ [path.name] ∈ trail)
    {follow : Bool} {spot : Tree.Spot} : after.walk follow path ≠ .ok spot := by
  intro walked
  obtain ⟨later, leads⟩ := walk_eq_ok_iff.mp walked
  rw [← replaceable.child_eq] at leads
  obtain ⟨other, fewer, front, back, inside, -, -⟩ :=
    Leads.of_concat placed.sound leads (placed.sound.directory_startOf _)
  have around : LeadsInto after path.parent front other := inside
  have elsewhere : ∀ place entry, entry ≠ .file content → after.at? place = some entry →
      before.at? place = some entry := by
    intro place entry noFile there
    rw [← placed.others, there]
    rintro rfl
    rw [placed.there] at there
    cases there
    exact noFile rfl
  have earlier : LeadsInto before path.parent front other := by
    refine around.transfer placed.here.symm
      (fun place => elsewhere place _ (by simp)) fun place member => ?_
    obtain ⟨target, there⟩ := Leads.link_of_mem_trail around member
    rw [there, elsewhere place _ (by simp) there]
  obtain ⟨rfl, rfl⟩ := earlier.unique replaceable.leads
  obtain ⟨target, there⟩ := Leads.link_of_mem_trail around crossed
  rw [placed.there] at there
  cases there

/-! ## The spare file -/

namespace Change

/-- A spare file for a target has been made where nothing stood; nothing else is changed. -/
structure Opened (path : Path) (before : Tree) (spare : Spare) (content : FileContent)
    (after : Tree) : Prop where
  absent : before.at? spare.place = none
  /-- The spare name is longer than that of the target. -/
  distinct : ∀ folder, spare.place ≠ folder ++ [path.name]
  sound : after.Sound
  here : after.here = before.here
  there : after.at? spare.place = some (.file content)
  others : ∀ place, place ≠ spare.place → after.at? place = before.at? place

theorem storedLength_append (first second : String) :
    Text.storedLength (first ++ second) = Text.storedLength first + Text.storedLength second :=
  String.utf8ByteSize_append

/-- A spare name stands for an entry of its own. -/
theorem isName_spare
    {path : Path} {mark : String}
    (short : Text.storedLength (spareOpening path) + spareLength ≤ Tree.nameLimit)
    (nonempty : mark ≠ "")
    (agreed : Text.storedLength mark ≤ spareLength) :
    IsName (spareOpening path ++ mark) := by
  have characters : (spareOpening path ++ mark).toList =
      '.' :: (path.name.toList ++ '.' :: mark.toList) := by
    simp [spareOpening, String.toList_append]
  have inner : mark.toList ≠ [] := fun none => nonempty (by simpa using none)
  have long : 3 ≤ (spareOpening path ++ mark).toList.length := by
    have positive := List.length_pos_of_ne_nil inner
    rw [characters]
    simp only [List.length_cons, List.length_append]
    omega
  constructor
  · intro same; simp [same] at long
  · intro same; simp [same] at long
  · intro same; simp [same] at long
  · rw [storedLength_append]
    omega

/-- What a spare file that has just been made holds. -/
def newContent (tree : Tree) : FileContent where
  bytes := ByteArray.empty
  mode := 0o600
  stamp := tree.clock + tree.written
  serial := tree.written

/-- Either no spare file is made, or one in a directory under a name that is free. -/
private theorem openSpare_cases (path : Path) (before : Tree) :
    (∃ fault, openSpare path before = .error fault before) ∨
      ∃ trail folder mark name,
        LeadsInto before (absolutePath before.here path.parent) trail folder ∧
        Text.storedLength (spareOpening path) + spareLength ≤ Tree.nameLimit ∧
        freeMark? before folder (spareOpening path) = some mark ∧
        openSpare path before =
          .ok ⟨name, folder ++ [spareOpening path ++ mark]⟩
            { before.put (folder ++ [spareOpening path ++ mark]) (.file (newContent before)) with
              written := before.written + 1 } := by
  unfold openSpare
  rw [bind_apply_of_ok (get_apply before)]
  cases walked : before.walk true (absolutePath before.here path.parent) with
  | error reason => exact .inl ⟨_, rfl⟩
  | ok spot =>
    obtain ⟨folder, entry⟩ := spot
    obtain ⟨trail, leads⟩ := walk_eq_ok_iff.mp walked
    cases entry with
    | none => exact .inl ⟨_, rfl⟩
    | some entry =>
      cases entry with
      | file content => exact .inl ⟨_, rfl⟩
      | link target => exact .inl ⟨_, rfl⟩
      | pipe => exact .inl ⟨_, rfl⟩
      | directory =>
        dsimp only
        by_cases long : Tree.nameLimit < Text.storedLength (spareOpening path) + spareLength
        · rw [if_pos long]
          exact .inl ⟨_, rfl⟩
        · rw [if_neg long]
          cases free : freeMark? before folder (spareOpening path) with
          | none => exact .inl ⟨_, rfl⟩
          | some mark =>
            exact .inr ⟨trail, folder, mark, _, leads, Nat.le_of_not_lt long, free, rfl⟩

/-- A spare file is made in the directory of its target. -/
theorem place_of_openSpare
    {path : Path} {before after : Tree} {spare : Spare}
    (opened : openSpare path before = .ok spare after) :
    ∃ trail folder mark, LeadsInto before (absolutePath before.here path.parent) trail folder ∧
      spare.place = folder ++ [spareOpening path ++ mark] := by
  rcases openSpare_cases path before with ⟨fault, failed⟩ |
    ⟨trail, folder, mark, name, leads, -, -, made⟩
  · rw [failed] at opened
    cases opened
  · rw [made] at opened
    cases opened
    exact ⟨trail, folder, mark, leads, rfl⟩

theorem openSpare_ok
    {path : Path} {before after : Tree} {spare : Spare} (sound : before.Sound)
    (opened : openSpare path before = .ok spare after) :
    Opened path before spare (newContent before) after := by
  rcases openSpare_cases path before with ⟨fault, failed⟩ |
    ⟨trail, folder, mark, name, leads, short, free, made⟩
  · rw [failed] at opened
    cases opened
  · rw [made] at opened
    cases opened
    have inside : before.at? folder = some .directory := (Leads.entry_eq leads).symm
    have absent : before.at? (folder ++ [spareOpening path ++ mark]) = none := by
      simpa using List.find?_some free
    obtain ⟨nonempty, agreed⟩ := sound.marked _ mark (List.mem_of_find?_eq_some free)
    have placed : (before.put (folder ++ [spareOpening path ++ mark])
        (.file (newContent before))).Sound :=
      sound.put inside (isName_spare short nonempty agreed) (by simp [absent])
    refine ⟨absent, ?_, ⟨placed.distinct, placed.closed, placed.named, placed.here,
      placed.marked⟩, rfl, Tree.at?_put _ _ _ (by simp), ?_⟩
    · intro other same
      obtain ⟨-, nameEq⟩ := List.append_inj' same rfl
      have lengths := congrArg (fun names => (names.map String.length).sum) nameEq
      have dot : ".".length = 1 := rfl
      simp [spareOpening] at lengths
      omega
    · intro place other
      exact Tree.at?_put_of_ne _ _ other

theorem openSpare_error
    {path : Path} {before after : Tree} {fault : Fault}
    (failed : openSpare path before = .error fault after) : after = before := by
  rcases openSpare_cases path before with ⟨_, refused⟩ | ⟨_, _, _, _, _, _, _, made⟩
  · rw [refused] at failed
    cases failed
    rfl
  · rw [made] at failed
    cases failed

/-- Filling a spare file only changes what it holds. -/
theorem fill_apply
    {path : Path} {before after : Tree} {spare : Spare} {content : FileContent}
    (opened : Opened path before spare content after) (bytes : ByteArray) :
    ∃ filled, fill spare.place bytes after = .ok ⟨⟩ filled ∧
      Opened path before spare { content with bytes } filled := by
  obtain ⟨absent, distinct, sound, here, there, others⟩ := opened
  have inside : spare.place ≠ [] := by
    intro none
    rw [none] at absent
    cases absent
  obtain ⟨folder, name, placeEq⟩ := (List.eq_nil_or_concat spare.place).resolve_left inside
  rw [List.concat_eq_append] at placeEq
  refine ⟨after.put spare.place (.file { content with bytes }), ?_, absent, distinct, ?_, here,
    Tree.at?_put _ _ _ inside, ?_⟩
  · unfold fill
    rw [modify_apply, there]
  · rw [placeEq] at there ⊢
    exact sound.put (sound.closed _ _ _ there) (sound.named _ _ _ there) (by simp [there])
  · intro place other
    rw [Tree.at?_put_of_ne _ _ other, others _ other]

namespace Opened

variable {path : Path} {before after : Tree} {spare : Spare} {content : FileContent}

theorem inside (opened : Opened path before spare content after) : spare.place ≠ [] := by
  intro none
  have absent := opened.absent
  rw [none] at absent
  cases absent

/-- Without the spare file the tree is as it was. -/
theorem alike_remove (opened : Opened path before spare content after) :
    Alike before (after.remove spare.place) := by
  refine ⟨opened.sound.remove (by simp [opened.there]), opened.here, fun place => ?_⟩
  by_cases same : place = spare.place
  · subst same
    rw [Tree.at?_remove _ _ opened.inside, opened.absent]
  · rw [Tree.at?_remove_of_ne _ same, opened.others _ same]

/-- The spare file opens no new way into a directory. -/
theorem leadsInto {other : Path} {trail : List Place} {folder : Place}
    (opened : Opened path before spare content after)
    (leads : LeadsInto after other trail folder) : LeadsInto before other trail folder := by
  have elsewhere : ∀ place entry, entry ≠ .file content → after.at? place = some entry →
      before.at? place = some entry := by
    intro place entry noFile there
    have distinct : place ≠ spare.place := by
      rintro rfl
      rw [opened.there] at there
      cases there
      exact noFile rfl
    rw [← opened.others _ distinct]
    exact there
  refine leads.transfer opened.here.symm (fun place => elsewhere place _ (by simp)) ?_
  intro place member
  obtain ⟨target, there⟩ := Leads.link_of_mem_trail leads member
  rw [there, elsewhere place _ (by simp) there]

end Opened

/-! ## The move to the target -/

/-- The file of a spare file stands where the path leads, unless a directory does. -/
theorem replace_of_there
    {spare : Spare} {path : Path} {tree : Tree} {place : Place} {old : Option Entry}
    {entry : Entry}
    (named : endsInDots path = false)
    (walked : tree.walk false path = .ok ⟨place, old⟩)
    (noDirectory : old ≠ some .directory)
    (there : tree.at? spare.place = some entry) :
    replace spare path tree = .ok ⟨⟩ ((tree.remove spare.place).put place entry) := by
  unfold replace
  rw [bind_apply_of_ok (get_apply tree)]
  simp only [named, walked, there]
  cases old with
  | none => rfl
  | some old =>
    cases old with
    | directory => exact absurd rfl noDirectory
    | _ => rfl

/-- A spare file is moved, or nothing happens to it. -/
theorem replace_cases (spare : Spare) (path : Path) (tree : Tree) :
    (∃ place old entry, endsInDots path = false ∧ tree.walk false path = .ok ⟨place, old⟩ ∧
      old ≠ some .directory ∧ tree.at? spare.place = some entry ∧
      replace spare path tree = .ok ⟨⟩ ((tree.remove spare.place).put place entry)) ∨
    ∃ fault, replace spare path tree = .error fault tree := by
  cases named : endsInDots path with
  | true =>
    right
    unfold replace
    rw [bind_apply_of_ok (get_apply tree), named]
    exact ⟨_, rfl⟩
  | false =>
    cases walked : tree.walk false path with
    | error reason =>
      right
      unfold replace
      rw [bind_apply_of_ok (get_apply tree)]
      simp only [named, walked]
      exact ⟨_, rfl⟩
    | ok spot =>
      obtain ⟨place, old⟩ := spot
      by_cases directory : old = some .directory
      · right
        unfold replace
        rw [bind_apply_of_ok (get_apply tree)]
        simp only [named, walked, directory]
        exact ⟨_, rfl⟩
      · cases there : tree.at? spare.place with
        | some entry =>
          exact .inl ⟨place, old, entry, rfl, rfl, directory, rfl,
            replace_of_there named walked directory there⟩
        | none =>
          right
          unfold replace
          rw [bind_apply_of_ok (get_apply tree)]
          simp only [named, walked, there]
          cases old with
          | none => exact ⟨_, rfl⟩
          | some old => cases old <;> exact ⟨_, rfl⟩

/-- A spare file takes the place of a target that can be replaced. -/
theorem replace_ok
    {path : Path} {before after replaced : Tree} {spare : Spare} {content : FileContent}
    (opened : Opened path before spare content after)
    (moved : replace spare path after = .ok ⟨⟩ replaced) :
    ∃ trail folder, Replaceable before path trail folder ∧
      Placed folder path.name content before replaced := by
  rcases replace_cases spare path after with
    ⟨place, old, entry, named, walked, noDirectory, there, moves⟩ | ⟨fault, fails⟩
  swap
  · rw [fails] at moved
    cases moved
  rw [opened.there] at there
  cases there
  rw [moves] at moved
  cases moved
  obtain ⟨trail, leads⟩ := walk_eq_ok_iff.mp walked
  obtain ⟨isName, folder, around, spotEq⟩ := leads.folder opened.sound named noDirectory
  cases spotEq
  have distinct := (opened.distinct folder).symm
  have around := opened.leadsInto around
  have inside : before.at? folder = some .directory := (Leads.entry_eq around).symm
  have alike := opened.alike_remove
  have vacant : before.at? (folder ++ [path.name]) ≠ some .directory := by
    rw [← opened.others _ distinct]
    exact noDirectory
  refine ⟨trail, folder, ⟨?_, around, isName, vacant⟩, ?_, opened.here, ?_, ?_⟩
  · intro none
    simp [endsInDots, none] at named
  · exact alike.sound.put ((alike.at?_eq _).trans inside) isName (by rwa [alike.at?_eq])
  · exact Tree.at?_put _ _ _ (by simp)
  · intro place other
    rw [Tree.at?_put_of_ne _ _ other, alike.at?_eq]

theorem replace_error
    {path : Path} {before after : Tree} {spare : Spare} {fault : Fault}
    (failed : replace spare path before = .error fault after) : after = before := by
  rcases replace_cases spare path before with ⟨_, _, _, -, -, -, -, moves⟩ | ⟨_, fails⟩
  · rw [moves] at failed
    cases failed
  · rw [fails] at failed
    cases failed
    rfl

private theorem commit_of_fault (path : Path) (spare : Spare) (fault : Fault) (tree : Tree) :
    commit path spare (.error fault) tree = .error fault (tree.remove spare.place) := rfl

private theorem commit_of_moved
    {path : Path} {spare : Spare} {bytes : ByteArray} {tree filled moved : Tree}
    (fills : fill spare.place bytes tree = .ok ⟨⟩ filled)
    (moves : replace spare path filled = .ok ⟨⟩ moved) :
    commit path spare (.ok bytes) tree = .ok ⟨⟩ moved :=
  tryCatch_apply_of_ok ((bind_apply_of_ok fills).trans moves)

private theorem commit_of_refused
    {path : Path} {spare : Spare} {bytes : ByteArray} {tree filled : Tree} {fault : Fault}
    (fills : fill spare.place bytes tree = .ok ⟨⟩ filled)
    (refused : replace spare path filled = .error fault filled) :
    commit path spare (.ok bytes) tree = .error fault (filled.remove spare.place) :=
  tryCatch_apply_of_error ((bind_apply_of_ok fills).trans refused)

/-- A file that is completed takes the place of its target. -/
theorem commit_ok
    {path : Path} {before after committed : Tree} {spare : Spare} {old : FileContent}
    {content : Except Fault ByteArray}
    (opened : Opened path before spare old after)
    (ended : commit path spare content after = .ok ⟨⟩ committed) :
    ∃ bytes trail folder, content = .ok bytes ∧ Replaceable before path trail folder ∧
      Placed folder path.name { old with bytes } before committed := by
  cases content with
  | error fault =>
    rw [commit_of_fault] at ended
    cases ended
  | ok bytes =>
    obtain ⟨filled, fills, refilled⟩ := fill_apply opened bytes
    cases moved : replace spare path filled with
    | ok _ replaced =>
      rw [commit_of_moved fills moved] at ended
      cases ended
      obtain ⟨trail, folder, replaceable, placed⟩ := replace_ok refilled moved
      exact ⟨bytes, trail, folder, rfl, replaceable, placed⟩
    | error fault left =>
      rw [replace_error moved] at moved
      rw [commit_of_refused fills moved] at ended
      cases ended

/-- A file that is not completed leaves everything as it was. -/
theorem commit_error
    {path : Path} {before after left : Tree} {spare : Spare} {old : FileContent}
    {content : Except Fault ByteArray} {fault : Fault}
    (opened : Opened path before spare old after)
    (failed : commit path spare content after = .error fault left) : Alike before left := by
  cases content with
  | error fault =>
    rw [commit_of_fault] at failed
    cases failed
    exact opened.alike_remove
  | ok bytes =>
    obtain ⟨filled, fills, refilled⟩ := fill_apply opened bytes
    cases moved : replace spare path filled with
    | ok _ replaced =>
      rw [commit_of_moved fills moved] at failed
      cases failed
    | error fault unmoved =>
      rw [replace_error moved] at moved
      rw [commit_of_refused fills moved] at failed
      cases failed
      exact refilled.alike_remove

/-- A target that can be replaced is replaced by a file that is complete. -/
theorem commit_of_replaceable
    {path : Path} {before after : Tree} {spare : Spare} {old : FileContent}
    {trail : List Place} {folder : Place}
    (opened : Opened path before spare old after)
    (replaceable : Replaceable before path trail folder) (bytes : ByteArray) :
    ∃ committed, commit path spare (.ok bytes) after = .ok ⟨⟩ committed := by
  obtain ⟨filled, fills, refilled⟩ := fill_apply opened bytes
  have named := endsInDots_of_isName replaceable.named replaceable.isName
  have kept : ∀ place entry, before.at? place = some entry → filled.at? place = some entry := by
    intro place entry there
    have distinct : place ≠ spare.place := by
      rintro rfl
      rw [refilled.absent] at there
      cases there
    rw [refilled.others _ distinct, there]
  have around := LeadsInto.mono refilled.here kept replaceable.leads
  have child := around.child false replaceable.isName fun _ _ => rfl
  rw [replaceable.child_eq] at child
  have vacant : filled.at? (folder ++ [path.name]) ≠ some .directory := by
    rw [refilled.others _ (refilled.distinct folder).symm]
    exact replaceable.noDirectory
  exact ⟨_, commit_of_moved fills
    (replace_of_there named child.walk_eq vacant refilled.there)⟩

/-! ## The mode -/

/-- The modes that the system takes. -/
def FitsMode (mode : Int) : Prop :=
  -modeLimit - 1 ≤ mode ∧ mode ≤ modeLimit

instance (mode : Int) : Decidable (FitsMode mode) :=
  inferInstanceAs (Decidable (_ ∧ _))

/-- The mode that a file is given. -/
def storedMode (mode : Int) : Nat :=
  (mode % 0o10000).toNat

theorem setMode_apply (path : Path) (mode : Int) (tree : Tree) :
    setMode path mode tree =
      if FitsMode mode then
        match tree.walk true path with
        | .error reason => .error (.system ⟨reason, path.text, none⟩) tree
        | .ok ⟨place, some (.file content)⟩ =>
          .ok ⟨⟩ (tree.put place (.file { content with mode := storedMode mode }))
        | .ok ⟨_, some _⟩ => .ok ⟨⟩ tree
        | .ok ⟨_, none⟩ => .error (.system ⟨.noSuchEntry, path.text, none⟩) tree
      else .error .overflow tree := by
  unfold setMode
  by_cases fits : FitsMode mode
  · have inRange : (mode < -modeLimit - 1 || modeLimit < mode) = false := by
      unfold FitsMode at fits
      simp only [Bool.or_eq_false_iff, decide_eq_false_iff_not]
      omega
    rw [if_pos fits, if_neg (by simp [inRange])]
    refine (bind_apply_of_ok (get_apply tree)).trans ?_
    cases tree.walk true path with
    | error reason => rfl
    | ok spot =>
      obtain ⟨place, entry⟩ := spot
      cases entry with
      | none => rfl
      | some entry => cases entry <;> rfl
  · have outside : (mode < -modeLimit - 1 || modeLimit < mode) = true := by
      unfold FitsMode at fits
      simp only [Bool.or_eq_true, decide_eq_true_eq]
      omega
    rw [if_neg fits, if_pos outside]
    exact bind_apply_of_error (throw_apply _ _)

/--
Setting the mode of a file that has just been put in its place succeeds unless the mode
is out of range or the file blocks the way to itself.
-/
theorem setMode_ok
    {path : Path} {mode : Int} {before placed after : Tree} {trail : List Place}
    {folder : Place} {content : FileContent}
    (isPlaced : Placed folder path.name content before placed)
    (replaceable : Replaceable before path trail folder)
    (ended : setMode path mode placed = .ok ⟨⟩ after) :
    FitsMode mode ∧ folder ++ [path.name] ∉ trail ∧
      Placed folder path.name { content with mode := storedMode mode } before after := by
  rw [setMode_apply] at ended
  split at ended
  · next fits =>
    by_cases crossed : folder ++ [path.name] ∈ trail
    · have blocked : ∀ spot, placed.walk true path ≠ .ok spot :=
        fun _ => isPlaced.not_leadsTo replaceable crossed
      split at ended
      · cases ended
      · next walked => exact absurd walked (blocked _)
      · next walked => exact absurd walked (blocked _)
      · cases ended
    · rw [(isPlaced.leadsTo replaceable crossed true).walk_eq] at ended
      cases ended
      have inside : placed.at? folder = some .directory :=
        isPlaced.sound.closed _ _ _ isPlaced.there
      refine ⟨fits, crossed, ?_, isPlaced.here, Tree.at?_put _ _ _ (by simp), ?_⟩
      · exact isPlaced.sound.put inside replaceable.isName (by simp [isPlaced.there])
      · intro place other
        rw [Tree.at?_put_of_ne _ _ other, isPlaced.others _ other]
  · cases ended

theorem setMode_error
    {path : Path} {mode : Int} {before placed after : Tree} {trail : List Place}
    {folder : Place} {content : FileContent} {fault : Fault}
    (isPlaced : Placed folder path.name content before placed)
    (replaceable : Replaceable before path trail folder)
    (failed : setMode path mode placed = .error fault after) :
    after = placed ∧ ¬(FitsMode mode ∧ folder ++ [path.name] ∉ trail) := by
  rw [setMode_apply] at failed
  split at failed
  · next fits =>
    by_cases crossed : folder ++ [path.name] ∈ trail
    · refine ⟨?_, fun beside => beside.2 crossed⟩
      split at failed <;> cases failed <;> rfl
    · rw [(isPlaced.leadsTo replaceable crossed true).walk_eq] at failed
      cases failed
  · next outside =>
    cases failed
    exact ⟨rfl, fun fits => outside fits.1⟩

/-! ## Pieces of text -/

theorem encode?_append (first second : Text) :
    Text.encode? (first ++ second) = (Text.encode? first).bind fun bytes =>
      (Text.encode? second).map (bytes ++ ·) := by
  unfold Text.encode? Text.chars?
  rw [List.mapM_append]
  cases first.mapM CodePoint.char? with
  | none => rfl
  | some front =>
    cases second.mapM CodePoint.char? with
    | none => rfl
    | some back =>
      show some (Text.encodeChars (front ++ back)) =
        some (Text.encodeChars front ++ Text.encodeChars back)
      simp [Text.encodeChars, String.ofList_append]

/-- Pieces are stored as the text that they make up. -/
theorem storedPieces_eq_ok_iff
    {pieces : List Text} {ending : Option Fault} {bytes : ByteArray} :
    storedPieces pieces ending = .ok bytes ↔
      ending = none ∧ Text.encode? pieces.flatten = some bytes := by
  induction pieces generalizing bytes with
  | nil =>
    have empty : Text.encode? (List.flatten []) = some ByteArray.empty := rfl
    rw [empty]
    cases ending with
    | none => simp [storedPieces]
    | some fault => simp [storedPieces]
  | cons piece pieces ih =>
    rw [List.flatten_cons, encode?_append]
    unfold storedPieces
    cases Text.encode? piece with
    | none => simp
    | some front =>
      rw [Option.bind_some]
      cases rest : storedPieces pieces ending with
      | ok back =>
        obtain ⟨rfl, stored⟩ := ih.mp rest
        simp [stored, Except.map]
      | error fault =>
        simp only [Except.map, reduceCtorEq, false_iff, not_and]
        rintro rfl stored
        obtain ⟨back, found, -⟩ := Option.map_eq_some_iff.mp stored
        cases rest.symm.trans (ih.mpr ⟨rfl, found⟩)

/-! ## All steps -/

/-- A file has been written with a mode; nothing else is changed. -/
def Written (path : Path) (mode : Int) (bytes : ByteArray) (before after : Tree) : Prop :=
  ∃ trail folder content, Replaceable before path trail folder ∧
    folder ++ [path.name] ∉ trail ∧ FitsMode mode ∧
    content.bytes = bytes ∧ content.mode = storedMode mode ∧
    Placed folder path.name content before after

/-- A file has taken the place of its target, but its mode could not be set. -/
def Stranded (path : Path) (mode : Int) (bytes : ByteArray) (before after : Tree) : Prop :=
  ∃ trail folder content, Replaceable before path trail folder ∧
    ¬(FitsMode mode ∧ folder ++ [path.name] ∉ trail) ∧
    content.bytes = bytes ∧ content.mode = 0o600 ∧
    Placed folder path.name content before after

theorem startFile_ok
    {path : Path} {before after : Tree} {spare : Spare} (sound : before.Sound)
    (started : startFile path before = .ok spare after) :
    Opened path (before.withDirectories path.parent) spare
      (newContent (before.withDirectories path.parent)) after := by
  obtain ⟨_, grown, made, opened⟩ := bind_eq_ok_iff.mp started
  have grownEq : before.withDirectories path.parent = grown := by
    rw [Tree.withDirectories, made, left_ok]
  rw [grownEq]
  exact openSpare_ok (grownEq ▸ sound.grown_withDirectories path.parent).sound opened

theorem startFile_error
    {path : Path} {before after : Tree} {fault : Fault}
    (failed : startFile path before = .error fault after) :
    after = before.withDirectories path.parent := by
  rcases bind_eq_error_iff.mp failed with failed | ⟨_, grown, made, failed⟩
  · rw [Tree.withDirectories, failed, left_error]
  · rw [openSpare_error failed, Tree.withDirectories, made, left_ok]

theorem finishFile_ok
    {path : Path} {mode : Int} {before after written : Tree} {spare : Spare}
    {content : Except Fault ByteArray}
    (opened : Opened path before spare (newContent before) after)
    (ended : finishFile path mode spare content after = .ok ⟨⟩ written) :
    ∃ bytes, content = .ok bytes ∧ Written path mode bytes before written := by
  obtain ⟨_, committed, moved, settled⟩ := bind_eq_ok_iff.mp ended
  obtain ⟨bytes, trail, folder, contentEq, replaceable, placed⟩ := commit_ok opened moved
  obtain ⟨fits, beside, placed⟩ := setMode_ok placed replaceable settled
  exact ⟨bytes, contentEq, trail, folder, _, replaceable, beside, fits, rfl, rfl, placed⟩

theorem finishFile_error
    {path : Path} {mode : Int} {before after left : Tree} {spare : Spare}
    {content : Except Fault ByteArray} {fault : Fault}
    (opened : Opened path before spare (newContent before) after)
    (failed : finishFile path mode spare content after = .error fault left) :
    Alike before left ∨
      ∃ bytes, content = .ok bytes ∧ Stranded path mode bytes before left := by
  rcases bind_eq_error_iff.mp failed with failed | ⟨_, committed, moved, failed⟩
  · exact .inl (commit_error opened failed)
  · obtain ⟨bytes, trail, folder, contentEq, replaceable, placed⟩ := commit_ok opened moved
    obtain ⟨rfl, refused⟩ := setMode_error placed replaceable failed
    exact .inr ⟨bytes, contentEq, trail, folder, _, replaceable, refused, rfl, rfl, placed⟩

end Change

end Stencil.Files

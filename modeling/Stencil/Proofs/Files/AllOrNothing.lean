import Stencil.Proofs.Files.Writing

/-!
# All or nothing

Writing is meant to replace what stands at a path or to leave it alone.  Two things stand
in the way.  The mode is set after the move, so a mode that is refused comes too late.  And
directories that have been made for a write that fails can give a meaning to a path with
two dots that had none.  Otherwise writing is all or nothing.
-/

namespace Stencil.Files

open Outcome

/-! ## What is meant -/

/-- An entry without what tells when it was written. -/
def Entry.bare : Entry → Entry
  | .file content => .file { content with stamp := 0, serial := 0 }
  | entry => entry

/-- The entry at a path, a link itself rather than what it leads to. -/
def Tree.shown? (tree : Tree) (path : Path) : Option Entry :=
  (tree.find false path).toOption.map Entry.bare

namespace Change

/-- A path shows what it did, and only directories are new. -/
structure Untouched (path : Path) (before after : Tree) : Prop where
  shown : after.shown? path = before.shown? path
  clean : ∀ place entry, before.at? place = none → after.at? place = some entry →
    entry = .directory

/--
A path leads to a file with this content and mode; everything else that was there is kept,
and only directories are new elsewhere.
-/
def Complete (path : Path) (mode : Int) (bytes : ByteArray) (before after : Tree) : Prop :=
  ∃ target content, (∀ follow, after.walk follow path = .ok ⟨target, some (.file content)⟩) ∧
    content.bytes = bytes ∧ content.mode = storedMode mode ∧
    (∀ place entry, place ≠ target → before.at? place = some entry →
      after.at? place = some entry) ∧
    ∀ place entry, place ≠ target → before.at? place = none → after.at? place = some entry →
      entry = .directory

/-- A write completes the file at a path or leaves the path untouched. -/
def AllOrNothing (path : Path) (mode : Int) (pieces : List Text) (ending : Option Fault)
    (tree : Tree) : Prop :=
  match writePieces path mode pieces ending tree with
  | .ok _ after => ∃ bytes, ending = none ∧ Text.encode? pieces.flatten = some bytes ∧
      Complete path mode bytes tree after
  | .error _ after => Untouched path tree after

/-- A write gets as far as the move to its target. -/
structure Reaches (path : Path) (content : Except Fault ByteArray) (tree grown : Tree)
    (trail : List Place) (folder : Place) (bytes : ByteArray) : Prop where
  made : ensureDirectory path.parent tree = .ok ⟨⟩ grown
  opened : ∃ spare opened, openSpare path grown = .ok spare opened
  stored : content = .ok bytes
  replaceable : Replaceable grown path trail folder

/-- What a path shows when the mode of the file has not been set. -/
def strandedEntry? (path : Path) (trail : List Place) (folder : Place) (bytes : ByteArray) :
    Option Entry :=
  if folder ++ [path.name] ∈ trail then none else some (.file ⟨bytes, 0o600, 0, 0⟩)

/--
The move comes about although the mode will not be set, because it is out of range or the
target is a link on the way to itself; and the path shows something else than before.
-/
def Overreaches (path : Path) (mode : Int) (content : Except Fault ByteArray) (tree : Tree) :
    Prop :=
  ∃ grown trail folder bytes, Reaches path content tree grown trail folder bytes ∧
    ¬(FitsMode mode ∧ folder ++ [path.name] ∉ trail) ∧
    tree.shown? path ≠ strandedEntry? path trail folder bytes

/--
The move does not come about, and the path shows something that only the directories made
for it reveal.
-/
def Reveals (path : Path) (content : Except Fault ByteArray) (tree : Tree) : Prop :=
  (¬∃ grown trail folder bytes, Reaches path content tree grown trail folder bytes) ∧
    tree.shown? path = none ∧ (tree.withDirectories path.parent).shown? path ≠ none

/-! ## What paths show -/

end Change

theorem Tree.shown?_eq_some_iff {tree : Tree} {path : Path} {bare : Entry} :
    tree.shown? path = some bare ↔
      ∃ trail place entry, LeadsTo tree false path trail ⟨place, some entry⟩ ∧
        bare = entry.bare := by
  unfold Tree.shown?
  constructor
  · intro shown
    cases found : tree.find false path with
    | error reason =>
      rw [found] at shown
      cases shown
    | ok entry =>
      rw [found] at shown
      cases shown
      obtain ⟨trail, place, leads⟩ := find_eq_ok_iff.mp found
      exact ⟨trail, place, entry, leads, rfl⟩
  · rintro ⟨trail, place, entry, leads, rfl⟩
    rw [find_eq_ok_iff.mpr ⟨trail, place, leads⟩]
    rfl

theorem Tree.shown?_of_walk {tree : Tree} {path : Path} {place : Place} {entry : Entry}
    (walked : tree.walk false path = .ok ⟨place, some entry⟩) :
    tree.shown? path = some entry.bare := by
  obtain ⟨trail, leads⟩ := walk_eq_ok_iff.mp walked
  exact Tree.shown?_eq_some_iff.mpr ⟨trail, place, entry, leads, rfl⟩

theorem Tree.shown?_of_blocked {tree : Tree} {path : Path}
    (blocked : ∀ spot, tree.walk false path ≠ .ok spot) : tree.shown? path = none := by
  unfold Tree.shown? Tree.find
  cases walked : tree.walk false path with
  | error reason => rfl
  | ok spot => exact absurd walked (blocked spot)

/-- What a path shows stays the same when a tree grows. -/
theorem Grown.shown?_eq_some {path other : Path} {before after : Tree} {bare : Entry}
    (grown : Grown other before after) (shown : before.shown? path = some bare) :
    after.shown? path = some bare := by
  obtain ⟨trail, place, entry, leads, rfl⟩ := Tree.shown?_eq_some_iff.mp shown
  exact Tree.shown?_eq_some_iff.mpr ⟨trail, place, entry, leads.mono grown, rfl⟩

theorem Alike.walk_eq {before after : Tree} (alike : Alike before after) (follow : Bool)
    (path : Path) : after.walk follow path = before.walk follow path := by
  have names (onward) (place : Place) (names : List String) :
      after.walkNames follow onward place names =
        before.walkNames follow onward place names := by
    induction names generalizing place with
    | nil => simp only [Tree.walkNames, alike.at?_eq]
    | cons name rest ih => simp only [Tree.walkNames, alike.at?_eq, ih]
  have links (count : Nat) : after.walkFrom follow count = before.walkFrom follow count := by
    induction count with
    | zero => funext place parts; exact names _ place parts
    | succ count ih => funext place parts; simp only [Tree.walkFrom, ih, names]
  unfold Tree.walk
  rw [links, alike.here]

theorem Alike.shown?_eq {before after : Tree} (alike : Alike before after) (path : Path) :
    after.shown? path = before.shown? path := by
  unfold Tree.shown? Tree.find
  rw [alike.walk_eq]

namespace Change

/-! ## How a write ends -/

theorem Written.complete
    {path : Path} {mode : Int} {bytes : ByteArray} {other : Path} {tree grown after : Tree}
    (growth : Grown other tree grown)
    (written : Written path mode bytes grown after) : Complete path mode bytes tree after := by
  obtain ⟨trail, folder, content, replaceable, beside, -, bytesEq, modeEq, placed⟩ := written
  refine ⟨folder ++ [path.name], content, fun follow =>
    (placed.leadsTo replaceable beside follow).walk_eq, bytesEq, modeEq, ?_, ?_⟩
  · intro place entry distinct there
    rw [placed.others _ distinct, growth.kept _ _ there]
  · intro place entry distinct absent there
    rw [placed.others _ distinct] at there
    exact (growth.made _ _ absent there).1

/-- Steps that lead up to the move are the same whatever comes of them. -/
theorem Reaches.unique
    {path : Path} {content : Except Fault ByteArray} {tree grown other : Tree}
    {trail later : List Place} {folder another : Place} {bytes data : ByteArray}
    (reaches : Reaches path content tree grown trail folder bytes)
    (again : Reaches path content tree other later another data) :
    grown = other ∧ trail = later ∧ folder = another ∧ bytes = data := by
  have grownEq := reaches.made.symm.trans again.made
  cases grownEq
  have bytesEq := reaches.stored.symm.trans again.stored
  cases bytesEq
  obtain ⟨rfl, rfl⟩ := reaches.replaceable.leads.unique again.replaceable.leads
  exact ⟨rfl, rfl, rfl, rfl⟩

/-- A write that gets as far as the move is complete unless the mode is refused. -/
theorem writeFile_of_reaches
    {path : Path} {content : Except Fault ByteArray} {tree grown : Tree}
    {trail : List Place} {folder : Place} {bytes : ByteArray} (sound : tree.Sound) (mode : Int)
    (reaches : Reaches path content tree grown trail folder bytes) :
    (FitsMode mode ∧ folder ++ [path.name] ∉ trail ∧
        ∃ after, writeFile path mode content tree = .ok ⟨⟩ after ∧
          Written path mode bytes grown after) ∨
      (¬(FitsMode mode ∧ folder ++ [path.name] ∉ trail) ∧
        ∃ fault after stranded, writeFile path mode content tree = .error fault after ∧
          stranded.bytes = bytes ∧ stranded.mode = 0o600 ∧
          Placed folder path.name stranded grown after) := by
  obtain ⟨made, ⟨spare, opened, opens⟩, rfl, replaceable⟩ := reaches
  have growth := (ensureDirectory_grows path.parent).of_ok made sound
  have isOpened := openSpare_ok growth.sound opens
  have started : startFile path tree = .ok spare opened := (bind_apply_of_ok made).trans opens
  obtain ⟨committed, commits⟩ := commit_of_replaceable isOpened replaceable bytes
  obtain ⟨data, front, around, bytesEq, again, placed⟩ := commit_ok isOpened commits
  cases bytesEq
  obtain ⟨rfl, rfl⟩ := replaceable.leads.unique again.leads
  have finishes : finishFile path mode spare (.ok bytes) opened = setMode path mode committed :=
    bind_apply_of_ok commits
  have writes : writeFile path mode (.ok bytes) tree = setMode path mode committed :=
    (bind_apply_of_ok started).trans finishes
  cases settled : setMode path mode committed with
  | ok _ after =>
    obtain ⟨fits, beside, placed⟩ := setMode_ok placed replaceable settled
    exact .inl ⟨fits, beside, after, writes.trans settled, trail, folder, _, replaceable,
      beside, fits, rfl, rfl, placed⟩
  | error fault after =>
    obtain ⟨rfl, refused⟩ := setMode_error placed replaceable settled
    exact .inr ⟨refused, fault, after, _, writes.trans settled, rfl, rfl, placed⟩

/-- A write that does not get as far as the move only makes directories. -/
theorem writeFile_of_not_reaches
    {path : Path} {content : Except Fault ByteArray} {tree : Tree} (sound : tree.Sound)
    (mode : Int)
    (stuck : ¬∃ grown trail folder bytes,
      Reaches path content tree grown trail folder bytes) :
    ∃ fault after, writeFile path mode content tree = .error fault after ∧
      Alike (tree.withDirectories path.parent) after := by
  unfold Tree.withDirectories
  cases made : ensureDirectory path.parent tree with
  | error fault grown =>
    have growth := (ensureDirectory_grows path.parent).of_error made sound
    exact ⟨fault, grown, bind_apply_of_error (bind_apply_of_error made), .refl growth.sound⟩
  | ok _ grown =>
    have growth := (ensureDirectory_grows path.parent).of_ok made sound
    cases opens : openSpare path grown with
    | error fault opened =>
      rw [openSpare_error opens] at opens
      exact ⟨fault, grown, bind_apply_of_error ((bind_apply_of_ok made).trans opens),
        .refl growth.sound⟩
    | ok spare opened =>
      have isOpened := openSpare_ok growth.sound opens
      have started : startFile path tree = .ok spare opened :=
        (bind_apply_of_ok made).trans opens
      cases commits : commit path spare content opened with
      | ok _ committed =>
        obtain ⟨bytes, trail, folder, contentEq, replaceable, -⟩ := commit_ok isOpened commits
        exact absurd ⟨grown, trail, folder, bytes, made, ⟨spare, opened, opens⟩, contentEq,
          replaceable⟩ stuck
      | error fault unmoved =>
        exact ⟨fault, unmoved, (bind_apply_of_ok started).trans (bind_apply_of_error commits),
          commit_error isOpened commits⟩

/-! ## When a write is all or nothing -/

/-- What a path shows when the mode of its file could not be set. -/
private theorem shown?_stranded
    {path : Path} {grown after : Tree} {trail : List Place} {folder : Place}
    {content : FileContent}
    (replaceable : Replaceable grown path trail folder)
    (placed : Placed folder path.name content grown after)
    (mode : content.mode = 0o600) :
    after.shown? path = strandedEntry? path trail folder content.bytes := by
  unfold strandedEntry?
  split
  · next crossed =>
    exact Tree.shown?_of_blocked fun spot => placed.not_leadsTo replaceable crossed
  · next beside =>
    rw [Tree.shown?_of_walk (placed.leadsTo replaceable beside false).walk_eq, Entry.bare, mode]

/-- When the path shows what it did, the file stands where something stood before. -/
private theorem clean_stranded
    {path other : Path} {tree grown after : Tree} {trail : List Place} {folder : Place}
    {content : FileContent}
    (growth : Grown other tree grown)
    (replaceable : Replaceable grown path trail folder)
    (placed : Placed folder path.name content grown after)
    (shown : tree.shown? path = strandedEntry? path trail folder content.bytes)
    {place : Place} {entry : Entry}
    (absent : tree.at? place = none) (there : after.at? place = some entry) :
    entry = .directory := by
  by_cases target : place = folder ++ [path.name]
  · subst target
    exfalso
    unfold strandedEntry? at shown
    split at shown
    · next crossed =>
      obtain ⟨name, link⟩ := Leads.link_of_mem_trail replaceable.leads crossed
      rw [growth.at?_eq_of_some link (by simp)] at absent
      cases absent
    · obtain ⟨front, spot, found, leads, -⟩ := Tree.shown?_eq_some_iff.mp shown
      have standing : tree.at? spot = some found := (Leads.entry_eq leads).symm
      have child := replaceable.leads.child false replaceable.isName fun _ _ => rfl
      rw [replaceable.child_eq] at child
      have same := congrArg Tree.Spot.place (Leads.unique (leads.mono growth) child).2
      simp only at same
      rw [← same, standing] at absent
      cases absent
  · rw [placed.others _ target] at there
    exact (growth.made _ _ absent there).1

/--
A write is all or nothing exactly when its mode is not refused after a move that shows, and
no directories reveal what the path leads to.
-/
theorem allOrNothing_iff
    {tree : Tree} (sound : tree.Sound) (path : Path) (mode : Int) (pieces : List Text)
    (ending : Option Fault) :
    AllOrNothing path mode pieces ending tree ↔
      ¬Overreaches path mode (storedPieces pieces ending) tree ∧
        ¬Reveals path (storedPieces pieces ending) tree := by
  unfold AllOrNothing writePieces
  by_cases reach : ∃ grown trail folder bytes,
      Reaches path (storedPieces pieces ending) tree grown trail folder bytes
  · obtain ⟨grown, trail, folder, bytes, reaches⟩ := reach
    have growth := (ensureDirectory_grows path.parent).of_ok reaches.made sound
    have notReveals : ¬Reveals path (storedPieces pieces ending) tree :=
      fun reveals => reveals.1 ⟨grown, trail, folder, bytes, reaches⟩
    rcases writeFile_of_reaches sound mode reaches with
      ⟨fits, beside, after, writes, written⟩ |
      ⟨refused, fault, after, content, writes, rfl, modeEq, placed⟩
    · rw [writes]
      obtain ⟨endingEq, stored⟩ := storedPieces_eq_ok_iff.mp reaches.stored
      refine ⟨fun _ => ⟨?_, notReveals⟩,
        fun _ => ⟨bytes, endingEq, stored, written.complete growth⟩⟩
      rintro ⟨other, front, around, data, again, refused, -⟩
      obtain ⟨rfl, rfl, rfl, rfl⟩ := reaches.unique again
      exact refused ⟨fits, beside⟩
    · rw [writes]
      have shown := shown?_stranded reaches.replaceable placed modeEq
      constructor
      · intro untouched
        refine ⟨?_, notReveals⟩
        rintro ⟨other, front, around, data, again, -, differs⟩
        obtain ⟨rfl, rfl, rfl, rfl⟩ := reaches.unique again
        exact differs (untouched.shown.symm.trans shown)
      · rintro ⟨notOver, -⟩
        have same : tree.shown? path =
            strandedEntry? path trail folder content.bytes := by
          by_contra differs
          exact notOver ⟨grown, trail, folder, _, reaches, refused, differs⟩
        exact ⟨shown.trans same.symm, fun place entry =>
          clean_stranded growth reaches.replaceable placed same⟩
  · obtain ⟨fault, after, writes, alike⟩ := writeFile_of_not_reaches sound mode reach
    have growth := (sound.grown_withDirectories path.parent).trans (alike.grown path.parent)
    rw [writes]
    constructor
    · intro untouched
      refine ⟨fun ⟨grown, trail, folder, bytes, reaches, _⟩ =>
        reach ⟨grown, trail, folder, bytes, reaches⟩, ?_⟩
      rintro ⟨-, absent, revealed⟩
      rw [← alike.shown?_eq, untouched.shown] at revealed
      exact revealed absent
    · rintro ⟨-, notReveals⟩
      refine ⟨?_, fun place entry absent there => (growth.made _ _ absent there).1⟩
      cases shown : tree.shown? path with
      | some bare => exact growth.shown?_eq_some shown
      | none =>
        rw [alike.shown?_eq]
        by_contra revealed
        exact notReveals ⟨reach, shown, revealed⟩

/-- A tree with a single file. -/
def singleFile : Tree where
  entries := [(["x"], .file ⟨"old".toUTF8, 0o644, 0, 0⟩)]
  here := []

theorem sound_singleFile : singleFile.Sound :=
  .of_entries (by decide +kernel) (by decide +kernel) rfl fun _ => marked_spareMark

theorem allOrNothing_iff_singleFile :
    singleFile.Sound ∧
      (AllOrNothing (.ofString "x") 0o600 [Text.ofString "new"] none singleFile ↔
        ¬Overreaches (.ofString "x") 0o600 (storedPieces [Text.ofString "new"] none)
            singleFile ∧
          ¬Reveals (.ofString "x") (storedPieces [Text.ofString "new"] none) singleFile) :=
  ⟨sound_singleFile, allOrNothing_iff sound_singleFile _ _ _ _⟩

/-- A mode out of range is refused when the old file is gone already. -/
theorem not_allOrNothing_singleFile :
    ¬AllOrNothing (.ofString "x") 0x80000000 [Text.ofString "new"] none singleFile := by
  intro all
  have replaced : ∃ fault after,
      writePieces (.ofString "x") 0x80000000 [Text.ofString "new"] none singleFile =
        .error fault after ∧
      after.shown? (.ofString "x") ≠ singleFile.shown? (.ofString "x") := by
    refine ⟨_, _, rfl, ?_⟩
    decide +kernel
  obtain ⟨fault, after, writes, differs⟩ := replaced
  unfold AllOrNothing at all
  rw [writes] at all
  exact differs all.shown

end Change

end Stencil.Files

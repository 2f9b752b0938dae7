import Stencil.Proofs.Files.Writing

/-!
# Writing into a known directory

Where the directory of a path is there, the outcome of writing the path can be told from
little: whether its name leaves room for a spare name, whether a directory stands in its
place, whether its mode is taken and what the content is.  Names of spare files show in
failures, but nothing else does of the marks that were tried for them.
-/

namespace Stencil.Files

open Outcome

/-! ## Absolute paths -/

theorem Tree.Sound.directory_of_append
    {tree : Tree} (sound : tree.Sound) {place : Place} {names : List String}
    (directory : tree.at? (place ++ names) = some .directory) :
    tree.at? place = some .directory := by
  induction names using List.reverseRecOn with
  | nil => rwa [List.append_nil] at directory
  | append_singleton names name ih =>
    rw [← List.append_assoc] at directory
    exact ih (sound.closed _ _ _ directory)

/-- Names of directories may be put before names that lead on from there. -/
theorem Leads.prepend_directories
    {tree : Tree} (sound : tree.Sound) {follow : Bool} {links : Nat} {base : Place}
    {front names : List String} {trail : List Place} {spot : Tree.Spot}
    (directory : tree.at? (base ++ front) = some .directory)
    (leads : Leads tree follow links (base ++ front) names trail spot) :
    Leads tree follow links base (front ++ names) trail spot := by
  induction front generalizing base with
  | nil => rwa [List.append_nil] at leads
  | cons name front ih =>
    rw [List.append_cons] at directory leads
    have first := sound.directory_of_append directory
    exact .enter (sound.named _ _ _ first) first (ih directory leads)

theorem Tree.Sound.not_mem_of_at?
    {tree : Tree} (sound : tree.Sound) {place : Place} {entry : Entry}
    (there : tree.at? place = some entry) : ".." ∉ place := by
  induction place using List.reverseRecOn generalizing entry with
  | nil => exact List.not_mem_nil
  | append_singleton place name ih =>
    rw [List.mem_append, not_or]
    refine ⟨ih (sound.closed _ _ _ there), fun member => ?_⟩
    exact (sound.named _ _ _ there).notAround (List.mem_singleton.mp member).symm

namespace Change

/-- Names without two dots stay as they are. -/
theorem plainNames_of_straight {names : List String} (straight : ".." ∉ names)
    (before : List String) : plainNames before names = before.reverse ++ names := by
  induction names generalizing before with
  | nil => simp [plainNames]
  | cons name names ih =>
    rw [List.mem_cons, not_or] at straight
    rw [plainNames, if_neg (by simpa using fun same => straight.1 same.symm), ih straight.2]
    simp

/-- The absolute form of a path without two dots leads to the same directory. -/
theorem leadsInto_absolutePath
    {tree : Tree} (sound : tree.Sound) {path : Path} {trail : List Place} {folder : Place}
    (straight : ".." ∉ path.parts)
    (leads : LeadsInto tree path trail folder) :
    LeadsInto tree (absolutePath tree.here path) trail folder := by
  obtain ⟨root, parts⟩ := path
  unfold LeadsInto LeadsTo Tree.startOf absolutePath at *
  cases root with
  | none =>
    have hereStraight : ".." ∉ tree.here ++ parts := by
      rw [List.mem_append, not_or]
      exact ⟨sound.not_mem_of_at? sound.here, straight⟩
    have names : plainNames [] (tree.here ++ parts) = tree.here ++ parts := by
      rw [plainNames_of_straight hereStraight, List.reverse_nil, List.nil_append]
    show Leads tree true Tree.linkLimit [] (plainNames [] (tree.here ++ parts)) trail _
    rw [names]
    exact Leads.prepend_directories sound sound.here leads
  | slash =>
    show Leads tree true Tree.linkLimit [] (plainNames [] parts) trail _
    rw [plainNames_of_straight straight, List.reverse_nil, List.nil_append]
    exact leads
  | doubleSlash =>
    show Leads tree true Tree.linkLimit [] (plainNames [] parts) trail _
    rw [plainNames_of_straight straight, List.reverse_nil, List.nil_append]
    exact leads

/-! ## Spare names -/

/-- The path of a spare file, which shows in failures. -/
def spareName (here : Place) (path : Path) (mark : String) : String :=
  ((absolutePath here path.parent).child (spareOpening path ++ mark)).text

/-- A name leaves no room for a spare name. -/
def Crowded (path : Path) : Prop :=
  Tree.nameLimit < Text.storedLength (spareOpening path) + spareLength

instance (path : Path) : Decidable (Crowded path) :=
  inferInstanceAs (Decidable (_ < _))

/-- Faults that are the same but for the mark in the name of a spare file. -/
inductive FaultsAlike (here : Place) : Fault → Fault → Prop
  | same (fault : Fault) : FaultsAlike here fault fault
  | spare (output : Path) (reason : SystemReason) (target : Option String)
      (mark other : String) :
      FaultsAlike here (.system ⟨reason, spareName here output mark, target⟩)
        (.system ⟨reason, spareName here output other, target⟩)

section Folder

variable {tree : Tree} {path : Path} {trail : List Place} {folder : Place}

/-- No file is started whose name leaves no room for a spare name. -/
theorem startFile_of_crowded
    (sound : tree.Sound)
    (straight : ".." ∉ path.parent.parts)
    (leads : LeadsInto tree path.parent trail folder)
    (crowded : Crowded path) :
    ∃ mark, startFile path tree =
      .error (.system ⟨.nameTooLong, spareName tree.here path mark, none⟩) tree := by
  have around := leadsInto_absolutePath sound straight leads
  have long : Tree.nameLimit < Text.storedLength (spareOpening path) + spareLength := crowded
  refine ⟨(tree.marks tree.written).headD spareMark,
    (bind_apply_of_ok (ensureDirectory_of_leads leads)).trans ?_⟩
  unfold openSpare
  rw [bind_apply_of_ok (get_apply tree)]
  dsimp only
  rw [around.walk_eq]
  dsimp only
  rw [if_pos long]
  rfl

/-- A file is started where the name leaves room for a spare name and a mark is free. -/
theorem startFile_of_free
    {mark : String}
    (sound : tree.Sound)
    (straight : ".." ∉ path.parent.parts)
    (leads : LeadsInto tree path.parent trail folder)
    (room : ¬Crowded path)
    (agreed : mark ∈ tree.marks tree.written)
    (free : tree.at? (folder ++ [spareOpening path ++ mark]) = none) :
    ∃ chosen spare opened, startFile path tree = .ok spare opened ∧
      spare.name = spareName tree.here path chosen ∧
      (∃ name, spare.place = folder ++ [name]) ∧
      opened.marks = tree.marks ∧ Opened path tree spare (newContent tree) opened := by
  have around := leadsInto_absolutePath sound straight leads
  have short : ¬Tree.nameLimit < Text.storedLength (spareOpening path) + spareLength := room
  obtain ⟨chosen, found⟩ : ∃ chosen, freeMark? tree folder (spareOpening path) = some chosen := by
    rw [← Option.isSome_iff_exists, freeMark?, List.find?_isSome]
    exact ⟨mark, agreed, by rw [free]; rfl⟩
  have opens : openSpare path tree =
      .ok ⟨spareName tree.here path chosen, folder ++ [spareOpening path ++ chosen]⟩
        { tree.put (folder ++ [spareOpening path ++ chosen]) (.file (newContent tree)) with
          written := tree.written + 1 } := by
    unfold openSpare
    rw [bind_apply_of_ok (get_apply tree)]
    dsimp only
    rw [around.walk_eq]
    dsimp only
    rw [if_neg short, found]
    rfl
  exact ⟨chosen, _, _, (bind_apply_of_ok (ensureDirectory_of_leads leads)).trans opens, rfl,
    ⟨_, rfl⟩, rfl, openSpare_ok sound opens⟩

/-! ## Completing a file -/

variable {spare : Spare} {old : FileContent} {opened : Tree}

/-- A spare file closes no way. -/
theorem Opened.leadsInto_after
    (isOpened : Opened path tree spare old opened)
    {other : Path} (leads : LeadsInto tree other trail folder) :
    LeadsInto opened other trail folder := by
  refine LeadsInto.mono isOpened.here (fun place entry there => ?_) leads
  rw [isOpened.others _ fun same => ?_, there]
  rw [same, isOpened.absent] at there
  cases there

/-- Content that could not be had is the failure of the write. -/
theorem finishFile_of_fault (path : Path) (mode : Int) (spare : Spare) (fault : Fault)
    (opened : Tree) :
    finishFile path mode spare (.error fault) opened =
      .error fault (opened.remove spare.place) := rfl

/-- A directory is not replaced. -/
theorem finishFile_of_directory
    (isOpened : Opened path tree spare old opened)
    (leads : LeadsInto tree path.parent trail folder)
    (named : path.parts ≠ [])
    (isName : IsName path.name)
    (directory : tree.at? (folder ++ [path.name]) = some .directory)
    (mode : Int) (bytes : ByteArray) :
    ∃ after, finishFile path mode spare (.ok bytes) opened =
        .error (.system ⟨.isDirectory, spare.name, some path.text⟩) after ∧
      Alike tree after := by
  obtain ⟨filled, fills, refilled⟩ := fill_apply isOpened bytes
  have around := refilled.leadsInto_after leads
  have child := around.child false isName fun _ _ => rfl
  rw [child_parent_name named, refilled.others _ (refilled.distinct folder).symm,
    directory] at child
  have refuses : replace spare path filled =
      .error (.system ⟨.isDirectory, spare.name, some path.text⟩) filled := by
    unfold replace
    rw [bind_apply_of_ok (get_apply filled)]
    dsimp only
    rw [if_neg (by rw [endsInDots_of_isName named isName]; simp), child.walk_eq]
    rfl
  have commits : commit path spare (.ok bytes) opened =
      .error (.system ⟨.isDirectory, spare.name, some path.text⟩)
        (filled.remove spare.place) :=
    tryCatch_apply_of_error ((bind_apply_of_ok fills).trans refuses)
  exact ⟨_, bind_apply_of_error commits, refilled.alike_remove⟩

/-- What can be replaced is, unless the mode is refused. -/
theorem finishFile_of_replaceable
    (isOpened : Opened path tree spare old opened)
    (replaceable : Replaceable tree path trail folder)
    (beside : folder ++ [path.name] ∉ trail)
    (mode : Int) (bytes : ByteArray) :
    (FitsMode mode ∧ ∃ after, finishFile path mode spare (.ok bytes) opened = .ok ⟨⟩ after ∧
        Placed folder path.name { old with bytes, mode := storedMode mode } tree after) ∨
      (¬FitsMode mode ∧ ∃ after,
        finishFile path mode spare (.ok bytes) opened = .error .overflow after ∧
          Placed folder path.name { old with bytes } tree after) := by
  obtain ⟨committed, commits⟩ := commit_of_replaceable isOpened replaceable bytes
  obtain ⟨data, front, around, same, again, placed⟩ := commit_ok isOpened commits
  cases same
  obtain ⟨rfl, rfl⟩ := replaceable.leads.unique again.leads
  have finishes : finishFile path mode spare (.ok bytes) opened = setMode path mode committed :=
    bind_apply_of_ok commits
  rw [finishes, setMode_apply]
  by_cases fits : FitsMode mode
  · have settled := setMode_apply path mode committed
    rw [if_pos fits, (placed.leadsTo replaceable beside true).walk_eq] at settled
    obtain ⟨-, -, replaced⟩ := setMode_ok placed replaceable settled
    rw [if_pos fits, (placed.leadsTo replaceable beside true).walk_eq]
    exact .inl ⟨fits, _, rfl, replaced⟩
  · rw [if_neg fits]
    exact .inr ⟨fits, _, rfl, placed⟩

end Folder

/-! ## Marks -/

/-- The marks for spare names are the same. -/
def SameMarks (before after : Tree) : Prop :=
  after.marks = before.marks

instance : IsPreorder Tree SameMarks where
  refl := fun _ => rfl
  trans := fun _ _ _ first second => Eq.trans second first

/-- Completing a file leaves the marks as they are. -/
theorem sameMarks_finishFile (path : Path) (mode : Int) (spare : Spare)
    (content : Except Fault ByteArray) :
    Moves SameMarks (finishFile path mode spare content) := by
  have fills (bytes : ByteArray) : Moves SameMarks (fill spare.place bytes) := by
    intro tree
    unfold fill
    rw [modify_apply, left_ok]
    split <;> rfl
  have replaces : Moves SameMarks (replace spare path) := by
    intro tree
    rcases replace_cases spare path tree with ⟨_, _, _, -, -, -, -, done⟩ | ⟨_, refused⟩
    · rw [done]
      rfl
    · rw [refused]
      rfl
  have sets : Moves SameMarks (setMode path mode) := by
    intro tree
    rw [setMode_apply]
    split
    · split <;> rfl
    · rfl
  refine .bind (.tryCatch ?_ fun fault => .bind (fun _ => rfl) fun _ => .throw fault)
    fun _ => sets
  cases content with
  | ok bytes => exact .bind (fills bytes) fun _ => replaces
  | error fault => exact .bind (.throw fault) fun _ => replaces

end Change

end Stencil.Files

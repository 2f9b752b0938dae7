import Mathlib.Data.List.Sort
import Mathlib.Data.String.Basic
import Stencil.Generation.Basic
import Stencil.Proofs.Act

/-!
# What is listed

The entries of a directory are listed by name, in strict order.  What is listed is decided
by the entries below the place that the path leads to, so a path that leads to the same
place with the same entries below lists the same.
-/

namespace Stencil.Generation

open Files (IsName LeadsInto LeadsTo Place Tree Leads)

/-! ## Names in order -/

theorem insertName_eq (name : String) (names : List String) :
    insertName name names = names.orderedInsert (· ≤ ·) name := by
  induction names with
  | nil => rfl
  | cons first rest ih => simp only [insertName, List.orderedInsert, ih]

theorem inOrder_eq (names : List String) :
    inOrder names = names.insertionSort (· ≤ ·) := by
  induction names with
  | nil => rfl
  | cons name names ih =>
    show insertName name (inOrder names) = _
    rw [ih, insertName_eq]
    rfl

theorem mem_inOrder {name : String} {names : List String} :
    name ∈ inOrder names ↔ name ∈ names := by
  rw [inOrder_eq]
  exact (List.perm_insertionSort _ names).mem_iff

theorem sorted_inOrder {names : List String} (distinct : names.Nodup) :
    (inOrder names).Pairwise (· < ·) := by
  rw [inOrder_eq]
  have sorted := List.pairwise_insertionSort (· ≤ ·) names
  have nodup := (List.perm_insertionSort (· ≤ ·) names).nodup_iff.mpr distinct
  exact sorted.imp₂ (fun _ _ le ne => lt_of_le_of_ne le ne) nodup

/-! ## Entries of a directory -/

section Directory

variable {files : Tree} {folder : Path} {trail : List Place} {place : Place}

theorem mem_namesWithin (sound : files.Sound) {name : String} :
    name ∈ files.namesWithin place ↔ ∃ entry, files.at? (place ++ [name]) = some entry := by
  unfold Files.Tree.namesWithin
  rw [List.mem_filterMap]
  constructor
  · rintro ⟨⟨known, entry⟩, member, named⟩
    simp only at named
    split at named
    · next within =>
      have split := List.dropLast_append_getLast? name named
      rw [eq_of_beq within] at split
      exact ⟨entry, sound.at?_of_mem (split ▸ member) (by simp)⟩
    · cases named
  · rintro ⟨entry, there⟩
    exact ⟨⟨place ++ [name], entry⟩, Files.Tree.mem_of_at? there (by simp), by simp⟩

theorem nodup_namesWithin (sound : files.Sound) : (files.namesWithin place).Nodup := by
  have names : files.namesWithin place = (files.entries.map Prod.fst).filterMap fun known =>
      if known.dropLast == place then known.getLast? else none := by
    rw [List.filterMap_map]
    rfl
  rw [names]
  refine List.Nodup.filterMap (fun first second name here there => ?_) sound.distinct
  split at here
  · next within =>
    split at there
    · next also =>
      rw [← List.dropLast_append_getLast? name here, eq_of_beq within,
        ← List.dropLast_append_getLast? name there, eq_of_beq also]
    · cases there
  · cases here

/-- The names of the entries at a place, in order. -/
def childNames (files : Tree) (place : Place) : List String :=
  inOrder (files.namesWithin place)

theorem mem_childNames (sound : files.Sound) {name : String} :
    name ∈ childNames files place ↔ ∃ entry, files.at? (place ++ [name]) = some entry :=
  mem_inOrder.trans (mem_namesWithin sound)

theorem sorted_childNames (sound : files.Sound) :
    (childNames files place).Pairwise (· < ·) :=
  sorted_inOrder (nodup_namesWithin sound)

theorem isName_of_mem_childNames (sound : files.Sound) {name : String}
    (member : name ∈ childNames files place) : IsName name := by
  obtain ⟨entry, there⟩ := (mem_childNames sound).mp member
  exact sound.named _ _ _ there

/-- Directories with the same entries list the same names. -/
theorem childNames_eq {other : Tree} (sound : files.Sound) (otherSound : other.Sound)
    (same : ∀ name, other.at? (place ++ [name]) = files.at? (place ++ [name])) :
    childNames other place = childNames files place := by
  apply (sorted_childNames otherSound).eq_of_mem_iff (sorted_childNames sound)
  intro name
  rw [mem_childNames otherSound, mem_childNames sound, same]

theorem entriesOf_eq_ok_iff {entries : List Path} :
    entriesOf files folder = .ok entries ↔
      ∃ trail place, LeadsInto files folder trail place ∧
        entries = (childNames files place).map folder.child := by
  unfold entriesOf Files.Tree.list
  constructor
  · intro listed
    cases walked : files.walk true folder with
    | error reason =>
      rw [walked] at listed
      cases listed
    | ok spot =>
      obtain ⟨place, entry⟩ := spot
      rw [walked] at listed
      obtain ⟨trail, leads⟩ := Files.walk_eq_ok_iff.mp walked
      cases entry with
      | none => cases listed
      | some entry =>
        cases entry with
        | directory =>
          cases listed
          exact ⟨trail, place, leads, rfl⟩
        | file content => cases listed
        | link target => cases listed
        | pipe => cases listed
  · rintro ⟨trail, place, leads, rfl⟩
    rw [leads.walk_eq]
    rfl

/-- What a name in a directory stands for. -/
theorem find_child (leads : LeadsInto files folder trail place) {name : String}
    (isName : IsName name) (follow : Bool)
    (unfollowed : ∀ target, files.at? (place ++ [name]) = some (.link target) →
      follow = false) :
    files.find follow (folder.child name) =
      match files.at? (place ++ [name]) with
      | some entry => .ok entry
      | none => .error .noSuchEntry := by
  have child := leads.child follow isName unfollowed
  unfold Files.Tree.find
  rw [child.walk_eq]
  rfl

theorem isFolder_child (leads : LeadsInto files folder trail place) {name : String}
    (isName : IsName name) :
    isFolder files (folder.child name) = true ↔
      files.at? (place ++ [name]) = some .directory := by
  unfold isFolder
  rw [find_child leads isName false fun _ _ => rfl]
  cases files.at? (place ++ [name]) with
  | none => simp
  | some entry => cases entry <;> simp [Files.Entry.isDirectory]

theorem markedEntries_eq_ok_iff {marked : List (Path × Bool)} :
    markedEntries files folder = .ok marked ↔
      ∃ trail place, LeadsInto files folder trail place ∧
        marked = (childNames files place).map fun name =>
          (folder.child name, isFolder files (folder.child name)) := by
  unfold markedEntries
  constructor
  · intro listed
    cases entries : entriesOf files folder with
    | error fault =>
      rw [entries] at listed
      cases listed
    | ok paths =>
      rw [entries] at listed
      cases listed
      obtain ⟨trail, place, leads, rfl⟩ := entriesOf_eq_ok_iff.mp entries
      exact ⟨trail, place, leads, by rw [List.map_map]; rfl⟩
  · rintro ⟨trail, place, leads, rfl⟩
    rw [entriesOf_eq_ok_iff.mpr ⟨trail, place, leads, rfl⟩]
    show Except.ok _ = _
    rw [List.map_map]
    rfl

/-- Templates are the entries of their directory; without a directory there are none. -/
theorem listTemplates_ok {templates : List Path}
    (listed : listTemplates files folder = .ok templates) :
    (∃ trail place, LeadsInto files folder trail place ∧
        templates = (childNames files place).map folder.child) ∨
      ((¬∃ trail place, LeadsInto files folder trail place) ∧ templates = []) := by
  unfold listTemplates at listed
  cases known : files.isDirectory folder with
  | error fault =>
    rw [known] at listed
    cases listed
  | ok isDirectory =>
    rw [known] at listed
    cases isDirectory with
    | true => exact .inl (entriesOf_eq_ok_iff.mp listed)
    | false =>
      cases listed
      refine .inr ⟨fun leads => ?_, rfl⟩
      rw [Files.isDirectory_eq_true_iff.mpr leads] at known
      cases known

end Directory

/-! ## Data files -/

/-- A data file is a regular file and no link to one. -/
theorem isDataFile_child
    {files : Tree} {folder : Path} {trail : List Place} {place : Place} {name : String}
    {answer : Bool}
    (leads : LeadsInto files folder trail place)
    (isName : IsName name)
    (asked : isDataFile files (folder.child name) = .ok answer) :
    answer = true ↔ ∃ content, files.at? (place ++ [name]) = some (.file content) := by
  have unfollowed := find_child leads isName false fun _ _ => rfl
  unfold isDataFile Files.Tree.isFile Files.Tree.isLink Files.Tree.leadsTo at asked
  rw [unfollowed] at asked
  cases there : files.at? (place ++ [name]) with
  | none =>
    rw [find_child leads isName true fun _ link => by simp [there] at link, there] at asked
    cases asked
    simp
  | some entry =>
    by_cases isLink : ∃ target, entry = .link target
    · obtain ⟨target, rfl⟩ := isLink
      rw [there] at asked
      cases found : files.find true (folder.child name) with
      | ok other =>
        rw [found] at asked
        cases other <;> cases asked <;> simp [Files.Entry.isLink]
      | error reason =>
        rw [found] at asked
        cases reason <;> cases asked <;> simp
    · rw [find_child leads isName true fun target link =>
        absurd ⟨target, by simpa [there] using link⟩ isLink, there] at asked
      cases entry with
      | link target => exact absurd ⟨target, rfl⟩ isLink
      | file content => cases asked; simp [Files.Entry.isLink]
      | directory => cases asked; simp
      | pipe => cases asked; simp

end Stencil.Generation

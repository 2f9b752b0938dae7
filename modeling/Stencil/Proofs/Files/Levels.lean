import Stencil.Proofs.Files.Writing

/-!
# Directories that are missing

Where the first of some names is missing from a directory, all of them are, and making the
directory of a path that ends in these names succeeds: it adds one directory for each of
the names and changes nothing else.
-/

namespace Stencil.Files

open Outcome

/-! ## Levels -/

/-- The place of a directory on the way from a place down some names. -/
def OnLevels (base : Place) (names : List String) (place : Place) : Prop :=
  ∃ front, front ≠ [] ∧ front <+: names ∧ place = base ++ front

theorem onLevels_concat {base place : Place} {names : List String} {name : String} :
    OnLevels base (names ++ [name]) place ↔
      OnLevels base names place ∨ place = base ++ (names ++ [name]) := by
  constructor
  · rintro ⟨front, some, within, rfl⟩
    rcases List.prefix_concat_iff.mp within with rfl | shorter
    · exact .inr (by simp)
    · exact .inl ⟨front, some, shorter, rfl⟩
  · rintro (⟨front, some, within, rfl⟩ | rfl)
    · exact ⟨front, some, within.trans (List.prefix_append ..), rfl⟩
    · exact ⟨_, by simp, List.prefix_refl _, rfl⟩

theorem not_onLevels_nil {base place : Place} : ¬OnLevels base [] place := by
  rintro ⟨front, some, within, -⟩
  exact some (List.prefix_nil.mp within)

/-- A level is no lower than the names go. -/
theorem not_onLevels_beyond {base : Place} {names more : List String} (some_ : more ≠ []) :
    ¬OnLevels base names (base ++ (names ++ more)) := by
  rintro ⟨front, -, within, same⟩
  rw [List.append_right_inj] at same
  subst same
  exact some_ (List.self_eq_append_right.mp
    ((List.prefix_append names more).eq_of_length_le within.length_le))

/-- Levels down two lists of names are those down the first and then those down the second. -/
theorem onLevels_append {base place : Place} {front names : List String} :
    OnLevels base (front ++ names) place ↔
      OnLevels base front place ∨ OnLevels (base ++ front) names place := by
  induction names using List.reverseRecOn with
  | nil => simp [not_onLevels_nil]
  | append_singleton names name ih =>
    rw [← List.append_assoc, onLevels_concat, onLevels_concat, ih, or_assoc]
    simp only [List.append_assoc]

/-- Nothing stands within what is missing. -/
theorem Tree.Sound.at?_append_of_none {tree : Tree} (sound : tree.Sound) {place : Place}
    (absent : tree.at? place = none) (names : List String) :
    tree.at? (place ++ names) = none := by
  cases there : tree.at? (place ++ names) with
  | none => rfl
  | some entry =>
    obtain ⟨found, standing⟩ := sound.at?_take there place.length
    rw [List.take_left, absent] at standing
    cases standing

/-- A directory for each of some names has been made; nothing else is changed. -/
structure Made (base : Place) (names : List String) (before after : Tree) : Prop where
  sound : after.Sound
  here : after.here = before.here
  marks : after.marks = before.marks
  levels : ∀ place, OnLevels base names place → after.at? place = some .directory
  others : ∀ place, ¬OnLevels base names place → after.at? place = before.at? place

/-- Directories lead on to directories. -/
theorem Leads.append_directories
    {tree : Tree} {links : Nat} {place base : Place} {front names : List String}
    {trail : List Place}
    (leads : Leads tree true links place front trail ⟨base, some .directory⟩)
    (isNames : ∀ name ∈ names, IsName name)
    (levels : ∀ place, OnLevels base names place → tree.at? place = some .directory) :
    Leads tree true links place (front ++ names) trail ⟨base ++ names, some .directory⟩ := by
  induction names using List.reverseRecOn with
  | nil => simpa using leads
  | append_singleton names name ih =>
    have shorter := ih (fun other member => isNames other (List.mem_append_left _ member))
      fun place level => levels place (onLevels_concat.mpr (.inl level))
    have directory := levels _ (onLevels_concat.mpr (.inr rfl))
    rw [← List.append_assoc] at directory
    have onward : Leads tree true links place (front ++ names ++ [name]) trail _ :=
      shorter.concat (isNames name (by simp)) fun target link => by
        rw [directory] at link
        cases link
    rw [directory] at onward
    rwa [← List.append_assoc, ← List.append_assoc]

/-! ## Making them -/

/-- One directory more has been made. -/
theorem Made.concat {base : Place} {names : List String} {name : String}
    {before middle : Tree}
    (made : Made base names before middle)
    (isName : IsName name)
    (directory : middle.at? (base ++ names) = some .directory)
    (absent : middle.at? (base ++ names ++ [name]) = none) :
    Made base (names ++ [name]) before
      (middle.put (base ++ names ++ [name]) .directory) := by
  have placeEq : base ++ (names ++ [name]) = base ++ names ++ [name] := by simp
  refine ⟨made.sound.put directory isName (by rw [absent]; simp), made.here, made.marks,
    fun place level => ?_, fun place other => ?_⟩
  · by_cases same : place = base ++ names ++ [name]
    · rw [same]
      exact Tree.at?_put _ _ _ (by simp)
    · rw [Tree.at?_put_of_ne _ _ same]
      exact made.levels place ((onLevels_concat.mp level).resolve_right (placeEq ▸ same))
  · rw [onLevels_concat, placeEq, not_or] at other
    rw [Tree.at?_put_of_ne _ _ other.2, made.others place other.1]

section Made

variable {tree made : Tree} {base : Place} {first : String} {rest : List String}

/-- What stood still stands, as directories are made only where nothing was. -/
theorem Made.at?_eq_of_some {place : Place} {entry : Entry}
    (isMade : Made base (first :: rest) tree made)
    (sound : tree.Sound) (absent : tree.at? (base ++ [first]) = none)
    (there : tree.at? place = some entry) : made.at? place = some entry := by
  by_cases level : OnLevels base (first :: rest) place
  · obtain ⟨within, some_, ⟨others, split⟩, rfl⟩ := level
    obtain ⟨head, tail, rfl⟩ := List.exists_cons_of_ne_nil some_
    cases split
    rw [List.append_cons, sound.at?_append_of_none absent] at there
    cases there
  · rw [isMade.others place level, there]

/-- The directories that are made lead on from where the first one was missing. -/
theorem Made.leadsInto {root : PathRoot} {front : List String} {trail : List Place}
    (isMade : Made base (first :: rest) tree made)
    (sound : tree.Sound) (absent : tree.at? (base ++ [first]) = none)
    (leads : LeadsInto tree ⟨root, front⟩ trail base)
    (isNames : ∀ name ∈ first :: rest, IsName name) :
    LeadsInto made ⟨root, front ++ first :: rest⟩ trail (base ++ first :: rest) :=
  Leads.append_directories
    (leads.mono isMade.here fun _ _ there => isMade.at?_eq_of_some sound absent there)
    isNames isMade.levels

/-- Nothing stands within the last one of the directories that are made. -/
theorem Made.at?_beyond {more : List String} (isMade : Made base (first :: rest) tree made)
    (sound : tree.Sound) (absent : tree.at? (base ++ [first]) = none) (some_ : more ≠ []) :
    made.at? (base ++ (first :: rest ++ more)) = none := by
  rw [isMade.others _ (not_onLevels_beyond some_), List.cons_append, List.append_cons]
  exact sound.at?_append_of_none absent _

end Made

namespace Change

/-- The directory of a path is made where the names before its last one lead to one. -/
private theorem makeOne_of_absent {root : PathRoot} {front : List String} {name : String}
    {tree : Tree} {trail : List Place} {folder : Place}
    (leads : LeadsInto tree ⟨root, front⟩ trail folder)
    (isName : IsName name)
    (absent : tree.at? (folder ++ [name]) = none) :
    makeOne ⟨root, front ++ [name]⟩ tree =
      .ok ⟨⟩ (tree.put (folder ++ [name]) .directory) := by
  have child := leads.child false isName fun _ _ => rfl
  rw [absent] at child
  rw [makeOne_apply]
  have walked : tree.walk false ⟨root, front ++ [name]⟩ = .ok ⟨folder ++ [name], none⟩ :=
    child.walk_eq
  rw [walked]

/-- No directory is made within one that is missing. -/
private theorem makeOne_of_missing {root : PathRoot} {front rest : List String} {name : String}
    {tree : Tree} {trail : List Place} {folder : Place}
    (leads : LeadsInto tree ⟨root, front⟩ trail folder)
    (isName : IsName name)
    (absent : tree.at? (folder ++ [name]) = none)
    (more : rest ≠ []) :
    makeOne ⟨root, front ++ name :: rest⟩ tree =
      .error (.system ⟨.noSuchEntry, (⟨root, front ++ name :: rest⟩ : Path).text, none⟩) tree := by
  obtain ⟨fewer, walked⟩ : ∃ fewer, tree.walk false ⟨root, front ++ name :: rest⟩ =
      tree.walkFrom false fewer folder (name :: rest) :=
    Leads.walkFrom_append leads (List.cons_ne_nil name rest)
  rw [walkFrom_cons _ _ _ _ _ _ isName, absent] at walked
  dsimp only at walked
  rw [if_neg (by simpa using more)] at walked
  rw [makeOne_apply]
  rw [walked]

/-- Missing directories are made one within the other. -/
theorem makeWithParents_of_absent {root : PathRoot} {front rest : List String} {first : String}
    {tree : Tree} {trail : List Place} {base : Place}
    (sound : tree.Sound)
    (leads : LeadsInto tree ⟨root, front⟩ trail base)
    (isNames : ∀ name ∈ first :: rest, IsName name)
    (absent : tree.at? (base ++ [first]) = none)
    (isLenient : Bool) :
    ∃ after, makeWithParents root isLenient (front ++ first :: rest).reverse tree =
        .ok ⟨⟩ after ∧
      Made base (first :: rest) tree after := by
  have directory : tree.at? base = some .directory := (Leads.entry_eq leads).symm
  have nothing : Made base [] tree tree :=
    ⟨sound, rfl, rfl, fun _ level => absurd level not_onLevels_nil, fun _ _ => rfl⟩
  induction rest using List.reverseRecOn generalizing isLenient with
  | nil =>
    have isName := isNames first (List.mem_cons_self ..)
    have made := makeOne_of_absent leads isName absent
    refine ⟨tree.put (base ++ [first]) .directory, ?_, ?_⟩
    · rw [List.reverse_append, List.reverse_singleton, List.singleton_append, makeWithParents]
      rw [← List.reverse_reverse (front ++ [first]), List.reverse_append,
        List.reverse_singleton, List.singleton_append] at made
      exact tryCatch_apply_of_ok made
    · have one := nothing.concat isName (by simpa using directory) (by simpa using absent)
      simpa using one
  | append_singleton rest last ih =>
    have isBefore : ∀ name ∈ first :: rest, IsName name := fun name member =>
      isNames name (List.cons_subset_cons first (List.subset_append_left rest [last]) member)
    obtain ⟨middle, making, made⟩ := ih isBefore true
    have isFirst := isNames first (List.mem_cons_self ..)
    have isLast := isNames last (by simp)
    have refused := makeOne_of_missing leads isFirst absent
      (List.append_ne_nil_of_right_ne_nil rest (List.cons_ne_nil last []))
    have around := made.leadsInto sound absent leads isBefore
    have vacant : middle.at? (base ++ first :: rest ++ [last]) = none := by
      rw [List.append_assoc]
      exact made.at?_beyond sound absent (List.cons_ne_nil last [])
    have finishing := makeOne_of_absent around isLast vacant
    refine ⟨middle.put (base ++ first :: rest ++ [last]) .directory, ?_, ?_⟩
    · have split : (front ++ first :: (rest ++ [last])).reverse =
          last :: (front ++ first :: rest).reverse := by simp
      have pathEq : (last :: (front ++ first :: rest).reverse).reverse =
          front ++ first :: (rest ++ [last]) := by simp
      have sameParts : front ++ first :: rest ++ [last] =
          front ++ first :: (rest ++ [last]) := by simp
      rw [split, makeWithParents, pathEq]
      rw [sameParts] at finishing
      refine (tryCatch_apply_of_error refused).trans ?_
      refine (congrFun (if_pos rfl) tree).trans ?_
      exact (bind_apply_of_ok making).trans (tryCatch_apply_of_ok finishing)
    · have longer := made.concat isLast
        (made.levels _ ⟨first :: rest, by simp, List.prefix_refl _, rfl⟩) vacant
      rwa [List.cons_append] at longer

end Change

end Stencil.Files

import Stencil.Proofs.Generation.Order

/-!
# What a run is meant to generate

The data files of a run are the regular files below a directory, and its templates the
entries of another one, each in the order of their names.  Every data file goes with every
template; these pairs are the only list of such pairs that is in the order of a walk.
-/

namespace Stencil.Generation

open Files (Entry IsName LeadsInto Place Tree)

/-! ## Lists -/

/-- Names from a place down to a regular file, if that is what stands somewhere. -/
def namesToFile? (files : Tree) (place known : Place) : Option (List String) :=
  if (files.at? known).any Entry.isFile && place.isPrefixOf known then
    some (known.drop place.length)
  else none

/-- The regular files below a place, as paths from a root, in the order of their names. -/
def sourcesBelow (files : Tree) (root : Path) (place : Place) : List Path :=
  (((files.entries.map Prod.fst).filterMap (namesToFile? files place)).insertionSort
    (· ≤ ·)).map (pathBelow root)

/-- The entries of the directory at a place, as paths, in the order of their names. -/
def templatesIn (files : Tree) (folder : Path) (place : Place) : List Path :=
  (childNames files place).map folder.child

/-- Each data file below a place with each template at another place. -/
def pairsIn (files : Tree) (root folder : Path) (data templates : Place) :
    List (Path × Path) :=
  (sourcesBelow files root data).flatMap fun dataFile =>
    (templatesIn files folder templates).map fun template => (dataFile, template)

variable {files : Tree} {root folder : Path} {place known data templates : Place}
  {names : List String}

/-! ## Membership -/

theorem namesToFile?_eq_some_iff :
    namesToFile? files place known = some names ↔
      known = place ++ names ∧ ∃ content, files.at? known = some (.file content) := by
  unfold namesToFile?
  constructor
  · intro found
    split at found
    · next isFile =>
      cases found
      simp only [Bool.and_eq_true, List.isPrefixOf_iff_prefix] at isFile
      obtain ⟨isFile, inner, rfl⟩ := isFile
      refine ⟨by simp, ?_⟩
      cases there : files.at? (place ++ inner) with
      | none => simp [there] at isFile
      | some entry => cases entry <;> simp_all [Entry.isFile]
    · cases found
  · rintro ⟨rfl, content, there⟩
    simp [there, Entry.isFile, List.isPrefixOf_iff_prefix]

theorem mem_sourcesBelow {path : Path} :
    path ∈ sourcesBelow files root place ↔
      ∃ names content, path = pathBelow root names ∧
        files.at? (place ++ names) = some (.file content) := by
  unfold sourcesBelow
  rw [List.mem_map]
  constructor
  · rintro ⟨names, member, rfl⟩
    obtain ⟨known, -, found⟩ := List.mem_filterMap.mp ((List.mem_insertionSort _).mp member)
    obtain ⟨rfl, content, there⟩ := namesToFile?_eq_some_iff.mp found
    exact ⟨names, content, rfl, there⟩
  · rintro ⟨names, content, rfl, there⟩
    have inside : place ++ names ≠ [] := by
      intro none
      rw [none] at there
      cases there
    refine ⟨names, (List.mem_insertionSort _).mpr (List.mem_filterMap.mpr
      ⟨place ++ names, ?_, namesToFile?_eq_some_iff.mpr ⟨rfl, content, there⟩⟩), rfl⟩
    exact List.mem_map_of_mem (Tree.mem_of_at? there inside)

theorem mem_pairsIn {pair : Path × Path} :
    pair ∈ pairsIn files root folder data templates ↔
      pair.1 ∈ sourcesBelow files root data ∧ pair.2 ∈ templatesIn files folder templates := by
  obtain ⟨dataFile, template⟩ := pair
  unfold pairsIn
  simp only [List.mem_flatMap, List.mem_map, Prod.mk.injEq]
  constructor
  · rintro ⟨source, isSource, listed, isTemplate, rfl, rfl⟩
    exact ⟨isSource, isTemplate⟩
  · rintro ⟨isSource, isTemplate⟩
    exact ⟨dataFile, isSource, template, isTemplate, rfl, rfl⟩

/-! ## Order -/

/-- Of two positions in order, the first one precedes the second one or leads to it. -/
theorem Precedes.of_lt_of_not_prefix {first second : List String} (less : first < second)
    (apart : ¬first <+: second) : Precedes first second := by
  have lex : List.Lex (· < ·) first second := less
  induction lex with
  | nil => exact absurd (List.nil_prefix) apart
  | @cons name front back _ ih =>
    obtain ⟨common, one, other, lower, here, there⟩ := ih ‹_› fun isPrefix =>
      apart (by simpa using isPrefix)
    exact ⟨name :: common, one, other, lower, by simpa using here, by simpa using there⟩
  | @rel one front other back lower =>
    exact ⟨[], one, other, lower, by simp, by simp⟩

/-- No file stands on the way down to another one. -/
theorem not_prefix_of_file (sound : files.Sound) {content : Files.FileContent} {entry : Entry}
    {other : List String}
    (file : files.at? (place ++ names) = some (.file content))
    (there : files.at? (place ++ other) = some entry)
    (distinct : names ≠ other) : ¬names <+: other := by
  rintro ⟨rest, rfl⟩
  cases rest with
  | nil => simp at distinct
  | cons name rest =>
    obtain ⟨found, standing⟩ := sound.at?_take there (place ++ names ++ [name]).length
    have shorter : (place ++ (names ++ name :: rest)).take (place ++ names ++ [name]).length =
        place ++ names ++ [name] := by
      have split : place ++ (names ++ name :: rest) = (place ++ names ++ [name]) ++ rest := by
        simp
      rw [split, List.take_left']
      rfl
    rw [shorter] at standing
    have directory := sound.closed _ _ _ standing
    rw [file] at directory
    cases directory

theorem sorted_sourcesBelow (sound : files.Sound) :
    (sourcesBelow files root place).Pairwise fun first second =>
      Precedes first.parts second.parts := by
  unfold sourcesBelow
  rw [List.pairwise_map]
  have distinct : ((files.entries.map Prod.fst).filterMap (namesToFile? files place)).Nodup := by
    refine List.Nodup.filterMap (fun first second names here there => ?_) sound.distinct
    rw [(namesToFile?_eq_some_iff.mp here).1, (namesToFile?_eq_some_iff.mp there).1]
  have sorted := List.pairwise_insertionSort (· ≤ ·)
    ((files.entries.map Prod.fst).filterMap (namesToFile? files place))
  have nodup := (List.perm_insertionSort (· ≤ ·)
    ((files.entries.map Prod.fst).filterMap (namesToFile? files place))).nodup_iff.mpr distinct
  refine (sorted.and nodup).imp_of_mem fun here there ⟨le, ne⟩ => ?_
  obtain ⟨_, -, first⟩ := List.mem_filterMap.mp ((List.mem_insertionSort _).mp here)
  obtain ⟨_, -, second⟩ := List.mem_filterMap.mp ((List.mem_insertionSort _).mp there)
  obtain ⟨rfl, content, file⟩ := namesToFile?_eq_some_iff.mp first
  obtain ⟨rfl, other, standing⟩ := namesToFile?_eq_some_iff.mp second
  obtain ⟨common, name, next, lower, front, back⟩ := Precedes.of_lt_of_not_prefix
    (lt_of_le_of_ne le ne) (not_prefix_of_file sound file standing ne)
  refine ⟨root.parts ++ common, name, next, lower, ?_, ?_⟩
  · simpa [pathBelow, List.append_assoc] using front
  · simpa [pathBelow, List.append_assoc] using back

theorem sorted_templatesIn (sound : files.Sound) :
    (templatesIn files folder place).Pairwise fun first second => first.name < second.name := by
  unfold templatesIn
  rw [List.pairwise_map]
  simpa only [Path.name_child] using sorted_childNames sound

theorem sorted_pairsIn (sound : files.Sound) :
    (pairsIn files root folder data templates).Pairwise fun first second =>
      Precedes (pairPosition first) (pairPosition second) := by
  unfold pairsIn
  refine List.pairwise_flatMap.mpr ⟨fun dataFile _ => ?_, ?_⟩
  · rw [List.pairwise_map]
    exact (sorted_templatesIn sound).imp fun less => .of_lt less
  · refine (sorted_sourcesBelow sound).imp fun precedes first inFirst second inSecond => ?_
    obtain ⟨template, -, rfl⟩ := List.mem_map.mp inFirst
    obtain ⟨other, -, rfl⟩ := List.mem_map.mp inSecond
    exact precedes.extend (List.prefix_append ..) (List.prefix_append ..)

/-- Lists of pairs in the order of a walk are the same if their members are. -/
theorem eq_of_mem_iff_of_sorted {first second : List (Path × Path)}
    (sortedFirst : first.Pairwise fun one other =>
      Precedes (pairPosition one) (pairPosition other))
    (sortedSecond : second.Pairwise fun one other =>
      Precedes (pairPosition one) (pairPosition other))
    (same : ∀ pair, pair ∈ first ↔ pair ∈ second) : first = second := by
  have irrefl : Std.Irrefl fun one other : Path × Path =>
      Precedes (pairPosition one) (pairPosition other) :=
    ⟨fun pair precedes => lt_irrefl _ precedes.lt⟩
  have antisymm : Std.Antisymm fun one other : Path × Path =>
      Precedes (pairPosition one) (pairPosition other) :=
    ⟨fun one other precedes follows => absurd follows.lt (lt_asymm precedes.lt)⟩
  exact sortedFirst.eq_of_mem_iff sortedSecond same

end Stencil.Generation

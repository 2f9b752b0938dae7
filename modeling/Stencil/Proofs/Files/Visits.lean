import Stencil.Proofs.Files.Resolution

/-!
# What paths look at

To find out where a path leads one looks at the places of its names, and of the names of
the links on its way.  Trees with the same entries at these places lead the path to the
same end, so what a path shows cannot depend on places that it avoids.
-/

namespace Stencil.Files

/-! ## Places that are looked at -/

/-- The places that names look at from a place on, given those after a link. -/
def visitNames (tree : Tree) (onward : Place → List String → List Place) :
    Place → List String → List Place
  | _, [] => []
  | place, name :: rest =>
    if name == "." || name.isEmpty then visitNames tree onward place rest
    else if name == ".." then visitNames tree onward place.dropLast rest
    else if Tree.nameLimit < Text.storedLength name then []
    else
      (place ++ [name]) ::
        match tree.at? (place ++ [name]) with
        | some .directory => visitNames tree onward (place ++ [name]) rest
        | some (.link target) => onward (linkStart target place) (linkNames target ++ rest)
        | _ => []

/-- The places that names look at, with some links left to follow. -/
def visitFrom (tree : Tree) : (links : Nat) → Place → List String → List Place
  | 0 => visitNames tree fun _ _ => []
  | links + 1 => visitNames tree (visitFrom tree links)

/-- The places that a path looks at. -/
def Tree.visits (tree : Tree) (path : Path) : List Place :=
  visitFrom tree Tree.linkLimit (tree.startOf path) path.parts

section Names

variable {tree : Tree} {onward : Place → List String → List Place} {place visited : Place}
  {name : String} {rest : List String}

theorem visitNames_of_blank (blank : name = "." ∨ name = "") :
    visitNames tree onward place (name :: rest) = visitNames tree onward place rest := by
  rw [visitNames, if_pos (by simpa [String.isEmpty_iff] using blank)]

theorem visitNames_of_up :
    visitNames tree onward place (".." :: rest) =
      visitNames tree onward place.dropLast rest := rfl

theorem visitNames_of_isName (isName : IsName name) :
    visitNames tree onward place (name :: rest) =
      (place ++ [name]) ::
        match tree.at? (place ++ [name]) with
        | some .directory => visitNames tree onward (place ++ [name]) rest
        | some (.link target) => onward (linkStart target place) (linkNames target ++ rest)
        | _ => [] := by
  rw [visitNames, if_neg (by simpa [String.isEmpty_iff] using isName.not_blank),
    if_neg (by simpa using isName.notAround), if_neg (Nat.not_lt.mpr isName.short)]

end Names

/-! ## Trees that agree where a path looks -/

variable {tree other : Tree}

private theorem walkNames_eq_of_visits {follow : Bool}
    {onward otherOnward : Place → List String → Except SystemReason Tree.Spot}
    {visit : Place → List String → List Place}
    (sound : tree.Sound)
    (otherSound : other.Sound)
    (later : ∀ place names, tree.at? place = some .directory →
      other.at? place = some .directory →
      (∀ visited ∈ visit place names, other.at? visited = tree.at? visited) →
      otherOnward place names = onward place names)
    {place : Place} {names : List String}
    (start : tree.at? place = some .directory)
    (otherStart : other.at? place = some .directory)
    (same : ∀ visited ∈ visitNames tree visit place names,
      other.at? visited = tree.at? visited) :
    other.walkNames follow otherOnward place names =
      tree.walkNames follow onward place names := by
  induction names generalizing place with
  | nil =>
    unfold Tree.walkNames
    rw [start, otherStart]
  | cons name rest ih =>
    unfold Tree.walkNames
    by_cases blank : name = "." ∨ name = ""
    · rw [visitNames_of_blank blank] at same
      have isBlank : (name == "." || name.isEmpty) = true := by
        simpa [String.isEmpty_iff] using blank
      rw [if_pos isBlank, if_pos isBlank]
      exact ih start otherStart same
    have notBlank : ¬(name == "." || name.isEmpty) = true := by
      simpa [String.isEmpty_iff] using blank
    rw [if_neg notBlank, if_neg notBlank]
    by_cases around : name = ".."
    · subst around
      exact ih (sound.directory_dropLast start) (otherSound.directory_dropLast otherStart) same
    have notAround : ¬(name == "..") = true := by simpa using around
    rw [if_neg notAround, if_neg notAround]
    by_cases long : Tree.nameLimit < Text.storedLength name
    · rw [if_pos long, if_pos long]
    rw [if_neg long, if_neg long]
    have isName : IsName name :=
      ⟨fun empty => blank (.inr empty), fun here => blank (.inl here), around,
        Nat.le_of_not_lt long⟩
    rw [visitNames_of_isName isName] at same
    have first := same _ (List.mem_cons_self ..)
    have others := fun visited member => same visited (List.mem_cons_of_mem _ member)
    dsimp only
    rw [first]
    cases there : tree.at? (place ++ [name]) with
    | none => rfl
    | some entry =>
      rw [there] at first others
      cases entry with
      | directory => exact ih there first others
      | link target =>
        dsimp only
        split
        · rfl
        · exact later _ _ (tree.directory_linkStart target start)
            (other.directory_linkStart target otherStart) others
      | file content => rfl
      | pipe => rfl

theorem walkFrom_eq_of_visits {follow : Bool} {links : Nat} {place : Place}
    {names : List String}
    (sound : tree.Sound)
    (otherSound : other.Sound)
    (start : tree.at? place = some .directory)
    (otherStart : other.at? place = some .directory)
    (same : ∀ visited ∈ visitFrom tree links place names,
      other.at? visited = tree.at? visited) :
    other.walkFrom follow links place names = tree.walkFrom follow links place names := by
  induction links generalizing place names with
  | zero =>
    exact walkNames_eq_of_visits sound otherSound (fun _ _ _ _ _ => rfl) start otherStart same
  | succ links ih =>
    exact walkNames_eq_of_visits sound otherSound (fun _ _ start otherStart same =>
      ih start otherStart same) start otherStart same

/-- A path looks at no place of a kind. -/
def Avoids (tree : Tree) (kind : Place → Prop) (path : Path) : Prop :=
  ∀ place ∈ tree.visits path, ¬kind place

/-- Trees have the same entries but at places of a kind. -/
structure AgreesOff (kind : Place → Prop) (tree other : Tree) : Prop where
  sound : other.Sound
  here : other.here = tree.here
  at?_eq : ∀ place, ¬kind place → other.at? place = tree.at? place

namespace AgreesOff

variable {kind : Place → Prop} {path : Path}

theorem refl (sound : tree.Sound) : AgreesOff kind tree tree := ⟨sound, rfl, fun _ _ => rfl⟩

/-- What a path leads to does not depend on places that it avoids. -/
theorem walk_eq (agrees : AgreesOff kind tree other)
    (sound : tree.Sound)
    (avoids : Avoids tree kind path)
    (follow : Bool) : other.walk follow path = tree.walk follow path := by
  have startEq := Tree.startOf_eq agrees.here path
  have start := sound.directory_startOf path
  have otherStart := agrees.sound.directory_startOf path
  rw [startEq] at otherStart
  change other.walkFrom follow Tree.linkLimit (other.startOf path) path.parts = _
  rw [startEq]
  exact walkFrom_eq_of_visits sound agrees.sound start otherStart
    fun visited member => agrees.at?_eq visited (avoids visited member)

end AgreesOff

/-- Sound trees agree off a kind of places when their other entries do. -/
theorem AgreesOff.of_entries {kind : Place → Prop} (sound : other.Sound)
    (here : other.here = tree.here)
    (forth : ∀ known ∈ tree.entries, kind known.1 ∨ other.at? known.1 = some known.2)
    (back : ∀ known ∈ other.entries, kind known.1 ∨ tree.at? known.1 = some known.2) :
    AgreesOff kind tree other := by
  refine ⟨sound, here, fun place outside => ?_⟩
  by_cases top : place = []
  · rw [top, Tree.at?_nil, Tree.at?_nil]
  · cases there : tree.at? place with
    | some entry => exact (forth _ (Tree.mem_of_at? there top)).resolve_left outside
    | none =>
      cases thereAlso : other.at? place with
      | none => rfl
      | some entry =>
        have found := (back _ (Tree.mem_of_at? thereAlso top)).resolve_left outside
        rw [there] at found
        cases found

/-! ## Trees without links -/

theorem Tree.at?_ne_link (noLinks : ∀ known ∈ tree.entries, known.2.isLink = false)
    (place : Place) (target : String) : tree.at? place ≠ some (.link target) := by
  intro there
  have inside : place ≠ [] := by
    rintro rfl
    cases there
  cases noLinks _ (Tree.mem_of_at? there inside)

/-- Without links and dots a walk only goes down. -/
theorem prefix_of_mem_visitNames {onward : Place → List String → List Place} {place : Place}
    {names : List String} {visited : Place}
    (noLinks : ∀ place target, tree.at? place ≠ some (.link target))
    (straight : ".." ∉ names)
    (member : visited ∈ visitNames tree onward place names) : place <+: visited := by
  induction names generalizing place with
  | nil => cases member
  | cons name rest ih =>
    rw [List.mem_cons, not_or] at straight
    have later {place : Place} (member : visited ∈ visitNames tree onward place rest) :
        place <+: visited := ih straight.2 member
    by_cases blank : name = "." ∨ name = ""
    · rw [visitNames_of_blank blank] at member
      exact later member
    by_cases isName : IsName name
    · rw [visitNames_of_isName isName, List.mem_cons] at member
      rcases member with rfl | member
      · exact List.prefix_append ..
      · split at member
        · exact (List.prefix_append ..).trans (later member)
        · next target link => exact absurd link (noLinks _ target)
        · cases member
    · unfold visitNames at member
      rw [if_neg (by simpa [String.isEmpty_iff] using blank),
        if_neg (by simpa using fun same => straight.1 same.symm), if_pos ?_] at member
      · cases member
      · rw [← Nat.not_le]
        intro short
        exact isName ⟨fun empty => blank (.inr empty), fun dot => blank (.inl dot),
          fun around => straight.1 around.symm, short⟩

/-- From its first name on the walk stays below the place of this name. -/
theorem first_prefix_of_mem_visitNames {onward : Place → List String → List Place}
    {place : Place} {name : String} {rest : List String} {visited : Place}
    (noLinks : ∀ place target, tree.at? place ≠ some (.link target))
    (straight : ".." ∉ rest)
    (isName : IsName name)
    (member : visited ∈ visitNames tree onward place (name :: rest)) :
    place ++ [name] <+: visited := by
  rw [visitNames_of_isName isName, List.mem_cons] at member
  rcases member with rfl | member
  · exact List.prefix_refl _
  · split at member
    · exact prefix_of_mem_visitNames noLinks straight member
    · next target link => exact absurd link (noLinks _ target)
    · cases member

/-- A path that starts where relative paths do looks at places below its first name only. -/
theorem prefix_of_mem_visits {name : String} {rest : List String} {visited : Place}
    (noLinks : ∀ place target, tree.at? place ≠ some (.link target))
    (here : tree.here = [])
    (straight : ".." ∉ rest)
    (isName : IsName name)
    (member : visited ∈ tree.visits ⟨.none, name :: rest⟩) : [name] <+: visited := by
  change visited ∈ visitNames tree (visitFrom tree 39) tree.here (name :: rest) at member
  rw [here] at member
  exact first_prefix_of_mem_visitNames noLinks straight isName member

/-! ## Paths that show the same -/

/-- A path leads to the same end in two trees. -/
def SameAt (left right : Tree) (path : Path) : Prop :=
  ∀ follow, right.walk follow path = left.walk follow path

/-- Trees that agree with a third one show the same at paths that avoid where they differ. -/
theorem AgreesOff.sameAt {kind : Place → Prop} {left right : Tree} {path : Path}
    (sound : tree.Sound)
    (first : AgreesOff kind tree left)
    (second : AgreesOff kind tree right)
    (avoids : Avoids tree kind path) : SameAt left right path := fun follow =>
  (second.walk_eq sound avoids follow).trans (first.walk_eq sound avoids follow).symm

namespace SameAt

variable {left right other : Tree} {path : Path}

theorem symm (same : SameAt left right path) : SameAt right left path :=
  fun follow => (same follow).symm

theorem trans (first : SameAt left right path) (second : SameAt right other path) :
    SameAt left other path :=
  fun follow => (second follow).trans (first follow)

theorem find_eq (same : SameAt left right path) (follow : Bool) :
    right.find follow path = left.find follow path := by
  unfold Tree.find
  rw [same follow]

theorem leadsTo_eq (same : SameAt left right path) (follow : Bool) (isKind : Entry → Bool) :
    right.leadsTo follow isKind path = left.leadsTo follow isKind path := by
  unfold Tree.leadsTo
  rw [same.find_eq]

theorem stamp?_eq (same : SameAt left right path) : right.stamp? path = left.stamp? path := by
  unfold Tree.stamp?
  rw [same.find_eq]

theorem lastModified_eq (same : SameAt left right path) :
    right.lastModified path = left.lastModified path := by
  unfold Tree.lastModified
  rw [same.stamp?_eq]

theorem read_eq (same : SameAt left right path) : right.read path = left.read path := by
  unfold Tree.read
  rw [same.find_eq]

end SameAt

end Stencil.Files

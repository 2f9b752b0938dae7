import Stencil.Files.Writer

/-!
# How paths are resolved

A path leads through directories and links to a spot.  The relation `Leads` has one rule
for each kind of name on the way and remembers the links that are followed, the trail.
It is what `Tree.walkFrom` computes.

The main facts are that a trail and its spot are unique, that they only depend on the
directories and links along the way (`Leads.transfer`), and that the last name of a path
is looked up where the names before it lead (`leads_concat_iff`).
-/

namespace Stencil.Files

/-- A name that stands for an entry of its own within a directory. -/
structure IsName (name : String) : Prop where
  nonempty : name ≠ ""
  notHere : name ≠ "."
  notAround : name ≠ ".."
  short : Text.storedLength name ≤ Tree.nameLimit

instance (name : String) : Decidable (IsName name) :=
  decidable_of_iff
    (name ≠ "" ∧ name ≠ "." ∧ name ≠ ".." ∧ Text.storedLength name ≤ Tree.nameLimit)
    ⟨fun ⟨nonempty, notHere, notAround, short⟩ => ⟨nonempty, notHere, notAround, short⟩,
      fun ⟨nonempty, notHere, notAround, short⟩ => ⟨nonempty, notHere, notAround, short⟩⟩

theorem IsName.not_blank {name : String} (isName : IsName name) :
    ¬(name = "." ∨ name = "") := by
  rintro (here | empty)
  · exact isName.notHere here
  · exact isName.nonempty empty

/-- Where the target of a link is looked for. -/
def linkStart (target : String) (place : Place) : Place :=
  if target.startsWith "/" then [] else place

/-- The names of the target of a link. -/
def linkNames (target : String) : List String :=
  Text.splitString '/' target

/--
Names lead from a place to a spot, with a limit for the number of links.  The trail holds
the places of the links that are followed.
-/
inductive Leads (tree : Tree) (follow : Bool) :
    (links : Nat) → Place → List String → (trail : List Place) → Tree.Spot → Prop
  | done {links : Nat} {place : Place} :
      Leads tree follow links place [] [] ⟨place, tree.at? place⟩
  | skip {links : Nat} {place : Place} {name : String} {rest : List String}
      {trail : List Place} {spot : Tree.Spot}
      (blank : name = "." ∨ name = "")
      (onward : Leads tree follow links place rest trail spot) :
      Leads tree follow links place (name :: rest) trail spot
  | up {links : Nat} {place : Place} {rest : List String}
      {trail : List Place} {spot : Tree.Spot}
      (onward : Leads tree follow links place.dropLast rest trail spot) :
      Leads tree follow links place (".." :: rest) trail spot
  | enter {links : Nat} {place : Place} {name : String} {rest : List String}
      {trail : List Place} {spot : Tree.Spot}
      (isName : IsName name)
      (there : tree.at? (place ++ [name]) = some .directory)
      (onward : Leads tree follow links (place ++ [name]) rest trail spot) :
      Leads tree follow links place (name :: rest) trail spot
  | follow {links : Nat} {place : Place} {name target : String} {rest : List String}
      {trail : List Place} {spot : Tree.Spot}
      (isName : IsName name)
      (there : tree.at? (place ++ [name]) = some (.link target))
      (followed : rest ≠ [] ∨ follow = true)
      (onward : Leads tree follow links (linkStart target place) (linkNames target ++ rest)
        trail spot) :
      Leads tree follow (links + 1) place (name :: rest) ((place ++ [name]) :: trail) spot
  | stop {links : Nat} {place : Place} {name : String} {entry : Option Entry}
      (isName : IsName name)
      (there : tree.at? (place ++ [name]) = entry)
      (noDirectory : entry ≠ some .directory)
      (unfollowed : ∀ target, entry = some (.link target) → follow = false) :
      Leads tree follow links place [name] [] ⟨place ++ [name], entry⟩

/-! ## The relation and the function -/

/-- Where nothing leads on, a name has to be the last one. -/
private theorem leads_of_last
    {tree : Tree} {follow : Bool} {links : Nat} {place : Place} {name : String}
    {rest : List String} {entry : Option Entry} {reason : SystemReason} {spot : Tree.Spot}
    (isName : IsName name)
    (there : tree.at? (place ++ [name]) = entry)
    (noDirectory : entry ≠ some .directory)
    (noLink : ∀ target, entry ≠ some (.link target))
    (walked : (if rest.isEmpty then .ok ⟨place ++ [name], entry⟩ else .error reason) =
      (.ok spot : Except SystemReason Tree.Spot)) :
    ∃ trail, Leads tree follow links place (name :: rest) trail spot := by
  cases rest with
  | nil =>
    cases walked
    exact ⟨[], .stop isName there noDirectory fun target link => absurd link (noLink target)⟩
  | cons _ _ => cases walked

/-- A name of an entry is looked up, and what it stands for says where the names lead on. -/
private theorem leads_of_name
    {tree : Tree} {follow : Bool} {links : Nat} {place : Place} {name : String}
    {rest : List String} {spot : Tree.Spot}
    {onward : Place → List String → Except SystemReason Tree.Spot}
    (sound : ∀ place names spot, onward place names = .ok spot →
      ∃ fewer, links = fewer + 1 ∧ ∃ trail, Leads tree follow fewer place names trail spot)
    (isName : IsName name)
    (inside : ∀ place, tree.walkNames follow onward place rest = .ok spot →
      ∃ trail, Leads tree follow links place rest trail spot)
    (walked : tree.walkNames follow onward place (name :: rest) = .ok spot) :
    ∃ trail, Leads tree follow links place (name :: rest) trail spot := by
  unfold Tree.walkNames at walked
  rw [if_neg (by simpa [String.isEmpty_iff] using isName.not_blank),
    if_neg (by simpa using isName.notAround), if_neg (Nat.not_lt.mpr isName.short)] at walked
  cases there : tree.at? (place ++ [name]) with
  | none =>
    simp only [there] at walked
    exact leads_of_last isName there (by simp) (by simp) walked
  | some entry =>
    cases entry with
    | directory =>
      simp only [there] at walked
      obtain ⟨trail, leads⟩ := inside _ walked
      exact ⟨trail, .enter isName there leads⟩
    | link target =>
      simp only [there] at walked
      split at walked
      · next last =>
        simp only [Bool.and_eq_true, List.isEmpty_iff, Bool.not_eq_true'] at last
        obtain ⟨rfl, unfollowed⟩ := last
        cases walked
        exact ⟨[], .stop isName there (by simp) fun _ _ => unfollowed⟩
      · next last =>
        obtain ⟨fewer, rfl, trail, leads⟩ := sound _ _ _ walked
        refine ⟨(place ++ [name]) :: trail, .follow isName there ?_ leads⟩
        cases rest with
        | nil =>
          right
          simpa using last
        | cons _ _ =>
          left
          simp
    | file content =>
      simp only [there] at walked
      exact leads_of_last isName there (by simp) (by simp) walked
    | pipe =>
      simp only [there] at walked
      exact leads_of_last isName there (by simp) (by simp) walked

private theorem leads_of_walkNames
    {tree : Tree} {follow : Bool} {links : Nat}
    {onward : Place → List String → Except SystemReason Tree.Spot}
    (sound : ∀ place names spot, onward place names = .ok spot →
      ∃ fewer, links = fewer + 1 ∧ ∃ trail, Leads tree follow fewer place names trail spot)
    {names : List String} {place : Place} {spot : Tree.Spot}
    (walked : tree.walkNames follow onward place names = .ok spot) :
    ∃ trail, Leads tree follow links place names trail spot := by
  induction names generalizing place with
  | nil =>
    cases walked
    exact ⟨[], .done⟩
  | cons name rest ih =>
    by_cases isName : IsName name
    · exact leads_of_name sound isName (fun _ => ih) walked
    · unfold Tree.walkNames at walked
      by_cases blank : name = "." ∨ name = ""
      · rw [if_pos (by simpa [String.isEmpty_iff] using blank)] at walked
        obtain ⟨trail, leads⟩ := ih walked
        exact ⟨trail, .skip blank leads⟩
      · rw [if_neg (by simpa [String.isEmpty_iff] using blank)] at walked
        by_cases around : name = ".."
        · subst around
          simp only [BEq.rfl, if_true] at walked
          obtain ⟨trail, leads⟩ := ih walked
          exact ⟨trail, .up leads⟩
        · have long : Tree.nameLimit < Text.storedLength name := by
            refine Nat.lt_of_not_le fun short => isName ⟨?_, ?_, around, short⟩
            · exact fun empty => blank (.inr empty)
            · exact fun here => blank (.inl here)
          rw [if_neg (by simpa using around), if_pos long] at walked
          cases walked

theorem leads_of_walkFrom
    {tree : Tree} {follow : Bool} {links : Nat} {place : Place} {names : List String}
    {spot : Tree.Spot}
    (walked : tree.walkFrom follow links place names = .ok spot) :
    ∃ trail, Leads tree follow links place names trail spot := by
  induction links generalizing place names spot with
  | zero =>
    exact leads_of_walkNames (fun _ _ _ impossible => by cases impossible) walked
  | succ links ih =>
    exact leads_of_walkNames (fun _ _ _ walked => ⟨links, rfl, ih walked⟩) walked

/-- One name of a walk, whatever the limit. -/
theorem walkFrom_cons
    (tree : Tree) (follow : Bool) (links : Nat) (place : Place)
    (name : String) (rest : List String) (isName : IsName name) :
    tree.walkFrom follow links place (name :: rest) =
      match tree.at? (place ++ [name]) with
      | none => if rest.isEmpty then .ok ⟨place ++ [name], none⟩ else .error .noSuchEntry
      | some .directory => tree.walkFrom follow links (place ++ [name]) rest
      | some (.link target) =>
        if rest.isEmpty && !follow then .ok ⟨place ++ [name], some (.link target)⟩
        else
          match links with
          | 0 => .error .tooManyLinks
          | fewer + 1 =>
            tree.walkFrom follow fewer (linkStart target place) (linkNames target ++ rest)
      | some entry =>
        if rest.isEmpty then .ok ⟨place ++ [name], some entry⟩ else .error .notDirectory := by
  have blank : ¬(name == "." || name.isEmpty) = true := by
    simp [String.isEmpty_iff, isName.notHere, isName.nonempty]
  have around : ¬(name == "..") = true := by simpa using isName.notAround
  have short : ¬Tree.nameLimit < Text.storedLength name := Nat.not_lt.mpr isName.short
  cases links <;>
  · simp only [Tree.walkFrom]
    conv => lhs; unfold Tree.walkNames
    exact (if_neg blank).trans ((if_neg around).trans (if_neg short))

theorem walkFrom_skip
    (tree : Tree) (follow : Bool) (links : Nat) (place : Place)
    {name : String} (rest : List String) (blank : name = "." ∨ name = "") :
    tree.walkFrom follow links place (name :: rest) =
      tree.walkFrom follow links place rest := by
  have blank : (name == "." || name.isEmpty) = true := by
    simpa [String.isEmpty_iff] using blank
  cases links <;>
  · simp only [Tree.walkFrom]
    conv => lhs; unfold Tree.walkNames
    rw [if_pos blank]

theorem walkFrom_up
    (tree : Tree) (follow : Bool) (links : Nat) (place : Place) (rest : List String) :
    tree.walkFrom follow links place (".." :: rest) =
      tree.walkFrom follow links place.dropLast rest := by
  cases links <;>
  · simp only [Tree.walkFrom]
    conv => lhs; unfold Tree.walkNames
    rfl

theorem Leads.walkFrom_eq
    {tree : Tree} {follow : Bool} {links : Nat} {place : Place} {names : List String}
    {trail : List Place} {spot : Tree.Spot}
    (leads : Leads tree follow links place names trail spot) :
    tree.walkFrom follow links place names = .ok spot := by
  induction leads with
  | @done links place => cases links <;> rfl
  | skip blank _ ih => rw [walkFrom_skip _ _ _ _ _ blank, ih]
  | up _ ih => rw [walkFrom_up, ih]
  | enter isName there _ ih => rw [walkFrom_cons _ _ _ _ _ _ isName, there]; exact ih
  | follow isName there followed _ ih =>
    rw [walkFrom_cons _ _ _ _ _ _ isName, there]
    simp only
    rw [if_neg, ih]
    rcases followed with more | follow
    · simp [more]
    · simp [follow]
  | @stop _ _ _ entry isName there noDirectory unfollowed =>
    rw [walkFrom_cons _ _ _ _ _ _ isName, there]
    cases entry with
    | none => rfl
    | some entry =>
      cases entry with
      | directory => exact absurd rfl noDirectory
      | link target => simp [unfollowed target rfl]
      | file content => rfl
      | pipe => rfl

/-- The relation is what the function computes. -/
theorem walkFrom_eq_ok_iff
    {tree : Tree} {follow : Bool} {links : Nat} {place : Place} {names : List String}
    {spot : Tree.Spot} :
    tree.walkFrom follow links place names = .ok spot ↔
      ∃ trail, Leads tree follow links place names trail spot :=
  ⟨leads_of_walkFrom, fun ⟨_, leads⟩ => leads.walkFrom_eq⟩

/-- Names that lead into a directory are left behind, whatever follows them. -/
theorem Leads.walkFrom_append
    {tree : Tree} {follow : Bool} {links : Nat} {place folder : Place} {names rest : List String}
    {trail : List Place}
    (leads : Leads tree true links place names trail ⟨folder, some .directory⟩)
    (more : rest ≠ []) :
    ∃ fewer, tree.walkFrom follow links place (names ++ rest) =
      tree.walkFrom follow fewer folder rest := by
  generalize spotEq : (⟨folder, some .directory⟩ : Tree.Spot) = spot at leads
  induction leads with
  | @done links place =>
    simp only [Tree.Spot.mk.injEq] at spotEq
    obtain ⟨rfl, -⟩ := spotEq
    exact ⟨links, rfl⟩
  | skip blank _ ih =>
    obtain ⟨fewer, walked⟩ := ih spotEq
    exact ⟨fewer, (walkFrom_skip _ _ _ _ _ blank).trans walked⟩
  | up _ ih =>
    obtain ⟨fewer, walked⟩ := ih spotEq
    exact ⟨fewer, (walkFrom_up _ _ _ _ _).trans walked⟩
  | enter isName there _ ih =>
    obtain ⟨fewer, walked⟩ := ih spotEq
    refine ⟨fewer, ?_⟩
    rw [List.cons_append, walkFrom_cons _ _ _ _ _ _ isName, there]
    exact walked
  | follow isName there _ _ ih =>
    obtain ⟨fewer, walked⟩ := ih spotEq
    refine ⟨fewer, ?_⟩
    rw [List.cons_append, walkFrom_cons _ _ _ _ _ _ isName, there]
    dsimp only
    rw [if_neg (by simp [more]), ← walked, List.append_assoc]
  | stop _ _ noDirectory =>
    cases spotEq
    exact absurd rfl noDirectory

/-! ## What resolution depends on -/

/-- Links are all that a trail holds. -/
theorem Leads.link_of_mem_trail
    {tree : Tree} {follow : Bool} {links : Nat} {place : Place} {names : List String}
    {trail : List Place} {spot : Tree.Spot}
    (leads : Leads tree follow links place names trail spot)
    {crossed : Place} (member : crossed ∈ trail) :
    ∃ target, tree.at? crossed = some (.link target) := by
  induction leads with
  | done => cases member
  | skip _ _ ih => exact ih member
  | up _ ih => exact ih member
  | enter _ _ _ ih => exact ih member
  | follow _ there _ _ ih =>
    rcases List.mem_cons.mp member with rfl | later
    · exact ⟨_, there⟩
    · exact ih later
  | stop => cases member

/-- The entry of a spot is what stands at its place. -/
theorem Leads.entry_eq
    {tree : Tree} {follow : Bool} {links : Nat} {place : Place} {names : List String}
    {trail : List Place} {spot : Tree.Spot}
    (leads : Leads tree follow links place names trail spot) :
    spot.entry = tree.at? spot.place := by
  induction leads with
  | done => rfl
  | skip _ _ ih => exact ih
  | up _ ih => exact ih
  | enter _ _ _ ih => exact ih
  | follow _ _ _ _ ih => exact ih
  | stop _ there => exact there.symm

/-! ## How resolution goes on -/

section Onward

variable {tree : Tree} {follow : Bool} {links : Nat} {place : Place} {name : String}
  {rest : List String} {trail : List Place} {spot : Tree.Spot}

theorem Leads.of_blank
    (leads : Leads tree follow links place (name :: rest) trail spot)
    (blank : name = "." ∨ name = "") : Leads tree follow links place rest trail spot := by
  cases leads with
  | skip _ onward => exact onward
  | up => simp at blank
  | enter isName => exact absurd blank isName.not_blank
  | follow isName => exact absurd blank isName.not_blank
  | stop isName => exact absurd blank isName.not_blank

theorem Leads.of_up (leads : Leads tree follow links place (".." :: rest) trail spot) :
    Leads tree follow links place.dropLast rest trail spot := by
  cases leads with
  | skip blank => simp at blank
  | up onward => exact onward
  | enter isName => exact absurd rfl isName.notAround
  | follow isName => exact absurd rfl isName.notAround
  | stop isName => exact absurd rfl isName.notAround

/-- A directory is entered. -/
theorem Leads.of_directory
    (leads : Leads tree follow links place (name :: rest) trail spot)
    (isName : IsName name)
    (there : tree.at? (place ++ [name]) = some .directory) :
    Leads tree follow links (place ++ [name]) rest trail spot := by
  cases leads with
  | skip blank => exact absurd blank isName.not_blank
  | up => exact absurd rfl isName.notAround
  | enter _ _ onward => exact onward
  | follow _ otherwise =>
    rw [there] at otherwise
    cases otherwise
  | stop _ otherwise noDirectory => exact absurd (otherwise.symm.trans there) noDirectory

/-- A link is followed unless it stands at the end. -/
theorem Leads.of_link {target : String}
    (leads : Leads tree follow links place (name :: rest) trail spot)
    (isName : IsName name)
    (there : tree.at? (place ++ [name]) = some (.link target))
    (followed : rest ≠ [] ∨ follow = true) :
    ∃ fewer later, links = fewer + 1 ∧ trail = (place ++ [name]) :: later ∧
      Leads tree follow fewer (linkStart target place) (linkNames target ++ rest) later
        spot := by
  cases leads with
  | skip blank => exact absurd blank isName.not_blank
  | up => exact absurd rfl isName.notAround
  | enter _ otherwise =>
    rw [there] at otherwise
    cases otherwise
  | follow _ otherwise _ onward =>
    rw [there] at otherwise
    cases otherwise
    exact ⟨_, _, rfl, rfl, onward⟩
  | stop _ otherwise _ unfollowed =>
    have last := unfollowed target (otherwise.symm.trans there)
    simp [last] at followed

/-- Anything else is the end. -/
theorem Leads.of_end {entry : Option Entry}
    (leads : Leads tree follow links place (name :: rest) trail spot)
    (isName : IsName name)
    (there : tree.at? (place ++ [name]) = entry)
    (noDirectory : entry ≠ some .directory)
    (unfollowed : ∀ target, entry = some (.link target) → rest = [] ∧ follow = false) :
    trail = [] ∧ spot = ⟨place ++ [name], entry⟩ := by
  cases leads with
  | skip blank => exact absurd blank isName.not_blank
  | up => exact absurd rfl isName.notAround
  | enter _ otherwise => exact absurd (there.symm.trans otherwise) noDirectory
  | follow _ otherwise followed =>
    obtain ⟨last, isFalse⟩ := unfollowed _ (there.symm.trans otherwise)
    simp [last, isFalse] at followed
  | stop _ otherwise => exact ⟨rfl, by rw [← there, ← otherwise]⟩

end Onward

/-- Resolution with the same links and the same kind of end takes the same way. -/
theorem Leads.unique
    {tree : Tree} {follow : Bool} {links : Nat} {place : Place} {names : List String}
    {trail other : List Place} {spot another : Tree.Spot}
    (leads : Leads tree follow links place names trail spot)
    (again : Leads tree follow links place names other another) :
    trail = other ∧ spot = another := by
  induction leads generalizing other with
  | done =>
    cases again
    exact ⟨rfl, rfl⟩
  | skip blank _ ih => exact ih (again.of_blank blank)
  | up _ ih => exact ih again.of_up
  | enter isName there _ ih => exact ih (again.of_directory isName there)
  | follow isName there followed _ ih =>
    obtain ⟨fewer, later, linksEq, rfl, onward⟩ := again.of_link isName there followed
    cases linksEq
    obtain ⟨rfl, spotEq⟩ := ih onward
    exact ⟨rfl, spotEq⟩
  | stop isName there noDirectory unfollowed =>
    obtain ⟨none, spotEq⟩ := again.of_end isName there noDirectory fun target link =>
      ⟨rfl, unfollowed target link⟩
    exact ⟨none.symm, spotEq.symm⟩

/--
Resolution only depends on the directories of a tree, on the links of the trail, and on
what stands at the end.
-/
theorem Leads.transfer
    {tree other : Tree} {follow : Bool} {links : Nat} {place : Place} {names : List String}
    {trail : List Place} {spot : Tree.Spot}
    (leads : Leads tree follow links place names trail spot)
    (directories : ∀ place, tree.at? place = some .directory →
      other.at? place = some .directory)
    (crossed : ∀ place ∈ trail, other.at? place = tree.at? place)
    (last : other.at? spot.place = tree.at? spot.place) :
    Leads other follow links place names trail spot := by
  induction leads with
  | @done links place =>
    change other.at? place = tree.at? place at last
    rw [← last]
    exact .done
  | skip blank _ ih => exact .skip blank (ih crossed last)
  | up _ ih => exact .up (ih crossed last)
  | enter isName there _ ih => exact .enter isName (directories _ there) (ih crossed last)
  | follow isName there followed _ ih =>
    refine .follow isName ?_ followed (ih (fun place member => ?_) last)
    · rw [crossed _ (List.mem_cons_self ..), there]
    · exact crossed place (List.mem_cons_of_mem _ member)
  | stop isName there noDirectory unfollowed =>
    exact .stop isName (last.trans there) noDirectory unfollowed

/-! ## Sound trees -/

/--
What the file system promises of a tree: no place is used twice, what stands somewhere
stands in a directory under a name of its own, relative paths start from a directory, and
marks for spare names are no longer than agreed.
-/
structure Tree.Sound (tree : Tree) : Prop where
  distinct : (tree.entries.map Prod.fst).Nodup
  closed : ∀ place name entry, tree.at? (place ++ [name]) = some entry →
    tree.at? place = some .directory
  named : ∀ place name entry, tree.at? (place ++ [name]) = some entry → IsName name
  here : tree.at? tree.here = some .directory
  marked : ∀ count, ∀ mark ∈ tree.marks count,
    mark ≠ "" ∧ Text.storedLength mark ≤ Change.spareLength

@[simp]
theorem Tree.at?_nil (tree : Tree) : tree.at? [] = some .directory := rfl

theorem Tree.mem_of_at? {tree : Tree} {place : Place} {entry : Entry}
    (there : tree.at? place = some entry) (inside : place ≠ []) :
    (place, entry) ∈ tree.entries := by
  cases place with
  | nil => exact absurd rfl inside
  | cons name names =>
    obtain ⟨before, after, split, -⟩ := List.lookup_eq_some_iff.mp there
    rw [split]
    exact List.mem_append_right _ (List.mem_cons_self ..)

/-- A tree without places that are used twice gives back all its entries. -/
theorem Tree.Sound.at?_of_mem {tree : Tree} (sound : tree.Sound) {place : Place}
    {entry : Entry} (member : (place, entry) ∈ tree.entries) (inside : place ≠ []) :
    tree.at? place = some entry := by
  cases place with
  | nil => exact absurd rfl inside
  | cons name names =>
    obtain ⟨before, after, split⟩ := List.append_of_mem member
    refine List.lookup_eq_some_iff.mpr ⟨before, after, split, fun known earlier => ?_⟩
    have distinct := sound.distinct
    rw [split, List.map_append, List.nodup_append] at distinct
    have other := distinct.2.2 known.1 (List.mem_map_of_mem earlier) (name :: names) (by simp)
    simpa using other.symm

/-- The mark that is tried where nothing else is agreed is in order. -/
theorem marked_spareMark : ∀ mark ∈ [spareMark],
    mark ≠ "" ∧ Text.storedLength mark ≤ Change.spareLength := by
  decide +kernel

/-- A tree is sound when each of its entries is in order. -/
theorem Tree.Sound.of_entries
    {tree : Tree}
    (distinct : (tree.entries.map Prod.fst).Nodup)
    (ordered : ∀ known ∈ tree.entries, tree.at? known.1.dropLast = some .directory ∧
      ∀ name ∈ known.1.getLast?, IsName name)
    (here : tree.at? tree.here = some .directory)
    (marked : ∀ count, ∀ mark ∈ tree.marks count,
      mark ≠ "" ∧ Text.storedLength mark ≤ Change.spareLength) : tree.Sound := by
  refine ⟨distinct, fun place name entry there => ?_, fun place name entry there => ?_, here,
    marked⟩
  · have inOrder := (ordered _ (Tree.mem_of_at? there (by simp))).1
    rwa [List.dropLast_concat] at inOrder
  · exact (ordered _ (Tree.mem_of_at? there (by simp))).2 name (by simp)

/-- The directory around a directory is one. -/
theorem Tree.Sound.directory_dropLast
    {tree : Tree} (sound : tree.Sound) {place : Place}
    (directory : tree.at? place = some .directory) :
    tree.at? place.dropLast = some .directory := by
  rcases List.eq_nil_or_concat place with rfl | ⟨folder, name, rfl⟩
  · exact directory
  · rw [List.concat_eq_append] at directory ⊢
    rw [List.dropLast_concat]
    exact sound.closed folder name .directory directory

theorem Tree.directory_linkStart
    {tree : Tree} {place : Place} (target : String)
    (directory : tree.at? place = some .directory) :
    tree.at? (linkStart target place) = some .directory := by
  unfold linkStart
  split
  · exact tree.at?_nil
  · exact directory

/-! ## The last name of a path -/

/-- A name after names that lead to a directory is looked up in that directory. -/
theorem Leads.concat
    {tree : Tree} {follow : Bool} {links : Nat} {place folder : Place} {names : List String}
    {trail : List Place} {name : String}
    (leads : Leads tree true links place names trail ⟨folder, some .directory⟩)
    (isName : IsName name)
    (unfollowed : ∀ target, tree.at? (folder ++ [name]) = some (.link target) →
      follow = false) :
    Leads tree follow links place (names ++ [name]) trail
      ⟨folder ++ [name], tree.at? (folder ++ [name])⟩ := by
  generalize spotEq : (⟨folder, some .directory⟩ : Tree.Spot) = spot at leads
  induction leads with
  | done =>
    simp only [Tree.Spot.mk.injEq] at spotEq
    obtain ⟨rfl, -⟩ := spotEq
    by_cases directory : tree.at? (folder ++ [name]) = some .directory
    · exact .enter isName directory .done
    · exact .stop isName rfl directory unfollowed
  | skip blank _ ih => exact .skip blank (ih spotEq)
  | up _ ih => exact .up (ih spotEq)
  | enter isName' there _ ih => exact .enter isName' there (ih spotEq)
  | follow isName' there _ _ ih =>
    refine .follow isName' there (.inl (by simp)) ?_
    have onward := ih spotEq
    rw [List.append_assoc] at onward
    exact onward
  | stop _ _ noDirectory =>
    cases spotEq
    exact absurd rfl noDirectory

/-- Where names lead, the names before the last one lead to a directory. -/
theorem Leads.of_concat
    {tree : Tree} (sound : tree.Sound)
    {follow : Bool} {links : Nat} {place : Place} {names : List String}
    {trail : List Place} {name : String} {spot : Tree.Spot}
    (leads : Leads tree follow links place (names ++ [name]) trail spot)
    (start : tree.at? place = some .directory) :
    ∃ folder fewer before after, Leads tree true links place names before
      ⟨folder, some .directory⟩ ∧
        Leads tree follow fewer folder [name] after spot ∧ trail = before ++ after := by
  generalize namesEq : names ++ [name] = all at leads
  induction leads generalizing names with
  | done => simp at namesEq
  | @skip links place _ _ trail spot blank onward ih =>
    cases names with
    | nil =>
      cases namesEq
      exact ⟨place, links, [], trail, start ▸ .done, .skip blank onward, rfl⟩
    | cons first more =>
      cases namesEq
      obtain ⟨folder, fewer, before, after, leads, last, trailEq⟩ := ih start rfl
      exact ⟨folder, fewer, before, after, .skip blank leads, last, trailEq⟩
  | @up links place _ trail spot onward ih =>
    cases names with
    | nil =>
      cases namesEq
      exact ⟨place, links, [], trail, start ▸ .done, .up onward, rfl⟩
    | cons first more =>
      cases namesEq
      obtain ⟨folder, fewer, before, after, leads, last, trailEq⟩ :=
        ih (sound.directory_dropLast start) rfl
      exact ⟨folder, fewer, before, after, .up leads, last, trailEq⟩
  | @enter links place _ _ trail spot isName there onward ih =>
    cases names with
    | nil =>
      cases namesEq
      exact ⟨place, links, [], trail, start ▸ .done, .enter isName there onward, rfl⟩
    | cons first more =>
      cases namesEq
      obtain ⟨folder, fewer, before, after, leads, last, trailEq⟩ := ih there rfl
      exact ⟨folder, fewer, before, after, .enter isName there leads, last, trailEq⟩
  | @follow links place _ target _ trail spot isName there followed onward ih =>
    cases names with
    | nil =>
      cases namesEq
      exact ⟨place, links + 1, [], _, start ▸ .done, .follow isName there followed onward,
        rfl⟩
    | cons first more =>
      cases namesEq
      obtain ⟨folder, fewer, before, after, leads, last, trailEq⟩ :=
        ih (tree.directory_linkStart target start)
          (List.append_assoc (linkNames target) more [_])
      exact ⟨folder, fewer, _ :: before, after, .follow isName there (.inr rfl) leads,
        last, by rw [trailEq]; rfl⟩
  | @stop links place _ entry isName there noDirectory unfollowed =>
    cases names with
    | nil =>
      cases namesEq
      exact ⟨place, links, [], [], start ▸ .done, .stop isName there noDirectory unfollowed,
        rfl⟩
    | cons first more => simp at namesEq

/-- The last name of a path whose links at the end are not followed. -/
theorem Leads.last_eq
    {tree : Tree} {links : Nat} {folder : Place} {trail : List Place} {name : String}
    {spot : Tree.Spot} (isName : IsName name)
    (leads : Leads tree false links folder [name] trail spot) :
    trail = [] ∧ spot = ⟨folder ++ [name], tree.at? (folder ++ [name])⟩ := by
  by_cases directory : tree.at? (folder ++ [name]) = some .directory
  · have onward := leads.of_directory isName directory
    cases onward
    exact ⟨rfl, rfl⟩
  · exact leads.of_end isName rfl directory fun _ _ => ⟨rfl, rfl⟩

/-! ## Paths -/

/-- Where a path starts from. -/
def Tree.startOf (tree : Tree) (path : Path) : Place :=
  if path.isAbsolute then [] else tree.here

/-- A path leads to a spot by a trail of links. -/
def LeadsTo (tree : Tree) (follow : Bool) (path : Path) (trail : List Place)
    (spot : Tree.Spot) : Prop :=
  Leads tree follow Tree.linkLimit (tree.startOf path) path.parts trail spot

/-- A path leads to a directory by a trail of links. -/
abbrev LeadsInto (tree : Tree) (path : Path) (trail : List Place) (folder : Place) : Prop :=
  LeadsTo tree true path trail ⟨folder, some .directory⟩

theorem Tree.startOf_eq
    {tree other : Tree} (here : other.here = tree.here) (path : Path) :
    other.startOf path = tree.startOf path := by
  unfold Tree.startOf
  rw [here]

/-- A path leads into a directory as long as the directories and its links are kept. -/
theorem LeadsInto.transfer
    {tree other : Tree} {path : Path} {trail : List Place} {folder : Place}
    (leads : LeadsInto tree path trail folder)
    (here : other.here = tree.here)
    (directories : ∀ place, tree.at? place = some .directory →
      other.at? place = some .directory)
    (crossed : ∀ place ∈ trail, other.at? place = tree.at? place) :
    LeadsInto other path trail folder := by
  have directory : tree.at? folder = some .directory := (Leads.entry_eq leads).symm
  unfold LeadsInto LeadsTo
  rw [Tree.startOf_eq here]
  refine Leads.transfer leads directories crossed ?_
  rw [directory, directories _ directory]

theorem LeadsInto.unique
    {tree : Tree} {path : Path} {trail other : List Place} {folder another : Place}
    (leads : LeadsInto tree path trail folder)
    (again : LeadsInto tree path other another) : trail = other ∧ folder = another := by
  obtain ⟨trailEq, spotEq⟩ := Leads.unique leads again
  cases spotEq
  exact ⟨trailEq, rfl⟩

theorem walk_eq_ok_iff {tree : Tree} {follow : Bool} {path : Path} {spot : Tree.Spot} :
    tree.walk follow path = .ok spot ↔ ∃ trail, LeadsTo tree follow path trail spot :=
  walkFrom_eq_ok_iff

theorem LeadsTo.walk_eq
    {tree : Tree} {follow : Bool} {path : Path} {trail : List Place} {spot : Tree.Spot}
    (leads : LeadsTo tree follow path trail spot) : tree.walk follow path = .ok spot :=
  Leads.walkFrom_eq leads

theorem Tree.Sound.directory_startOf {tree : Tree} (sound : tree.Sound) (path : Path) :
    tree.at? (tree.startOf path) = some .directory := by
  unfold Tree.startOf
  split
  · exact tree.at?_nil
  · exact sound.here

theorem LeadsInto.child
    {tree : Tree} {path : Path} {trail : List Place} {folder : Place} {name : String}
    (leads : LeadsInto tree path trail folder)
    (follow : Bool)
    (isName : IsName name)
    (unfollowed : ∀ target, tree.at? (folder ++ [name]) = some (.link target) →
      follow = false) :
    LeadsTo tree follow (path.child name) trail
      ⟨folder ++ [name], tree.at? (folder ++ [name])⟩ :=
  Leads.concat leads isName unfollowed

/-- A name in a directory leads to what stands there, followed or not, if that is no link. -/
theorem LeadsInto.child_of_there
    {tree : Tree} {path : Path} {trail : List Place} {folder : Place} {name : String}
    {entry : Entry}
    (leads : LeadsInto tree path trail folder)
    (follow : Bool)
    (isName : IsName name)
    (there : tree.at? (folder ++ [name]) = some entry)
    (noLink : ∀ target, entry ≠ .link target) :
    LeadsTo tree follow (path.child name) trail ⟨folder ++ [name], some entry⟩ := by
  have child := leads.child follow isName fun target link => by
    rw [there] at link
    cases link
    exact absurd rfl (noLink target)
  rwa [there] at child

/-- Where a path leads to no directory, the path without its last name leads to one. -/
theorem LeadsTo.folder
    {tree : Tree} (sound : tree.Sound) {path : Path} {trail : List Place} {spot : Tree.Spot}
    (leads : LeadsTo tree false path trail spot)
    (named : Change.endsInDots path = false)
    (noDirectory : spot.entry ≠ some .directory) :
    IsName path.name ∧ ∃ folder, LeadsInto tree path.parent trail folder ∧
      spot = ⟨folder ++ [path.name], tree.at? (folder ++ [path.name])⟩ := by
  obtain ⟨root, parts⟩ := path
  rcases List.eq_nil_or_concat parts with rfl | ⟨names, name, rfl⟩
  · cases named
  · rw [List.concat_eq_append] at *
    have notAround : name ≠ ".." := by simpa [Change.endsInDots] using named
    obtain ⟨folder, fewer, before, after, around, last, rfl⟩ :=
      Leads.of_concat sound leads (sound.directory_startOf _)
    have directory : tree.at? folder = some .directory := (Leads.entry_eq around).symm
    have parent : (⟨root, names ++ [name]⟩ : Path).parent = ⟨root, names⟩ := by
      simp [Path.parent]
    have nameEq : (⟨root, names ++ [name]⟩ : Path).name = name := by simp [Path.name]
    have isName : IsName name := by
      cases last with
      | skip _ onward =>
        cases onward
        exact absurd directory noDirectory
      | up => exact absurd rfl notAround
      | enter isName => exact isName
      | follow isName => exact isName
      | stop isName => exact isName
    obtain ⟨rfl, spotEq⟩ := Leads.last_eq isName last
    rw [List.append_nil, parent, nameEq]
    exact ⟨isName, folder, around, spotEq⟩

/-! ## Questions about paths -/

section Questions

variable {tree : Tree} {follow : Bool} {path : Path}

theorem find_eq_ok_iff {entry : Entry} :
    tree.find follow path = .ok entry ↔
      ∃ trail place, LeadsTo tree follow path trail ⟨place, some entry⟩ := by
  unfold Tree.find
  constructor
  · intro found
    cases walked : tree.walk follow path with
    | error reason =>
      rw [walked] at found
      cases found
    | ok spot =>
      obtain ⟨place, standing⟩ := spot
      rw [walked] at found
      cases standing with
      | none => cases found
      | some known =>
        cases found
        obtain ⟨trail, leads⟩ := walk_eq_ok_iff.mp walked
        exact ⟨trail, place, leads⟩
  · rintro ⟨trail, place, leads⟩
    rw [leads.walk_eq]
    rfl

/-- A path is said to lead to an entry of a kind when it does. -/
theorem leadsTo_eq_true_iff {kind : Entry → Bool} :
    tree.leadsTo follow kind path = .ok true ↔
      ∃ trail place entry, LeadsTo tree follow path trail ⟨place, some entry⟩ ∧
        kind entry = true := by
  unfold Tree.leadsTo
  constructor
  · intro known
    cases found : tree.find follow path with
    | error reason =>
      simp only [found] at known
      split at known <;> cases known
    | ok entry =>
      simp only [found, Except.ok.injEq] at known
      obtain ⟨trail, place, leads⟩ := find_eq_ok_iff.mp found
      exact ⟨trail, place, entry, leads, known⟩
  · rintro ⟨trail, place, entry, leads, isKind⟩
    rw [find_eq_ok_iff.mpr ⟨trail, place, leads⟩]
    exact congrArg Except.ok isKind

theorem isDirectory_eq_true_iff :
    tree.isDirectory path = .ok true ↔ ∃ trail folder, LeadsInto tree path trail folder := by
  unfold Tree.isDirectory
  rw [leadsTo_eq_true_iff]
  constructor
  · rintro ⟨trail, place, entry, leads, isDirectory⟩
    cases entry with
    | directory => exact ⟨trail, place, leads⟩
    | file content => cases isDirectory
    | link target => cases isDirectory
    | pipe => cases isDirectory
  · rintro ⟨trail, folder, leads⟩
    exact ⟨trail, folder, .directory, leads, rfl⟩

theorem has_eq_true_iff :
    tree.has path = .ok true ↔
      ∃ trail place entry, LeadsTo tree true path trail ⟨place, some entry⟩ := by
  unfold Tree.has
  rw [leadsTo_eq_true_iff]
  simp only [and_true]

end Questions

end Stencil.Files

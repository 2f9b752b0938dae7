import Stencil.Proofs.Files.Visits

/-!
# Trees that differ in files only

Two trees are alike at a place when the same stands there in both, or a regular file or
nothing in each.  Where trees are alike at every place, a path leads to the same place in
both or nowhere in either, so whether it leads to anything can be asked in both or in
neither.
-/

namespace Stencil.Files

/-- Nothing or a regular file. -/
def Plain (entry : Option Entry) : Prop :=
  ∀ found ∈ entry, found.isFile = true

/-- The same, or nothing and regular files. -/
def Similar (first second : Option Entry) : Prop :=
  first = second ∨ (Plain first ∧ Plain second)

instance (entry : Option Entry) : Decidable (Plain entry) :=
  inferInstanceAs (Decidable (∀ found ∈ entry, found.isFile = true))

instance (first second : Option Entry) : Decidable (Similar first second) :=
  inferInstanceAs (Decidable (_ ∨ _))

theorem plain_iff {entry : Option Entry} :
    Plain entry ↔ entry = none ∨ ∃ content, entry = some (.file content) := by
  constructor
  · intro plain
    cases entry with
    | none => exact .inl rfl
    | some entry =>
      cases entry with
      | file content => exact .inr ⟨content, rfl⟩
      | directory => cases plain _ rfl
      | link target => cases plain _ rfl
      | pipe => cases plain _ rfl
  · rintro (rfl | ⟨content, rfl⟩) found member
    · cases member
    · cases member
      rfl

theorem plain_of_entries {tree : Tree} {folder : Place}
    (files : ∀ known ∈ tree.entries, known.1.dropLast = folder → known.2.isFile = true)
    (name : String) : Plain (tree.at? (folder ++ [name])) := fun _ there =>
  files _ (Tree.mem_of_at? there (by simp)) List.dropLast_concat

namespace Similar

variable {first second : Option Entry}

theorem symm (similar : Similar first second) : Similar second first :=
  similar.imp Eq.symm And.symm

/-- Where a directory stands, one stands in the other tree. -/
theorem directory (similar : Similar first second) (there : first = some .directory) :
    second = some .directory := by
  subst there
  rcases similar with same | ⟨plain, -⟩
  · exact same.symm
  · cases plain _ rfl

end Similar

/-- Two walks lead to the same place, or neither leads on. -/
inductive SimilarWalks : Except SystemReason Tree.Spot → Except SystemReason Tree.Spot → Prop
  | reached {place : Place} {first second : Option Entry} (similar : Similar first second) :
      SimilarWalks (.ok ⟨place, first⟩) (.ok ⟨place, second⟩)
  | refused (reason : SystemReason) : SimilarWalks (.error reason) (.error reason)
  | ended {reason other : SystemReason}
      (nothing : Tree.saysNothing reason = true) (also : Tree.saysNothing other = true) :
      SimilarWalks (.error reason) (.error other)

variable {tree other : Tree}

private theorem similarWalks_walkNames {follow : Bool}
    {onward otherOnward : Place → List String → Except SystemReason Tree.Spot}
    (similar : ∀ place, Similar (tree.at? place) (other.at? place))
    (later : ∀ place names, SimilarWalks (onward place names) (otherOnward place names))
    (place : Place) (names : List String) :
    SimilarWalks (tree.walkNames follow onward place names)
      (other.walkNames follow otherOnward place names) := by
  induction names generalizing place with
  | nil => exact .reached (similar place)
  | cons name rest ih =>
    unfold Tree.walkNames
    split
    · exact ih place
    split
    · exact ih place.dropLast
    split
    · exact .refused _
    dsimp only
    rcases similar (place ++ [name]) with same | ⟨plain, also⟩
    · rw [← same]
      cases tree.at? (place ++ [name]) with
      | none =>
        dsimp only
        split
        · exact .reached (.inl rfl)
        · exact .refused _
      | some entry =>
        cases entry with
        | directory => exact ih _
        | link target =>
          dsimp only
          split
          · exact .reached (.inl rfl)
          · exact later _ _
        | file content =>
          dsimp only
          split
          · exact .reached (.inl rfl)
          · exact .refused _
        | pipe =>
          dsimp only
          split
          · exact .reached (.inl rfl)
          · exact .refused _
    · -- Nothing and a file both end the walk.
      have similar : Similar (tree.at? (place ++ [name])) (other.at? (place ++ [name])) :=
        .inr ⟨plain, also⟩
      rcases plain_iff.mp plain with here | ⟨content, here⟩ <;>
        rcases plain_iff.mp also with there | ⟨another, there⟩ <;>
        · rw [here, there] at similar ⊢
          dsimp only
          split
          · exact .reached similar
          · exact .ended rfl rfl

/-- A path leads to the same place in trees that are alike, or leads on in neither. -/
theorem similarWalks (here : other.here = tree.here)
    (similar : ∀ place, Similar (tree.at? place) (other.at? place))
    (follow : Bool) (path : Path) :
    SimilarWalks (tree.walk follow path) (other.walk follow path) := by
  have walks (links : Nat) (place : Place) (names : List String) :
      SimilarWalks (tree.walkFrom follow links place names)
        (other.walkFrom follow links place names) := by
    induction links generalizing place names with
    | zero => exact similarWalks_walkNames similar (fun _ _ => .refused _) place names
    | succ links ih => exact similarWalks_walkNames similar ih place names
  unfold Tree.walk
  rw [here]
  exact walks _ _ _

private theorem has_of_reached {path : Path} {spot : Tree.Spot}
    (walked : tree.walk true path = .ok spot) : ∃ answer, tree.has path = .ok answer := by
  unfold Tree.has Tree.leadsTo Tree.find
  rw [walked]
  obtain ⟨place, entry⟩ := spot
  cases entry with
  | none => exact ⟨false, rfl⟩
  | some entry => exact ⟨true, rfl⟩

private theorem has_of_ended {path : Path} {reason : SystemReason}
    (walked : tree.walk true path = .error reason) :
    tree.has path = if Tree.saysNothing reason then .ok false
      else Tree.refused path (.error reason) := by
  unfold Tree.has Tree.leadsTo Tree.find
  rw [walked]
  rfl

/-- Whether a path leads to anything can be asked in both trees, or is refused in both. -/
theorem has_of_similar (here : other.here = tree.here)
    (similar : ∀ place, Similar (tree.at? place) (other.at? place)) (path : Path) :
    (∃ answer another, tree.has path = .ok answer ∧ other.has path = .ok another) ∨
      ∃ fault, tree.has path = .error fault ∧ other.has path = .error fault := by
  have walks := similarWalks here similar true path
  generalize walked : tree.walk true path = walk at walks
  generalize alsoWalked : other.walk true path = alsoWalk at walks
  cases walks with
  | reached _ =>
    obtain ⟨answer, known⟩ := has_of_reached walked
    obtain ⟨another, also⟩ := has_of_reached alsoWalked
    exact .inl ⟨answer, another, known, also⟩
  | refused reason =>
    have known := has_of_ended walked
    have also := has_of_ended alsoWalked
    cases nothing : Tree.saysNothing reason with
    | true =>
      rw [if_pos nothing] at known also
      exact .inl ⟨false, false, known, also⟩
    | false =>
      rw [if_neg (by simp [nothing])] at known also
      exact .inr ⟨_, known, also⟩
  | ended nothing alsoNothing =>
    have known := has_of_ended walked
    have also := has_of_ended alsoWalked
    rw [if_pos nothing] at known
    rw [if_pos alsoNothing] at also
    exact .inl ⟨false, false, known, also⟩

end Stencil.Files

import Stencil.Proofs.Files.Resolution

/-!
# Walks that stop

A walk along a path stops where a name is missing, where something is in the way, where too
many links have been followed and where a name is too long.  The relation `Stops` has one
rule for each of these, beside the rules of `Leads`.

Only a name that is too long keeps a question about a path from being answered.  A walk that
stops also stops before all names behind it, so where the question about a path is answered,
the question about its folder is.
-/

namespace Stencil.Files

/-- A walk that follows all links stops for a reason. -/
inductive Stops (tree : Tree) :
    (links : Nat) → Place → List String → SystemReason → Prop
  | skip {links : Nat} {place : Place} {name : String} {rest : List String}
      {reason : SystemReason} (blank : name = "." ∨ name = "")
      (onward : Stops tree links place rest reason) :
      Stops tree links place (name :: rest) reason
  | up {links : Nat} {place : Place} {rest : List String} {reason : SystemReason}
      (onward : Stops tree links place.dropLast rest reason) :
      Stops tree links place (".." :: rest) reason
  | long {links : Nat} {place : Place} {name : String} {rest : List String}
      (long : Tree.nameLimit < Text.storedLength name) :
      Stops tree links place (name :: rest) .nameTooLong
  | absent {links : Nat} {place : Place} {name : String} {rest : List String}
      (isName : IsName name) (there : tree.at? (place ++ [name]) = none) (more : rest ≠ []) :
      Stops tree links place (name :: rest) .noSuchEntry
  | enter {links : Nat} {place : Place} {name : String} {rest : List String}
      {reason : SystemReason} (isName : IsName name)
      (there : tree.at? (place ++ [name]) = some .directory)
      (onward : Stops tree links (place ++ [name]) rest reason) :
      Stops tree links place (name :: rest) reason
  | follow {links : Nat} {place : Place} {name target : String} {rest : List String}
      {reason : SystemReason} (isName : IsName name)
      (there : tree.at? (place ++ [name]) = some (.link target))
      (onward : Stops tree links (linkStart target place) (linkNames target ++ rest) reason) :
      Stops tree (links + 1) place (name :: rest) reason
  | spent {place : Place} {name target : String} {rest : List String} (isName : IsName name)
      (there : tree.at? (place ++ [name]) = some (.link target)) :
      Stops tree 0 place (name :: rest) .tooManyLinks
  | blocked {links : Nat} {place : Place} {name : String} {rest : List String} {entry : Entry}
      (isName : IsName name) (there : tree.at? (place ++ [name]) = some entry)
      (noDirectory : entry ≠ .directory) (noLink : ∀ target, entry ≠ .link target)
      (more : rest ≠ []) : Stops tree links place (name :: rest) .notDirectory

variable {tree : Tree} {links : Nat} {place : Place} {names : List String}
  {reason : SystemReason}

theorem name_cases (name : String) :
    (name = "." ∨ name = "") ∨ name = ".." ∨ Tree.nameLimit < Text.storedLength name ∨
      IsName name := by
  by_cases blank : name = "." ∨ name = ""
  · exact .inl blank
  by_cases around : name = ".."
  · exact .inr (.inl around)
  by_cases long : Tree.nameLimit < Text.storedLength name
  · exact .inr (.inr (.inl long))
  · rw [not_or] at blank
    exact .inr (.inr (.inr ⟨blank.2, blank.1, around, Nat.not_lt.mp long⟩))

/-- A name that is too long is none of the names with a meaning of their own. -/
private theorem walkFrom_long {name : String}
    (long : Tree.nameLimit < Text.storedLength name) (rest : List String) :
    tree.walkFrom true links place (name :: rest) = .error .nameTooLong := by
  have other {short : String} (isShort : Text.storedLength short ≤ Tree.nameLimit) :
      name ≠ short := by
    rintro rfl
    exact absurd long (Nat.not_lt.mpr isShort)
  have notHere : name ≠ "." := other (by decide)
  have nonempty : name ≠ "" := other (by decide)
  have notAround : name ≠ ".." := other (by decide)
  have blank : ¬(name == "." || name.isEmpty) = true := by
    simp [String.isEmpty_iff, notHere, nonempty]
  have around : ¬(name == "..") = true := by
    simpa using notAround
  cases links <;>
  · simp only [Tree.walkFrom]
    conv => lhs; unfold Tree.walkNames
    exact (if_neg blank).trans ((if_neg around).trans (if_pos long))

theorem Stops.walkFrom_eq (stops : Stops tree links place names reason) :
    tree.walkFrom true links place names = .error reason := by
  induction stops with
  | skip blank _ ih => rw [walkFrom_skip _ _ _ _ _ blank, ih]
  | up _ ih => rw [walkFrom_up, ih]
  | long long => exact walkFrom_long long _
  | absent isName there more =>
    rw [walkFrom_cons _ _ _ _ _ _ isName, there]
    simp [more]
  | enter isName there _ ih =>
    rw [walkFrom_cons _ _ _ _ _ _ isName, there]
    exact ih
  | follow isName there _ ih =>
    rw [walkFrom_cons _ _ _ _ _ _ isName, there]
    simpa using ih
  | spent isName there =>
    rw [walkFrom_cons _ _ _ _ _ _ isName, there]
    simp
  | @blocked _ _ _ _ entry isName there noDirectory noLink more =>
    rw [walkFrom_cons _ _ _ _ _ _ isName, there]
    cases entry with
    | directory => exact absurd rfl noDirectory
    | link target => exact absurd rfl (noLink target)
    | file _ | pipe => simp [more]

private theorem stops_of_names
    (further : ∀ fewer place names, links = fewer + 1 →
      tree.walkFrom true fewer place names = .error reason →
        Stops tree fewer place names reason)
    (failed : tree.walkFrom true links place names = .error reason) :
    Stops tree links place names reason := by
  induction names generalizing place with
  | nil => cases links <;> cases failed
  | cons name rest ih =>
    rcases name_cases name with blank | rfl | long | isName
    · rw [walkFrom_skip _ _ _ _ _ blank] at failed
      exact .skip blank (ih failed)
    · rw [walkFrom_up] at failed
      exact .up (ih failed)
    · rw [walkFrom_long long] at failed
      cases failed
      exact .long long
    · rw [walkFrom_cons _ _ _ _ _ _ isName] at failed
      cases there : tree.at? (place ++ [name]) with
      | none =>
        simp only [there, List.isEmpty_iff] at failed
        split at failed
        · cases failed
        · next more =>
          cases failed
          exact .absent isName there more
      | some entry =>
        rw [there] at failed
        cases entry with
        | directory => exact .enter isName there (ih failed)
        | link target =>
          simp only [Bool.not_true, Bool.and_false, Bool.false_eq_true, if_false] at failed
          cases links with
          | zero =>
            cases failed
            exact .spent isName there
          | succ fewer => exact .follow isName there (further _ _ _ rfl failed)
        | file _ | pipe =>
          simp only [List.isEmpty_iff] at failed
          split at failed
          · cases failed
          · next more =>
            cases failed
            exact .blocked isName there (by simp) (by simp) more

/-- The relation is what the function computes when it fails. -/
theorem walkFrom_eq_error_iff :
    tree.walkFrom true links place names = .error reason ↔
      Stops tree links place names reason := by
  refine ⟨fun failed => ?_, Stops.walkFrom_eq⟩
  induction links generalizing place names with
  | zero => exact stops_of_names (fun _ _ _ impossible => by cases impossible) failed
  | succ links ih =>
    refine stops_of_names (fun fewer place names same walked => ?_) failed
    cases same
    exact ih walked

/-- A walk that stops does not get to the names behind it. -/
theorem Stops.append (stops : Stops tree links place names reason) (more : List String) :
    Stops tree links place (names ++ more) reason := by
  induction stops with
  | skip blank _ ih => exact .skip blank ih
  | up _ ih => exact .up ih
  | long long => exact .long long
  | absent isName there nonempty => exact .absent isName there (by simp [nonempty])
  | enter isName there _ ih => exact .enter isName there ih
  | follow isName there _ ih => exact .follow isName there (by rwa [List.append_assoc] at ih)
  | spent isName there => exact .spent isName there
  | blocked isName there noDirectory noLink nonempty =>
    exact .blocked isName there noDirectory noLink (by simp [nonempty])

/-- All other reasons say that there is nothing. -/
theorem Stops.saysNothing (stops : Stops tree links place names reason)
    (other : reason ≠ .nameTooLong) : Tree.saysNothing reason = true := by
  induction stops with
  | skip _ _ ih => exact ih other
  | up _ ih => exact ih other
  | long => exact absurd rfl other
  | absent => rfl
  | enter _ _ _ ih => exact ih other
  | follow _ _ _ ih => exact ih other
  | spent => rfl
  | blocked => rfl

/-! ## Names that are too long -/

/-- A walk along a path meets a name that is too long. -/
def Overlong (tree : Tree) (path : Path) : Prop :=
  Stops tree Tree.linkLimit (tree.startOf path) path.parts .nameTooLong

/-- What the system says about a path with a name that is too long. -/
def overlongFault (path : Path) : Fault :=
  .system ⟨.nameTooLong, path.text, none⟩

variable {path : Path}

/-- A question about a path is only left open by a name that is too long. -/
theorem leadsTo_eq_error_iff {kind : Entry → Bool} {fault : Fault} :
    tree.leadsTo true kind path = .error fault ↔
      Overlong tree path ∧ fault = overlongFault path := by
  have stops (reason : SystemReason) : tree.walk true path = .error reason ↔
      Stops tree Tree.linkLimit (tree.startOf path) path.parts reason := walkFrom_eq_error_iff
  unfold Tree.leadsTo Tree.find Overlong
  rw [← stops]
  cases walked : tree.walk true path with
  | ok spot =>
    rcases spot with ⟨place, _ | entry⟩
    · simp [bind, Except.bind, Tree.saysNothing]
    · simp [bind, Except.bind, pure, Except.pure]
  | error reason =>
    by_cases long : reason = .nameTooLong
    · subst long
      simp [bind, Except.bind, Tree.saysNothing, Tree.refused, overlongFault, eq_comm]
    · have nothing := ((stops reason).mp walked).saysNothing long
      simp [bind, Except.bind, nothing, long]

theorem has_eq_error_iff {fault : Fault} :
    tree.has path = .error fault ↔ Overlong tree path ∧ fault = overlongFault path :=
  leadsTo_eq_error_iff

/-- A path leads on from its folder, whose names may be too long already. -/
theorem Overlong.child (overlong : Overlong tree path) (name : String) :
    Overlong tree (path.child name) :=
  Stops.append overlong [name]

/-- A name that is too long comes up in a directory. -/
theorem overlong_child_of_long {trail : List Place} {folder : Place} {name : String}
    (leads : LeadsInto tree path trail folder)
    (long : Tree.nameLimit < Text.storedLength name) : Overlong tree (path.child name) := by
  obtain ⟨fewer, walked⟩ : ∃ fewer,
      tree.walkFrom true Tree.linkLimit (tree.startOf path) (path.parts ++ [name]) =
        tree.walkFrom true fewer folder [name] :=
    Leads.walkFrom_append leads (List.cons_ne_nil name [])
  rw [(Stops.long long).walkFrom_eq] at walked
  exact walkFrom_eq_error_iff.mp walked

end Stencil.Files

import Stencil.Proofs.Files.Growth
import Stencil.World

/-!
# Acts and the files

Only changes of the files change them.  Questions about the files, computations on the
machine, notices and failures leave them as they are.
-/

namespace Stencil.Act

open Outcome

/-- The files are the same. -/
def SameFiles (before after : World) : Prop :=
  after.files = before.files

instance : IsPreorder World SameFiles where
  refl := fun _ => rfl
  trans := fun _ _ _ first second => Eq.trans second first

variable {α : Type}

/-! ## Single acts -/

theorem onFiles_apply (change : Files.Change α) (world : World) :
    onFiles change world =
      match change world.files with
      | .ok result files => .ok result { world with files }
      | .error fault files => .error (.unforeseen fault) { world with files } := rfl

theorem onMachine_apply (run : Template.Run α) (world : World) :
    onMachine run world =
      match run world.machine with
      | .ok result machine => .ok result { world with machine }
      | .error fault machine => .error (.unforeseen fault) { world with machine } := rfl

theorem askFiles_apply (question : Files.Tree → Except Fault α) (world : World) :
    askFiles question world =
      match question world.files with
      | .ok answer => .ok answer world
      | .error fault => .error (.unforeseen fault) world := by
  unfold askFiles
  rw [onFiles_apply, Files.Change.ask_apply]
  cases question world.files <;> rfl

theorem askFiles_eq_ok_iff {question : Files.Tree → Except Fault α} {world after : World}
    {answer : α} :
    askFiles question world = .ok answer after ↔
      question world.files = .ok answer ∧ after = world := by
  rw [askFiles_apply]
  cases question world.files with
  | ok given =>
    constructor
    · intro same
      cases same
      exact ⟨rfl, rfl⟩
    · rintro ⟨same, rfl⟩
      cases same
      rfl
  | error fault =>
    constructor
    · intro impossible
      cases impossible
    · rintro ⟨impossible, -⟩
      cases impossible

theorem askFiles_error {question : Files.Tree → Except Fault α} {world after : World}
    {failure : Failure} (failed : askFiles question world = .error failure after) :
    after = world ∧ ∃ fault, failure = .unforeseen fault := by
  rw [askFiles_apply] at failed
  split at failed <;> cases failed
  exact ⟨rfl, _, rfl⟩

theorem lift_eq_ok_iff {result : Except Failure α} {world after : World} {value : α} :
    lift result world = .ok value after ↔ result = .ok value ∧ after = world := by
  cases result with
  | ok given =>
    constructor
    · intro same
      cases same
      exact ⟨rfl, rfl⟩
    · rintro ⟨same, rfl⟩
      cases same
      rfl
  | error failure =>
    constructor
    · intro impossible
      cases impossible
    · rintro ⟨impossible, -⟩
      cases impossible

theorem onFiles_eq_ok_iff {change : Files.Change α} {world after : World} {value : α} :
    onFiles change world = .ok value after ↔
      ∃ files, change world.files = .ok value files ∧ after = { world with files } := by
  rw [onFiles_apply]
  cases change world.files with
  | ok given files =>
    constructor
    · intro same
      cases same
      exact ⟨files, rfl, rfl⟩
    · rintro ⟨_, same, rfl⟩
      cases same
      rfl
  | error fault files =>
    constructor
    · intro impossible
      cases impossible
    · rintro ⟨_, impossible, -⟩
      cases impossible

theorem onMachine_eq_ok_iff {run : Template.Run α} {world after : World} {value : α} :
    onMachine run world = .ok value after ↔
      ∃ machine, run world.machine = .ok value machine ∧ after = { world with machine } := by
  rw [onMachine_apply]
  cases run world.machine with
  | ok result machine => simp [eq_comm]
  | error fault machine => simp

theorem onFiles_error {change : Files.Change α} {world after : World} {failure : Failure}
    (failed : onFiles change world = .error failure after) :
    ∃ fault files, change world.files = .error fault files ∧
      failure = .unforeseen fault ∧ after = { world with files } := by
  rw [onFiles_apply] at failed
  cases changed : change world.files with
  | ok given files =>
    rw [changed] at failed
    cases failed
  | error fault files =>
    rw [changed] at failed
    cases failed
    exact ⟨fault, files, rfl, rfl, rfl⟩

/-! ## Acts that leave the files alone -/

theorem sameFiles_askFiles (question : Files.Tree → Except Fault α) :
    Moves SameFiles (askFiles question) := by
  intro world
  rw [askFiles_apply]
  cases question world.files <;> rfl

theorem sameFiles_onMachine (run : Template.Run α) : Moves SameFiles (onMachine run) := by
  intro world
  unfold onMachine
  cases run.run world.machine <;> rfl

theorem sameFiles_lift (result : Except Failure α) : Moves SameFiles (lift result) := by
  intro world
  cases result <;> rfl

theorem sameFiles_fail (fault : Fault) : Moves SameFiles (fail fault : Act α) := .throw _

theorem sameFiles_notify (notice : Notice) : Moves SameFiles (notify notice) :=
  fun _ => rfl

theorem sameFiles_detail (text : String) : Moves SameFiles (detail text) :=
  sameFiles_notify _

theorem sameFiles_machine : Moves SameFiles machine := .bind .get fun _ => .pure _

theorem sameFiles_heap : Moves SameFiles heap := .bind .get fun _ => .pure _

theorem sameFiles_naming {act : Act α} (same : Moves SameFiles act)
    (name : Fault → Failure) : Moves SameFiles (naming name act) := by
  apply Moves.tryCatch same
  intro failure
  cases failure <;> exact .throw _

/-- An act that leaves the files alone fails, or the next one takes over from it. -/
theorem files_bind_cases {β : Type} {act : Act α} (same : Moves SameFiles act)
    (next : α → Act β) (world : World) :
    (left ((act >>= next) world)).files = world.files ∨
      ∃ value after, act world = .ok value after ∧ after.files = world.files ∧
        (act >>= next) world = next value after := by
  cases ended : act world with
  | ok value after =>
    exact .inr ⟨value, after, rfl, same.of_ok ended, bind_apply_of_ok ended⟩
  | error failure after =>
    rw [bind_apply_of_error ended]
    exact .inl (same.of_error ended)

/-- Naming faults changes nothing but the failures without a name. -/
theorem naming_apply (name : Fault → Failure) (act : Act α) (world : World) :
    naming name act world =
      match act world with
      | .ok value after => .ok value after
      | .error (.unforeseen fault) after => .error (name fault) after
      | .error failure after => .error failure after := by
  cases ended : act world with
  | ok value after => exact tryCatch_apply_of_ok ended
  | error failure after =>
    refine (tryCatch_apply_of_error ended).trans ?_
    cases failure <;> rfl

theorem naming_eq_ok_iff {act : Act α} {name : Fault → Failure} {world after : World}
    {value : α} : naming name act world = .ok value after ↔ act world = .ok value after := by
  rw [naming_apply]
  cases act world with
  | ok given left => rfl
  | error failure left => cases failure <;> simp

theorem naming_error {act : Act α} {name : Fault → Failure} {world after : World}
    {failure : Failure} (failed : naming name act world = .error failure after) :
    (∃ fault, act world = .error (.unforeseen fault) after ∧ failure = name fault) ∨
      (act world = .error failure after ∧ failure.isNamed = true) := by
  rw [naming_apply] at failed
  split at failed
  · cases failed
  · next ended =>
    cases failed
    exact .inl ⟨_, ended, rfl⟩
  · next named ended =>
    cases failed
    refine .inr ⟨ended, ?_⟩
    cases failure with
    | unforeseen fault => exact absurd rfl (named fault)
    | config problem => rfl
    | unknownExtension dataFile => rfl
    | uninterpretable dataFile problem => rfl
    | templateLoad template cause => rfl
    | render dataFile cause => rfl

/-! ## Failures of rendering -/

/-- No failure of an act is one of rendering. -/
def NeverRenders (act : Act α) : Prop :=
  ∀ world failure after, act world = .error failure after →
    ∀ dataFile cause, failure ≠ .render dataFile cause

namespace NeverRenders

variable {β : Type}

theorem of_unforeseen {act : Act α}
    (unforeseen : ∀ world failure after, act world = .error failure after →
      ∃ fault, failure = .unforeseen fault) : NeverRenders act := by
  intro world failure after failed dataFile cause
  obtain ⟨fault, rfl⟩ := unforeseen world failure after failed
  simp

theorem pure (value : α) : NeverRenders (Pure.pure value : Act α) :=
  fun _ _ _ failed => by cases failed

theorem throw {failure : Failure} (other : ∀ dataFile cause, failure ≠ .render dataFile cause) :
    NeverRenders (MonadExcept.throw failure : Act α) :=
  fun _ _ _ failed => by
    cases failed
    exact other

theorem bind {act : Act α} {next : α → Act β} (first : NeverRenders act)
    (second : ∀ value, (∃ start middle, act start = .ok value middle) →
      NeverRenders (next value)) : NeverRenders (act >>= next) := by
  intro world failure after failed
  rcases bind_eq_error_iff.mp failed with failed | ⟨value, middle, ended, failed⟩
  · exact first _ _ _ failed
  · exact second value ⟨world, middle, ended⟩ _ _ _ failed

end NeverRenders

theorem neverRenders_askFiles (question : Files.Tree → Except Fault α) :
    NeverRenders (askFiles question) :=
  .of_unforeseen fun _ _ _ failed => (askFiles_error failed).2

theorem neverRenders_onMachine (run : Template.Run α) : NeverRenders (onMachine run) :=
  .of_unforeseen fun _ _ _ => onMachine_error

theorem neverRenders_detail (text : String) : NeverRenders (detail text) :=
  fun _ _ _ failed => by cases failed

theorem neverRenders_lift {result : Except Failure α}
    (other : ∀ failure, result = .error failure →
      ∀ dataFile cause, failure ≠ .render dataFile cause) : NeverRenders (lift result) := by
  cases result with
  | ok value => exact .pure value
  | error failure => exact .throw (other failure rfl)

end Stencil.Act

import Stencil.Proofs.Generation.Listing

/-!
# A walk as a sequence of steps

What a walk has to do is a list of jobs: directories to enter, files to visit, and outputs
to generate.  A step performs the first job, which may leave more jobs in its place.  A
walk that succeeds has performed all jobs, and a walk that fails has stopped at the first
job that fails, with everything before it done and nothing behind it begun.
-/

namespace Stencil.Generation

open Outcome

/-- What is to be done in a walk. -/
inductive Job
  /-- Enter a directory. -/
  | folder (path : Path)
  /-- Make the task of a data file; anything else is passed over. -/
  | file (path : Path)
  /-- Generate one output of a task. -/
  | pair (task : Task) (template output : Path)

namespace Job

/-- What is to be done about an entry of a directory. -/
def ofEntry (entry : Path × Bool) : Job :=
  if entry.2 then .folder entry.1 else .file entry.1

/-- What is to be done for a task. -/
def ofTask (task : Task) : List Job :=
  task.outputs.map fun (template, output) => .pair task template output

end Job

theorem length_parts_child (path : Path) (name : String) :
    (path.child name).parts.length = path.parts.length + 1 := by
  simp [Path.child]

variable [Rendering]

/-- Perform a job; gives the jobs that take its place, and the outputs that were written. -/
def perform (generation : Generation) : Job → Act (List Job × List Path)
  | .folder path => do
    let entries ← Act.askFiles fun files => markedEntries files path
    return (entries.map Job.ofEntry, [])
  | .file path => do
    if ← Act.askFiles fun files => isDataFile files path then
      let task ← generation.taskFor path
      return (Job.ofTask task, [])
    else
      return ([], [])
  | .pair task template output => do
    let isWritten ← task.generateOne generation.engine template output
    return ([], if isWritten then [output] else [])

/-- A job that has been performed. -/
structure Step where
  job : Job
  before : World
  after : World
  outputs : List Path

/--
Jobs are performed one after the other, from a world to another one; some jobs may be left.
-/
inductive Runs (generation : Generation) :
    World → List Job → List Step → World → List Job → Prop
  | stop {world : World} {jobs : List Job} : Runs generation world jobs [] world jobs
  | step {world middle finish : World} {job : Job} {next rest left : List Job}
      {outputs : List Path} {steps : List Step}
      (performed : generation.perform job world = .ok (next, outputs) middle)
      (onward : Runs generation middle (next ++ rest) steps finish left) :
      Runs generation world (job :: rest) (⟨job, world, middle, outputs⟩ :: steps) finish left

/--
Jobs are performed up to the first one that fails.  A directory that lies deeper than a
bound is given up.
-/
def Fails (generation : Generation) (bound : Nat) (world : World) (jobs : List Job)
    (failure : Failure) (after : World) : Prop :=
  ∃ steps before job rest, Runs generation world jobs steps before (job :: rest) ∧
    (generation.perform job before = .error failure after ∨
      ∃ path, job = .folder path ∧ bound ≤ path.parts.length)

variable {generation : Generation} {bound : Nat}

namespace Runs

variable {world middle finish : World} {jobs left later : List Job} {steps more : List Step}

theorem frame (runs : Runs generation world jobs steps finish left) (rest : List Job) :
    Runs generation world (jobs ++ rest) steps finish (left ++ rest) := by
  induction runs with
  | stop => exact .stop
  | step performed _ ih =>
    rw [List.append_assoc] at ih
    exact .step performed ih

theorem trans (first : Runs generation world jobs steps middle left)
    (second : Runs generation middle left more finish later) :
    Runs generation world jobs (steps ++ more) finish later := by
  induction first with
  | stop => exact second
  | step performed _ ih => exact .step performed (ih second)

/-- After a run one more job is performed. -/
theorem concat {job : Job} {next rest : List Job} {outputs : List Path}
    (runs : Runs generation world jobs steps middle (job :: rest))
    (performed : generation.perform job middle = .ok (next, outputs) finish) :
    Runs generation world jobs (steps ++ [⟨job, middle, finish, outputs⟩]) finish
      (next ++ rest) :=
  runs.trans (.step performed .stop)

/-- A single job is performed, and then what it leaves. -/
theorem single {job : Job} {next : List Job} {outputs : List Path}
    (performed : generation.perform job world = .ok (next, outputs) middle)
    (onward : Runs generation middle next steps finish left) :
    Runs generation world [job] (⟨job, world, middle, outputs⟩ :: steps) finish left :=
  .step performed (by rwa [List.append_nil])

/-- Jobs in a row are performed one list after the other. -/
theorem append {others : List Job} (first : Runs generation world jobs steps middle [])
    (second : Runs generation middle others more finish left) :
    Runs generation world (jobs ++ others) (steps ++ more) finish left :=
  (first.frame others).trans second

/-- A run can be interrupted after any of its steps. -/
theorem split {front back : List Step}
    (runs : Runs generation world jobs (front ++ back) finish left) :
    ∃ middle between, Runs generation world jobs front middle between ∧
      Runs generation middle between back finish left := by
  induction front generalizing world jobs with
  | nil => exact ⟨world, jobs, .stop, runs⟩
  | cons step front ih =>
    cases runs with
    | step performed onward =>
      obtain ⟨middle, between, first, second⟩ := ih onward
      exact ⟨middle, between, .step performed first, second⟩

/-- Of two runs from the same start one goes on where the other ends. -/
theorem compare {after : World} {others : List Job}
    (runs : Runs generation world jobs steps finish left)
    (again : Runs generation world jobs more after others) :
    (∃ further, Runs generation finish left further after others ∧
        more = steps ++ further) ∨
      ∃ further, Runs generation after others further finish left ∧
        steps = more ++ further := by
  induction runs generalizing more with
  | stop => exact .inl ⟨more, again, rfl⟩
  | step performed onward ih =>
    cases again with
    | stop => exact .inr ⟨_, .step performed onward, rfl⟩
    | step performedAgain onwardAgain =>
      rw [performed] at performedAgain
      cases performedAgain
      rcases ih onwardAgain with ⟨further, later, rfl⟩ | ⟨further, later, rfl⟩
      · exact .inl ⟨further, later, rfl⟩
      · exact .inr ⟨further, later, rfl⟩

end Runs

namespace Fails

variable {world middle after : World} {jobs others : List Job} {failure : Failure}

theorem frame (fails : Fails generation bound world jobs failure after) (rest : List Job) :
    Fails generation bound world (jobs ++ rest) failure after := by
  obtain ⟨steps, before, job, left, runs, reason⟩ := fails
  exact ⟨steps, before, job, left ++ rest, runs.frame rest, reason⟩

theorem append {steps : List Step} (first : Runs generation world jobs steps middle [])
    (second : Fails generation bound middle others failure after) :
    Fails generation bound world (jobs ++ others) failure after := by
  obtain ⟨more, before, job, left, runs, reason⟩ := second
  exact ⟨steps ++ more, before, job, left, first.append runs, reason⟩

/-- The first job fails. -/
theorem first {job : Job} (failed : generation.perform job world = .error failure after) :
    Fails generation bound world [job] failure after :=
  ⟨[], world, job, [], .stop, .inl failed⟩

theorem single {job : Job} {next : List Job} {outputs : List Path}
    (performed : generation.perform job world = .ok (next, outputs) middle)
    (onward : Fails generation bound middle next failure after) :
    Fails generation bound world [job] failure after := by
  obtain ⟨steps, before, last, left, runs, reason⟩ := onward
  exact ⟨_, before, last, left, runs.single performed, reason⟩

end Fails

/-- An act does what performing jobs does. -/
structure Follows (generation : Generation) (bound : Nat) (act : Act (List Path))
    (jobs : List Job) : Prop where
  ok : ∀ world outputs after, act world = .ok outputs after →
    ∃ steps, Runs generation world jobs steps after [] ∧ outputs = steps.flatMap Step.outputs
  error : ∀ world failure after, act world = .error failure after →
    Fails generation bound world jobs failure after

/-! ## The parts of a walk -/

theorem follows_nil : Follows generation bound (pure []) [] := by
  constructor
  · intro world outputs after ended
    cases ended
    exact ⟨[], .stop, rfl⟩
  · intro world failure after failed
    cases failed

theorem follows_generateAll (task : Task) (pairs : List (Path × Path)) :
    Follows generation bound (task.generateAll generation.engine pairs)
      (pairs.map fun (template, output) => .pair task template output) := by
  induction pairs with
  | nil => exact follows_nil
  | cons pair rest ih =>
    obtain ⟨template, output⟩ := pair
    have performs {world middle : World} {isWritten : Bool}
        (generated : task.generateOne generation.engine template output world =
          .ok isWritten middle) :
        generation.perform (.pair task template output) world =
          .ok ([], if isWritten then [output] else []) middle :=
      bind_apply_of_ok generated
    constructor
    · intro world outputs after ended
      obtain ⟨isWritten, middle, generated, more⟩ := bind_eq_ok_iff.mp ended
      obtain ⟨others, finish, remaining, collected⟩ := bind_eq_ok_iff.mp more
      obtain ⟨steps, runs, othersEq⟩ := ih.ok _ _ _ remaining
      cases collected
      refine ⟨_, .step (performs generated) runs, ?_⟩
      rw [List.flatMap_cons, ← othersEq]
      cases isWritten <;> rfl
    · intro world failure after failed
      rcases bind_eq_error_iff.mp failed with generated | ⟨isWritten, middle, generated, more⟩
      · exact (Fails.first (bind_apply_of_error generated)).frame _
      · rcases bind_eq_error_iff.mp more with remaining | ⟨_, _, _, collected⟩
        · obtain ⟨steps, before, job, left, runs, reason⟩ := ih.error _ _ _ remaining
          exact ⟨_, before, job, left, .step (performs generated) runs, reason⟩
        · cases collected

theorem follows_visit (path : Path) :
    Follows generation bound (generation.visit path) [.file path] := by
  constructor
  · intro world outputs after ended
    obtain ⟨isData, same, asked, more⟩ := bind_eq_ok_iff.mp ended
    cases isData with
    | false =>
      cases more
      exact ⟨_, .step (bind_apply_of_ok asked) .stop, rfl⟩
    | true =>
      obtain ⟨task, made, making, generating⟩ := bind_eq_ok_iff.mp more
      have follows : Follows generation bound _ _ := follows_generateAll task task.outputs
      obtain ⟨steps, runs, outputsEq⟩ := follows.ok _ _ _ generating
      exact ⟨_, .single ((bind_apply_of_ok asked).trans (bind_apply_of_ok making)) runs,
        outputsEq⟩
  · intro world failure after failed
    rcases bind_eq_error_iff.mp failed with asked | ⟨isData, same, asked, more⟩
    · exact .first (bind_apply_of_error asked)
    · cases isData with
      | false => cases more
      | true =>
        rcases bind_eq_error_iff.mp more with making | ⟨task, made, making, generating⟩
        · exact .first ((bind_apply_of_ok asked).trans (bind_apply_of_error making))
        · exact .single ((bind_apply_of_ok asked).trans (bind_apply_of_ok making))
            ((follows_generateAll task task.outputs).error _ _ _ generating)

/-- Acts in a row do what performing their jobs in a row does. -/
theorem follows_mapM {α : Type} {act : α → Act (List Path)} {job : α → Job} (items : List α)
    (each : ∀ item ∈ items, Follows generation bound (act item) [job item]) :
    Follows generation bound (do return (← items.mapM act).flatten) (items.map job) := by
  induction items with
  | nil => exact follows_nil
  | cons item rest ih =>
    have first := each item (List.mem_cons_self ..)
    have others := ih fun other member => each other (List.mem_cons_of_mem _ member)
    rw [List.mapM_cons]
    constructor
    · intro world outputs after ended
      obtain ⟨results, finish, mapped, collected⟩ := bind_eq_ok_iff.mp ended
      obtain ⟨result, middle, done, more⟩ := bind_eq_ok_iff.mp mapped
      obtain ⟨remaining, last, restMapped, together⟩ := bind_eq_ok_iff.mp more
      cases together
      cases collected
      obtain ⟨steps, runs, rfl⟩ := first.ok _ _ _ done
      obtain ⟨moreSteps, moreRuns, outputsEq⟩ :=
        others.ok middle remaining.flatten _ (bind_apply_of_ok restMapped)
      refine ⟨steps ++ moreSteps, runs.append moreRuns, ?_⟩
      rw [List.flatten_cons, outputsEq, List.flatMap_append]
    · intro world failure after failed
      rcases bind_eq_error_iff.mp failed with mapped | ⟨_, _, _, collected⟩
      · rcases bind_eq_error_iff.mp mapped with done | ⟨result, middle, done, more⟩
        · exact (first.error _ _ _ done).frame (rest.map job)
        · obtain ⟨steps, runs, -⟩ := first.ok _ _ _ done
          rcases bind_eq_error_iff.mp more with mapped | ⟨_, _, _, together⟩
          · exact .append runs (others.error _ _ _ (bind_apply_of_error mapped))
          · cases together
      · cases collected

theorem follows_visitBelow (fuel : Nat) (folder : Path)
    (budget : bound ≤ folder.parts.length + fuel) :
    Follows generation bound (visitBelow generation.visit fuel folder) [.folder folder] := by
  induction fuel generalizing folder with
  | zero =>
    constructor
    · intro world outputs after ended
      cases ended
    · intro world failure after _
      exact ⟨[], world, _, [], .stop, .inr ⟨folder, rfl, budget⟩⟩
  | succ fuel ih =>
    have inside {entries : List (Path × Bool)} {world : World}
        (listed : markedEntries world.files folder = .ok entries) :
        Follows generation bound
          (do return (← entries.mapM fun entry =>
            if entry.2 then visitBelow generation.visit fuel entry.1
            else generation.visit entry.1).flatten)
          (entries.map Job.ofEntry) := by
      obtain ⟨trail, place, -, rfl⟩ := markedEntries_eq_ok_iff.mp listed
      apply follows_mapM _
      intro entry member
      obtain ⟨name, -, rfl⟩ := List.mem_map.mp member
      have deeper := length_parts_child folder name
      cases isFolder world.files (folder.child name) with
      | true => exact ih (folder.child name) (by omega)
      | false => exact follows_visit _
    constructor
    · intro world outputs after ended
      obtain ⟨entries, same, asked, more⟩ := bind_eq_ok_iff.mp ended
      obtain ⟨listed, rfl⟩ := Act.askFiles_eq_ok_iff.mp asked
      obtain ⟨steps, runs, outputsEq⟩ := (inside listed).ok _ _ _ more
      exact ⟨_, .single (bind_apply_of_ok asked) runs, outputsEq⟩
    · intro world failure after failed
      rcases bind_eq_error_iff.mp failed with asked | ⟨entries, same, asked, more⟩
      · exact .first (bind_apply_of_error asked)
      · obtain ⟨listed, rfl⟩ := Act.askFiles_eq_ok_iff.mp asked
        exact .single (bind_apply_of_ok asked) ((inside listed).error _ _ _ more)

end Stencil.Generation

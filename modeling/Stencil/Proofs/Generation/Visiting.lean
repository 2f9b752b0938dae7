import Stencil.Proofs.Generation.Order

/-!
# A walk, visit by visit

All outputs of a data file are generated right after its task has been made, before anything
else is done.  So a walk is a sequence of directories that are entered and of visits, each
of which is complete before the next one begins.
-/

namespace Stencil.Generation

open Outcome

variable {generation : Generation} {world made middle finish : World} {path extra : Path}
  {job : Job} {jobs next rest : List Job} {steps rendering : List Step} {outputs : List Path}

/-! ## Jobs about one data file -/

/-- The data file that a job is about. -/
def Job.source? : Job → Option Path
  | .folder _ => none
  | .file path => some path
  | .pair task _ _ => some task.source

/-- Whether a job is not about a certain data file. -/
def Job.isBeside (extra : Path) (job : Job) : Bool :=
  job.source? != some extra

/-- Whether a step is not about a certain data file. -/
def Step.isBeside (extra : Path) (step : Step) : Bool :=
  step.job.isBeside extra

theorem Job.isBeside_iff : job.isBeside extra = true ↔ job.source? ≠ some extra := by
  simp [isBeside]

/-- A job is to generate an output of a task. -/
def Job.IsPairOf (task : Task) (job : Job) : Prop :=
  ∃ template output, job = .pair task template output

theorem Job.isPairOf_of_mem_ofTask {task : Task} (member : job ∈ ofTask task) :
    job.IsPairOf task := by
  rcases List.mem_map.mp member with ⟨⟨template, output⟩, -, rfl⟩
  exact ⟨template, output, rfl⟩

/-! ## Visits -/

/-- Outputs leave no jobs. -/
theorem next_of_perform_pair {task : Task} {template output : Path}
    (performed : generation.perform (.pair task template output) world =
      .ok (next, outputs) middle) :
    next = [] ∧ ∃ isWritten, outputs = (if isWritten then [output] else []) ∧
      task.generateOne generation.engine template output world = .ok isWritten middle := by
  rcases bind_eq_ok_iff.mp performed with ⟨isWritten, _, generated, given⟩
  cases given
  exact ⟨rfl, isWritten, rfl, generated⟩

/-- Outputs are generated before the jobs that come behind them. -/
theorem Runs.of_pairs {task : Task} {pairs : List (Path × Path)}
    (runs : Runs generation world
      (pairs.map (fun (template, output) => .pair task template output) ++ rest)
      steps finish []) :
    ∃ rendering back middle, steps = rendering ++ back ∧
      Runs generation world (pairs.map fun (template, output) => .pair task template output)
        rendering middle [] ∧
      task.generateAll generation.engine pairs world =
        .ok (rendering.flatMap Step.outputs) middle ∧
      Runs generation middle rest back finish [] := by
  induction pairs generalizing world steps with
  | nil => exact ⟨[], steps, world, rfl, .stop, rfl, runs⟩
  | cons pair pairs ih =>
    rcases pair with ⟨template, output⟩
    cases runs with
    | step performed onward =>
      rcases next_of_perform_pair performed with ⟨rfl, isWritten, rfl, generated⟩
      rcases ih onward with ⟨rendering, back, middle, rfl, rendered, generatedAll, behind⟩
      refine ⟨_ :: rendering, back, middle, rfl, .step performed rendered, ?_, behind⟩
      unfold Task.generateAll
      rw [bind_apply_of_ok generated, bind_apply_of_ok generatedAll]
      cases isWritten <;> rfl

/-- Steps for the outputs of a task are about nothing else. -/
theorem Runs.isPairOf {task : Task} (pairs : ∀ job ∈ jobs, job.IsPairOf task)
    (runs : Runs generation world jobs steps finish rest) :
    ∀ step ∈ steps, step.job.IsPairOf task := by
  induction runs with
  | stop => simp
  | step performed _ ih =>
    have isPair := pairs _ (List.mem_cons_self ..)
    rcases isPair with ⟨template, output, rfl⟩
    rcases next_of_perform_pair performed with ⟨rfl, -⟩
    have others := ih fun job member => pairs job (List.mem_cons_of_mem _ member)
    exact List.forall_mem_cons.mpr ⟨⟨template, output, rfl⟩, others⟩

/-- A file is visited when its task has been made and the outputs have been generated. -/
theorem visit_of_runs
    (performed : generation.perform (.file path) world = .ok (next, outputs) made)
    (rendered : Runs generation made next rendering middle []) :
    ∃ given, generation.visit path world = .ok given middle := by
  rcases bind_eq_ok_iff.mp performed with ⟨isData, same, asked, more⟩
  unfold visit
  rw [bind_apply_of_ok asked]
  cases isData with
  | false =>
    cases more
    cases rendered
    exact ⟨[], rfl⟩
  | true =>
    rcases bind_eq_ok_iff.mp more with ⟨task, _, making, given⟩
    cases given
    rw [Job.ofTask, ← List.append_nil (List.map _ _)] at rendered
    rcases rendered.of_pairs with ⟨_, _, _, -, -, generated, nothing⟩
    cases nothing
    exact ⟨_, (bind_apply_of_ok making).trans generated⟩

/-- All that is done in a visit is about the file that is visited. -/
theorem source?_of_visit (readers : generation.readers.IsOwn)
    (performed : generation.perform (.file path) world = .ok (next, outputs) made)
    (rendered : Runs generation made next rendering middle []) :
    ∀ step ∈ rendering, step.job.source? = some path := by
  rcases perform_file_ok readers performed with
    ⟨-, -, ⟨-, rfl⟩ | ⟨-, task, -, isTask, rfl⟩⟩
  · cases rendered
    simp
  · intro step member
    rcases rendered.isPairOf (fun _ => Job.isPairOf_of_mem_ofTask) step member with
      ⟨template, output, job⟩
    rw [job, Job.source?, isTask.source]

/-! ## Walks -/

/-- Directories are entered and files are visited, one after the other, until none is left. -/
inductive Walks (generation : Generation) :
    World → List Job → List Step → World → Prop
  | stop {world : World} : Walks generation world [] [] world
  | folder {world middle finish : World} {path : Path} {next rest : List Job}
      {outputs : List Path} {steps : List Step}
      (performed : generation.perform (.folder path) world = .ok (next, outputs) middle)
      (onward : Walks generation middle (next ++ rest) steps finish) :
      Walks generation world (.folder path :: rest)
        (⟨.folder path, world, middle, outputs⟩ :: steps) finish
  | file {world made middle finish : World} {path : Path} {next rest : List Job}
      {outputs : List Path} {rendering steps : List Step}
      (performed : generation.perform (.file path) world = .ok (next, outputs) made)
      (rendered : Runs generation made next rendering middle [])
      (onward : Walks generation middle rest steps finish) :
      Walks generation world (.file path :: rest)
        (⟨.file path, world, made, outputs⟩ :: (rendering ++ steps)) finish

/-- A complete run that begins with no outputs goes on visit by visit. -/
theorem Runs.walks (readers : generation.readers.IsOwn)
    (others : ∀ job ∈ jobs, job.pair? = none)
    (runs : Runs generation world jobs steps finish []) :
    Walks generation world jobs steps finish := by
  -- The induction is on how many steps are left, since a visit takes several at once.
  generalize count : steps.length = left
  induction left using Nat.strong_induction_on generalizing world jobs steps with
  | _ left ih =>
    subst count
    cases runs with
    | stop => exact .stop
    | @step world middle _ job next rest _ outputs steps performed onward =>
      have behind : ∀ later ∈ rest, later.pair? = none := fun later member =>
        others later (List.mem_cons_of_mem _ member)
      cases job with
      | folder path =>
        refine .folder performed (ih _ (Nat.lt_succ_self _) ?_ onward rfl)
        rcases perform_folder_ok performed with ⟨-, -, _, _, -, rfl⟩
        intro later member
        rcases List.mem_append.mp member with new | old
        · rcases List.mem_map.mp new with ⟨name, -, rfl⟩
          unfold Job.ofEntry
          split <;> rfl
        · exact behind later old
      | file path =>
        have isPairs : ∃ (task : Task) (pairs : List (Path × Path)), next =
            pairs.map fun (template, output) => .pair task template output := by
          rcases perform_file_ok readers performed with
            ⟨-, -, ⟨-, rfl⟩ | ⟨-, task, -, -, rfl⟩⟩
          · exact ⟨⟨0, .here, [], .here, .none, 0⟩, [], rfl⟩
          · exact ⟨task, task.outputs, rfl⟩
        rcases isPairs with ⟨task, pairs, rfl⟩
        rcases onward.of_pairs with ⟨rendering, back, between, rfl, rendered, -, later⟩
        refine .file performed rendered (ih _ ?_ behind later rfl)
        rw [List.length_cons, List.length_append]
        omega
      | pair task template output => cases others _ (List.mem_cons_self ..)

end Stencil.Generation

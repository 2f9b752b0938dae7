import Stencil.Proofs.Files.Footprint
import Stencil.Proofs.Generation.Effects

/-!
# What holds throughout a walk

Trees only evolve during a walk.  Every output belongs to a data file that the walk has
reached and to a template that was listed for it, and the files stay within the footprint
of these outputs.  The limit for the depth of directories is never reached, because outputs
add no directories below the one that they are put into.
-/

namespace Stencil.Generation

open Outcome
open Files (Evolves Footprint LeadsInto OpenFootprint Overwritten Place Tree)

variable {generation : Generation} {world middle finish after : World}
  {jobs next rest left : List Job} {steps done more : List Step} {outputs : List Path}

/-! ## Invariants of runs -/

section WithRendering

variable [rendering : Rendering]

/-- What every step keeps is kept by a run, together with what has been done. -/
theorem Runs.keeps (invariant : List Step → World → List Job → Prop)
    (kept : ∀ {done world job rest next outputs middle},
      invariant done world (job :: rest) →
      generation.perform job world = .ok (next, outputs) middle →
      invariant (done ++ [⟨job, world, middle, outputs⟩]) middle (next ++ rest))
    (runs : Runs generation world jobs steps finish left)
    (start : invariant done world jobs) : invariant (done ++ steps) finish left := by
  induction runs generalizing done with
  | stop => rwa [List.append_nil]
  | step performed _ ih =>
    have later := ih (kept start performed)
    rwa [List.append_assoc] at later

/-- What is to be done is done or is left. -/
theorem Runs.attended (runs : Runs generation world jobs steps finish left) {job : Job}
    (member : job ∈ jobs) : job ∈ left ∨ ∃ step ∈ steps, step.job = job := by
  induction runs with
  | stop => exact .inl member
  | step _ _ ih =>
    rcases List.mem_cons.mp member with rfl | later
    · exact .inr ⟨_, List.mem_cons_self .., rfl⟩
    · rcases ih (List.mem_append_right _ later) with isLeft | ⟨step, done, same⟩
      · exact .inl isLeft
      · exact .inr ⟨step, List.mem_cons_of_mem _ done, same⟩

/-- Steps have been performed, and what they leave to be done is done or is left. -/
def Thorough (generation : Generation) (steps : List Step) (left : List Job) : Prop :=
  ∀ step ∈ steps, ∃ next,
    generation.perform step.job step.before = .ok (next, step.outputs) step.after ∧
    ∀ job ∈ next, job ∈ left ∨ ∃ other ∈ steps, other.job = job

theorem Runs.thorough (runs : Runs generation world jobs steps finish left) :
    Thorough generation steps left := by
  induction runs with
  | stop => exact fun step member => nomatch member
  | @step _ _ _ _ next _ _ _ _ performed onward ih =>
    intro step member
    rcases List.mem_cons.mp member with rfl | later
    · refine ⟨next, performed, fun job created => ?_⟩
      rcases onward.attended (List.mem_append_left _ created) with isLeft | ⟨other, done, same⟩
      · exact .inl isLeft
      · exact .inr ⟨other, List.mem_cons_of_mem _ done, same⟩
    · obtain ⟨created, known, covered⟩ := ih step later
      refine ⟨created, known, fun job among => ?_⟩
      rcases covered job among with isLeft | ⟨other, done, same⟩
      · exact .inl isLeft
      · exact .inr ⟨other, List.mem_cons_of_mem _ done, same⟩

/-- Trees only evolve. -/
theorem Runs.evolves [rendering.IsQuiet] (readers : generation.readers.IsOwn)
    (sound : world.files.Sound)
    (runs : Runs generation world jobs steps finish left) :
    Evolves world.files finish.files := by
  induction runs with
  | stop => exact .refl sound
  | step performed _ ih =>
    have first := evolves_of_perform readers sound performed
    exact first.trans (ih first.sound)

end WithRendering

/-! ## Where outputs come from -/

/-- A data file has been reached when the files were these. -/
def Reached (done : List Step) (dataFile : Path) (files : Tree) : Prop :=
  isDataFile files dataFile = .ok true ∧
    ∃ step ∈ done, step.job = .file dataFile ∧ step.before.files = files

/-- A task has been made of its data file. -/
def HasMade (generation : Generation) (done : List Step) (task : Task) : Prop :=
  ∃ step ∈ done, step.job = .file task.source ∧
    generation.taskFor task.source step.before = .ok task step.after

/-- An output belongs to a data file that has been reached. -/
def Job.Belongs (generation : Generation) (done : List Step) : Job → Prop
  | .folder _ => True
  | .file _ => True
  | .pair task template output =>
    ∃ files, Reached done task.source files ∧ HasMade generation done task ∧
      generation.IsTask task.source files task ∧ (template, output) ∈ task.outputs

/--
The name of an output: that of a data file that has been reached, with a template that was
listed for it.
-/
def OutputName (generation : Generation) (done : List Step) (name : String) : Prop :=
  ∃ dataFile files templates template, Reached done dataFile files ∧
    listTemplates files generation.templateFolder = .ok templates ∧ template ∈ templates ∧
    name = Naming.outputName dataFile template

theorem Reached.mono {dataFile : Path} {files : Tree} (reached : Reached done dataFile files)
    (included : done ⊆ more) : Reached more dataFile files := by
  obtain ⟨isData, step, member, rest⟩ := reached
  exact ⟨isData, step, included member, rest⟩

theorem HasMade.mono {task : Task} (made : HasMade generation done task)
    (included : done ⊆ more) : HasMade generation more task := by
  obtain ⟨step, member, rest⟩ := made
  exact ⟨step, included member, rest⟩

theorem Job.Belongs.mono {job : Job} (belongs : job.Belongs generation done)
    (included : done ⊆ more) : job.Belongs generation more := by
  cases job with
  | folder path => trivial
  | file path => trivial
  | pair task template output =>
    obtain ⟨files, reached, made, isTask, member⟩ := belongs
    exact ⟨files, reached.mono included, made.mono included, isTask, member⟩

theorem OutputName.mono {name : String} (isName : OutputName generation done name)
    (included : done ⊆ more) : OutputName generation more name := by
  obtain ⟨dataFile, files, templates, template, reached, rest⟩ := isName
  exact ⟨dataFile, files, templates, template, reached.mono included, rest⟩

/-- Each template of a task is rendered, wherever it stands among them. -/
theorem mem_distinct {template : Path} {templates : List Path} :
    template ∈ Task.distinct templates ↔ template ∈ templates := by
  induction templates with
  | nil => rfl
  | cons first rest ih =>
    simp only [Task.distinct, List.mem_cons, List.mem_filter, ih, bne_iff_ne, ne_eq]
    by_cases same : template = first <;> simp [same]

theorem mem_outputs {task : Task} {template output : Path} :
    (template, output) ∈ task.outputs ↔
      template ∈ task.templates ∧ output = Naming.outputPath task.source template task.folder := by
  unfold Task.outputs
  rw [List.mem_map]
  constructor
  · rintro ⟨listed, member, same⟩
    cases same
    exact ⟨mem_distinct.mp member, rfl⟩
  · rintro ⟨member, rfl⟩
    exact ⟨template, mem_distinct.mpr member, rfl⟩

/-- An output that belongs to a data file is named for it, in the directory of outputs. -/
theorem Job.Belongs.output {task : Task} {template output : Path}
    (belongs : (Job.pair task template output).Belongs generation done) :
    output = Naming.outputPath task.source template generation.outputFolder ∧
      OutputName generation done output.name := by
  obtain ⟨files, reached, -, isTask, member⟩ := belongs
  obtain ⟨listed, rfl⟩ := mem_outputs.mp member
  rw [isTask.folder]
  exact ⟨rfl, task.source, files, task.templates, template, reached, isTask.templates, listed,
    Naming.name_outputPath ..⟩

/-- All outputs belong to data files, and the files are within the footprint of the outputs. -/
structure Accounted (generation : Generation) (start : Tree) (done : List Step)
    (world : World) (jobs : List Job) : Prop where
  performed : ∀ step ∈ done, step.job.Belongs generation done
  pending : ∀ job ∈ jobs, job.Belongs generation done
  isOpen : OpenFootprint generation.outputFolder (OutputName generation done) start world.files

namespace Accounted

variable {start : Tree} {job : Job}

/-- What is left of the jobs, and what a step adds to what has been done. -/
private theorem step (accounted : Accounted generation start done world (job :: rest))
    (isOpen : OpenFootprint generation.outputFolder
      (OutputName generation (done ++ [⟨job, world, middle, outputs⟩])) start middle.files)
    (added : ∀ later ∈ next,
      later.Belongs generation (done ++ [⟨job, world, middle, outputs⟩])) :
    Accounted generation start (done ++ [⟨job, world, middle, outputs⟩]) middle
      (next ++ rest) := by
  have included : done ⊆ done ++ [⟨job, world, middle, outputs⟩] :=
    List.subset_append_left ..
  constructor
  · intro step member
    rcases List.mem_append.mp member with earlier | last
    · exact (accounted.performed step earlier).mono included
    · rw [List.mem_singleton.mp last]
      exact (accounted.pending job (List.mem_cons_self ..)).mono included
  · intro later member
    rcases List.mem_append.mp member with new | old
    · exact added later new
    · exact (accounted.pending later (List.mem_cons_of_mem _ old)).mono included
  · exact isOpen

/-- Every step keeps account. -/
theorem perform [rendering : Rendering] [rendering.IsQuiet]
    (readers : generation.readers.IsOwn)
    (accounted : Accounted generation start done world (job :: rest))
    (performed : generation.perform job world = .ok (next, outputs) middle) :
    Accounted generation start (done ++ [⟨job, world, middle, outputs⟩]) middle
      (next ++ rest) := by
  have isOpen := accounted.isOpen.weaken fun _ isName =>
    isName.mono (List.subset_append_left done [⟨job, world, middle, outputs⟩])
  cases job with
  | folder path =>
    obtain ⟨rfl, -, trail, place, -, rfl⟩ := perform_folder_ok performed
    apply accounted.step isOpen
    intro later member
    obtain ⟨name, -, rfl⟩ := List.mem_map.mp member
    unfold Job.ofEntry
    split <;> trivial
  | file path =>
    obtain ⟨files, -, ⟨-, rfl⟩ | ⟨isData, task, making, isTask, rfl⟩⟩ :=
      perform_file_ok readers performed
    · exact accounted.step (files ▸ isOpen) fun later member => nomatch member
    · refine accounted.step (files ▸ isOpen) fun later member => ?_
      obtain ⟨⟨template, output⟩, listed, rfl⟩ := List.mem_map.mp member
      obtain rfl := isTask.source
      exact ⟨world.files, ⟨isData, _, List.mem_concat_self, rfl, rfl⟩,
        ⟨_, List.mem_concat_self, rfl, making⟩, isTask, listed⟩
  | pair task template output =>
    have belongs := accounted.pending _ (List.mem_cons_self ..)
    obtain ⟨outputEq, isName⟩ := belongs.output
    have inside : output.parent = generation.outputFolder := by
      rw [outputEq, Naming.parent_outputPath]
    obtain ⟨rfl, ⟨-, files, -⟩ | ⟨-, produces⟩⟩ :=
      perform_pair_ok accounted.isOpen.sound performed
    · exact accounted.step (files ▸ isOpen) fun later member => nomatch member
    · obtain ⟨bytes, -, written⟩ := produces
      rw [inside] at written
      exact accounted.step
        (isOpen.written inside (isName.mono (List.subset_append_left ..)) written)
        fun later member => nomatch member

end Accounted

/-- A run from a directory keeps account. -/
theorem Runs.accounted [rendering : Rendering] [rendering.IsQuiet] {root : Path} {start : Tree}
    (readers : generation.readers.IsOwn)
    (grown : Files.Grown generation.outputFolder start world.files)
    (runs : Runs generation world [.folder root] steps finish left) :
    Accounted generation start steps finish left := by
  have begun : Accounted generation start [] world [.folder root] :=
    ⟨by simp, by simp [Job.Belongs], grown.openFootprint⟩
  exact runs.keeps (Accounted generation start) (fun accounted => accounted.perform readers)
    begun

/-! ## How deep a walk gets -/

/-- The path that leads from a root on by names. -/
def pathBelow (root : Path) (names : List String) : Path :=
  ⟨root.root, root.parts ++ names⟩

theorem pathBelow_nil (root : Path) : pathBelow root [] = root := by
  simp [pathBelow]

theorem pathBelow_inj {root : Path} {names others : List String} :
    pathBelow root names = pathBelow root others ↔ names = others := by
  simp [pathBelow]

theorem pathBelow_concat (root : Path) (names : List String) (name : String) :
    pathBelow root (names ++ [name]) = (pathBelow root names).child name := by
  simp [pathBelow, Path.child]

/--
A directory that is yet to be entered has been found below a place; the path to it led
there at that time.
-/
def Job.Opens (root : Path) (place : Place) (files : Tree) : Job → Prop
  | .folder path => ∃ names trail earlier, path = pathBelow root names ∧
      LeadsInto earlier path trail (place ++ names) ∧ Evolves earlier files
  | .file _ => True
  | .pair .. => True

theorem Job.Opens.evolve {root : Path} {place : Place} {before after : Tree} {job : Job}
    (opens : job.Opens root place before) (evolves : Evolves before after) :
    job.Opens root place after := by
  cases job with
  | folder path =>
    obtain ⟨names, trail, earlier, pathEq, leads, evolved⟩ := opens
    exact ⟨names, trail, earlier, pathEq, leads, evolved.trans evolves⟩
  | file path => trivial
  | pair task template output => trivial

section WithRendering

variable [rendering : Rendering]

/-- Directories are found in the directories that are entered. -/
theorem opens_of_perform [rendering.IsQuiet] {root : Path} {place : Place} {job : Job}
    (readers : generation.readers.IsOwn)
    (sound : world.files.Sound)
    (opens : job.Opens root place world.files)
    (performed : generation.perform job world = .ok (next, outputs) after) :
    ∀ later ∈ next, later.Opens root place after.files := by
  intro later member
  cases job with
  | folder path =>
    obtain ⟨rfl, -, trail, folder, leads, rfl⟩ := perform_folder_ok performed
    obtain ⟨names, front, earlier, pathEq, led, evolved⟩ := opens
    obtain ⟨-, rfl⟩ := led.evolve evolved leads
    obtain ⟨name, listed, rfl⟩ := List.mem_map.mp member
    have isName := isName_of_mem_childNames sound listed
    cases isFolder : isFolder after.files (path.child name) with
    | false => trivial
    | true =>
      have there := (isFolder_child leads isName).mp isFolder
      have child := leads.child_of_there true isName there (by simp)
      refine ⟨names ++ [name], trail, after.files, ?_, ?_, .refl sound⟩
      · rw [pathEq, pathBelow_concat]
      · rwa [← List.append_assoc]
  | file path =>
    obtain ⟨-, -, ⟨-, rfl⟩ | ⟨-, task, -, -, rfl⟩⟩ := perform_file_ok readers performed
    · cases member
    · obtain ⟨listed, -, rfl⟩ := List.mem_map.mp member
      trivial
  | pair task template output =>
    obtain ⟨rfl, -⟩ := perform_pair_ok sound performed
    cases member

theorem Runs.opens [rendering.IsQuiet] {root : Path} {place : Place}
    (readers : generation.readers.IsOwn)
    (sound : world.files.Sound)
    (runs : Runs generation world jobs steps finish left)
    (start : ∀ job ∈ jobs, job.Opens root place world.files) :
    ∀ job ∈ left, job.Opens root place finish.files := by
  induction runs with
  | stop => exact start
  | step performed _ ih =>
    have evolves := evolves_of_perform readers sound performed
    apply ih evolves.sound
    intro job member
    rcases List.mem_append.mp member with new | old
    · exact opens_of_perform readers sound (start _ (List.mem_cons_self ..)) performed job new
    · exact (start job (List.mem_cons_of_mem _ old)).evolve evolves

/-- The limit for the depth of directories is never reached. -/
theorem Runs.depth_lt [rendering.IsQuiet] {root path : Path}
    (readers : generation.readers.IsOwn)
    (sound : world.files.Sound)
    (runs : Runs generation world [.folder root] steps finish (.folder path :: rest)) :
    path.parts.length <
      root.parts.length + depthLimit world.files generation.outputFolder := by
  have again := runs
  cases again with
  | stop =>
    unfold depthLimit
    omega
  | step performed _ =>
    -- The first step shows where the walk starts.
    obtain ⟨-, -, trail, place, leads, -⟩ := perform_folder_ok performed
    have started : ∀ job ∈ [Job.folder root], job.Opens root place world.files := by
      intro job member
      rw [List.mem_singleton.mp member]
      exact ⟨[], trail, world.files, (pathBelow_nil root).symm, by rwa [List.append_nil],
        .refl sound⟩
    obtain ⟨names, _, earlier, rfl, led, evolves⟩ :=
      runs.opens readers sound started _ (List.mem_cons_self ..)
    have there : earlier.at? (place ++ names) = some .directory :=
      (Files.Leads.entry_eq led).symm
    have still := evolves.directory _ there
    obtain ⟨grown, growth, overwritten⟩ :=
      (runs.accounted readers (.refl sound)).isOpen.footprint
    have short := growth.length_le (overwritten.at?_base still (by simp))
    rw [List.length_append] at short
    unfold depthLimit
    simp only [pathBelow, List.length_append]
    omega

/-! ## Walks -/

theorem walk_apply (generation : Generation) (root : Path) (world : World) :
    generation.walk root world =
      visitBelow generation.visit (depthLimit world.files generation.outputFolder) root world :=
  bind_apply_of_ok (get_apply world)

/-- A walk that succeeds has performed all jobs. -/
theorem walk_ok {root : Path} (walked : generation.walk root world = .ok outputs after) :
    ∃ steps, Runs generation world [.folder root] steps after [] ∧
      outputs = steps.flatMap Step.outputs := by
  rw [walk_apply] at walked
  exact (follows_visitBelow _ root (Nat.le_refl _)).ok _ _ _ walked

theorem walk_fails {root : Path} {failure : Failure}
    (failed : generation.walk root world = .error failure after) :
    Fails generation (root.parts.length + depthLimit world.files generation.outputFolder) world
      [.folder root] failure after := by
  rw [walk_apply] at failed
  exact (follows_visitBelow _ root (Nat.le_refl _)).error _ _ _ failed

/-- A walk that fails has stopped at a job that fails. -/
theorem walk_stops [rendering.IsQuiet] {root : Path} {failure : Failure}
    (readers : generation.readers.IsOwn)
    (sound : world.files.Sound)
    (failed : generation.walk root world = .error failure after) :
    ∃ steps before job rest, Runs generation world [.folder root] steps before (job :: rest) ∧
      generation.perform job before = .error failure after := by
  obtain ⟨steps, before, job, rest, runs, performed | ⟨path, rfl, deep⟩⟩ := walk_fails failed
  · exact ⟨steps, before, job, rest, runs, performed⟩
  · exact absurd (runs.depth_lt readers sound) (Nat.not_lt.mpr deep)

/-- A walk ends where a complete run does. -/
theorem Runs.walk_eq [rendering.IsQuiet] {root : Path} (readers : generation.readers.IsOwn)
    (sound : world.files.Sound)
    (runs : Runs generation world [.folder root] steps after []) :
    generation.walk root world = .ok (steps.flatMap Step.outputs) after := by
  cases walked : generation.walk root world with
  | ok outputs finish =>
    obtain ⟨more, again, rfl⟩ := walk_ok walked
    rcases runs.compare again with ⟨further, onward, rfl⟩ | ⟨further, onward, rfl⟩ <;>
    · cases onward
      rw [List.append_nil]
  | error failure finish =>
    obtain ⟨more, before, job, rest, again, failed⟩ := walk_stops readers sound walked
    rcases runs.compare again with ⟨further, onward, -⟩ | ⟨further, onward, -⟩
    · cases onward
    · cases onward with
      | step performed =>
        rw [failed] at performed
        cases performed

/-- A walk fails where a run comes to a job that fails. -/
theorem Runs.walk_eq_error [rendering.IsQuiet] {root : Path} {job : Job} {before : World}
    {failure : Failure}
    (readers : generation.readers.IsOwn)
    (sound : world.files.Sound)
    (runs : Runs generation world [.folder root] steps before (job :: rest))
    (failed : generation.perform job before = .error failure after) :
    generation.walk root world = .error failure after := by
  cases walked : generation.walk root world with
  | ok outputs finish =>
    obtain ⟨more, again, rfl⟩ := walk_ok walked
    rcases runs.compare again with ⟨further, onward, -⟩ | ⟨further, onward, -⟩
    · cases onward with
      | step performed =>
        rw [failed] at performed
        cases performed
    · cases onward
  | error other finish =>
    obtain ⟨more, stopped, last, remaining, again, failedAgain⟩ :=
      walk_stops readers sound walked
    rcases runs.compare again with ⟨further, onward, -⟩ | ⟨further, onward, -⟩
    · cases onward with
      | stop =>
        rw [failed] at failedAgain
        cases failedAgain
        rfl
      | step performed =>
        rw [failed] at performed
        cases performed
    · cases onward with
      | stop =>
        rw [failed] at failedAgain
        cases failedAgain
        rfl
      | step performed =>
        rw [failedAgain] at performed
        cases performed

end WithRendering

end Stencil.Generation

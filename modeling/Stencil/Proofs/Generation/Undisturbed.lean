import Stencil.Proofs.Generation.Sources

/-!
# Walks that outputs do not disturb

Where the outputs lie outside of the directories of data files and templates, and none of
them takes the place of a link on the way there, a walk finds these directories as they were
when it began.  The pairs that a complete walk attends to are then those of the data files
and the templates at that time.
-/

namespace Stencil.Generation

open Outcome
open Files (Alike Evolves Grown LeadsInto Overwritten Place Tree)

/-! ## Layouts -/

/--
The directories of a walk are found in a tree, and the outputs of the data files and
templates there stay clear of them.
-/
structure Layout (generation : Generation) (root : Path) (made : Tree) where
  dataTrail : List Place
  data : Place
  templateTrail : List Place
  templates : Place
  sound : made.Sound
  readers : generation.readers.IsOwn
  leadsData : LeadsInto made root dataTrail data
  leadsTemplates : LeadsInto made generation.templateFolder templateTrail templates
  /-- Outputs lie outside. -/
  apart : ∀ front output, LeadsInto made generation.outputFolder front output →
    ¬data <+: output ∧ ¬templates <+: output
  /-- No output takes the place of a link on the way. -/
  beside : ∀ front output, LeadsInto made generation.outputFolder front output →
    ∀ pair ∈ pairsIn made root generation.templateFolder data templates,
      output ++ [Naming.outputName pair.1 pair.2] ∉ dataTrail ∧
        output ++ [Naming.outputName pair.1 pair.2] ∉ templateTrail
  /-- If the directory of the outputs is not there, it cannot be made. -/
  settled : ∀ grown front output, Grown generation.outputFolder made grown →
    LeadsInto grown generation.outputFolder front output →
    LeadsInto made generation.outputFolder front output
  /-- No output counts as fresh. -/
  recent : 0 ≤ generation.timestamp

variable {generation : Generation} {root : Path} {made : Tree}

namespace Layout

/-- The pairs to be attended to. -/
def pairs (layout : Layout generation root made) : List (Path × Path) :=
  pairsIn made root generation.templateFolder layout.data layout.templates

/-- The name of the output of a pair. -/
def IsOutput (layout : Layout generation root made) (name : String) : Prop :=
  ∃ pair ∈ layout.pairs, name = Naming.outputName pair.1 pair.2

/-- Only outputs have been written, and as soon as there are some they can be found. -/
structure Steady (layout : Layout generation root made) (current : Tree) : Prop where
  overwritten : Overwritten generation.outputFolder layout.IsOutput made current
  way : Alike made current ∨
    ∃ front output, LeadsInto current generation.outputFolder front output

/-- What is to be done belongs to the tree that the walk began with. -/
def Fits (layout : Layout generation root made) : Job → Prop
  | .folder path => ∃ names, path = pathBelow root names ∧
      LeadsInto made path layout.dataTrail (layout.data ++ names)
  | .file path => ∃ names name entry, path = (pathBelow root names).child name ∧
      LeadsInto made (pathBelow root names) layout.dataTrail (layout.data ++ names) ∧
      made.at? (layout.data ++ names ++ [name]) = some entry
  | .pair task template output => (task.source, template) ∈ layout.pairs ∧
      output = Naming.outputPath task.source template generation.outputFolder ∧
      task.timestamp = generation.timestamp ∧ task.mode = generation.fileMode

variable (layout : Layout generation root made) {current after : Tree} {world : World}
  {next rest left : List Job} {outputs : List Path} {steps : List Step}

theorem directory_data : made.at? layout.data = some .directory :=
  (Files.Leads.entry_eq layout.leadsData).symm

theorem directory_templates : made.at? layout.templates = some .directory :=
  (Files.Leads.entry_eq layout.leadsTemplates).symm

/-! ## What a steady tree shows -/

namespace Steady

variable {layout}

theorem sound (steady : layout.Steady current) : current.Sound := steady.overwritten.sound

theorem at?_data (steady : layout.Steady current) (names : List String) :
    current.at? (layout.data ++ names) = made.at? (layout.data ++ names) :=
  steady.overwritten.at?_below layout.directory_data
    (fun front output leads => (layout.apart front output leads).1) names

theorem at?_templates (steady : layout.Steady current) (names : List String) :
    current.at? (layout.templates ++ names) = made.at? (layout.templates ++ names) :=
  steady.overwritten.at?_below layout.directory_templates
    (fun front output leads => (layout.apart front output leads).2) names

theorem leadsData (steady : layout.Steady current) {path : Path} {place : Place}
    (leads : LeadsInto made path layout.dataTrail place) :
    LeadsInto current path layout.dataTrail place := by
  apply steady.overwritten.leadsInto_current leads
  intro front output name around isOutput
  obtain ⟨pair, member, rfl⟩ := isOutput
  exact (layout.beside front output around pair member).1

theorem leadsTemplates (steady : layout.Steady current) :
    LeadsInto current generation.templateFolder layout.templateTrail layout.templates := by
  refine steady.overwritten.leadsInto_current layout.leadsTemplates
    fun front output name around isOutput => ?_
  obtain ⟨pair, member, rfl⟩ := isOutput
  exact (layout.beside front output around pair member).2

theorem childNames_data (steady : layout.Steady current) (names : List String) :
    childNames current (layout.data ++ names) = childNames made (layout.data ++ names) := by
  apply childNames_eq layout.sound steady.sound
  intro name
  rw [List.append_assoc]
  exact steady.at?_data _

/-- A data file is told from other entries as it has been. -/
theorem isDataFile_iff (steady : layout.Steady current) {names : List String} {name : String}
    {entry : Files.Entry} {answer : Bool}
    (leads : LeadsInto made (pathBelow root names) layout.dataTrail (layout.data ++ names))
    (there : made.at? (layout.data ++ names ++ [name]) = some entry)
    (asked : isDataFile current ((pathBelow root names).child name) = .ok answer) :
    answer = true ↔ ∃ content, entry = .file content := by
  have isName := layout.sound.named _ _ _ there
  rw [isDataFile_child (steady.leadsData leads) isName asked, List.append_assoc,
    steady.at?_data, ← List.append_assoc, there]
  simp

/-- The same templates are listed. -/
theorem listTemplates_ok (steady : layout.Steady current) {templates : List Path}
    (listed : listTemplates current generation.templateFolder = .ok templates) :
    templates = templatesIn made generation.templateFolder layout.templates := by
  rcases Generation.listTemplates_ok listed with ⟨trail, place, leads, rfl⟩ | ⟨missing, -⟩
  · obtain ⟨-, rfl⟩ := leads.unique steady.leadsTemplates
    rw [templatesIn, childNames_eq layout.sound steady.sound fun name => steady.at?_templates _]
  · exact absurd ⟨_, _, steady.leadsTemplates⟩ missing

/-- When an output can be written the directory of the outputs has been there. -/
theorem leadsOutput (steady : layout.Steady current) {front : List Place} {output : Place}
    (leads : LeadsInto (current.withDirectories generation.outputFolder)
      generation.outputFolder front output) :
    LeadsInto current generation.outputFolder front output := by
  rcases steady.way with alike | ⟨other, place, around⟩
  · have grown := (alike.grown generation.outputFolder).trans
      (alike.sound.grown_withDirectories generation.outputFolder)
    exact LeadsInto.mono alike.here (fun place entry there => (alike.at?_eq place).trans there)
      (layout.settled _ front output grown leads)
  · rwa [around.withDirectories_eq] at leads

/-- An output that is written keeps the tree steady. -/
theorem written {output : Path} {mode : Int} {bytes : ByteArray}
    (steady : layout.Steady current)
    (inside : output.parent = generation.outputFolder)
    (isOutput : layout.IsOutput output.name)
    (isWritten : Files.Change.Written output mode bytes
      (current.withDirectories generation.outputFolder) after) : layout.Steady after := by
  obtain ⟨trail, folder, content, replaceable, beside, -, -, -, placed⟩ := isWritten
  have leads := steady.leadsOutput (inside ▸ replaceable.leads)
  rw [leads.withDirectories_eq] at replaceable placed
  exact ⟨steady.overwritten.placed replaceable inside isOutput placed,
    .inr ⟨trail, folder, inside ▸ placed.leadsInto replaceable beside⟩⟩

end Steady

/-! ## Steps -/

/-- The outputs that a job is to give. -/
def outputsOf (generation : Generation) (job : Job) : List Path :=
  (job.pair?.map fun pair =>
    Naming.outputPath pair.1 pair.2 generation.outputFolder).toList

/-- Entering a directory gives a job for each entry that has been there. -/
theorem perform_folder {names : List String} (steady : layout.Steady world.files)
    {later : World}
    (leads : LeadsInto made (pathBelow root names) layout.dataTrail (layout.data ++ names))
    (performed : generation.perform (.folder (pathBelow root names)) world =
      .ok (next, outputs) later) :
    later = world ∧ outputs = [] ∧
      next = (childNames made (layout.data ++ names)).map fun name =>
        Job.ofEntry ((pathBelow root names).child name,
          isFolder world.files ((pathBelow root names).child name)) := by
  obtain ⟨rfl, rfl, trail, place, around, rfl⟩ := perform_folder_ok performed
  obtain ⟨-, rfl⟩ := around.unique (steady.leadsData leads)
  exact ⟨rfl, rfl, by rw [steady.childNames_data]⟩

/-- Directories are told from other entries as they have been. -/
theorem isFolder_iff {names : List String} {name : String}
    (steady : layout.Steady world.files)
    (leads : LeadsInto made (pathBelow root names) layout.dataTrail (layout.data ++ names))
    (listed : name ∈ childNames made (layout.data ++ names)) :
    isFolder world.files ((pathBelow root names).child name) = true ↔
      made.at? (layout.data ++ (names ++ [name])) = some .directory := by
  rw [isFolder_child (steady.leadsData leads) (isName_of_mem_childNames layout.sound listed),
    List.append_assoc, steady.at?_data]

/-- A data file is told from other entries as it has been, and its task has all templates. -/
theorem perform_file {names : List String} {name : String} {entry : Files.Entry}
    {later : World}
    (steady : layout.Steady world.files)
    (leads : LeadsInto made (pathBelow root names) layout.dataTrail (layout.data ++ names))
    (there : made.at? (layout.data ++ names ++ [name]) = some entry)
    (performed : generation.perform (.file ((pathBelow root names).child name)) world =
      .ok (next, outputs) later) :
    later.files = world.files ∧ outputs = [] ∧
      (((¬∃ content, entry = .file content) ∧ next = []) ∨
        ((∃ content, entry = .file content) ∧ ∃ task,
          generation.IsTask ((pathBelow root names).child name) world.files task ∧
          task.templates = templatesIn made generation.templateFolder layout.templates ∧
          next = Job.ofTask task)) := by
  obtain ⟨files, rfl, found⟩ := perform_file_ok layout.readers performed
  refine ⟨files, rfl, ?_⟩
  rcases found with ⟨asked, rfl⟩ | ⟨asked, task, -, isTask, rfl⟩
  · have isData := steady.isDataFile_iff leads there asked
    exact .inl ⟨fun isFile => Bool.false_ne_true (isData.mpr isFile), rfl⟩
  · have isData := steady.isDataFile_iff leads there asked
    exact .inr ⟨isData.mp rfl, task, isTask, steady.listTemplates_ok isTask.templates, rfl⟩

/-- An output is written, since none counts as fresh. -/
theorem perform_pair {task : Task} {template output : Path} {later : World}
    (steady : layout.Steady world.files)
    (fits : layout.Fits (.pair task template output))
    (performed : generation.perform (.pair task template output) world =
      .ok (next, outputs) later) :
    next = [] ∧ outputs = [output] ∧
      task.Produces generation.engine template output world later := by
  obtain ⟨-, -, timestamp, -⟩ := fits
  obtain ⟨nextEq, ⟨-, -, fresh⟩ | ⟨outputsEq, produces⟩⟩ :=
    perform_pair_ok steady.sound performed
  · have old := (Task.isFresh_ok fresh).2 rfl
    rw [timestamp] at old
    exact absurd layout.recent (Int.not_le.mpr old)
  · exact ⟨nextEq, outputsEq, produces⟩

/-- Every step keeps the tree steady, and what it leaves to be done belongs to the tree. -/
theorem perform {job : Job} {later : World} (steady : layout.Steady world.files)
    (fits : layout.Fits job)
    (performed : generation.perform job world = .ok (next, outputs) later) :
    layout.Steady later.files ∧ outputs = outputsOf generation job ∧
      ∀ other ∈ next, layout.Fits other := by
  cases job with
  | folder path =>
    obtain ⟨names, rfl, leads⟩ := fits
    obtain ⟨rfl, rfl, rfl⟩ := layout.perform_folder steady leads performed
    refine ⟨steady, rfl, fun other member => ?_⟩
    obtain ⟨name, listed, rfl⟩ := List.mem_map.mp member
    have isName := isName_of_mem_childNames layout.sound listed
    have isFolder := layout.isFolder_iff steady leads listed
    obtain ⟨entry, there⟩ := (mem_childNames layout.sound).mp listed
    cases known : Generation.isFolder later.files ((pathBelow root names).child name) with
    | false => exact ⟨names, name, entry, rfl, leads, there⟩
    | true =>
      have directory := isFolder.mp known
      rw [← List.append_assoc] at directory
      have child := leads.child_of_there true isName directory (by simp)
      rw [List.append_assoc] at child
      exact ⟨names ++ [name], (pathBelow_concat root names name).symm, child⟩
  | file path =>
    obtain ⟨names, name, entry, rfl, leads, there⟩ := fits
    obtain ⟨files, rfl, ⟨-, rfl⟩ | ⟨⟨content, rfl⟩, task, isTask, templates, rfl⟩⟩ :=
      layout.perform_file steady leads there performed
    · exact ⟨files ▸ steady, rfl, fun other member => nomatch member⟩
    · refine ⟨files ▸ steady, rfl, fun other member => ?_⟩
      obtain ⟨⟨template, output⟩, listed, rfl⟩ := List.mem_map.mp member
      obtain ⟨among, rfl⟩ := mem_outputs.mp listed
      rw [templates] at among
      refine ⟨mem_pairsIn.mpr ⟨?_, among⟩, by rw [isTask.folder], isTask.timestamp, isTask.mode⟩
      rw [isTask.source, mem_sourcesBelow]
      refine ⟨names ++ [name], content, (pathBelow_concat root names name).symm, ?_⟩
      rwa [← List.append_assoc]
  | pair task template output =>
    obtain ⟨rfl, rfl, bytes, -, written⟩ := layout.perform_pair steady fits performed
    obtain ⟨among, rfl, -, -⟩ := fits
    rw [Naming.parent_outputPath] at written
    exact ⟨steady.written (Naming.parent_outputPath ..)
      ⟨_, among, Naming.name_outputPath ..⟩ written, rfl, fun other member => nomatch member⟩

/-! ## Runs -/

/-- Every step of a walk has found a steady tree and a job that belongs to it. -/
def Recorded (step : Step) : Prop :=
  layout.Steady step.before.files ∧ layout.Fits step.job ∧
    step.outputs = outputsOf generation step.job

variable {finish : World}

theorem recorded (runs : Runs generation world [.folder root] steps finish left)
    (start : world.files = made) : ∀ step ∈ steps, layout.Recorded step := by
  have begun : (∀ step ∈ ([] : List Step), layout.Recorded step) ∧
      layout.Steady world.files ∧ ∀ job ∈ [Job.folder root], layout.Fits job := by
    refine ⟨by simp, ?_, fun job member => ?_⟩
    · rw [start]
      exact ⟨.refl layout.sound, .inl (.refl layout.sound)⟩
    · rw [List.mem_singleton.mp member]
      exact ⟨[], (pathBelow_nil root).symm, by simpa using layout.leadsData⟩
  have kept := runs.keeps (fun done world jobs => (∀ step ∈ done, layout.Recorded step) ∧
    layout.Steady world.files ∧ ∀ job ∈ jobs, layout.Fits job)
    (fun ⟨records, steady, fits⟩ performed => ?_) begun
  · exact kept.1
  · obtain ⟨still, outputsEq, created⟩ :=
      layout.perform steady (fits _ (List.mem_cons_self ..)) performed
    refine ⟨fun step member => ?_, still, fun job member => ?_⟩
    · rcases List.mem_append.mp member with earlier | last
      · exact records step earlier
      · rw [List.mem_singleton.mp last]
        exact ⟨steady, fits _ (List.mem_cons_self ..), outputsEq⟩
    · rcases List.mem_append.mp member with new | old
      · exact created job new
      · exact fits job (List.mem_cons_of_mem _ old)

/-- Every directory below the root is entered. -/
theorem entered (runs : Runs generation world [.folder root] steps finish [])
    (start : world.files = made) (names : List String)
    (there : made.at? (layout.data ++ names) = some .directory) :
    ∃ step ∈ steps, step.job = .folder (pathBelow root names) ∧
      LeadsInto made (pathBelow root names) layout.dataTrail (layout.data ++ names) := by
  induction names using List.reverseRecOn with
  | nil =>
    rw [pathBelow_nil, List.append_nil]
    rcases runs.attended (List.mem_singleton_self _) with impossible | ⟨step, member, same⟩
    · cases impossible
    · exact ⟨step, member, same, layout.leadsData⟩
  | append_singleton names name ih =>
    have among : made.at? (layout.data ++ names ++ [name]) = some .directory := by
      rwa [List.append_assoc]
    obtain ⟨step, member, same, leads⟩ := ih (layout.sound.closed _ _ _ among)
    have isName := layout.sound.named _ _ _ among
    have listed := (mem_childNames layout.sound).mpr ⟨_, among⟩
    obtain ⟨steady, -, -⟩ := layout.recorded runs start step member
    obtain ⟨next, performed, covered⟩ := runs.thorough step member
    rw [same] at performed
    obtain ⟨-, -, rfl⟩ := layout.perform_folder steady leads performed
    have child := leads.child_of_there true isName among (by simp)
    rw [← pathBelow_concat, List.append_assoc] at child
    have created := covered _ (List.mem_map_of_mem listed)
    rw [(layout.isFolder_iff steady leads listed).mpr there, ← pathBelow_concat] at created
    rcases created with impossible | ⟨other, done, otherEq⟩
    · cases impossible
    · exact ⟨other, done, otherEq, child⟩

/-- Every pair is attended to. -/
theorem attended (runs : Runs generation world [.folder root] steps finish [])
    (start : world.files = made) {pair : Path × Path} (member : pair ∈ layout.pairs) :
    pair ∈ pairsOf steps := by
  obtain ⟨dataFile, template⟩ := pair
  obtain ⟨isSource, isTemplate⟩ := mem_pairsIn.mp member
  obtain ⟨names, content, rfl, there⟩ := mem_sourcesBelow.mp isSource
  obtain ⟨names, name, rfl⟩ : ∃ front last, names = front ++ [last] := by
    rcases List.eq_nil_or_concat names with rfl | ⟨front, last, rfl⟩
    · rw [List.append_nil, layout.directory_data] at there
      cases there
    · exact ⟨front, last, List.concat_eq_append⟩
  have among : made.at? (layout.data ++ names ++ [name]) = some (.file content) := by
    rwa [List.append_assoc]
  have listed := (mem_childNames layout.sound).mpr ⟨_, among⟩
  -- The directory around the data file is entered, which gives a job for the data file.
  obtain ⟨step, entered, same, leads⟩ :=
    layout.entered runs start names (layout.sound.closed _ _ _ among)
  obtain ⟨steady, -, -⟩ := layout.recorded runs start step entered
  obtain ⟨next, performed, covered⟩ := runs.thorough step entered
  rw [same] at performed
  obtain ⟨-, -, rfl⟩ := layout.perform_folder steady leads performed
  have noFolder : isFolder step.before.files ((pathBelow root names).child name) = false := by
    rw [Bool.eq_false_iff, ne_eq, layout.isFolder_iff steady leads listed, there]
    simp
  have created := covered _ (List.mem_map_of_mem listed)
  rw [noFolder] at created
  obtain ⟨visit, visited, visitEq⟩ := created.resolve_left (List.not_mem_nil)
  -- The data file is one, which gives a job for each template.
  obtain ⟨visitSteady, -, -⟩ := layout.recorded runs start visit visited
  obtain ⟨outputJobs, visiting, following⟩ := runs.thorough visit visited
  rw [visitEq] at visiting
  obtain ⟨-, -, ⟨noFile, -⟩ | ⟨-, task, isTask, templates, rfl⟩⟩ :=
    layout.perform_file visitSteady leads among visiting
  · exact absurd ⟨content, rfl⟩ noFile
  · have output := mem_outputs.mpr ⟨templates ▸ isTemplate, rfl⟩
    obtain ⟨last, done, lastEq⟩ :=
      (following _ (List.mem_map_of_mem output)).resolve_left (List.not_mem_nil)
    refine List.mem_filterMap.mpr ⟨last, done, ?_⟩
    rw [lastEq, Job.pair?, isTask.source, pathBelow_concat]

/-- A complete walk attends to the pairs that there were when it began, in their order. -/
theorem pairsOf_eq (runs : Runs generation world [.folder root] steps finish [])
    (start : world.files = made) : pairsOf steps = layout.pairs := by
  have ordered := runs.ordered layout.readers (start ▸ layout.sound)
  unfold Ordered at ordered
  rw [List.map_nil, List.append_nil, List.pairwise_map] at ordered
  refine eq_of_mem_iff_of_sorted ordered (sorted_pairsIn layout.sound) fun pair =>
    ⟨fun member => ?_, layout.attended runs start⟩
  obtain ⟨step, done, isPair⟩ := List.mem_filterMap.mp member
  obtain ⟨-, fits, -⟩ := layout.recorded runs start step done
  cases job : step.job with
  | folder path => simp [job, Job.pair?] at isPair
  | file path => simp [job, Job.pair?] at isPair
  | pair task template output =>
    rw [job] at fits isPair
    cases isPair
    exact fits.1

/-- A complete walk gives an output for each pair. -/
theorem outputs_eq (runs : Runs generation world [.folder root] steps finish [])
    (start : world.files = made) :
    steps.flatMap Step.outputs = layout.pairs.map fun pair =>
      Naming.outputPath pair.1 pair.2 generation.outputFolder := by
  rw [← layout.pairsOf_eq runs start, pairsOf, List.map_filterMap]
  rw [List.filterMap_eq_flatMap_toList]
  exact List.flatMap_congr fun step member => (layout.recorded runs start step member).2.2

end Layout

end Stencil.Generation

import Stencil.Proofs.Files.Addition
import Stencil.Proofs.Generation.Undisturbed
import Stencil.Proofs.Generation.Visiting
import Stencil.Proofs.Task.Rendering

/-!
# Walks with one more data file

A walk over one more data file does what the walk without it does, and visits this file in
between.  As long as such a visit leaves what later tasks are made with as it was, every
step for another data file gives the same, on the same machine.
-/

namespace Stencil.Generation

open Outcome
open Files (AgreesOff Avoids IsName LeadsInto OneMore Place SameAt Tree)

/-! ## What a walk does not touch -/

namespace Layout

variable {generation : Generation} {root : Path} {made : Tree}
  {layout : Layout generation root made} {current opened : Tree} {world finish : World}
  {jobs left : List Job} {steps : List Step}

/-- The places that are touched when the outputs are written. -/
def Touches (layout : Layout generation root made) (place : Place) : Prop :=
  ∃ pair ∈ layout.pairs,
    Files.Touches made (Naming.outputPath pair.1 pair.2 generation.outputFolder) place

/-- No path below the directory of the templates looks at what is touched. -/
def Unread (layout : Layout generation root made) : Prop :=
  ∀ names, ".." ∉ names →
    Avoids made layout.Touches (pathBelow generation.templateFolder names)

/-- Wherever a walk gets, its tree is steady and what it has to do belongs to it. -/
theorem keeps (runs : Runs generation world jobs steps finish left)
    (steady : layout.Steady world.files)
    (fits : ∀ job ∈ jobs, layout.Fits job) :
    layout.Steady finish.files ∧ ∀ job ∈ left, layout.Fits job := by
  induction runs with
  | stop => exact ⟨steady, fits⟩
  | step performed _ ih =>
    obtain ⟨still, -, created⟩ :=
      layout.perform steady (fits _ (List.mem_cons_self ..)) performed
    refine ih still fun job member => ?_
    rcases List.mem_append.mp member with new | old
    · exact created job new
    · exact fits job (List.mem_cons_of_mem _ old)

namespace Steady

/-- Nothing is changed but what is touched. -/
theorem agrees (steady : layout.Steady current) : AgreesOff layout.Touches made current := by
  refine steady.overwritten.agreesOff fun trail folder name leads isOutput => ?_
  obtain ⟨pair, member, rfl⟩ := isOutput
  refine ⟨pair, member, .inl ⟨trail, folder, ?_, ?_⟩⟩
  · rwa [Naming.parent_outputPath]
  · rw [Naming.name_outputPath]

/-- Nothing else is changed either while an output is being written. -/
theorem agrees_opened (steady : layout.Steady current) {task : Task} {template output : Path}
    {spare : Files.Change.Spare} {trail : List Place} {folder : Place}
    (fits : layout.Fits (.pair task template output))
    (leads : LeadsInto current generation.outputFolder trail folder)
    (started : Files.Change.startFile output current = .ok spare opened) :
    AgreesOff layout.Touches made opened := by
  obtain ⟨among, rfl, -, -⟩ := fits
  have inside : LeadsInto current
      (Naming.outputPath task.source template generation.outputFolder).parent trail folder := by
    rwa [Naming.parent_outputPath]
  have writing := Files.Change.agrees_of_startFile steady.sound inside started
  refine ⟨writing.sound, writing.here.trans steady.overwritten.here, fun place clear => ?_⟩
  rw [writing.at?_eq place fun touches => clear ⟨_, among, ?_⟩, steady.agrees.at?_eq place clear]
  exact touches.mono steady.overwritten.here.symm steady.overwritten.leadsInto_base

/-- A data file that was there shows what it did. -/
theorem walk_eq (steady : layout.Steady current) {names : List String} {name : String}
    {content : Files.FileContent}
    (leads : LeadsInto made (pathBelow root names) layout.dataTrail (layout.data ++ names))
    (there : made.at? (layout.data ++ names ++ [name]) = some (.file content))
    (follow : Bool) :
    current.walk follow ((pathBelow root names).child name) =
      .ok ⟨layout.data ++ names ++ [name], some (.file content)⟩ := by
  have still : current.at? (layout.data ++ names ++ [name]) = some (.file content) := by
    rw [List.append_assoc, steady.at?_data, ← List.append_assoc, there]
  have isName := layout.sound.named _ _ _ there
  exact ((steady.leadsData leads).child_of_there follow isName still (by simp)).walk_eq

end Steady

/-- Templates show what they did where nothing else is changed. -/
theorem Unread.sameBelow (unread : layout.Unread)
    (agrees : AgreesOff layout.Touches made current) :
    SameBelow made current generation.templateFolder := fun names straight =>
  AgreesOff.sameAt layout.sound (.refl layout.sound) agrees (unread names straight)

/-- An output has what its template gives in the tree that the walk began with. -/
theorem yields_of_pair (layout : Layout generation root made) (unread : layout.Unread)
    (directory : generation.engine.directory = generation.templateFolder)
    {task : Task} {template output : Path} {next : List Job} {outputs : List Path}
    (steady : layout.Steady world.files)
    (fits : layout.Fits (.pair task template output))
    (performed : generation.perform (.pair task template output) world =
      .ok (next, outputs) finish) :
    ∃ bytes last, task.Gives generation.engine template output world bytes ∧
      task.Yields generation.engine template made made world.machine bytes last ∧
      finish.machine = last.reclaim world.machine := by
  obtain ⟨-, rfl, _, -, trail, folder, _, replaceable, -⟩ :=
    layout.perform_pair steady fits performed
  obtain ⟨-, isWritten, same, generated⟩ := next_of_perform_pair performed
  cases isWritten with
  | false => cases same
  | true =>
    obtain ⟨spare, opened, bytes, last, started, yields, machine⟩ :=
      Task.generateOne_machine generated
    -- The directory of the outputs is there, since the output could be written.
    have leads := replaceable.leads
    rw [show output.parent = generation.outputFolder by
      obtain ⟨-, rfl, -⟩ := fits
      rw [Naming.parent_outputPath]] at leads
    have agreesOpened := steady.agrees_opened fits (steady.leadsOutput leads) started
    have back {current : Tree} (agrees : AgreesOff layout.Touches made current) :
        SameBelow current made generation.engine.directory := by
      rw [directory]
      exact fun names straight => (unread.sameBelow agrees names straight).symm
    exact ⟨bytes, last, Task.gives_iff.mpr ⟨spare, opened, last, started, yields⟩,
      yields.transfer (back steady.agrees) (back agreesOpened), machine⟩

end Layout

/-! ## One more data file -/

variable {generation : Generation} {root extra path : Path} {left right : Tree}
  {layout : Layout generation root left} {layoutAlso : Layout generation root right}
  {names inside : List String} {name : String}
  {world other after later finish : World} {job : Job}
  {jobs jobsAlso next nextAlso rest : List Job} {steps stepsAlso : List Step}
  {outputs outputsAlso : List Path}

/--
A generation finds another tree with one more data file, and the same templates; what it
writes is read by no template.
-/
structure Extends (layout : Layout generation root left)
    (layoutAlso : Layout generation root right) (names : List String) : Prop where
  more : OneMore left right (layout.data ++ names)
  templates : SameBelow left right generation.templateFolder
  unread : layout.Unread
  unreadAlso : layoutAlso.Unread
  directory : generation.engine.directory = generation.templateFolder

namespace Extends

/-- The directory of the data files is the same. -/
theorem data_eq (ext : Extends layout layoutAlso names) :
    layoutAlso.dataTrail = layout.dataTrail ∧ layoutAlso.data = layout.data := by
  obtain ⟨trails, places⟩ := layoutAlso.leadsData.unique (ext.more.leadsInto layout.leadsData)
  exact ⟨trails, places⟩

/-- Directories below it are found as before. -/
theorem leadsAlso (ext : Extends layout layoutAlso names)
    (leads : LeadsInto left (pathBelow root inside) layout.dataTrail (layout.data ++ inside)) :
    LeadsInto right (pathBelow root inside) layoutAlso.dataTrail (layoutAlso.data ++ inside) := by
  rw [ext.data_eq.1, ext.data_eq.2]
  exact ext.more.leadsInto leads

/-- The names in a directory are the same, but for the data file. -/
theorem mem_childNames (ext : Extends layout layoutAlso names) :
    name ∈ childNames left (layout.data ++ inside) ↔
      name ∈ childNames right (layout.data ++ inside) ∧ inside ++ [name] ≠ names := by
  rw [Generation.mem_childNames layout.sound, Generation.mem_childNames layoutAlso.sound]
  have place : layout.data ++ inside ++ [name] = layout.data ++ names ↔
      inside ++ [name] = names := by simp
  constructor
  · rintro ⟨entry, there⟩
    refine ⟨⟨entry, ext.more.kept there⟩, fun same => ?_⟩
    rw [place.mpr same, ext.more.absent] at there
    cases there
  · rintro ⟨⟨entry, there⟩, beside⟩
    exact ⟨entry, by rw [← ext.more.at?_eq (mt place.mp beside), there]⟩

/-- Entering a directory leaves the same jobs, but for the data file. -/
theorem folder (ext : Extends layout layoutAlso names)
    (steady : layout.Steady world.files) (steadyAlso : layoutAlso.Steady other.files)
    (fits : layout.Fits (.folder path))
    (performed : generation.perform (.folder path) world = .ok (next, outputs) after)
    (performedAlso : generation.perform (.folder path) other =
      .ok (nextAlso, outputsAlso) later) :
    after = world ∧ later = other ∧ outputsAlso = outputs ∧
      next = nextAlso.filter (Job.isBeside (pathBelow root names)) := by
  obtain ⟨inside, rfl, leads⟩ := fits
  have leadsAlso := ext.leadsAlso leads
  obtain ⟨rfl, rfl, rfl⟩ := layout.perform_folder steady leads performed
  obtain ⟨rfl, rfl, rfl⟩ := layoutAlso.perform_folder steadyAlso leadsAlso performedAlso
  refine ⟨rfl, rfl, rfl, ?_⟩
  have listed {name : String} (member : name ∈ childNames left (layout.data ++ inside)) :
      name ∈ childNames right (layoutAlso.data ++ inside) := by
    rw [ext.data_eq.2]
    exact (ext.mem_childNames.mp member).1
  have folders {name : String} (member : name ∈ childNames left (layout.data ++ inside)) :
      isFolder later.files ((pathBelow root inside).child name) =
        isFolder after.files ((pathBelow root inside).child name) := by
    rw [Bool.eq_iff_iff, layout.isFolder_iff steady leads member,
      layoutAlso.isFolder_iff steadyAlso leadsAlso (listed member), ext.data_eq.2,
      ext.more.directory_iff]
  -- The job for a name is about the data file exactly if the name leads to it.
  have beside {name : String} (member : name ∈ childNames right (layout.data ++ inside)) :
      (Job.ofEntry ((pathBelow root inside).child name,
          isFolder later.files ((pathBelow root inside).child name))).isBeside
        (pathBelow root names) = true ↔ inside ++ [name] ≠ names := by
    unfold Job.ofEntry
    split
    · next isFolder =>
      refine iff_of_true rfl fun same => ?_
      rw [← ext.data_eq.2] at member
      have directory := (layoutAlso.isFolder_iff steadyAlso leadsAlso member).mp isFolder
      obtain ⟨content, present⟩ := ext.more.present
      rw [same, ext.data_eq.2, present] at directory
      cases directory
    · rw [← pathBelow_concat]
      simp [Job.isBeside, Job.source?, pathBelow_inj]
  have names_eq : childNames left (layout.data ++ inside) =
      (childNames right (layout.data ++ inside)).filter fun name =>
        (Job.ofEntry ((pathBelow root inside).child name,
          isFolder later.files ((pathBelow root inside).child name))).isBeside
            (pathBelow root names) := by
    refine (sorted_childNames layout.sound).eq_of_mem_iff
      ((sorted_childNames layoutAlso.sound).filter _) fun name => ?_
    rw [ext.mem_childNames, List.mem_filter]
    exact and_congr_right fun member => (beside member).symm
  rw [ext.data_eq.2, List.filter_map]
  refine Eq.trans ?_ (congrArg (List.map _) names_eq)
  refine List.map_congr_left fun name member => ?_
  exact congrArg (fun isFolder => Job.ofEntry (_, isFolder)) (folders member).symm

/-- Templates are the same wherever the two walks get. -/
theorem sameBelow (ext : Extends layout layoutAlso names) {current currentAlso : Tree}
    (agrees : AgreesOff layout.Touches left current)
    (agreesAlso : AgreesOff layoutAlso.Touches right currentAlso) :
    SameBelow current currentAlso generation.templateFolder := fun inside straight =>
  ((ext.unread.sameBelow agrees inside straight).symm.trans
    (ext.templates inside straight)).trans
    (ext.unreadAlso.sameBelow agreesAlso inside straight)

/-- The tasks of other data files are the same, made on machines that are the same. -/
theorem file (ext : Extends layout layoutAlso names)
    (steady : layout.Steady world.files) (steadyAlso : layoutAlso.Steady other.files)
    (fits : layout.Fits (.file path))
    (reclaimed :
      other.machine.reclaim generation.start = world.machine.reclaim generation.start)
    (performed : generation.perform (.file path) world = .ok (next, outputs) after)
    (performedAlso :
      generation.perform (.file path) other = .ok (nextAlso, outputsAlso) later) :
    outputsAlso = outputs ∧ nextAlso = next ∧
      (next = [] ∧ after = world ∧ later = other ∨
        later.machine = after.machine ∧ ∃ task, next = Job.ofTask task) := by
  have readers := layout.readers
  obtain ⟨inside, name, entry, rfl, leads, there⟩ := fits
  have leadsAlso := ext.leadsAlso leads
  have thereAlso : right.at? (layoutAlso.data ++ inside ++ [name]) = some entry := by
    rw [ext.data_eq.2]
    exact ext.more.kept there
  obtain ⟨isData, begun, asked, more⟩ := bind_eq_ok_iff.mp performed
  obtain ⟨known, rfl⟩ := Act.askFiles_eq_ok_iff.mp asked
  obtain ⟨isDataAlso, begunAlso, askedAlso, moreAlso⟩ := bind_eq_ok_iff.mp performedAlso
  obtain ⟨knownAlso, rfl⟩ := Act.askFiles_eq_ok_iff.mp askedAlso
  have isFile := steady.isDataFile_iff leads there known
  have isFileAlso := steadyAlso.isDataFile_iff leadsAlso thereAlso knownAlso
  obtain rfl : isDataAlso = isData := by rw [Bool.eq_iff_iff, isFile, isFileAlso]
  cases isDataAlso with
  | false =>
    cases more
    cases moreAlso
    exact ⟨rfl, rfl, .inl ⟨rfl, rfl, rfl⟩⟩
  | true =>
    obtain ⟨content, rfl⟩ := isFile.mp rfl
    have same : SameAt begun.files begunAlso.files ((pathBelow root inside).child name) := by
      intro follow
      rw [steady.walk_eq leads there, steadyAlso.walk_eq leadsAlso thereAlso, ext.data_eq.2]
    obtain ⟨task, made, making, given⟩ := bind_eq_ok_iff.mp more
    cases given
    obtain ⟨taskAlso, madeAlso, makingAlso, givenAlso⟩ := bind_eq_ok_iff.mp moreAlso
    cases givenAlso
    obtain ⟨_, _, reclaiming, making⟩ := bind_eq_ok_iff.mp making
    cases reclaiming
    obtain ⟨_, _, reclaimingAlso, makingAlso⟩ := bind_eq_ok_iff.mp makingAlso
    cases reclaimingAlso
    have templates := ext.sameBelow steady.agrees steadyAlso.agrees
    have blind := blind_makeTask readers steady.sound steadyAlso.sound templates.sameIn same
    obtain ⟨rfl, machines⟩ := Act.Blind.same_machine (by exact blind)
      (heedless_makeTask readers _) (by exact reclaimed) making makingAlso
    exact ⟨rfl, rfl, .inr ⟨machines, _, rfl⟩⟩

end Extends

/-! ## Steps that give the same -/

/-- Steps for the same job, which gives the same in both. -/
structure SameStep (generation : Generation) (first second : Step) : Prop where
  job : second.job = first.job
  outputs : second.outputs = first.outputs
  gives : ∀ task template output bytes, first.job = .pair task template output →
    task.Gives generation.engine template output first.before bytes →
    task.Gives generation.engine template output second.before bytes

/-- What is no output gives nothing. -/
theorem SameStep.of_none (none : job.pair? = none) (same : outputsAlso = outputs) :
    SameStep generation ⟨job, world, after, outputs⟩ ⟨job, other, later, outputsAlso⟩ :=
  ⟨rfl, same, fun task template output bytes isPair => by
    obtain rfl : job = .pair task template output := isPair
    cases none⟩

namespace Extends

/-- Outputs are rendered on the same machine from the same templates. -/
theorem pair (ext : Extends layout layoutAlso names) {task : Task} {template output : Path}
    (steady : layout.Steady world.files) (steadyAlso : layoutAlso.Steady other.files)
    (fits : layout.Fits (.pair task template output))
    (fitsAlso : layoutAlso.Fits (.pair task template output))
    (machine : other.machine = world.machine)
    (performed : generation.perform (.pair task template output) world =
      .ok (next, outputs) after)
    (performedAlso : generation.perform (.pair task template output) other =
      .ok (nextAlso, outputsAlso) later) :
    later.machine = after.machine ∧
      SameStep generation ⟨.pair task template output, world, after, outputs⟩
        ⟨.pair task template output, other, later, outputsAlso⟩ := by
  obtain ⟨bytes, last, gives, yields, machineEq⟩ :=
    layout.yields_of_pair ext.unread ext.directory steady fits performed
  obtain ⟨bytesAlso, lastAlso, givesAlso, yieldsAlso, machineAlsoEq⟩ :=
    layoutAlso.yields_of_pair ext.unreadAlso ext.directory steadyAlso fitsAlso performedAlso
  have templates := ext.templates
  rw [← ext.directory] at templates
  rw [machine] at yieldsAlso machineAlsoEq
  obtain ⟨rfl, rfl⟩ := (yields.transfer templates templates).unique yieldsAlso
  refine ⟨machineAlsoEq.trans machineEq.symm, rfl, ?_, ?_⟩
  · obtain ⟨-, rfl, -⟩ := layout.perform_pair steady fits performed
    obtain ⟨-, rfl, -⟩ := layoutAlso.perform_pair steadyAlso fitsAlso performedAlso
    rfl
  · rintro _ _ _ any ⟨⟩ again
    obtain rfl := gives.unique again
    exact givesAlso

/-- All outputs of a task are rendered alike. -/
theorem rendered (ext : Extends layout layoutAlso names) {task : Task}
    (steady : layout.Steady world.files) (steadyAlso : layoutAlso.Steady other.files)
    (fits : ∀ job ∈ jobs, layout.Fits job) (fitsAlso : ∀ job ∈ jobs, layoutAlso.Fits job)
    (pairs : ∀ job ∈ jobs, job.IsPairOf task)
    (machine : other.machine = world.machine)
    (runs : Runs generation world jobs steps after [])
    (runsAlso : Runs generation other jobs stepsAlso later []) :
    later.machine = after.machine ∧ List.Forall₂ (SameStep generation) steps stepsAlso := by
  generalize left : ([] : List Job) = none at runs
  induction runs generalizing other stepsAlso with
  | stop =>
    subst left
    cases runsAlso
    exact ⟨machine, .nil⟩
  | step performed _ ih =>
    cases runsAlso with
    | step performedAlso onwardAlso =>
      obtain ⟨⟨template, output, rfl⟩, otherPairs⟩ := List.forall_mem_cons.mp pairs
      obtain ⟨fit, otherFits⟩ := List.forall_mem_cons.mp fits
      obtain ⟨fitAlso, otherFitsAlso⟩ := List.forall_mem_cons.mp fitsAlso
      obtain ⟨machines, same⟩ :=
        ext.pair steady steadyAlso fit fitAlso machine performed performedAlso
      obtain ⟨still, -, -⟩ := layout.perform steady fit performed
      obtain ⟨stillAlso, -, -⟩ := layoutAlso.perform steadyAlso fitAlso performedAlso
      obtain ⟨rfl, -⟩ := next_of_perform_pair performed
      obtain ⟨rfl, -⟩ := next_of_perform_pair performedAlso
      obtain ⟨last, others⟩ := ih still stillAlso otherFits otherFitsAlso otherPairs machines
        onwardAlso left
      exact ⟨last, .cons same others⟩

end Extends

/-! ## Two walks -/

/-- Visits of a data file leave what later tasks are made with as it was. -/
def Restores (generation : Generation) (extra : Path) (steps : List Step) : Prop :=
  ∀ step ∈ steps, step.job = .file extra → ∀ outputs after,
    generation.visit extra step.before = .ok outputs after →
    after.machine.reclaim generation.start = step.before.machine.reclaim generation.start

/--
A walk and one over an extra data file as well have got equally far: they have the same to
do about other data files, with machines that are the same for the next task.
-/
structure InStep (layout : Layout generation root left) (layoutAlso : Layout generation root right)
    (extra : Path) (world : World) (jobs : List Job) (other : World) (jobsAlso : List Job) :
    Prop where
  steady : layout.Steady world.files
  steadyAlso : layoutAlso.Steady other.files
  fits : ∀ job ∈ jobs, layout.Fits job
  fitsAlso : ∀ job ∈ jobsAlso, layoutAlso.Fits job
  jobs_eq : jobs = jobsAlso.filter (Job.isBeside extra)
  reclaimed : other.machine.reclaim generation.start = world.machine.reclaim generation.start

/-- None of the steps of a visit is left when those about its file are taken out. -/
theorem filter_visit (source : ∀ step ∈ steps, step.job.source? = some extra) :
    steps.filter (Step.isBeside extra) = [] := by
  rw [List.filter_eq_nil_iff]
  intro step member
  simp [Step.isBeside, Job.isBeside, source step member]

/-- All steps of a visit are left when those about another file are taken out. -/
theorem filter_visit_of_ne (source : ∀ step ∈ steps, step.job.source? = some path)
    (beside : path ≠ extra) : steps.filter (Step.isBeside extra) = steps := by
  rw [List.filter_eq_self]
  intro step member
  simpa [Step.isBeside, Job.isBeside, source step member] using beside

namespace InStep

variable {made madeAlso : World} {rendering renderingAlso : List Step}

/-- Both walks enter a directory. -/
theorem folder (ext : Extends layout layoutAlso names)
    (inStep : InStep layout layoutAlso (pathBelow root names) world (.folder path :: jobs)
      other (.folder path :: jobsAlso))
    (performed : generation.perform (.folder path) world = .ok (next, outputs) after)
    (performedAlso : generation.perform (.folder path) other =
      .ok (nextAlso, outputsAlso) later) :
    outputsAlso = outputs ∧
      InStep layout layoutAlso (pathBelow root names) after (next ++ jobs)
        later (nextAlso ++ jobsAlso) := by
  obtain ⟨fit, otherFits⟩ := List.forall_mem_cons.mp inStep.fits
  obtain ⟨fitAlso, otherFitsAlso⟩ := List.forall_mem_cons.mp inStep.fitsAlso
  obtain ⟨steady, -, created⟩ := layout.perform inStep.steady fit performed
  obtain ⟨steadyAlso, -, createdAlso⟩ := layoutAlso.perform inStep.steadyAlso fitAlso performedAlso
  obtain ⟨rfl, rfl, same, nextEq⟩ :=
    ext.folder inStep.steady inStep.steadyAlso fit performed performedAlso
  have jobsEq := inStep.jobs_eq
  rw [List.filter_cons_of_pos (by rfl)] at jobsEq
  exact ⟨same, steady, steadyAlso, List.forall_mem_append.mpr ⟨created, otherFits⟩,
    List.forall_mem_append.mpr ⟨createdAlso, otherFitsAlso⟩,
    by rw [List.filter_append, nextEq, (List.cons.inj jobsEq).2], inStep.reclaimed⟩

/-- Only the walk with the extra data file visits it. -/
theorem visitExtra
    (inStep : InStep layout layoutAlso (pathBelow root names) world jobs
      other (.file (pathBelow root names) :: jobsAlso))
    (performedAlso : generation.perform (.file (pathBelow root names)) other =
      .ok (nextAlso, outputsAlso) madeAlso)
    (renderedAlso : Runs generation madeAlso nextAlso renderingAlso later [])
    (restored : later.machine.reclaim generation.start = other.machine.reclaim generation.start) :
    InStep layout layoutAlso (pathBelow root names) world jobs later jobsAlso := by
  obtain ⟨fitAlso, otherFitsAlso⟩ := List.forall_mem_cons.mp inStep.fitsAlso
  obtain ⟨stillAlso, -, createdAlso⟩ := layoutAlso.perform inStep.steadyAlso fitAlso performedAlso
  have jobsEq := inStep.jobs_eq
  rw [List.filter_cons_of_neg (by simp [Job.isBeside, Job.source?])] at jobsEq
  exact ⟨inStep.steady, (Layout.keeps renderedAlso stillAlso createdAlso).1, inStep.fits,
    otherFitsAlso, jobsEq, restored.trans inStep.reclaimed⟩

/-- Both walks visit another data file, and its outputs give the same. -/
theorem visit (ext : Extends layout layoutAlso names) (beside : path ≠ pathBelow root names)
    (inStep : InStep layout layoutAlso (pathBelow root names) world (.file path :: jobs)
      other (.file path :: jobsAlso))
    (performed : generation.perform (.file path) world = .ok (next, outputs) made)
    (rendered : Runs generation made next rendering after [])
    (performedAlso : generation.perform (.file path) other = .ok (nextAlso, outputsAlso) madeAlso)
    (renderedAlso : Runs generation madeAlso nextAlso renderingAlso later []) :
    outputsAlso = outputs ∧ List.Forall₂ (SameStep generation) rendering renderingAlso ∧
      InStep layout layoutAlso (pathBelow root names) after jobs later jobsAlso := by
  obtain ⟨fit, otherFits⟩ := List.forall_mem_cons.mp inStep.fits
  obtain ⟨fitAlso, otherFitsAlso⟩ := List.forall_mem_cons.mp inStep.fitsAlso
  obtain ⟨still, -, created⟩ := layout.perform inStep.steady fit performed
  obtain ⟨stillAlso, -, createdAlso⟩ := layoutAlso.perform inStep.steadyAlso fitAlso performedAlso
  have steady := (Layout.keeps rendered still created).1
  have steadyAlso := (Layout.keeps renderedAlso stillAlso createdAlso).1
  have jobsEq := inStep.jobs_eq
  rw [List.filter_cons_of_pos (by simpa [Job.isBeside, Job.source?] using beside)] at jobsEq
  have rest := (List.cons.inj jobsEq).2
  obtain ⟨same, rfl, ⟨rfl, rfl, rfl⟩ | ⟨machines, task, rfl⟩⟩ :=
    ext.file inStep.steady inStep.steadyAlso fit inStep.reclaimed performed performedAlso
  · cases rendered
    cases renderedAlso
    exact ⟨same, .nil, steady, steadyAlso, otherFits, otherFitsAlso, rest, inStep.reclaimed⟩
  · obtain ⟨machines, alike⟩ := ext.rendered still stillAlso created createdAlso
      (fun _ => Job.isPairOf_of_mem_ofTask) machines rendered renderedAlso
    exact ⟨same, alike, steady, steadyAlso, otherFits, otherFitsAlso, rest, by rw [machines]⟩

end InStep

/--
If visits of the extra data file leave things as they were, the walk without it has a step
for each other step of the walk with it, and the same is given.
-/
theorem Walks.without (ext : Extends layout layoutAlso names)
    (walksAlso : Walks generation other jobsAlso stepsAlso later)
    (restores : Restores generation (pathBelow root names) stepsAlso)
    (walks : Walks generation world jobs steps after)
    (inStep : InStep layout layoutAlso (pathBelow root names) world jobs other jobsAlso) :
    List.Forall₂ (SameStep generation) steps
      (stepsAlso.filter (Step.isBeside (pathBelow root names))) := by
  induction walksAlso generalizing world jobs steps with
  | stop =>
    have none := inStep.jobs_eq
    rw [List.filter_nil] at none
    subst none
    cases walks
    exact .nil
  | @folder other middle later path next rest outputs stepsAlso performedAlso _ ih =>
    have jobsEq := inStep.jobs_eq
    rw [List.filter_cons_of_pos (by rfl)] at jobsEq
    subst jobsEq
    have behind : Restores generation _ stepsAlso := fun step member =>
      restores step (List.mem_cons_of_mem _ member)
    cases walks with
    | folder performed onward =>
      obtain ⟨rfl, further⟩ := inStep.folder ext performed performedAlso
      rw [List.filter_cons_of_pos (by rfl)]
      exact .cons (.of_none rfl rfl) (ih behind onward further)
  | @file other made middle later path next rest outputs rendering stepsAlso performedAlso
      renderedAlso _ ih =>
    have source := source?_of_visit layout.readers performedAlso renderedAlso
    have sourceAlso : ∀ step ∈ ⟨.file path, other, made, outputs⟩ :: rendering,
        step.job.source? = some path := List.forall_mem_cons.mpr ⟨rfl, source⟩
    have behind : Restores generation _ stepsAlso := fun step member =>
      restores step (List.mem_cons_of_mem _ (List.mem_append_right _ member))
    rw [← List.cons_append, List.filter_append]
    by_cases isExtra : path = pathBelow root names
    · subst isExtra
      obtain ⟨given, visited⟩ := visit_of_runs performedAlso renderedAlso
      have restored := restores _ (List.mem_cons_self ..) rfl _ _ visited
      rw [filter_visit sourceAlso, List.nil_append]
      exact ih behind walks (inStep.visitExtra performedAlso renderedAlso restored)
    · have jobsEq := inStep.jobs_eq
      rw [List.filter_cons_of_pos (by simpa [Job.isBeside, Job.source?] using isExtra)] at jobsEq
      subst jobsEq
      cases walks with
      | file performed rendered onward =>
        rw [filter_visit_of_ne sourceAlso isExtra, ← List.cons_append]
        obtain ⟨rfl, alike, further⟩ :=
          inStep.visit ext isExtra performed rendered performedAlso renderedAlso
        exact .cons (.of_none rfl rfl) (List.rel_append alike (ih behind onward further))

end Stencil.Generation

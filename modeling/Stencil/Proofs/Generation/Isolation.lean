import Stencil.Proofs.Generation.Addition
import Stencil.Proofs.Generation.InputsOnly
import Stencil.Proofs.Generation.Termination

/-!
# Data files are isolated from each other

A data file can only make a difference to the outputs of other data files through the objects
that outlive it: the properties of the project, and the modules of templates that are kept.
As long as a visit leaves these as it found them, a run gives the same for all other data
files as the run without it.
-/

namespace Stencil

open Outcome
open Files (AgreesOff Avoids LeadsInto OneMore Place SameAt Tree)

namespace Generation

variable {generation : Generation} {root extra path : Path} {left right : Tree}
  {layout : Layout generation root left} {layoutAlso : Layout generation root right}
  {names : List String} {world other after later finish : World}
  {jobs jobsAlso remaining : List Job} {steps stepsAlso : List Step}
  {outputs outputsAlso : List Path}

/-! ## What is left of the outputs -/

/-- A path leads to files with the same bytes. -/
def SameBytes (first second : Tree) (path : Path) : Prop :=
  ∃ bytes, first.read path = .ok bytes ∧ second.read path = .ok bytes

theorem Stands.read_eq {task : Task} {template : Path}
    (stands : Stands generation task template path world after) :
    ∃ bytes, task.Gives generation.engine template path world bytes ∧
      after.files.read path = .ok bytes := by
  obtain ⟨bytes, place, content, gives, walks, rfl, -⟩ := stands
  refine ⟨_, gives, ?_⟩
  unfold Tree.read Tree.find
  rw [walks true]
  rfl

/-- Only one item can be the last one that something holds of. -/
theorem eq_of_last {α : Type} {holds : α → Prop} {front back others behind : List α}
    {item other : α} (same : front ++ item :: back = others ++ other :: behind)
    (here : holds item) (there : holds other)
    (last : ∀ later ∈ back, ¬holds later) (lastAlso : ∀ later ∈ behind, ¬holds later) :
    item = other := by
  rcases List.append_eq_append_iff.mp same with ⟨between, -, split⟩ | ⟨between, -, split⟩
  · cases between with
    | nil => exact (List.cons.inj split).1
    | cons first between =>
      have inside : other ∈ back := (List.cons.inj split).2 ▸ by simp
      exact absurd there (last other inside)
  · cases between with
    | nil => exact (List.cons.inj split).1.symm
    | cons first between =>
      have inside : item ∈ behind := (List.cons.inj split).2 ▸ by simp
      exact absurd here (lastAlso item inside)

/-- Steps that correspond to the steps of a split list are split there. -/
theorem split_of_forall₂ {α β : Type} {relates : α → β → Prop} {items : List α}
    {front back : List β} {other : β}
    (related : List.Forall₂ relates items (front ++ other :: back)) :
    ∃ before item behind, items = before ++ item :: behind ∧ relates item other ∧
      List.Forall₂ relates behind back := by
  have dropped := List.forall₂_drop_append items front (other :: back) related
  obtain ⟨item, behind, relates, others, split⟩ := List.forall₂_cons_right_iff.mp dropped
  exact ⟨_, item, behind, by rw [← split, List.take_append_drop], relates, others⟩

/-- Steps that are the same give the same paths. -/
theorem flatMap_outputs_eq (same : List.Forall₂ (SameStep generation) steps stepsAlso) :
    stepsAlso.flatMap Step.outputs = steps.flatMap Step.outputs := by
  induction same with
  | nil => rfl
  | cons first _ ih => rw [List.flatMap_cons, List.flatMap_cons, first.outputs, ih]

/-- A path that other steps give leads to the same bytes after both walks. -/
theorem Layout.sameBytes (runs : Runs generation world [.folder root] steps after [])
    (runsAlso : Runs generation other [.folder root] stepsAlso later [])
    (start : world.files = left) (startAlso : other.files = right)
    (layout : Layout generation root left) (layoutAlso : Layout generation root right)
    (same : List.Forall₂ (SameStep generation) steps (stepsAlso.filter (Step.isBeside extra)))
    (apart : ∀ step ∈ stepsAlso, path ∈ step.outputs → step.isBeside extra = true)
    (member : path ∈ steps.flatMap Step.outputs)
    (memberAlso : path ∈ stepsAlso.flatMap Step.outputs) :
    SameBytes after.files later.files path := by
  have readers := layout.readers
  obtain ⟨front, task, template, before, written, back, split, last, stands⟩ :=
    runs.leaves readers (start ▸ layout.sound) (layout.child_name runs start) member
  obtain ⟨frontAlso, taskAlso, templateAlso, beforeAlso, writtenAlso, backAlso, rfl, lastAlso,
      standsAlso⟩ :=
    runsAlso.leaves readers (startAlso ▸ layoutAlso.sound)
      (layoutAlso.child_name runsAlso startAlso) memberAlso
  have beside := apart _ (List.mem_append_right _ (List.mem_cons_self ..))
    (List.mem_singleton_self path)
  rw [List.filter_append, List.filter_cons_of_pos beside] at same
  obtain ⟨_, step, behind, splitAlso, sameStep, others⟩ := split_of_forall₂ same
  have lastBehind : ∀ later ∈ behind, path ∉ later.outputs := by
    intro later among given
    have member := List.mem_flatMap.mpr ⟨later, among, given⟩
    rw [← flatMap_outputs_eq others] at member
    obtain ⟨found, amongAlso, givenAlso⟩ := List.mem_flatMap.mp member
    exact lastAlso found (List.mem_of_mem_filter amongAlso) givenAlso
  obtain rfl : _ = step := eq_of_last (split.symm.trans splitAlso)
    (List.mem_singleton_self path) (sameStep.outputs ▸ List.mem_singleton_self path)
    last lastBehind
  cases sameStep.job
  obtain ⟨bytes, gives, reads⟩ := stands.read_eq
  obtain ⟨bytesAlso, givesAlso, readsAlso⟩ := standsAlso.read_eq
  obtain rfl := Task.Gives.unique (sameStep.gives _ _ _ _ rfl gives) givesAlso
  exact ⟨_, reads, readsAlso⟩

/-! ## The outputs of one task -/

/--
Each output is what its template gives on the machine that its task was made on, as long as
the renderings before it for this task leave the machine as it was.
-/
def Successive (generation : Generation) (files : Tree) (steps : List Step) : Prop :=
  ∀ step ∈ steps, ∀ task template output, step.job = .pair task template output →
    ∃ earlier before made rendered back,
      steps = earlier ++ ⟨.file task.source, before, made, []⟩ :: (rendered ++ step :: back) ∧
      generation.taskFor task.source before = .ok task made ∧
      (∀ other ∈ rendered, other.job.IsPairOf task) ∧
      ((∀ other ∈ rendered, other.after.machine = other.before.machine) →
        ∃ bytes last, task.Gives generation.engine template output step.before bytes ∧
          task.Yields generation.engine template files files made.machine bytes last)

/-- A machine that every step leaves as it was is as it was at the beginning. -/
theorem Runs.machine_eq (runs : Runs generation world jobs steps finish remaining)
    (kept : ∀ step ∈ steps, step.after.machine = step.before.machine) :
    finish.machine = world.machine := by
  induction runs with
  | stop => rfl
  | step _ _ ih =>
    obtain ⟨first, others⟩ := List.forall_mem_cons.mp kept
    exact (ih others).trans first

theorem Walks.successive (layout : Layout generation root left) (unread : layout.Unread)
    (directory : generation.engine.directory = generation.templateFolder)
    (walks : Walks generation world jobs steps finish)
    (steady : layout.Steady world.files)
    (fits : ∀ job ∈ jobs, layout.Fits job) : Successive generation left steps := by
  induction walks with
  | stop => exact fun step member => nomatch member
  | folder performed _ ih =>
    obtain ⟨fit, others⟩ := List.forall_mem_cons.mp fits
    obtain ⟨still, -, created⟩ := layout.perform steady fit performed
    have later := ih still (List.forall_mem_append.mpr ⟨created, others⟩)
    intro step member task template output isPair
    rcases List.mem_cons.mp member with rfl | behind
    · cases isPair
    · obtain ⟨earlier, before, made, rendered, back, rfl, rest⟩ :=
        later step behind task template output isPair
      exact ⟨_ :: earlier, before, made, rendered, back, rfl, rest⟩
  | @file world made middle _ path next rest outputs rendering steps performed rendered _ ih =>
    obtain ⟨fit, others⟩ := List.forall_mem_cons.mp fits
    obtain ⟨still, outputsEq, created⟩ := layout.perform steady fit performed
    have later := ih (Layout.keeps rendered still created).1 others
    intro step member task template output isPair
    rcases List.mem_cons.mp member with rfl | inside
    · cases isPair
    rcases List.mem_append.mp inside with among | behind
    · rcases perform_file_ok layout.readers performed with
        ⟨-, rfl, ⟨-, rfl⟩ | ⟨-, own, making, isTask, rfl⟩⟩
      · cases rendered
        cases among
      -- The step is for the task that the visit has made.
      have isPairs := rendered.isPairOf fun _ => Job.isPairOf_of_mem_ofTask
      obtain ⟨_, _, same⟩ := isPairs step among
      obtain ⟨rfl, rfl, rfl⟩ := Job.pair.inj (isPair.symm.trans same)
      obtain rfl := isTask.source
      obtain ⟨front, back, rfl⟩ := List.append_of_mem among
      refine ⟨[], world, made, front, back ++ steps, by simp, making,
        fun other before => isPairs other (List.mem_append_left _ before), fun kept => ?_⟩
      obtain ⟨between, pending, first, second⟩ := rendered.split
      have machine := first.machine_eq kept
      obtain ⟨stillFirst, fitsFirst⟩ := Layout.keeps first still created
      cases second with
      | step performedPair _ =>
        obtain rfl : _ = Job.pair .. := isPair
        obtain ⟨bytes, last, gives, yields, -⟩ := layout.yields_of_pair unread directory
          stillFirst (fitsFirst _ (List.mem_cons_self ..)) performedPair
        rw [machine] at yields
        exact ⟨bytes, last, gives, yields⟩
    · obtain ⟨earlier, before, past, rendered, back, rfl, rest⟩ :=
        later step behind task template output isPair
      exact ⟨⟨.file path, world, made, outputs⟩ :: (rendering ++ earlier), before, past, rendered,
        back, by simp, rest⟩

/-! ## What is prepared -/

variable {modules : List Registry.Module} {settings : Settings} {session : Session}

/-- Providing the directory of the outputs changes the files only. -/
theorem world_of_provideFolder {folder : Path}
    (ended : provideFolder folder world = .ok ⟨⟩ after) :
    after = { world with files := after.files } := by
  cases known : world.files.has folder with
  | error fault =>
    unfold provideFolder at ended
    obtain ⟨_, _, asked, -⟩ := bind_eq_ok_iff.mp ended
    obtain ⟨answered, -⟩ := Act.askFiles_eq_ok_iff.mp asked
    rw [known] at answered
    cases answered
  | ok isThere =>
    cases isThere with
    | true =>
      rw [provideFolder_of_has known] at ended
      cases ended
      rfl
    | false =>
      rw [provideFolder_of_not_has known] at ended
      obtain ⟨files, -, rfl⟩ := Act.onFiles_eq_ok_iff.mp (Act.naming_eq_ok_iff.mp ended)
      rfl

/-- The same is prepared in two trees where the descriptors show the same. -/
theorem prepare_between {other : Tree} {generation generationAlso : Generation}
    {ready readyAlso : World}
    (same : ∀ project ∈ session.projects, SameAt (filesToWalk settings world)
      (filesToWalk settings { world with files := other }) project.descriptor)
    (preparing : prepare modules settings session world = .ok generation ready)
    (preparingAlso : prepare modules settings session { world with files := other } =
      .ok generationAlso readyAlso) :
    generationAlso = generation ∧ readyAlso = { ready with files := readyAlso.files } := by
  unfold prepare at preparing preparingAlso
  obtain ⟨_, _, first, afterFirst⟩ := bind_eq_ok_iff.mp preparing
  obtain ⟨_, _, second, afterSecond⟩ := bind_eq_ok_iff.mp afterFirst
  obtain ⟨_, made, provides, engages⟩ := bind_eq_ok_iff.mp afterSecond
  obtain ⟨_, _, firstAlso, afterFirstAlso⟩ := bind_eq_ok_iff.mp preparingAlso
  obtain ⟨_, _, secondAlso, afterSecondAlso⟩ := bind_eq_ok_iff.mp afterFirstAlso
  obtain ⟨_, madeAlso, providesAlso, engagesAlso⟩ := bind_eq_ok_iff.mp afterSecondAlso
  obtain ⟨rfl, -⟩ := requireFolder_ok first
  obtain ⟨rfl, -⟩ := requireFolder_ok second
  obtain ⟨rfl, -⟩ := requireFolder_ok firstAlso
  obtain ⟨rfl, -⟩ := requireFolder_ok secondAlso
  unfold filesToWalk at same
  rw [provides, providesAlso] at same
  have blind := @blind_engage _ _ modules settings session same
  have others : { made with files := madeAlso.files } = madeAlso :=
    (congrArg (fun any : World => { any with files := madeAlso.files })
      (world_of_provideFolder provides)).trans (world_of_provideFolder providesAlso).symm
  have alike := blind made madeAlso ⟨rfl, others.symm⟩
  rw [engages, engagesAlso] at alike
  cases alike with
  | ok between =>
    obtain rfl := between.other_eq
    exact ⟨rfl, rfl⟩

/-! ## Runs -/

/-- Another tree has one more data file; the templates and the descriptors are the same. -/
structure MoreData (settings : Settings) (session : Session) (left right : Tree) (extra : Path) :
    Prop where
  more : ∃ trail place names, LeadsInto left settings.dataFolder trail place ∧
    extra = pathBelow settings.dataFolder names ∧ OneMore left right (place ++ names)
  templates : SameBelow left right settings.templateFolder
  descriptors : ∀ project ∈ session.projects, SameAt left right project.descriptor

/-- The places that are touched when the outputs of all data files are written. -/
def Touched (settings : Settings) (files : Tree) (place : Place) : Prop :=
  ∃ dataTrail data templateTrail templates,
    LeadsInto files settings.dataFolder dataTrail data ∧
    LeadsInto files settings.templateFolder templateTrail templates ∧
    ∃ pair ∈ pairsIn files settings.dataFolder settings.templateFolder data templates,
      Files.Touches files (Naming.outputPath pair.1 pair.2 settings.outputFolder) place

/-- No path below the directory of the templates looks at what is touched. -/
def Unread (settings : Settings) (files : Tree) : Prop :=
  ∀ names, ".." ∉ names →
    Avoids files (Touched settings files) (pathBelow settings.templateFolder names)

/-- A tree with one more file has all pairs of data files and templates, and maybe more. -/
theorem pairsIn_subset {folder : Path} {place data templates : Place} (sound : left.Sound)
    (more : OneMore left right place) :
    pairsIn left root folder data templates ⊆ pairsIn right root folder data templates := by
  intro pair member
  obtain ⟨isSource, isTemplate⟩ := mem_pairsIn.mp member
  refine mem_pairsIn.mpr ⟨?_, ?_⟩
  · obtain ⟨names, content, same, there⟩ := mem_sourcesBelow.mp isSource
    exact mem_sourcesBelow.mpr ⟨names, content, same, more.kept there⟩
  · obtain ⟨name, listed, same⟩ := List.mem_map.mp isTemplate
    obtain ⟨entry, there⟩ := (mem_childNames sound).mp listed
    exact List.mem_map.mpr
      ⟨name, (mem_childNames more.agrees.sound).mpr ⟨entry, more.kept there⟩, same⟩

namespace MoreData

/-- Without the data file the outputs lie outside all the more. -/
theorem apart (adds : MoreData settings session left right extra)
    (apart : Apart settings right) : Apart settings left := by
  obtain ⟨_, _, _, -, -, more⟩ := adds.more
  intro front output leads
  obtain ⟨outsideData, outsideTemplates⟩ := apart front output (more.leadsInto leads)
  exact ⟨fun trail data inside => outsideData trail data (more.leadsInto inside),
    fun trail templates inside => outsideTemplates trail templates (more.leadsInto inside)⟩

theorem beside (adds : MoreData settings session left right extra) (sound : left.Sound)
    (beside : Beside settings right) : Beside settings left := by
  obtain ⟨_, _, _, -, -, more⟩ := adds.more
  intro front output leads dataTrail data templateTrail templates inData inTemplates pair member
  exact beside front output (more.leadsInto leads) dataTrail data templateTrail templates
    (more.leadsInto inData) (more.leadsInto inTemplates) pair (pairsIn_subset sound more member)

theorem unread (adds : MoreData settings session left right extra) (sound : left.Sound)
    (unread : Unread settings right) : Unread settings left := by
  obtain ⟨_, _, _, -, -, more⟩ := adds.more
  intro names straight visited visits
  rw [← more.visits_eq] at visits
  refine fun touched => unread names straight visited visits ?_
  obtain ⟨dataTrail, data, templateTrail, templates, inData, inTemplates, pair, member, touches⟩ :=
    touched
  exact ⟨dataTrail, data, templateTrail, templates, more.leadsInto inData,
    more.leadsInto inTemplates, pair, pairsIn_subset sound more member,
    touches.mono more.agrees.here more.leadsInto⟩

end MoreData

/-- What a run touches its walk touches. -/
theorem Layout.unread {settings : Settings} (layout : Layout generation settings.dataFolder left)
    (templateFolder : generation.templateFolder = settings.templateFolder)
    (outputFolder : generation.outputFolder = settings.outputFolder)
    (unread : Generation.Unread settings left) : layout.Unread := by
  intro names straight visited visits
  rw [templateFolder] at visits
  refine fun touched => unread names straight visited visits ?_
  obtain ⟨pair, member, touches⟩ := touched
  rw [Layout.pairs, templateFolder] at member
  rw [outputFolder] at touches
  exact ⟨layout.dataTrail, layout.data, layout.templateTrail, layout.templates, layout.leadsData,
    templateFolder ▸ layout.leadsTemplates, pair, member, touches⟩

/-- In a run visits of a data file leave what later tasks are made with as it was. -/
def RunRestores (modules : List Registry.Module) (settings : Settings) (session : Session)
    (world : World) (extra : Path) : Prop :=
  ∀ generation ready steps after, prepare modules settings session world = .ok generation ready →
    Runs generation ready [.folder settings.dataFolder] steps after [] →
    Restores generation extra steps

/-- What holds of a walk, and of another one that has visited an extra data file as well. -/
structure Isolates (generation : Generation) (extra : Path) (ready readyAlso : World)
    (steps stepsAlso : List Step) (after later : World) : Prop where
  /-- Every step for another data file gives the same. -/
  same : List.Forall₂ (SameStep generation) steps (stepsAlso.filter (Step.isBeside extra))
  /-- What is given for other data files only is given in both, with the same bytes. -/
  outputs : ∀ path, (∀ template, (extra, template) ∈ pairsOf stepsAlso →
      Naming.outputPath extra template generation.outputFolder ≠ path) →
    (path ∈ stepsAlso.flatMap Step.outputs ↔ path ∈ steps.flatMap Step.outputs) ∧
      (path ∈ steps.flatMap Step.outputs → SameBytes after.files later.files path)
  /-- Templates see what the task was made with, unless those before them change it. -/
  successive : Successive generation ready.files steps
  successiveAlso : Successive generation readyAlso.files stepsAlso

/-- A run and another one that has visited an extra data file as well are isolated. -/
def RunsIsolate (modules : List Registry.Module) (settings : Settings) (session : Session)
    (world : World) (other : Tree) (extra : Path) (outputs : List Path) (after : World)
    (outputsAlso : List Path) (later : World) : Prop :=
  ∃ generation ready readyAlso steps stepsAlso,
    prepare modules settings session world = .ok generation ready ∧
    prepare modules settings session { world with files := other } = .ok generation readyAlso ∧
    Runs generation ready [.folder settings.dataFolder] steps after [] ∧
    Runs generation readyAlso [.folder settings.dataFolder] stepsAlso later [] ∧
    outputs = steps.flatMap Step.outputs ∧ outputsAlso = stepsAlso.flatMap Step.outputs ∧
    Isolates generation extra ready readyAlso steps stepsAlso after later

/-- Complete walks are isolated if visits of the extra data file leave things as they were. -/
theorem Extends.isolates (ext : Extends layout layoutAlso names)
    (start : world.files = left) (startAlso : other.files = right)
    (machine : other.machine = world.machine)
    (restores : Restores generation (pathBelow root names) stepsAlso)
    (runs : Runs generation world [.folder root] steps after [])
    (runsAlso : Runs generation other [.folder root] stepsAlso later []) :
    Isolates generation (pathBelow root names) world other steps stepsAlso after later := by
  have readers := layout.readers
  have folders : ∀ job ∈ [Job.folder root], job.pair? = none := by simp [Job.pair?]
  have steady : layout.Steady world.files := by
    rw [start]
    exact ⟨.refl layout.sound, .inl (.refl layout.sound)⟩
  have steadyAlso : layoutAlso.Steady other.files := by
    rw [startAlso]
    exact ⟨.refl layoutAlso.sound, .inl (.refl layoutAlso.sound)⟩
  have fits {files : Tree} (layout : Layout generation root files) :
      ∀ job ∈ [Job.folder root], layout.Fits job := by
    intro job member
    rw [List.mem_singleton.mp member]
    exact ⟨[], (pathBelow_nil root).symm, by simpa using layout.leadsData⟩
  have walks := runs.walks readers folders
  have walksAlso := runsAlso.walks readers folders
  have same := walksAlso.without ext restores walks
    ⟨steady, steadyAlso, fits layout, fits layoutAlso, rfl, by rw [machine]⟩
  have outputsEq := flatMap_outputs_eq same
  refine ⟨same, fun path apart => ?_, ?_, ?_⟩
  · have beside : ∀ step ∈ stepsAlso, path ∈ step.outputs →
        step.isBeside (pathBelow root names) = true := by
      intro step member given
      refine Job.isBeside_iff.mpr fun isExtra => ?_
      obtain ⟨-, -, recorded⟩ := layoutAlso.recorded runsAlso startAlso step member
      rw [recorded, Layout.outputsOf, Option.mem_toList, Option.map_eq_some_iff] at given
      obtain ⟨pair, isPair, rfl⟩ := given
      cases job : step.job with
      | folder place => simp [job, Job.pair?] at isPair
      | file place => simp [job, Job.pair?] at isPair
      | pair task template output =>
        rw [job] at isPair isExtra
        cases isPair
        have source : task.source = pathBelow root names := Option.some.inj isExtra
        refine apart template (List.mem_filterMap.mpr ⟨step, member, ?_⟩) (by rw [source])
        rw [job, Job.pair?, source]
    have given : path ∈ stepsAlso.flatMap Step.outputs ↔ path ∈ steps.flatMap Step.outputs := by
      rw [← outputsEq, List.mem_flatMap, List.mem_flatMap]
      refine exists_congr fun step => ?_
      rw [List.mem_filter]
      constructor
      · rintro ⟨member, given⟩
        exact ⟨⟨member, beside step member given⟩, given⟩
      · rintro ⟨⟨member, -⟩, given⟩
        exact ⟨member, given⟩
    exact ⟨given, fun member => Layout.sameBytes runs runsAlso start startAlso layout layoutAlso
      same beside member (given.mpr member)⟩
  · rw [start]
    exact walks.successive layout ext.unread ext.directory steady (fits layout)
  · rw [startAlso]
    exact walksAlso.successive layoutAlso ext.unreadAlso ext.directory steadyAlso
      (fits layoutAlso)

/--
A run does the same for all other data files when there is one more, as long as visits of
this one leave what later tasks are made with as it was.
-/
theorem run_isolates {other : Tree} (sound : world.files.Sound) (soundAlso : other.Sound)
    (own : Registry.ResolvesOwn modules settings.extensions)
    (adds : MoreData settings session (filesToWalk settings world)
      (filesToWalk settings { world with files := other }) extra)
    (recent : 0 ≤ session.lastModified (filesToWalk settings { world with files := other }))
    (apart : Apart settings (filesToWalk settings { world with files := other }))
    (beside : Beside settings (filesToWalk settings { world with files := other }))
    (unread : Unread settings (filesToWalk settings { world with files := other }))
    (restores : RunRestores modules settings session { world with files := other } extra)
    (ran : run modules settings session world = .ok outputs after)
    (ranAlso : run modules settings session { world with files := other } =
      .ok outputsAlso later) :
    RunsIsolate modules settings session world other extra outputs after outputsAlso later := by
  obtain ⟨_, ready, preparing, walked⟩ := bind_eq_ok_iff.mp ran
  obtain ⟨generation, readyAlso, preparingAlso, walkedAlso⟩ := bind_eq_ok_iff.mp ranAlso
  obtain ⟨rfl, readyEq⟩ := prepare_between adds.descriptors preparing preparingAlso
  have prepared := prepare_ok preparing
  have preparedAlso := prepare_ok preparingAlso
  have files : ready.files = filesToWalk settings world := prepared.files_eq
  have filesAlso : readyAlso.files = filesToWalk settings { world with files := other } :=
    preparedAlso.files_eq
  rw [← filesAlso] at adds recent apart beside unread
  rw [← files] at adds
  have grown := grown_provideFolder sound settings.outputFolder
  rw [← prepared.files_eq] at grown
  have recentHere : 0 ≤ session.lastModified ready.files := by
    rwa [Session.lastModified_eq adds.descriptors] at recent
  obtain ⟨layout⟩ := prepared.nonempty_layout sound own recentHere (adds.apart apart)
    (adds.beside grown.sound beside)
  obtain ⟨layoutAlso⟩ := preparedAlso.nonempty_layout soundAlso own recent apart beside
  obtain ⟨steps, runs, rfl⟩ := walk_ok walked
  obtain ⟨stepsAlso, runsAlso, rfl⟩ := walk_ok walkedAlso
  obtain ⟨_, _, names, leads, rfl, more⟩ := adds.more
  obtain ⟨-, rfl⟩ := layout.leadsData.unique leads
  have ext : Extends layout layoutAlso names := {
    more := more
    templates := by rw [prepared.templateFolder]; exact adds.templates
    unread := layout.unread prepared.templateFolder prepared.outputFolder
      (adds.unread grown.sound unread)
    unreadAlso := layoutAlso.unread prepared.templateFolder prepared.outputFolder unread
    directory := prepared.directory.trans prepared.templateFolder.symm }
  have machine : readyAlso.machine = ready.machine := by rw [readyEq]
  exact ⟨generation, ready, readyAlso, steps, stepsAlso, preparing, preparingAlso, runs, runsAlso,
    rfl, rfl, ext.isolates rfl rfl machine (restores _ _ _ _ preparingAlso runsAlso) runs runsAlso⟩

/-! ## Runs over one data file more -/

/-- A template that changes the properties of the project when it is first rendered. -/
def sharingTemplate : String := "$\x7bpomProperties.setdefault(0, entityName)\x7d"

/-- A tree with some templates and some data files. -/
def woodFiles (templates : List (String × String)) (sources : List String) : Tree where
  entries := [(["data"], .directory), (["templates"], .directory)] ++
    templates.map (fun (name, text) =>
      (["templates", name], .file ⟨text.toUTF8, 0o644, 0, 0⟩)) ++
    sources.map fun name => (["data", name], .file ⟨ByteArray.empty, 0o644, 0, 0⟩)
  here := []

/-- A template that shows the data file, or the first one that it was rendered for. -/
def woodTemplates (shares : Bool) : List (String × String) :=
  [("Bean", if shares then sharingTemplate else "$\x7bentityName\x7d")]

/-- A tree with one data file. -/
def oakFiles (shares : Bool) : Tree := woodFiles (woodTemplates shares) ["Oak.json"]

/-- A tree with another data file, which is visited first. -/
def elmFiles (shares : Bool) : Tree :=
  woodFiles (woodTemplates shares) ["Elm.json", "Oak.json"]

/-- The data file that is visited first. -/
def elmSource : Path := .ofString "data/Elm.json"

/-- The outputs of the two data files. -/
def elmOutput : Path := .ofString "out/Elm.jsonBean.java"

def oakOutput : Path := .ofString "out/Oak.jsonBean.java"

theorem sound_oakFiles (shares : Bool) : (oakFiles shares).Sound :=
  .of_entries (by cases shares <;> decide +kernel) (by cases shares <;> decide +kernel) rfl
    fun _ => Files.marked_spareMark

theorem sound_elmFiles (shares : Bool) : (elmFiles shares).Sound :=
  .of_entries (by cases shares <;> decide +kernel) (by cases shares <;> decide +kernel) rfl
    fun _ => Files.marked_spareMark

private def oakReady (shares : Bool) : Tree :=
  filesToWalk plainSettings { files := oakFiles shares }

private def elmReady (shares : Bool) : Tree :=
  filesToWalk plainSettings { files := elmFiles shares }

private theorem noLinks_elmReady (shares : Bool) :
    ∀ place target, (elmReady shares).at? place ≠ some (.link target) :=
  Tree.at?_ne_link (by cases shares <;> decide +kernel)

private theorem oneMore_ready (shares : Bool) :
    OneMore (oakReady shares) (elmReady shares) ["data", "Elm.json"] where
  agrees := .of_entries (grown_provideFolder (sound_elmFiles shares) _).sound
    (by cases shares <;> decide +kernel) (by cases shares <;> decide +kernel)
    (by cases shares <;> decide +kernel)
  absent := by cases shares <;> decide +kernel
  present := ⟨⟨ByteArray.empty, 0o644, 0, 0⟩, by cases shares <;> decide +kernel⟩

/-- The other data file is met by no path with another beginning. -/
private theorem sameAt_ready (shares : Bool) {name : String} {rest : List String}
    (straight : ".." ∉ rest) (isName : Files.IsName name) (beside : name ≠ "data") :
    SameAt (oakReady shares) (elmReady shares) ⟨.none, name :: rest⟩ := by
  have more := oneMore_ready shares
  have sound : (oakReady shares).Sound := (grown_provideFolder (sound_oakFiles shares) _).sound
  refine AgreesOff.sameAt sound (.refl sound) more.agrees fun visited member same => ?_
  rw [← more.visits_eq] at member
  have below := Files.prefix_of_mem_visits (noLinks_elmReady shares)
    (by cases shares <;> decide +kernel) straight isName member
  rw [same, List.cons_prefix_cons] at below
  exact beside below.1

/-- The two trees are laid out as runs in isolation need it. -/
private theorem moreData_ready (shares : Bool) :
    MoreData plainSettings plainSession (oakReady shares) (elmReady shares) elmSource where
  more := by
    obtain ⟨trail, place, leads⟩ := Files.isDirectory_eq_true_iff.mp (by
      cases shares <;> decide +kernel :
        (oakReady shares).isDirectory plainSettings.dataFolder = .ok true)
    obtain rfl := place_eq leads (by cases shares <;> decide +kernel : _ = some ["data"])
    exact ⟨trail, _, ["Elm.json"], leads, by decide, oneMore_ready shares⟩
  templates := fun names straight =>
    sameAt_ready shares (by simpa using straight) (by decide) (by decide)
  descriptors := fun project member => by
    obtain rfl := List.mem_singleton.mp member
    exact sameAt_ready shares (by simp) (by decide) (by decide)

/-- Where the directories of a run over the two data files are. -/
private theorem places_elmReady (shares : Bool) {trail : List Place} {place : Place} :
    (LeadsInto (elmReady shares) plainSettings.outputFolder trail place → place = ["out"]) ∧
    (LeadsInto (elmReady shares) plainSettings.dataFolder trail place →
      place = ["data"] ∧ trail = []) ∧
    (LeadsInto (elmReady shares) plainSettings.templateFolder trail place →
      place = ["templates"] ∧ trail = []) := by
  have empty {path : Path} {trail : List Place} {place : Place}
      (leads : LeadsInto (elmReady shares) path trail place) : trail = [] := by
    refine List.eq_nil_iff_forall_not_mem.mpr fun crossed among => ?_
    obtain ⟨target, link⟩ := Files.Leads.link_of_mem_trail leads among
    exact noLinks_elmReady shares _ _ link
  refine ⟨fun leads => ?_, fun leads => ⟨?_, empty leads⟩, fun leads => ⟨?_, empty leads⟩⟩
  · exact place_eq leads (by cases shares <;> decide +kernel)
  · exact place_eq leads (by cases shares <;> decide +kernel)
  · exact place_eq leads (by cases shares <;> decide +kernel)

private theorem apart_elmReady (shares : Bool) : Apart plainSettings (elmReady shares) := by
  intro front output around
  obtain rfl := (places_elmReady shares).1 around
  refine ⟨fun trail data leads => ?_, fun trail templates leads => ?_⟩
  · obtain ⟨rfl, -⟩ := (places_elmReady shares).2.1 leads
    decide
  · obtain ⟨rfl, -⟩ := (places_elmReady shares).2.2 leads
    decide

private theorem beside_elmReady (shares : Bool) : Beside plainSettings (elmReady shares) := by
  intro front output around dataTrail data templateTrail templates leadsData leadsTemplates
    pair member
  obtain ⟨-, rfl⟩ := (places_elmReady shares).2.1 leadsData
  obtain ⟨-, rfl⟩ := (places_elmReady shares).2.2 leadsTemplates
  exact ⟨List.not_mem_nil, List.not_mem_nil⟩

private theorem unread_elmReady (shares : Bool) : Unread plainSettings (elmReady shares) := by
  intro names straight visited visits touched
  have below : ["templates"] <+: visited :=
    Files.prefix_of_mem_visits (noLinks_elmReady shares) (by cases shares <;> decide +kernel)
      straight (by decide) visits
  obtain ⟨_, _, _, _, -, -, pair, -, touches⟩ := touched
  have outside (name : String) : ¬["templates"] <+: ["out"] ++ [name] := by simp
  rcases touches with ⟨trail, folder, leads, rfl⟩ | ⟨trail, folder, mark, leads, rfl⟩
  · rw [Naming.parent_outputPath] at leads
    obtain rfl := (places_elmReady shares).1 leads
    exact outside _ below
  · rw [Naming.parent_outputPath] at leads
    obtain rfl := place_eq leads (by cases shares <;> decide +kernel : _ = some ["out"])
    exact outside _ below

/-- All containers of a session without properties: an empty mapping. -/
private def isBare (cells : Array Cell) : Bool :=
  match cells.toList with
  | [.dict []] => true
  | _ => false

private theorem eq_of_isBare {cells others : Array Cell} (bare : isBare cells = true)
    (bareAlso : isBare others = true) : cells = others := by
  have single {cells : Array Cell} (bare : isBare cells = true) : cells.toList = [.dict []] := by
    unfold isBare at bare
    split at bare
    · assumption
    · cases bare
  exact Array.toList_inj.mp ((single bare).trans (single bareAlso).symm)

/-- Whether a machine can be taken back to the beginning, and has changed nothing of then. -/
private def isClean (start machine : Template.Machine) : Bool :=
  machine.isSettled start.heap.cells.size && isBare start.heap.cells &&
    isBare (machine.oldCells start.heap.cells.size) && machine.engines == start.engines

private theorem reclaim_of_isClean {start machine : Template.Machine}
    (clean : isClean start machine = true) : machine.reclaim start = start := by
  unfold isClean at clean
  simp only [Bool.and_eq_true, beq_iff_eq] at clean
  obtain ⟨⟨⟨settled, bare⟩, bareAlso⟩, engines⟩ := clean
  exact Template.Machine.reclaim_eq settled (eq_of_isBare bareAlso bare) engines

/-- Where the template only shows the data file, visiting one leaves nothing behind. -/
private theorem restores_elmFiles :
    RunRestores Registry.ownModules plainSettings plainSession { files := elmFiles false }
      elmSource := by
  intro generation ready steps after preparing runs step member isElm outputs left visited
  have prepared := prepare_ok preparing
  have files : ready.files = elmReady false := prepared.files_eq
  have sound : ready.files.Sound := by
    rw [files]
    exact (grown_provideFolder (sound_elmFiles false) _).sound
  have readers := prepared.isOwn (Registry.resolvesOwn_ownModules _)
  have earlier := runs.earlier readers sound
  -- The walk enters the directory of the data files, and then visits this one.
  have isFirst : step.before = ready := by
    cases runs with
    | step performed onward =>
      obtain ⟨rfl, -, trail, place, leads, rfl⟩ := perform_folder_ok performed
      rw [files] at leads
      obtain ⟨rfl, -⟩ := (places_elmReady false).2.1 leads
      rw [files] at onward
      have jobs : ((childNames (elmReady false) ["data"]).map fun name =>
          Job.ofEntry (plainSettings.dataFolder.child name,
            isFolder (elmReady false) (plainSettings.dataFolder.child name))) =
          [.file elmSource, .file (.ofString "data/Oak.json")] := by
        have names : childNames (elmReady false) ["data"] = ["Elm.json", "Oak.json"] := by
          decide +kernel
        have elm : isFolder (elmReady false) (plainSettings.dataFolder.child "Elm.json") =
            false := by decide +kernel
        have oak : isFolder (elmReady false) (plainSettings.dataFolder.child "Oak.json") =
            false := by decide +kernel
        rw [names, List.map_cons, List.map_cons, elm, oak]
        rfl
      rw [jobs] at onward
      cases onward with
      | step visiting rest =>
        have same := eq_of_path? earlier member
          (List.mem_cons_of_mem _ (List.mem_cons_self ..)) (by rw [isElm]; rfl) rfl
        rw [same]
  rw [isFirst] at visited ⊢
  have computed : value? ((do
      let generation ← prepare Registry.ownModules plainSettings plainSession
      let before ← Act.machine
      let _ ← generation.visit elmSource
      let after ← Act.machine
      return isClean generation.start before && isClean generation.start after : Act Bool)
        { files := elmFiles false }) = some true := by decide +kernel
  rw [bind_apply_of_ok preparing] at computed
  change value? ((generation.visit elmSource >>= _) ready) = _ at computed
  rw [bind_apply_of_ok visited] at computed
  have clean : (isClean generation.start ready.machine &&
      isClean generation.start left.machine) = true := Option.some.inj computed
  rw [Bool.and_eq_true] at clean
  rw [reclaim_of_isClean clean.1, reclaim_of_isClean clean.2]

theorem run_isolates_elmFiles :
    (oakFiles false).Sound ∧ (elmFiles false).Sound ∧
      Registry.ResolvesOwn Registry.ownModules plainSettings.extensions ∧
      MoreData plainSettings plainSession
        (filesToWalk plainSettings { files := oakFiles false })
        (filesToWalk plainSettings { files := elmFiles false }) elmSource ∧
      0 ≤ plainSession.lastModified (filesToWalk plainSettings { files := elmFiles false }) ∧
      Apart plainSettings (filesToWalk plainSettings { files := elmFiles false }) ∧
      Beside plainSettings (filesToWalk plainSettings { files := elmFiles false }) ∧
      Unread plainSettings (filesToWalk plainSettings { files := elmFiles false }) ∧
      RunRestores Registry.ownModules plainSettings plainSession { files := elmFiles false }
        elmSource ∧
      ∃ after later,
        run Registry.ownModules plainSettings plainSession { files := oakFiles false } =
          .ok [oakOutput] after ∧
        run Registry.ownModules plainSettings plainSession { files := elmFiles false } =
          .ok [elmOutput, oakOutput] later ∧
        RunsIsolate Registry.ownModules plainSettings plainSession
          { files := oakFiles false } (elmFiles false) elmSource
          [oakOutput] after [elmOutput, oakOutput] later := by
  have own := Registry.resolvesOwn_ownModules plainSettings.extensions
  have recent :
      0 ≤ plainSession.lastModified (filesToWalk plainSettings { files := elmFiles false }) := by
    decide +kernel
  obtain ⟨after, ran⟩ := exists_of_value?_eq_some (by decide +kernel :
    value? (run Registry.ownModules plainSettings plainSession { files := oakFiles false }) =
      some [oakOutput])
  obtain ⟨later, ranAlso⟩ := exists_of_value?_eq_some (by decide +kernel :
    value? (run Registry.ownModules plainSettings plainSession { files := elmFiles false }) =
      some [elmOutput, oakOutput])
  exact ⟨sound_oakFiles false, sound_elmFiles false, own, moreData_ready false, recent,
    apart_elmReady false, beside_elmReady false, unread_elmReady false, restores_elmFiles,
    after, later, ran, ranAlso,
    run_isolates (by exact sound_oakFiles false) (sound_elmFiles false) own
      (by exact moreData_ready false) recent (by exact apart_elmReady false)
      (by exact beside_elmReady false) (by exact unread_elmReady false)
      (by exact restores_elmFiles) ran (by exact ranAlso)⟩

/-- What a run gives, and the bytes that it leaves at a path. -/
private def runAndRead (settings : Settings) (path : Path) : Act (List Path × List UInt8) := do
  let outputs ← run Registry.ownModules settings plainSession
  let bytes ← Act.askFiles fun files => files.read path
  return (outputs, bytes.toList)

private theorem exists_of_runAndRead {settings : Settings} {files : Tree} {content : List UInt8}
    (computed : value? (runAndRead settings path { files }) = some (outputs, content)) :
    ∃ after bytes, run Registry.ownModules settings plainSession { files } = .ok outputs after ∧
      after.files.read path = .ok bytes ∧ bytes.toList = content := by
  obtain ⟨last, computed⟩ := exists_of_value?_eq_some computed
  obtain ⟨_, after, ran, computed⟩ := bind_eq_ok_iff.mp computed
  obtain ⟨bytes, _, asked, given⟩ := bind_eq_ok_iff.mp computed
  obtain ⟨reads, rfl⟩ := Act.askFiles_eq_ok_iff.mp asked
  cases given
  exact ⟨_, bytes, ran, reads, rfl⟩

private theorem not_sameBytes {left right : Tree} {bytes bytesAlso : ByteArray}
    (reads : left.read path = .ok bytes) (readsAlso : right.read path = .ok bytesAlso)
    (differ : bytes.toList ≠ bytesAlso.toList) : ¬SameBytes left right path := by
  rintro ⟨_, known, knownAlso⟩
  cases reads.symm.trans known
  cases readsAlso.symm.trans knownAlso
  exact differ rfl

/-- A tree with a link to the directory of the data files, without the data file that is first. -/
def oakLinkedFiles : Tree :=
  linkedFiles.remove ["data", "Elm.json"]

/-- The output of a template that is rendered after another one. -/
def formOutput : Path := .ofString "out/Oak.jsonForm.java"

/-- A template that shows the properties of the project. -/
def showingTemplate : String := "$\x7bpomProperties\x7d"

/-- A tree that is dated before time zero, with a link from one output to another one. -/
def ancientOakFiles : Tree where
  entries := [
    (["data"], .directory),
    (["data", "Oak.json"], .file ⟨ByteArray.empty, 0o644, -1000000, 0⟩),
    (["out"], .directory),
    (["out", "Oak.jsonBean.java"], .link "Elm.jsonBean.java"),
    (["pyproject.toml"], .file ⟨ByteArray.empty, 0o644, -1000000, 0⟩),
    (["templates"], .directory),
    (["templates", "Bean"], .file ⟨"class".toUTF8, 0o644, -1000000, 0⟩)]
  here := []

/-- The tree with a data file that is dated later. -/
def ancientElmFiles : Tree :=
  ancientOakFiles.put ["data", "Elm.json"] (.file ⟨ByteArray.empty, 0o644, 0, 0⟩)

/--
Data files are not isolated where a template leaves something in the properties of the
project, which all data files share, where an output takes the place of a link on the way
to the data, or where outputs are passed over as long as they are missing.  What a template
sees may also be changed by the one before it.
-/
theorem not_isolated_elmFiles :
    ((oakFiles true).Sound ∧ (elmFiles true).Sound ∧
      MoreData plainSettings plainSession
        (filesToWalk plainSettings { files := oakFiles true })
        (filesToWalk plainSettings { files := elmFiles true }) elmSource ∧
      0 ≤ plainSession.lastModified (filesToWalk plainSettings { files := elmFiles true }) ∧
      Apart plainSettings (filesToWalk plainSettings { files := elmFiles true }) ∧
      Beside plainSettings (filesToWalk plainSettings { files := elmFiles true }) ∧
      Unread plainSettings (filesToWalk plainSettings { files := elmFiles true }) ∧
      ∃ after later,
        run Registry.ownModules plainSettings plainSession { files := oakFiles true } =
          .ok [oakOutput] after ∧
        run Registry.ownModules plainSettings plainSession { files := elmFiles true } =
          .ok [elmOutput, oakOutput] later ∧
        ¬SameBytes after.files later.files oakOutput) ∧
    (OneMore oakLinkedFiles linkedFiles ["data", "Elm.json"] ∧
      ∃ after later,
        run Registry.ownModules linkedSettings plainSession { files := oakLinkedFiles } =
          .ok [.ofString "Oak.jsonBean.java"] after ∧
        run Registry.ownModules linkedSettings plainSession { files := linkedFiles } =
          .ok [.ofString "Elm.jsonBean.java"] later) ∧
    (OneMore ancientOakFiles ancientElmFiles ["data", "Elm.json"] ∧
      ∃ after later,
        run Registry.ownModules plainSettings plainSession { files := ancientOakFiles } =
          .ok [] after ∧
        run Registry.ownModules plainSettings plainSession { files := ancientElmFiles } =
          .ok [elmOutput, oakOutput] later) ∧
    ∃ after later,
      run Registry.ownModules plainSettings plainSession
          { files := woodFiles [("Form", showingTemplate)] ["Oak.json"] } =
        .ok [formOutput] after ∧
      run Registry.ownModules plainSettings plainSession
          { files :=
              woodFiles [("Bean", sharingTemplate), ("Form", showingTemplate)] ["Oak.json"] } =
        .ok [oakOutput, formOutput] later ∧
      ¬SameBytes after.files later.files formOutput := by
  refine ⟨?_, ?_, ?_, ?_⟩
  · have recent :
        0 ≤ plainSession.lastModified (filesToWalk plainSettings { files := elmFiles true }) := by
      decide +kernel
    obtain ⟨after, bytes, ran, reads, content⟩ := exists_of_runAndRead (by decide +kernel :
      value? (runAndRead plainSettings oakOutput { files := oakFiles true }) =
        some ([oakOutput], "Oak".toUTF8.toList))
    obtain ⟨later, bytesAlso, ranAlso, readsAlso, contentAlso⟩ :=
      exists_of_runAndRead (by decide +kernel :
        value? (runAndRead plainSettings oakOutput { files := elmFiles true }) =
          some ([elmOutput, oakOutput], "Elm".toUTF8.toList))
    have differ : bytes.toList ≠ bytesAlso.toList := by
      rw [content, contentAlso]
      decide +kernel
    exact ⟨sound_oakFiles true, sound_elmFiles true, moreData_ready true, recent,
      apart_elmReady true, beside_elmReady true, unread_elmReady true, after, later, ran, ranAlso,
      not_sameBytes reads readsAlso differ⟩
  · have more : OneMore oakLinkedFiles linkedFiles ["data", "Elm.json"] := {
      agrees := .of_entries sound_linkedFiles rfl (by decide +kernel) (by decide +kernel)
      absent := by decide +kernel
      present := ⟨⟨ByteArray.empty, 0o644, 0, 0⟩, by decide +kernel⟩ }
    obtain ⟨after, ran⟩ := exists_of_value?_eq_some (by decide +kernel :
      value? (run Registry.ownModules linkedSettings plainSession { files := oakLinkedFiles }) =
        some [.ofString "Oak.jsonBean.java"])
    obtain ⟨later, ranAlso⟩ := exists_of_value?_eq_some (by decide +kernel :
      value? (run Registry.ownModules linkedSettings plainSession { files := linkedFiles }) =
        some [.ofString "Elm.jsonBean.java"])
    exact ⟨more, after, later, ran, ranAlso⟩
  · have sound : ancientElmFiles.Sound :=
      .of_entries (by decide +kernel) (by decide +kernel) rfl fun _ => Files.marked_spareMark
    have more : OneMore ancientOakFiles ancientElmFiles ["data", "Elm.json"] := {
      agrees := .of_entries sound rfl (by decide +kernel) (by decide +kernel)
      absent := by decide +kernel
      present := ⟨⟨ByteArray.empty, 0o644, 0, 0⟩, by decide +kernel⟩ }
    obtain ⟨after, ran⟩ := exists_of_value?_eq_some (by decide +kernel :
      value? (run Registry.ownModules plainSettings plainSession { files := ancientOakFiles }) =
        some [])
    obtain ⟨later, ranAlso⟩ := exists_of_value?_eq_some (by decide +kernel :
      value? (run Registry.ownModules plainSettings plainSession { files := ancientElmFiles }) =
        some [elmOutput, oakOutput])
    exact ⟨more, after, later, ran, ranAlso⟩
  · obtain ⟨after, bytes, ran, reads, content⟩ := exists_of_runAndRead (by decide +kernel :
      value? (runAndRead plainSettings formOutput
        { files := woodFiles [("Form", showingTemplate)] ["Oak.json"] }) =
        some ([formOutput], "\x7b\x7d".toUTF8.toList))
    obtain ⟨later, bytesAlso, ranAlso, readsAlso, contentAlso⟩ :=
      exists_of_runAndRead (by decide +kernel :
        value? (runAndRead plainSettings formOutput
          { files :=
              woodFiles [("Bean", sharingTemplate), ("Form", showingTemplate)] ["Oak.json"] }) =
          some ([oakOutput, formOutput], "\x7b0: 'Oak'\x7d".toUTF8.toList))
    have differ : bytes.toList ≠ bytesAlso.toList := by
      rw [content, contentAlso]
      decide +kernel
    exact ⟨after, later, ran, ranAlso, not_sameBytes reads readsAlso differ⟩

end Generation

end Stencil

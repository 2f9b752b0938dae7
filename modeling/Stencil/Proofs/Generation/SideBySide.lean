import Stencil.Proofs.Files.Abreast
import Stencil.Proofs.Generation.Blindness

/-!
# Walks side by side

Two walks that begin in trees that differ only in what the site of the outputs covers go on
in step: they enter the same directories, make the same tasks and write the same outputs,
and where one fails the other fails alike.
-/

namespace Stencil

open Act (AlikeUnder Paired)
open Files (AgreesOff Avoids FaultsAbreast IsName NoFurtherApart Place Site Tree)
open Files.Site (Abreast IsOutputName Twins)
open Generation (SameBelow pathBelow)
open Outcome

/-- Failures that are the same but for the mark in the name of a spare file. -/
inductive FailsAlike (here : Place) : Failure → Failure → Prop
  | same (failure : Failure) : FailsAlike here failure failure
  | render (dataFile : Path) {fault other : Fault}
      (alike : Files.Change.FaultsAlike here fault other) :
      FailsAlike here (.render dataFile fault) (.render dataFile other)

/-- The failures are alike, and the trees that are left are no further apart. -/
def FailAbreast (left right : Tree) (failure : Failure) (world : World) (another : Failure)
    (other : World) : Prop :=
  FailsAlike left.here failure another ∧ Paired (NoFurtherApart left right) world other

/-- No path below a folder looks at what a site covers. -/
def Files.Site.Clear (site : Site) (files : Tree) (folder : Path) : Prop :=
  ∀ names, ".." ∉ names → Avoids files site.Covers (pathBelow folder names)

/-- The names from a directory on lead through directories that are no links. -/
def Generation.Entered (files : Tree) (folder : Path) (names : List String) : Prop :=
  ∀ front, front ≠ [] → front <+: names → isFolder files (pathBelow folder front) = true

/-- A walk over a folder does not look at what a site covers. -/
def Files.Site.ClearOfWalks (site : Site) (files : Tree) (folder : Path) : Prop :=
  ∀ names, ".." ∉ names → Generation.Entered files folder names.dropLast →
    Avoids files site.Covers (pathBelow folder names)

variable {site : Site} {left right first second : Tree} {done : List String} {name : String}
  {world other : World}

theorem Files.Site.Clear.self {folder : Path} (clear : site.Clear left folder) :
    Avoids left site.Covers folder := by
  have nothing := clear [] List.not_mem_nil
  rwa [Generation.pathBelow_nil] at nothing

theorem Generation.Entered.nil (files : Tree) (folder : Path) : Entered files folder [] :=
  fun _ nonempty short => absurd (List.prefix_nil.mp short) nonempty

theorem Files.Site.ClearOfWalks.self {folder : Path} (clear : site.ClearOfWalks left folder) :
    Avoids left site.Covers folder := by
  have nothing := clear [] List.not_mem_nil (.nil left folder)
  rwa [Generation.pathBelow_nil] at nothing

theorem Files.Site.Clear.sameBelow {folder : Path} (clear : site.Clear left folder)
    (sound : left.Sound)
    (agrees : AgreesOff site.Covers left first)
    (agreesAlso : AgreesOff site.Covers left second) : SameBelow first second folder :=
  fun names straight => agrees.sameAt sound agreesAlso (clear names straight)

/-- As long as nothing is changed a failure that is the same leaves both trees. -/
theorem FailAbreast.of_together {failure another : Failure}
    (failed : Act.FailTogether left right failure world another other) :
    FailAbreast left right failure world another other := by
  obtain ⟨rfl, rfl, rfl⟩ := failed
  exact ⟨.same failure, .start _ _, rfl, rfl⟩

/-- Between two writes a failure that is the same leaves the outputs as they are. -/
theorem FailAbreast.of_same {failure another : Failure}
    (failed : failure = another ∧ Paired (site.Abreast left right done) world other) :
    FailAbreast left right failure world another other := by
  obtain ⟨rfl, paired⟩ := failed
  exact ⟨.same failure, paired.mono fun _ _ => Abreast.noFurtherApart⟩

namespace Task

variable {task : Task} {engine : Template.Engine} {template : Path}

/-- An output is written to both trees, or the writes fail alike. -/
theorem write_alike (twins : site.Twins left right)
    (clear : site.Clear left engine.directory)
    (isOutput : IsOutputName name)
    (paired : Paired (site.Abreast left right done) world other) (place : Nat) :
    Matches (fun _ => Paired (site.Abreast left right (done ++ [name])))
      (AlikeUnder .unforeseen fun fault after also later =>
        Paired (fun first second => FaultsAbreast left right fault first also second) after later)
      (task.write engine place (site.path.child name) world)
      (task.write engine place (site.path.child name) other) := by
  obtain ⟨abreast, between⟩ := paired
  unfold write
  by_cases crowded : Files.Change.Crowded (site.path.child name)
  · obtain ⟨mark, refused⟩ := abreast.holds.starts_of_crowded crowded
    obtain ⟨another, refusedAlso⟩ := abreast.holdsAlso.starts_of_crowded crowded
    have started : Matches (fun _ _ _ => False) (FaultsAbreast left right)
        (Files.Change.startFile (site.path.child name) world.files)
        (Files.Change.startFile (site.path.child name) other.files) := by
      rw [refused, refusedAlso]
      exact .error ⟨.spare _ _ _ _ _, abreast.noFurtherApart⟩
    exact (Act.matches_onFiles between started).bind fun _ _ _ impossible =>
      impossible.1.elim
  · obtain ⟨mark, spare, opened, starts, spareEq, marks, isOpened, agrees⟩ :=
      abreast.holds.starts_of_room crowded
    obtain ⟨another, spareAlso, openedAlso, startsAlso, spareAlsoEq, marksAlso, isOpenedAlso,
      agreesAlso⟩ := abreast.holdsAlso.starts_of_room crowded
    have isName := Files.Site.Holds.isName_of_room
      ((Path.name_child site.path name).symm ▸ isOutput) crowded
    rw [Path.name_child] at isName
    rw [bind_apply_of_ok (Act.onFiles_eq_ok_iff.mpr ⟨opened, starts, rfl⟩),
      bind_apply_of_ok (Act.onFiles_eq_ok_iff.mpr ⟨openedAlso, startsAlso, rfl⟩)]
    have blind : Act.Blind opened openedAlso (postponed (task.content engine place)) :=
      blind_postponed (blind_content (clear.sameBelow twins.fits.sound agrees agreesAlso) place)
    have rendered := blind { world with files := opened } { other with files := openedAlso }
      ⟨rfl, by rw [between.other_eq]⟩
    refine (rendered.mono (fun _ _ _ _ => id) fun failure _ _ _ failed _ => ?_).bind
      fun content _ _ between => ?_
    · exact absurd failed postponed_content_ne_error
    · exact Act.matches_onFiles between (abreast.finishes twins isOutput isName isOpened
        isOpenedAlso marks marksAlso spareEq spareAlsoEq task.mode content)

/-- Nothing counts as fresh in either tree. -/
theorem isFresh_alike (twins : site.Twins left right)
    (recent : 0 ≤ task.timestamp)
    (paired : Paired (site.Abreast left right done) world other) (template output : Path) :
    Matches (fun answer after later => answer = false ∧
        Paired (site.Abreast left right done) after later)
      (fun failure after another later => failure = another ∧
        Paired (site.Abreast left right done) after later)
      (task.isFresh template output world) (task.isFresh template output other) := by
  have notFresh {any : World} {answer : Bool} (asked : any.files.has output = .ok answer) :
      task.isFresh template output any = .ok false any := by
    have ended : ∃ fresh, task.isFresh template output any = .ok fresh any := by
      unfold isFresh
      rw [bind_apply_of_ok (Act.askFiles_eq_ok_iff.mpr ⟨asked, rfl⟩)]
      cases answer with
      | true => exact ⟨false, rfl⟩
      | false => exact ⟨_, rfl⟩
    obtain ⟨fresh, ended⟩ := ended
    cases fresh with
    | false => exact ended
    | true => exact absurd ((isFresh_ok ended).2 rfl) (Int.not_lt.mpr recent)
  have refused {any : World} {fault : Fault} (asked : any.files.has output = .error fault) :
      task.isFresh template output any = .error (.unforeseen fault) any := by
    unfold isFresh
    refine bind_apply_of_error ?_
    rw [Act.askFiles_apply, asked]
  rcases Files.has_of_similar paired.1.here_eq (paired.1.similar twins) output with
    ⟨answer, another, asked, also⟩ | ⟨fault, asked, also⟩
  · rw [notFresh asked, notFresh also]
    exact .ok ⟨rfl, paired⟩
  · rw [refused asked, refused also]
    exact .error ⟨rfl, paired⟩

/-- A directory for outputs is accepted. -/
theorem checkFolder_of_leads {trail : List Place} {place : Place}
    (leads : Files.LeadsInto world.files task.folder trail place) :
    task.checkFolder world = .ok ⟨⟩ world := by
  have present := Files.has_eq_true_iff.mpr ⟨trail, place, _, leads⟩
  have directory := Files.isDirectory_eq_true_iff.mpr ⟨trail, place, leads⟩
  unfold checkFolder
  rw [bind_apply_of_ok (Act.askFiles_eq_ok_iff.mpr ⟨present, rfl⟩), if_pos rfl,
    bind_apply_of_ok (Act.askFiles_eq_ok_iff.mpr ⟨directory, rfl⟩)]
  rfl

/-- An output is generated in both trees, or the attempts fail alike. -/
theorem generateOne_alike (twins : site.Twins left right)
    (clear : site.Clear left engine.directory)
    (isOutput : IsOutputName name)
    (folder : task.folder = site.path)
    (recent : 0 ≤ task.timestamp)
    (paired : Paired (site.Abreast left right done) world other) :
    Matches (fun isWritten after later => isWritten = true ∧
        Paired (site.Abreast left right (done ++ [name])) after later)
      (FailAbreast left right)
      (task.generateOne engine template (site.path.child name) world)
      (task.generateOne engine template (site.path.child name) other) := by
  unfold generateOne
  refine ((isFresh_alike twins recent paired template _).mono (fun _ _ _ _ => id)
    fun _ _ _ _ _ => .of_same).bind ?_
  rintro fresh world other ⟨rfl, paired⟩
  refine ((Act.Blind.machine.paired paired).mono (fun _ _ _ _ => And.right)
    fun _ _ _ _ _ => .of_same).bind ?_
  intro start world other paired
  have same := clear.sameBelow twins.fits.sound paired.1.holds.agrees paired.1.holdsAlso.agrees
  have loads := ((Engine.blind_load same template.name).naming
    (.templateLoad template.name)).paired paired
  refine (loads.mono (fun _ _ _ _ => And.right) fun _ _ _ _ _ => .of_same).bind ?_
  intro place world other paired
  have checks {any : World} (holds : site.Holds left any.files) :
      task.checkFolder any = .ok ⟨⟩ any := by
    obtain ⟨trail, leads, -⟩ := holds.leads
    exact checkFolder_of_leads (folder.symm ▸ leads)
  rw [bind_apply_of_ok (checks paired.1.holds), bind_apply_of_ok (checks paired.1.holdsAlso)]
  have writes : Matches (fun _ => Paired (site.Abreast left right (done ++ [name])))
      (AlikeUnder (.render task.source) fun fault after also later =>
        Paired (fun first second => FaultsAbreast left right fault first also second) after later)
      (Act.naming (.render task.source) (task.write engine place (site.path.child name)) world)
      (Act.naming (.render task.source) (task.write engine place (site.path.child name))
        other) :=
    Act.matches_naming (.render task.source) (write_alike twins clear isOutput paired place)
  refine (writes.mono (fun _ _ _ _ => id) ?_).bind ?_
  · rintro _ _ _ _ - ⟨fault, also, rfl, rfl, ⟨alike, apart⟩, between⟩
    exact ⟨.render task.source alike, apart, between⟩
  · intro _ world other paired
    refine (((Act.Blind.onMachine (Template.Run.reclaim start)).paired paired).mono
      (fun _ _ _ _ => And.right) fun _ _ _ _ _ => .of_same).bind ?_
    rintro _ world other ⟨related, between⟩
    exact .ok ⟨rfl, related, rfl, by rw [between.other_eq]⟩

end Task

namespace Generation

variable {generation : Generation} {data : Path} {jobs rest : List Job} {steps : List Step}
  {after finish : World} {outputs : List Path}

/-! ## Steps side by side -/

namespace Entered

variable {files : Tree} {folder : Path} {names : List String}

theorem dropLast (entered : Entered files folder names) :
    Entered files folder names.dropLast :=
  fun front nonempty short => entered front nonempty (short.trans (List.dropLast_prefix names))

theorem concat (entered : Entered files folder names)
    (isFolder : isFolder files (pathBelow folder (names ++ [name])) = true) :
    Entered files folder (names ++ [name]) := by
  intro front nonempty short
  rcases List.prefix_concat_iff.mp short with rfl | before
  · exact isFolder
  · exact entered front nonempty before

end Entered

/-- A generation looks at nothing that a site covers, and writes its outputs there. -/
structure Detached (generation : Generation) (site : Site) (files : Tree) (data : Path) :
    Prop where
  readers : generation.readers.IsOwn
  outputFolder : generation.outputFolder = site.path
  directory : generation.engine.directory = generation.templateFolder
  templates : site.Clear files generation.templateFolder
  data : site.ClearOfWalks files data
  recent : 0 ≤ generation.timestamp

theorem straight_of_isNames {names : List String} (isNames : ∀ name ∈ names, IsName name) :
    ".." ∉ names :=
  fun member => (isNames _ member).notAround rfl

/-- A job is about what a walk over the data comes to, or about an output. -/
def Job.Within (generation : Generation) (site : Site) (files : Tree) (data : Path) :
    Job → Prop
  | .folder path => ∃ names, (∀ name ∈ names, IsName name) ∧ Entered files data names ∧
      path = pathBelow data names
  | .file path => ∃ names name, (∀ known ∈ names ++ [name], IsName known) ∧
      Entered files data names ∧ path = pathBelow data (names ++ [name])
  | .pair task _ output => task.folder = site.path ∧ task.timestamp = generation.timestamp ∧
      ∃ name, IsOutputName name ∧ output = site.path.child name

/-- What is left to be done and written after jobs that are performed side by side. -/
def StaysAbreast (generation : Generation) (site : Site) (left right : Tree) (data : Path)
    (done : List String) (result : List Job × List Path) (after later : World) : Prop :=
  Paired (site.Abreast left right (done ++ result.2.map Path.name)) after later ∧
    ∀ next ∈ result.1, next.Within generation site left data

/-- Where a walk enters, the first tree and the current two show the same. -/
theorem Detached.sees (detached : Detached generation site left data)
    (twins : site.Twins left right) (abreast : site.Abreast left right done first second)
    {names : List String} (straight : ".." ∉ names) (entered : Entered left data names.dropLast) :
    Files.SameAt left first (pathBelow data names) ∧
      Files.SameAt first second (pathBelow data names) :=
  have avoids := detached.data names straight entered
  ⟨AgreesOff.sameAt twins.fits.sound (.refl twins.fits.sound) abreast.holds.agrees avoids,
    abreast.sameAt twins.fits.sound avoids⟩

/-- The same entries are found in a directory of data files. -/
theorem perform_folder_alike {names : List String} (twins : site.Twins left right)
    (detached : generation.Detached site left data)
    (isNames : ∀ name ∈ names, IsName name) (entered : Entered left data names)
    (paired : Paired (site.Abreast left right done) world other) :
    Matches (generation.StaysAbreast site left right data done) (FailAbreast left right)
      (generation.perform (.folder (pathBelow data names)) world)
      (generation.perform (.folder (pathBelow data names)) other) := by
  have abreast := paired.1
  have sound := abreast.holds.agrees.sound
  have straight := straight_of_isNames isNames
  have below {name : String} (notAround : name ≠ "..") :
      Files.SameAt left world.files (pathBelow data (names ++ [name])) ∧
        Files.SameAt world.files other.files (pathBelow data (names ++ [name])) :=
    detached.sees twins abreast (by simpa [straight] using notAround.symm)
      (by rwa [List.dropLast_concat])
  have same : SameIn world.files other.files (pathBelow data names) :=
    ⟨(detached.sees twins abreast straight entered.dropLast).2, fun name notAround => by
      rw [← pathBelow_concat]
      exact (below notAround).2⟩
  have blind : Act.Blind world.files other.files
      (generation.perform (.folder (pathBelow data names))) :=
    .bind (.askFiles (same.markedEntries_eq sound abreast.holdsAlso.agrees.sound))
      fun _ => .pure _
  refine (blind.paired paired).mono ?_ fun _ _ _ _ _ => .of_same
  rintro ⟨next, outputs⟩ after later - ⟨performed, paired⟩
  obtain ⟨-, rfl, trail, place, -, rfl⟩ := perform_folder_ok performed
  refine ⟨by simpa using paired, fun job member => ?_⟩
  obtain ⟨name, listed, rfl⟩ := List.mem_map.mp member
  have isName := isName_of_mem_childNames sound listed
  have longer : ∀ known ∈ names ++ [name], IsName known := by
    simpa [or_imp, forall_and, isName] using isNames
  rw [← pathBelow_concat]
  unfold Job.ofEntry
  split
  · next isFolder =>
    refine ⟨_, longer, entered.concat ?_, rfl⟩
    rw [← isFolder_eq (below isName.notAround).1]
    exact isFolder
  · exact ⟨names, name, longer, entered, rfl⟩

/-- The same task is made of a data file. -/
theorem perform_file_alike {names : List String} (twins : site.Twins left right)
    (detached : generation.Detached site left data)
    (isNames : ∀ known ∈ names ++ [name], IsName known) (entered : Entered left data names)
    (paired : Paired (site.Abreast left right done) world other) :
    Matches (generation.StaysAbreast site left right data done) (FailAbreast left right)
      (generation.perform (.file (pathBelow data (names ++ [name]))) world)
      (generation.perform (.file (pathBelow data (names ++ [name]))) other) := by
  have abreast := paired.1
  have templates : SameBelow world.files other.files generation.templateFolder :=
    detached.templates.sameBelow twins.fits.sound abreast.holds.agrees abreast.holdsAlso.agrees
  have same := (detached.sees twins abreast (straight_of_isNames isNames)
    (by rwa [List.dropLast_concat])).2
  have blind : Act.Blind world.files other.files
      (generation.perform (.file (pathBelow data (names ++ [name])))) := by
    refine .bind (.askFiles (isDataFile_eq same)) fun isData => .ite ?_ (.pure _)
    exact .bind (blind_taskFor detached.readers abreast.holds.agrees.sound
      abreast.holdsAlso.agrees.sound templates.sameIn same) fun task => .pure _
  refine (blind.paired paired).mono ?_ fun _ _ _ _ _ => .of_same
  rintro ⟨next, outputs⟩ after later - ⟨performed, paired⟩
  obtain ⟨-, rfl, found⟩ := perform_file_ok detached.readers performed
  refine ⟨by simpa using paired, fun job member => ?_⟩
  rcases found with ⟨-, rfl⟩ | ⟨-, task, -, isTask, rfl⟩
  · cases member
  · obtain ⟨⟨template, output⟩, listed, rfl⟩ := List.mem_map.mp member
    obtain ⟨-, rfl⟩ := mem_outputs.mp listed
    have folder := isTask.folder.trans detached.outputFolder
    exact ⟨folder, isTask.timestamp, _, ⟨_, rfl⟩, by rw [folder]; rfl⟩

/-- Jobs are performed side by side, and what they leave to be done is the same. -/
theorem perform_alike {job : Job} (twins : site.Twins left right)
    (detached : generation.Detached site left data)
    (within : job.Within generation site left data)
    (paired : Paired (site.Abreast left right done) world other) :
    Matches (generation.StaysAbreast site left right data done) (FailAbreast left right)
      (generation.perform job world) (generation.perform job other) := by
  cases job with
  | folder path =>
    obtain ⟨names, isNames, entered, rfl⟩ := within
    exact perform_folder_alike twins detached isNames entered paired
  | file path =>
    obtain ⟨names, name, isNames, entered, rfl⟩ := within
    exact perform_file_alike twins detached isNames entered paired
  | pair task template output =>
    obtain ⟨folder, timestamp, name, isOutput, rfl⟩ := within
    have clear : site.Clear left generation.engine.directory :=
      detached.directory ▸ detached.templates
    refine (task.generateOne_alike twins clear isOutput folder (timestamp ▸ detached.recent)
      paired).bind ?_
    rintro isWritten after later ⟨rfl, paired⟩
    exact .ok ⟨by simpa using paired, fun next member => nomatch member⟩

/-! ## Walks side by side -/

/-- A run has a counterpart that gives the same outputs and leaves the same jobs. -/
theorem Runs.abreast {remaining : List Job} (twins : site.Twins left right)
    (detached : generation.Detached site left data)
    (runs : Runs generation world jobs steps finish remaining)
    (within : ∀ job ∈ jobs, job.Within generation site left data)
    (paired : Paired (site.Abreast left right done) world other) :
    ∃ counterpart last, Runs generation other jobs counterpart last remaining ∧
      counterpart.flatMap Step.outputs = steps.flatMap Step.outputs ∧
      Paired (site.Abreast left right
        (done ++ (steps.flatMap Step.outputs).map Path.name)) finish last ∧
      ∀ job ∈ remaining, job.Within generation site left data := by
  induction runs generalizing done other with
  | stop => exact ⟨[], other, .stop, rfl, by simpa using paired, within⟩
  | @step world middle finish job next rest remaining outputs steps performed onward ih =>
    have alike := perform_alike twins detached (within job (List.mem_cons_self ..)) paired
    rw [performed] at alike
    generalize performedAlso : generation.perform job other = twin at alike
    cases alike with
    | @ok _ _ between related =>
      obtain ⟨related, created⟩ := related
      obtain ⟨counterpart, last, runsAlso, outputsEq, pairedAlso, left⟩ := ih
        (fun job member => by
          rcases List.mem_append.mp member with new | old
          · exact created job new
          · exact within job (List.mem_cons_of_mem _ old)) related
      refine ⟨_, last, .step performedAlso runsAlso, ?_, ?_, left⟩
      · rw [List.flatMap_cons, List.flatMap_cons, outputsEq]
      · rw [List.flatMap_cons, List.map_append, ← List.append_assoc]
        exact pairedAlso

/-- Walks side by side give the same outputs, or fail alike. -/
theorem walk_alike (twins : site.Twins left right)
    (detached : generation.Detached site left data)
    (paired : Paired (site.Abreast left right []) world other) :
    Matches (fun outputs => Paired (site.Abreast left right (outputs.map Path.name)))
      (FailAbreast left right)
      (generation.walk data world) (generation.walk data other) := by
  have sound := paired.1.holds.agrees.sound
  have soundAlso := paired.1.holdsAlso.agrees.sound
  have within : ∀ job ∈ [Job.folder data], job.Within generation site left data := by
    intro job member
    rw [List.mem_singleton.mp member]
    exact ⟨[], by simp, .nil left data, (pathBelow_nil data).symm⟩
  cases walked : generation.walk data world with
  | ok outputs after =>
    obtain ⟨steps, runs, rfl⟩ := walk_ok walked
    obtain ⟨counterpart, last, runsAlso, outputsEq, pairedAlso, -⟩ :=
      runs.abreast twins detached within paired
    rw [runsAlso.walk_eq detached.readers soundAlso, outputsEq]
    exact .ok pairedAlso
  | error failure after =>
    obtain ⟨steps, before, job, rest, runs, failed⟩ := walk_stops detached.readers sound walked
    obtain ⟨counterpart, last, runsAlso, -, pairedAlso, remaining⟩ :=
      runs.abreast twins detached within paired
    have alike := perform_alike twins detached (remaining job (List.mem_cons_self ..)) pairedAlso
    rw [failed] at alike
    generalize failedAlso : generation.perform job last = twin at alike
    cases alike with
    | error alike =>
      rw [runsAlso.walk_eq_error detached.readers soundAlso failedAlso]
      exact .error alike

end Generation

end Stencil

import Stencil.Proofs.Generation.FailFast

/-!
# Why walks end

A walk lists directories while it adds files to them, so the tree below its root is no fixed
measure of what is to be done.  But a walk only goes forward: the paths of the directories
that it lists and of the files that it visits increase strictly, and each of them was found
when the directory around it was listed.  What is added to a directory after that is never
looked at.  Outputs do not deepen the tree below the directory that they are put into, so
a walk can only go on for so long, and ends at the end of its jobs or at a job that fails.
-/

namespace Stencil.Generation

open Outcome
open Files (Entry Evolves LeadsInto LeadsTo Place Tree)

variable {generation : Generation} {world finish after : World} {jobs next rest left : List Job}
  {steps done : List Step} {outputs : List Path} {root : Path}

/-! ## Paths in increasing order -/

/-- The path that is listed or visited. -/
def Job.path? : Job → Option Path
  | .folder path => some path
  | .file path => some path
  | .pair .. => none

/-- The directory that is listed. -/
def Job.folder? : Job → Option Path
  | .folder path => some path
  | .file _ => none
  | .pair .. => none

theorem Job.folder?_eq_some_iff {job : Job} {path : Path} :
    job.folder? = some path ↔ job = .folder path := by
  cases job <;> simp [Job.folder?]

theorem Job.position_eq {job : Job} {path : Path} (known : job.path? = some path) :
    job.position = path.parts := by
  cases job <;> cases known <;> rfl

/-- Where two steps list or visit paths, the first path is less. -/
def Step.Earlier (first second : Step) : Prop :=
  ∀ path other, first.job.path? = some path → second.job.path? = some other →
    path.parts < other.parts

theorem lt_append (names : List String) {more : List String} (nonempty : more ≠ []) :
    names < names ++ more := by
  induction names with
  | nil =>
    cases more with
    | nil => exact absurd rfl nonempty
    | cons name more => exact List.nil_lt_cons ..
  | cons name names ih => exact List.cons_lt_cons_iff.mpr (.inr ⟨rfl, ih⟩)

theorem lt_of_lt_of_prefix {first second longer : List String} (less : first < second)
    (short : second <+: longer) : first < longer := by
  rcases short with ⟨more, rfl⟩
  by_cases same : more = []
  · rwa [same, List.append_nil]
  · exact less.trans (lt_append second same)

/-- The jobs that take the place of one stand behind it. -/
theorem position_lt_of_perform {job : Job} (readers : generation.readers.IsOwn)
    (sound : world.files.Sound)
    (performed : generation.perform job world = .ok (next, outputs) after) :
    ∀ later ∈ next, job.position < later.position := by
  intro later member
  cases job with
  | folder path =>
    rcases perform_folder_ok performed with ⟨-, -, trail, place, -, rfl⟩
    rcases List.mem_map.mp member with ⟨name, -, rfl⟩
    rw [position_ofEntry]
    exact lt_append path.parts (List.cons_ne_nil name [])
  | file path =>
    rcases perform_file_ok readers performed with ⟨-, -, ⟨-, rfl⟩ | ⟨-, task, -, isTask, rfl⟩⟩
    · cases member
    · rcases List.mem_map.mp member with ⟨⟨template, output⟩, -, rfl⟩
      rw [← isTask.source]
      exact lt_append _ (List.cons_ne_nil _ _)
  | pair task template output =>
    rw [(perform_pair_ok sound performed).1] at member
    cases member

/-- What has been listed or visited is in increasing order, and before all that is left. -/
structure Climbs (done : List Step) (jobs : List Job) : Prop where
  earlier : done.Pairwise Step.Earlier
  ahead : ∀ step ∈ done, ∀ path, step.job.path? = some path →
    ∀ job ∈ jobs, path.parts < job.position

theorem Climbs.perform {job : Job} (readers : generation.readers.IsOwn)
    (sound : world.files.Sound)
    (ordered : Ordered done (job :: rest))
    (climbs : Climbs done (job :: rest))
    (performed : generation.perform job world = .ok (next, outputs) after) :
    Climbs (done ++ [⟨job, world, after, outputs⟩]) (next ++ rest) where
  earlier := by
    refine List.pairwise_append.mpr ⟨climbs.earlier, List.pairwise_singleton _ _, ?_⟩
    intro step member last isLast path other known alsoKnown
    rw [List.mem_singleton.mp isLast] at alsoKnown
    rw [← Job.position_eq alsoKnown]
    exact climbs.ahead step member path known job (List.mem_cons_self ..)
  ahead := by
    intro step member path known later follows
    rcases List.mem_append.mp member with earlier | isLast
    · rcases List.mem_append.mp follows with new | old
      · have less := climbs.ahead step earlier path known job (List.mem_cons_self ..)
        exact lt_of_lt_of_prefix less ((positions_of_perform readers sound performed).2 later new)
      · exact climbs.ahead step earlier path known later (List.mem_cons_of_mem _ old)
    · rw [List.mem_singleton.mp isLast] at known
      rw [← Job.position_eq known]
      rcases List.mem_append.mp follows with new | old
      · exact position_lt_of_perform readers sound performed later new
      · have after := (List.pairwise_append.mp ordered).2.1
        rw [List.map_cons, List.pairwise_cons] at after
        exact (after.1 later.position (List.mem_map_of_mem old)).lt

/-- A walk lists and visits paths in strictly increasing order. -/
theorem Runs.earlier (readers : generation.readers.IsOwn) (sound : world.files.Sound)
    (runs : Runs generation world [.folder root] steps finish left) :
    steps.Pairwise Step.Earlier := by
  have begun : world.files.Sound ∧ Ordered [] [.folder root] ∧ Climbs [] [.folder root] :=
    ⟨sound, List.pairwise_singleton _ _, .nil, by simp⟩
  refine (runs.keeps
    (fun done world jobs => world.files.Sound ∧ Ordered done jobs ∧ Climbs done jobs)
    (fun ⟨sound, ordered, climbs⟩ performed => ?_) begun).2.2.earlier
  exact ⟨(evolves_of_perform readers sound performed).sound,
    ordered.perform readers sound performed, climbs.perform readers sound ordered performed⟩

/-- Steps that are not told apart either way round are one. -/
theorem eq_of_pairwise {apart : Step → Step → Prop} (pairwise : steps.Pairwise apart)
    {first second : Step} (member : first ∈ steps) (also : second ∈ steps)
    (one : ¬apart first second) (other : ¬apart second first) : first = second := by
  induction steps with
  | nil => cases member
  | cons step rest ih =>
    rcases List.pairwise_cons.mp pairwise with ⟨before, others⟩
    rcases List.mem_cons.mp member with rfl | inside
    · rcases List.mem_cons.mp also with rfl | behind
      · rfl
      · exact absurd (before second behind) one
    · rcases List.mem_cons.mp also with rfl | behind
      · exact absurd (before first inside) other
      · exact ih others inside behind

/-- A path is listed or visited by one step only. -/
theorem eq_of_path? (earlier : steps.Pairwise Step.Earlier) {first second : Step} {path : Path}
    (member : first ∈ steps) (also : second ∈ steps)
    (known : first.job.path? = some path) (same : second.job.path? = some path) :
    first = second :=
  eq_of_pairwise earlier member also
    (fun less => lt_irrefl _ (less path path known same))
    fun less => lt_irrefl _ (less path path same known)

/-! ## Where paths are found -/

/-- A step lists the directory that a path leads to at that time. -/
def Step.Lists (step : Step) (folder : Path) (place : Place) : Prop :=
  step.job = .folder folder ∧ ∃ trail, LeadsInto step.before.files folder trail place

/-- A path was found when the directory around it was listed. -/
def Found (done : List Step) (path : Path) : Prop :=
  ∃ listing ∈ done, ∃ folder place name entry, listing.Lists folder place ∧
    path = folder.child name ∧ listing.before.files.at? (place ++ [name]) = some entry

theorem Found.mono {more : List Step} {path : Path} (found : Found done path)
    (included : done ⊆ more) : Found more path := by
  rcases found with ⟨listing, member, rest⟩
  exact ⟨listing, included member, rest⟩

/-- Everything that is to be listed or visited was found, but for the root. -/
def Job.Found (root : Path) (done : List Step) (job : Job) : Prop :=
  ∀ path, job.path? = some path → path = root ∨ Generation.Found done path

theorem found_of_perform {job : Job} (readers : generation.readers.IsOwn)
    (sound : world.files.Sound)
    (performed : generation.perform job world = .ok (next, outputs) after) :
    ∀ later ∈ next, ∀ path, later.path? = some path →
      Found [⟨job, world, after, outputs⟩] path := by
  intro later member path known
  cases job with
  | folder folder =>
    rcases perform_folder_ok performed with ⟨rfl, -, trail, place, leads, rfl⟩
    rcases List.mem_map.mp member with ⟨name, listed, rfl⟩
    rcases (mem_childNames sound).mp listed with ⟨entry, there⟩
    refine ⟨_, List.mem_singleton_self _, folder, place, name, entry, ⟨rfl, trail, leads⟩, ?_,
      there⟩
    unfold Job.ofEntry at known
    split at known <;> exact (Option.some.inj known).symm
  | file folder =>
    rcases perform_file_ok readers performed with ⟨-, -, ⟨-, rfl⟩ | ⟨-, task, -, -, rfl⟩⟩
    · cases member
    · rcases List.mem_map.mp member with ⟨listed, -, rfl⟩
      cases known
  | pair task template output =>
    rw [(perform_pair_ok sound performed).1] at member
    cases member

/-- Each step lists the root, visits or lists a path that was found before, or is an output. -/
theorem Runs.found {front back : List Step} {step : Step} {path : Path}
    (readers : generation.readers.IsOwn) (sound : world.files.Sound)
    (runs : Runs generation world [.folder root] (front ++ step :: back) finish left)
    (known : step.job.path? = some path) : path = root ∨ Found front path := by
  rcases runs.split with ⟨middle, between, first, second⟩
  have begun : world.files.Sound ∧ ∀ job ∈ [Job.folder root], job.Found root [] := by
    refine ⟨sound, fun job member path known => ?_⟩
    rw [List.mem_singleton.mp member] at known
    exact .inl (Option.some.inj known).symm
  have all := (first.keeps
    (fun done world jobs => world.files.Sound ∧ ∀ job ∈ jobs, job.Found root done)
    (fun {done world job rest next outputs middle} ⟨sound, found⟩ performed => ?_) begun).2
  · cases second with
    | step performed onward => exact all _ (List.mem_cons_self ..) path known
  · refine ⟨(evolves_of_perform readers sound performed).sound, fun later member path known => ?_⟩
    rcases List.mem_append.mp member with new | old
    · exact .inr ((found_of_perform readers sound performed later new path known).mono
        (List.subset_append_right ..))
    · rcases found later (List.mem_cons_of_mem _ old) path known with isRoot | found
      · exact .inl isRoot
      · exact .inr (found.mono (List.subset_append_left ..))

/-! ## Which directories are listed -/

theorem Runs.mem_split (runs : Runs generation world jobs steps finish left) {step : Step}
    (member : step ∈ steps) :
    ∃ front back next rest outputs, steps = front ++ step :: back ∧
      Runs generation world jobs front step.before (step.job :: rest) ∧
      generation.perform step.job step.before = .ok (next, outputs) step.after ∧
      Runs generation step.after (next ++ rest) back finish left := by
  rcases List.append_of_mem member with ⟨front, back, rfl⟩
  rcases runs.split with ⟨middle, between, first, second⟩
  cases second with
  | step performed onward => exact ⟨front, back, _, _, _, rfl, first, performed, onward⟩

/-- A directory that is listed stands below the place of the root, and stays there. -/
theorem Runs.place_of_lists {trail : List Place} {base place : Place} {folder : Path}
    {step : Step} (readers : generation.readers.IsOwn) (sound : world.files.Sound)
    (begins : LeadsInto world.files root trail base)
    (runs : Runs generation world [.folder root] steps finish left)
    (member : step ∈ steps) (lists : step.Lists folder place) :
    ∃ names, folder = pathBelow root names ∧ place = base ++ names ∧
      finish.files.at? place = some .directory := by
  rcases runs.mem_split member with ⟨front, back, next, rest, outputs, -, first, performed, onward⟩
  rcases lists with ⟨isFolder, around, leads⟩
  have opens : ∀ job ∈ [Job.folder root], job.Opens root base world.files := by
    intro job member
    rw [List.mem_singleton.mp member]
    exact ⟨[], trail, world.files, (pathBelow_nil root).symm, by rwa [List.append_nil],
      .refl sound⟩
  have opened := first.opens readers sound opens step.job (List.mem_cons_self ..)
  rw [isFolder] at opened
  rcases opened with ⟨names, front, earlier, folderEq, led, evolved⟩
  rcases led.evolve evolved leads with ⟨-, placeEq⟩
  have middle := (first.evolves readers sound).sound
  have evolves := evolves_of_perform readers middle performed
  have later := evolves.trans (onward.evolves readers evolves.sound)
  exact ⟨names, folderEq, placeEq.symm, later.directory _ (Files.Leads.entry_eq leads).symm⟩

/-- Steps list different directories. -/
def Step.Apart (first second : Step) : Prop :=
  ∀ folder place other another, first.Lists folder place → second.Lists other another →
    folder ≠ other ∧ place ≠ another

/-- A run that has begun has listed its root first. -/
theorem Runs.listsRoot (runs : Runs generation world [.folder root] steps finish left)
    {step : Step} (member : step ∈ steps) :
    ∃ base, ∃ first ∈ steps, first.Lists root base ∧ first.before = world := by
  cases runs with
  | stop => cases member
  | step performed _ =>
    rcases perform_folder_ok performed with ⟨-, -, trail, base, leads, -⟩
    exact ⟨base, _, List.mem_cons_self .., ⟨rfl, trail, leads⟩, rfl⟩

/-- Every directory is listed at most once. -/
theorem Runs.apart (readers : generation.readers.IsOwn) (sound : world.files.Sound)
    (runs : Runs generation world [.folder root] steps finish left) :
    steps.Pairwise Step.Apart := by
  refine (runs.earlier readers sound).imp_of_mem ?_
  intro first second member also earlier folder place other another lists listsAlso
  rcases runs.listsRoot member with ⟨base, _, -, ⟨-, trail, begins⟩, rfl⟩
  rcases runs.place_of_lists readers sound begins member lists with ⟨names, rfl, rfl, -⟩
  rcases runs.place_of_lists readers sound begins also listsAlso with ⟨others, rfl, rfl, -⟩
  have less := earlier _ _ (by rw [lists.1]; rfl) (by rw [listsAlso.1]; rfl)
  constructor
  · intro same
    rw [same] at less
    exact lt_irrefl _ less
  · intro same
    rw [List.append_cancel_left same] at less
    exact lt_irrefl _ less

/-- A directory is listed by one step only. -/
theorem eq_of_lists (apart : steps.Pairwise Step.Apart) {first second : Step}
    {folder other : Path} {place : Place} (member : first ∈ steps) (also : second ∈ steps)
    (lists : first.Lists folder place) (listsAlso : second.Lists other place) :
    first = second :=
  eq_of_pairwise apart member also
    (fun differ => (differ _ _ _ _ lists listsAlso).2 rfl)
    fun differ => (differ _ _ _ _ listsAlso lists).2 rfl

/-- The directories that steps list. -/
def listedFolders (steps : List Step) : List Path :=
  steps.filterMap fun step => step.job.folder?

theorem mem_listedFolders {path : Path} :
    path ∈ listedFolders steps ↔ ∃ step ∈ steps, step.job = .folder path := by
  simp only [listedFolders, List.mem_filterMap, Job.folder?_eq_some_iff]

theorem Runs.nodup_listedFolders (readers : generation.readers.IsOwn)
    (sound : world.files.Sound)
    (runs : Runs generation world [.folder root] steps finish left) :
    (listedFolders steps).Nodup := by
  refine (runs.earlier readers sound).filterMap _ ?_
  intro first second earlier path known other knownAlso same
  rw [Job.folder?_eq_some_iff] at known knownAlso
  subst same
  have less := earlier path path (by rw [known]; rfl) (by rw [knownAlso]; rfl)
  exact lt_irrefl _ less

/-- No more directories are listed than there were entries and the output path has names. -/
theorem Runs.length_listedFolders_le (readers : generation.readers.IsOwn)
    (sound : world.files.Sound)
    (runs : Runs generation world [.folder root] steps finish left) :
    (listedFolders steps).length ≤
      world.files.entries.length + generation.outputFolder.parts.length + 1 := by
  by_cases none : listedFolders steps = []
  · simp [none]
  rcases List.exists_mem_of_ne_nil _ none with ⟨first, listed⟩
  rcases mem_listedFolders.mp listed with ⟨step, member, -⟩
  rcases runs.listsRoot member with ⟨base, _, -, ⟨-, trail, begins⟩, rfl⟩
  -- The places of the directories, each given by the names of its path below the root.
  let placeOf (folder : Path) : Place := base ++ folder.parts.drop root.parts.length
  have known : ∀ folder ∈ listedFolders steps,
      ∃ names, folder = pathBelow root names ∧ placeOf folder = base ++ names ∧
        finish.files.at? (placeOf folder) = some .directory := by
    intro folder listed
    rcases mem_listedFolders.mp listed with ⟨step, member, isFolder⟩
    rcases runs.mem_split member with ⟨_, _, _, _, _, -, -, performed, -⟩
    rw [isFolder] at performed
    rcases perform_folder_ok performed with ⟨-, -, trail, place, leads, -⟩
    rcases runs.place_of_lists readers sound begins member ⟨isFolder, trail, leads⟩ with
      ⟨names, rfl, rfl, there⟩
    have placeEq : placeOf (pathBelow root names) = base ++ names := by
      simp [placeOf, pathBelow]
    exact ⟨names, rfl, placeEq, placeEq ▸ there⟩
  have nodup : ((listedFolders steps).map placeOf).Nodup := by
    refine List.Nodup.map_on ?_ (runs.nodup_listedFolders readers sound)
    intro folder listed other also same
    rcases known folder listed with ⟨names, rfl, placeEq, -⟩
    rcases known other also with ⟨others, rfl, placeAlso, -⟩
    rw [placeEq, placeAlso] at same
    rw [List.append_cancel_left same]
  rcases (runs.accounted readers (.refl sound)).isOpen.footprint with
    ⟨grown, growth, overwritten⟩
  have bound := growth.count_le (nodup.erase []) (fun place inside isRoot => ?_)
    fun place inside => ?_
  · rw [List.length_erase, List.length_map] at bound
    split at bound <;> omega
  · subst isRoot
    exact nodup.not_mem_erase inside
  · rcases List.mem_map.mp (List.mem_of_mem_erase inside) with ⟨folder, listed, rfl⟩
    rcases known folder listed with ⟨_, -, -, there⟩
    exact ⟨_, overwritten.at?_base there (by simp)⟩

/-! ## What is added later -/

theorem child_inj {folder other : Path} {name another : String}
    (same : folder.child name = other.child another) : folder = other ∧ name = another := by
  have folders := congrArg Path.parent same
  have names := congrArg Path.name same
  rw [Path.parent_child, Path.parent_child] at folders
  rw [Path.name_child, Path.name_child] at names
  exact ⟨folders, names⟩

/-- A file that is visited was in its directory when that was listed. -/
theorem Runs.found_of_visit {visit : Step} {path : Path}
    (readers : generation.readers.IsOwn) (sound : world.files.Sound)
    (runs : Runs generation world [.folder root] steps finish left)
    (member : visit ∈ steps) (visits : visit.job = .file path) :
    ∃ listing ∈ steps, ∃ folder place name entry, listing.Lists folder place ∧
      path = folder.child name ∧ listing.before.files.at? (place ++ [name]) = some entry ∧
      Evolves listing.before.files visit.before.files := by
  have isPath : visit.job.path? = some path := by
    rw [visits]
    rfl
  have notRoot : path ≠ root := by
    rintro rfl
    rcases runs.listsRoot member with ⟨_, start, isStep, ⟨isFolder, -⟩, -⟩
    have one := eq_of_path? (runs.earlier readers sound) isStep member (by rw [isFolder]; rfl)
      isPath
    rw [← one, isFolder] at visits
    cases visits
  rcases runs.mem_split member with ⟨front, back, _, _, _, rfl, first, -, -⟩
  rcases runs.found readers sound isPath with isRoot | found
  · exact absurd isRoot notRoot
  · rcases found with ⟨listing, before, folder, place, name, entry, lists, pathEq, there⟩
    refine ⟨listing, List.mem_append_left _ before, folder, place, name, entry, lists, pathEq,
      there, ?_⟩
    rcases first.mem_split before with ⟨_, _, _, _, _, -, earlier, performed, onward⟩
    have evolves :=
      evolves_of_perform readers (earlier.evolves readers sound).sound performed
    exact evolves.trans (onward.evolves readers evolves.sound)

/-- What a directory did not hold when it was listed is not visited, by whatever path. -/
theorem Runs.passes_over {listing visit : Step} {folder path : Path} {place : Place}
    {name : String} (readers : generation.readers.IsOwn) (sound : world.files.Sound)
    (runs : Runs generation world [.folder root] steps finish left)
    (member : listing ∈ steps) (lists : listing.Lists folder place)
    (absent : listing.before.files.at? (place ++ [name]) = none)
    (also : visit ∈ steps) (visits : visit.job = .file path) :
    path ≠ folder.child name ∧ ∀ trail content,
      ¬LeadsTo visit.before.files false path trail
        ⟨place ++ [name], some (.file content)⟩ := by
  rcases runs.found_of_visit readers sound also visits with
    ⟨source, inside, around, found, own, entry, listsToo, rfl, there, evolves⟩
  -- The directory around the path was listed by the same step if it stands at that place.
  have elsewhere : found ++ [own] ≠ place ++ [name] := by
    intro same
    rcases List.append_inj' same rfl with ⟨rfl, ownEq⟩
    cases ownEq
    have one := eq_of_lists (runs.apart readers sound) inside member listsToo lists
    rw [← one, there] at absent
    cases absent
  constructor
  · intro same
    rcases child_inj same with ⟨rfl, rfl⟩
    have one := eq_of_path? (runs.earlier readers sound) inside member
      (by rw [listsToo.1]; rfl) (by rw [lists.1]; rfl)
    subst one
    rcases lists with ⟨-, trail, leads⟩
    rcases listsToo with ⟨-, other, leadsToo⟩
    exact elsewhere (by rw [(leads.unique leadsToo).2])
  · intro trail content leads
    rcases listsToo with ⟨-, other, into⟩
    have isName : Files.IsName own := by
      rcases runs.mem_split inside with ⟨_, _, _, _, _, -, earlier, -, -⟩
      exact (earlier.evolves readers sound).sound.named _ _ _ there
    have named : Files.Change.endsInDots (around.child own) = false := by
      simpa [Files.Change.endsInDots, Path.child] using isName.notAround
    rcases LeadsTo.folder evolves.sound leads named (by simp) with ⟨-, later, still, spotEq⟩
    rw [Path.parent_child] at still
    rw [Path.name_child] at spotEq
    rcases into.evolve evolves still with ⟨-, rfl⟩
    exact elsewhere (congrArg Tree.Spot.place spotEq).symm

/-! ## The end of a walk -/

/--
A walk goes through these steps and ends there, because nothing is left or the next job
fails; no run of its jobs gets any further.  It lists no more directories than there were
entries and the output path has names, each of them once, and visits no path twice.  What a
directory did not hold when it was listed is not visited.
-/
structure Ends (generation : Generation) (root : Path) (world : World) (steps : List Step)
    (finish : World) (left : List Job) : Prop where
  runs : Runs generation world [.folder root] steps finish left
  result :
    (left = [] ∧ generation.walk root world = .ok (steps.flatMap Step.outputs) finish) ∨
      ∃ job rest failure after, left = job :: rest ∧
        generation.perform job finish = .error failure after ∧
        generation.walk root world = .error failure after
  longest : ∀ more middle others, Runs generation world [.folder root] more middle others →
    more <+: steps
  few : (listedFolders steps).length ≤
    world.files.entries.length + generation.outputFolder.parts.length + 1
  listedOnce : steps.Pairwise Step.Apart
  visitedOnce : steps.Pairwise fun first second =>
    ∀ path, first.job = .file path → second.job ≠ .file path
  passesOver : ∀ listing ∈ steps, ∀ folder place name, listing.Lists folder place →
    listing.before.files.at? (place ++ [name]) = none →
    ∀ visit ∈ steps, ∀ path, visit.job = .file path →
      path ≠ folder.child name ∧ ∀ trail content,
        ¬LeadsTo visit.before.files false path trail ⟨place ++ [name], some (.file content)⟩

/-- A run that cannot go on shows how the walk ends. -/
private theorem Runs.ends (readers : generation.readers.IsOwn) (sound : world.files.Sound)
    (runs : Runs generation world [.folder root] steps finish left)
    (result :
      (left = [] ∧ generation.walk root world = .ok (steps.flatMap Step.outputs) finish) ∨
        ∃ job rest failure after, left = job :: rest ∧
          generation.perform job finish = .error failure after ∧
          generation.walk root world = .error failure after) :
    Ends generation root world steps finish left where
  runs := runs
  result := result
  longest := by
    intro more middle others again
    rcases runs.compare again with ⟨further, onward, rfl⟩ | ⟨further, -, rfl⟩
    · cases onward with
      | stop => simp
      | step performed _ =>
        rcases result with ⟨nothing, -⟩ | ⟨job, rest, failure, after, isNext, failed, -⟩
        · cases nothing
        · cases isNext
          rw [failed] at performed
          cases performed
    · exact List.prefix_append ..
  few := runs.length_listedFolders_le readers sound
  listedOnce := runs.apart readers sound
  visitedOnce := (runs.earlier readers sound).imp fun earlier path visits visitsToo =>
    lt_irrefl _ (earlier path path (by rw [visits]; rfl) (by rw [visitsToo]; rfl))
  passesOver := fun _ member _ _ _ lists absent _ also _ visits =>
    runs.passes_over readers sound member lists absent also visits

/-- Every walk ends, even where its own outputs are data files below its root. -/
theorem walk_terminates (readers : generation.readers.IsOwn) (sound : world.files.Sound)
    (root : Path) : ∃ steps finish left, Ends generation root world steps finish left := by
  cases walked : generation.walk root world with
  | ok outputs finish =>
    rcases walk_ok walked with ⟨steps, runs, rfl⟩
    exact ⟨steps, finish, [], runs.ends readers sound (.inl ⟨rfl, walked⟩)⟩
  | error failure after =>
    rcases walk_stops readers sound walked with ⟨steps, before, job, rest, runs, failed⟩
    exact ⟨steps, before, job :: rest, runs.ends readers sound
      (.inr ⟨job, rest, failure, after, rfl, failed, walked⟩)⟩

/-- A tree with a data file and a template. -/
def growingFiles : Tree where
  entries := [
    (["data"], .directory),
    (["data", "Oak.json"], .file ⟨ByteArray.empty, 0o644, 0, 0⟩),
    (["templates"], .directory),
    (["templates", "Bean"], .file ⟨"class".toUTF8, 0o644, 0, 0⟩)]
  here := []

/-- A generation whose outputs are data files in the directory that it walks through. -/
def growingGeneration : Generation :=
  { plainGeneration with
    readers := Registry.put ".java" .entity Registry.defaultTable
    outputFolder := .ofString "data" }

theorem walk_terminates_growingFiles :
    growingGeneration.readers.IsOwn ∧ growingFiles.Sound ∧
      ∃ steps finish left, Ends growingGeneration (.ofString "data")
        { files := growingFiles } steps finish left := by
  have readers : growingGeneration.readers.IsOwn := by
    unfold Registry.Table.IsOwn
    decide
  have sound : growingFiles.Sound :=
    .of_entries (by decide +kernel) (by decide +kernel) rfl fun _ => Files.marked_spareMark
  exact ⟨readers, sound, walk_terminates readers sound _⟩

/-- The output is a data file, but it was not there when its directory was listed. -/
example :
    value? (growingGeneration.walk (.ofString "data") { files := growingFiles }) =
      some [.ofString "data/Oak.jsonBean.java"] := by
  decide +kernel

end Stencil.Generation

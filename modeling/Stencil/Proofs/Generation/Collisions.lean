import Mathlib.Data.Finset.Card
import Stencil.Proofs.Generation.EndToEnd
import Stencil.Proofs.Naming

/-!
# Outputs that share a path

The name of an output puts the names of a data file and of a template together, without a
mark between them and without the directory of the data file.  So different pairs may have
the same output, and this is the only way in which an output of a run is overwritten: paths
that differ lead to different files, and each path is given once for each of its pairs.
-/

namespace Stencil.Generation

open Outcome
open Files (IsName LeadsInto LeadsTo Place Tree)

variable {generation : Generation} {world finish after : World} {jobs next left : List Job}
  {steps : List Step} {outputs : List Path}

/-! ## Pairs and their outputs -/

/-- The pairs whose outputs have been written. -/
def writtenPairs (steps : List Step) : List (Path × Path) :=
  pairsOf (steps.filter fun step => !step.outputs.isEmpty)

/-- A step gives no path, or that of its output. -/
theorem outputs_of_perform {job : Job} (readers : generation.readers.IsOwn)
    (performed : generation.perform job world = .ok (next, outputs) after) :
    outputs = [] ∨ ∃ task template output, job = .pair task template output ∧
      outputs = [output] := by
  cases job with
  | folder path => exact .inl (perform_folder_ok performed).2.1
  | file path => exact .inl (perform_file_ok readers performed).2.1
  | pair task template output =>
    obtain ⟨isWritten, middle, -, given⟩ := bind_eq_ok_iff.mp performed
    cases given
    cases isWritten with
    | false => exact .inl rfl
    | true => exact .inr ⟨task, template, output, rfl, rfl⟩

/-- Each step of a run gives no path, or that of its pair. -/
theorem Runs.outputs_of_mem {root : Path} {step : Step}
    (readers : generation.readers.IsOwn)
    (sound : world.files.Sound)
    (runs : Runs generation world [.folder root] steps finish left)
    (member : step ∈ steps) :
    step.outputs = [] ∨ ∃ task template,
      step.job = .pair task template
        (Naming.outputPath task.source template generation.outputFolder) ∧
      step.outputs = [Naming.outputPath task.source template generation.outputFolder] := by
  obtain ⟨next, performed, -⟩ := runs.thorough step member
  rcases outputs_of_perform readers performed with none | ⟨task, template, output, isPair, one⟩
  · exact .inl none
  · have belongs := (runs.accounted readers (.refl sound)).performed step member
    rw [isPair] at belongs
    obtain ⟨rfl, -⟩ := belongs.output
    exact .inr ⟨task, template, isPair, one⟩

theorem flatMap_outputs_eq_map {folder : Path}
    (each : ∀ step ∈ steps, step.outputs = [] ∨ ∃ task template,
      step.job = .pair task template (Naming.outputPath task.source template folder) ∧
      step.outputs = [Naming.outputPath task.source template folder]) :
    steps.flatMap Step.outputs =
      (writtenPairs steps).map fun pair => Naming.outputPath pair.1 pair.2 folder := by
  induction steps with
  | nil => rfl
  | cons step rest ih =>
    have others := ih fun later member => each later (List.mem_cons_of_mem _ member)
    unfold writtenPairs at others ⊢
    rw [List.flatMap_cons, others]
    rcases each step (List.mem_cons_self ..) with none | ⟨task, template, isPair, one⟩
    · rw [List.filter_cons_of_neg (by simp [none]), none, List.nil_append]
    · rw [List.filter_cons_of_pos (by simp [one]), one]
      simp [pairsOf, isPair, Job.pair?]

/-- No pair is attended to twice. -/
theorem Runs.nodup_pairsOf {root : Path} (readers : generation.readers.IsOwn)
    (sound : world.files.Sound)
    (runs : Runs generation world [.folder root] steps finish left) : (pairsOf steps).Nodup := by
  have sorted := (List.pairwise_append.mp (runs.ordered readers sound)).1
  refine (List.pairwise_map.mp sorted).imp fun precedes same => ?_
  subst same
  exact lt_irrefl _ precedes.lt

/-! ## Outputs with the same path -/

/-- A path is given twice exactly if two pairs have the same names put together. -/
theorem nodup_outputs_iff {pairs : List (Path × Path)} {folder : Path} (nodup : pairs.Nodup) :
    (pairs.map fun pair => Naming.outputPath pair.1 pair.2 folder).Nodup ↔
      ∀ first ∈ pairs, ∀ second ∈ pairs,
        first.1.name ++ first.2.name = second.1.name ++ second.2.name → first = second := by
  rw [List.nodup_map_iff_inj_on nodup]
  simp only [Naming.outputPath_inj]

/-! ## The files of outputs -/

/-- The places that paths lead to. -/
def placesOf (files : Tree) (paths : List Path) : Finset Place :=
  (paths.filterMap fun path =>
    (files.walk true path).toOption.map Tree.Spot.place).toFinset

/-- A path leads to a regular file, whether links at its end are followed or not. -/
def IsFileAt (files : Tree) (path : Path) (place : Place) : Prop :=
  ∃ content, ∀ follow, files.walk follow path = .ok ⟨place, some (.file content)⟩

/-- A file stands under the last name of its path, in the directory of this path. -/
theorem IsFileAt.inside {files : Tree} {folder : Path} {name : String} {place : Place}
    (sound : files.Sound)
    (isFile : IsFileAt files (folder.child name) place)
    (notAround : name ≠ "..") :
    ∃ trail around, LeadsInto files folder trail around ∧ place = around ++ [name] := by
  obtain ⟨content, walked⟩ := isFile
  obtain ⟨trail, leads⟩ := Files.walk_eq_ok_iff.mp (walked false)
  have named : Files.Change.endsInDots (folder.child name) = false := by
    simp [Files.Change.endsInDots, Path.child, notAround]
  obtain ⟨-, around, inside, spotEq⟩ := leads.folder sound named (by simp)
  rw [Path.parent_child] at inside
  rw [Path.name_child] at spotEq
  exact ⟨trail, around, inside, congrArg Tree.Spot.place spotEq⟩

/-- Files under different names of one directory stand at different places. -/
theorem IsFileAt.injective {files : Tree} {folder : Path} {name other : String}
    {place : Place}
    (sound : files.Sound)
    (isFile : IsFileAt files (folder.child name) place)
    (another : IsFileAt files (folder.child other) place)
    (notAround : name ≠ "..")
    (otherNotAround : other ≠ "..") : name = other := by
  obtain ⟨trail, around, inside, rfl⟩ := isFile.inside sound notAround
  obtain ⟨_, _, again, same⟩ := another.inside sound otherNotAround
  obtain ⟨rfl, rfl⟩ := inside.unique again
  simpa using same

theorem outputName_ne_dots (dataFile template : Path) :
    Naming.outputName dataFile template ≠ ".." :=
  Naming.outputName_ne_of_short (by decide) dataFile template

/-- Paths that lead to files at different places have as many places as there are paths. -/
theorem card_placesOf {files : Tree} {paths : List Path}
    (found : ∀ path ∈ paths, ∃ place, IsFileAt files path place)
    (apart : ∀ first ∈ paths, ∀ second ∈ paths, ∀ place, IsFileAt files first place →
      IsFileAt files second place → first = second) :
    (placesOf files paths).card = paths.toFinset.card := by
  classical
  choose! place isFile using found
  have placesEq : placesOf files paths = paths.toFinset.image place := by
    ext spot
    simp only [placesOf, List.mem_toFinset, List.mem_filterMap, Finset.mem_image]
    constructor
    · rintro ⟨path, member, same⟩
      obtain ⟨content, walked⟩ := isFile path member
      rw [walked true] at same
      exact ⟨path, member, Option.some.inj same⟩
    · rintro ⟨path, member, rfl⟩
      obtain ⟨content, walked⟩ := isFile path member
      exact ⟨path, member, by rw [walked true]; rfl⟩
  rw [placesEq]
  refine Finset.card_image_of_injOn fun first member second among same => ?_
  rw [Finset.mem_coe, List.mem_toFinset] at member among
  exact apart first member second among _ (isFile first member) (same ▸ isFile second among)

/-- There are as many different members as members exactly if none occurs twice. -/
theorem card_toFinset_eq_length_iff {paths : List Path} :
    paths.toFinset.card = paths.length ↔ paths.Nodup :=
  Multiset.toFinset_card_eq_card_iff_nodup (m := (paths : Multiset Path))

/-! ## Runs -/

/-- What becomes of the outputs that the steps of a walk have given. -/
structure Separates (generation : Generation) (steps : List Step) (outputs : List Path)
    (after : World) : Prop where
  /-- Each pair that is written gives a path, in order. -/
  outputs_eq : outputs = (writtenPairs steps).map fun pair =>
    Naming.outputPath pair.1 pair.2 generation.outputFolder
  nodup_pairs : (pairsOf steps).Nodup
  /-- A path is given twice exactly if two pairs have the same names put together. -/
  nodup_iff : outputs.Nodup ↔
    ∀ first ∈ writtenPairs steps, ∀ second ∈ writtenPairs steps,
      first.1.name ++ first.2.name = second.1.name ++ second.2.name → first = second
  /-- There are as many files as different paths. -/
  card_places : (placesOf after.files outputs).card = outputs.toFinset.card
  /-- There are as many files as paths exactly if no path is given twice. -/
  card_eq_iff : (placesOf after.files outputs).card = outputs.length ↔ outputs.Nodup
  /-- If no path is given twice, each one keeps what was rendered for its pair. -/
  stands : outputs.Nodup → ∀ step ∈ steps, ∀ path ∈ step.outputs,
    ∃ task template, step.job = .pair task template path ∧
      Stands generation task template path step.before after

/-- Where no path is given twice, no step gives a path of another one. -/
theorem eq_of_mem_outputs {front back : List Step} {step other : Step} {path : Path}
    (nodup : ((front ++ step :: back).flatMap Step.outputs).Nodup)
    (given : path ∈ step.outputs)
    (member : other ∈ front ++ step :: back)
    (again : path ∈ other.outputs) : other = step := by
  rw [List.flatMap_append, List.flatMap_cons] at nodup
  obtain ⟨-, later, apart⟩ := List.nodup_append.mp nodup
  obtain ⟨-, -, behind⟩ := List.nodup_append.mp later
  rcases List.mem_append.mp member with earlier | inside
  · exact absurd rfl (apart path (List.mem_flatMap.mpr ⟨other, earlier, again⟩) path
      (List.mem_append_left _ given))
  · rcases List.mem_cons.mp inside with same | follows
    · exact same
    · exact absurd rfl (behind path given path (List.mem_flatMap.mpr ⟨other, follows, again⟩))

/-- A walk keeps outputs apart that have different names. -/
theorem Runs.separates {root : Path} (readers : generation.readers.IsOwn)
    (sound : world.files.Sound)
    (runs : Runs generation world [.folder root] steps after []) :
    Separates generation steps (steps.flatMap Step.outputs) after := by
  have each : ∀ step ∈ steps, _ := fun _ member => runs.outputs_of_mem readers sound member
  have outputsEq := flatMap_outputs_eq_map each
  have nodupPairs := runs.nodup_pairsOf readers sound
  have isChild : ∀ step ∈ steps, ∀ output ∈ step.outputs,
      generation.outputFolder.child output.name = output ∧ output.name ≠ ".." := by
    intro step among output given
    rcases each step among with none | ⟨task, template, -, one⟩
    · rw [none] at given
      cases given
    · rw [one, List.mem_singleton] at given
      subst given
      rw [Naming.name_outputPath]
      exact ⟨rfl, outputName_ne_dots _ _⟩
  have inside := fun step among output given => (isChild step among output given).1
  have leaves : ∀ path ∈ steps.flatMap Step.outputs, _ :=
    fun _ member => runs.leaves readers sound inside member
  have card : (placesOf after.files (steps.flatMap Step.outputs)).card =
      (steps.flatMap Step.outputs).toFinset.card := by
    refine card_placesOf (fun path member => ?_) fun first member second among place isFile
      another => ?_
    · obtain ⟨-, task, template, before, -, -, -, -, bytes, place, content, -, walked, -⟩ :=
        leaves path member
      exact ⟨place, content, walked⟩
    · obtain ⟨step, done, given⟩ := List.mem_flatMap.mp member
      obtain ⟨other, also, givenAlso⟩ := List.mem_flatMap.mp among
      obtain ⟨firstEq, firstName⟩ := isChild step done first given
      obtain ⟨secondEq, secondName⟩ := isChild other also second givenAlso
      rw [← firstEq] at isFile
      rw [← secondEq] at another
      rw [← firstEq, ← secondEq, isFile.injective (runs.evolves readers sound).sound another
        firstName secondName]
  refine ⟨outputsEq, nodupPairs, ?_, card, by rw [card, card_toFinset_eq_length_iff],
    fun nodup step member path given => ?_⟩
  · rw [outputsEq]
    exact nodup_outputs_iff (nodupPairs.sublist (List.filter_sublist.filterMap _))
  · obtain ⟨front, task, template, before, written, back, rfl, -, stands⟩ :=
      leaves path (List.mem_flatMap.mpr ⟨step, member, given⟩)
    obtain rfl := eq_of_mem_outputs nodup (List.mem_singleton_self path) member given
    exact ⟨task, template, rfl, stands⟩

/-- A run that succeeds keeps outputs apart that have different names. -/
def RunSeparates (modules : List Registry.Module) (settings : Settings) (session : Session)
    (world : World) (outputs : List Path) (after : World) : Prop :=
  ∃ generation ready steps, prepare modules settings session world = .ok generation ready ∧
    Runs generation ready [.folder settings.dataFolder] steps after [] ∧
    Separates generation steps outputs after

theorem run_ok_separates {modules : List Registry.Module} {settings : Settings}
    {session : Session}
    (sound : world.files.Sound)
    (own : Registry.ResolvesOwn modules settings.extensions)
    (ran : run modules settings session world = .ok outputs after) :
    RunSeparates modules settings session world outputs after := by
  obtain ⟨generation, ready, preparing, walked⟩ := bind_eq_ok_iff.mp ran
  have prepared := prepare_ok preparing
  have readySound : ready.files.Sound := by
    rw [prepared.files_eq]
    exact (grown_provideFolder sound settings.outputFolder).sound
  obtain ⟨steps, runs, rfl⟩ := walk_ok walked
  exact ⟨generation, ready, steps, preparing, runs,
    runs.separates (prepared.isOwn own) readySound⟩

end Stencil.Generation

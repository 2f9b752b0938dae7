import Stencil.Proofs.Generation.Order
import Stencil.Proofs.Generation.Renderings
import Stencil.Template.Host

/-!
# Walks that fail

A walk that fails has stopped at the first job that fails.  All outputs before it are
attended to, nothing behind it is begun, and the files are as the last of those outputs
left them, unless the job was to render an output.  All this takes that no template changes
files while it is rendered, which where there is a host templates can do.
-/

namespace Stencil.Generation

open Outcome
open Files (Evolves Footprint Tree)

section WithRendering

variable [rendering : Rendering] {generation : Generation}
  {world before after finish : World} {jobs left : List Job} {steps : List Step}

/-! ## What a step has done -/

/--
A step is complete: an output was passed over as fresh or has been written, and no other
step changes a file.
-/
def Step.Complete (generation : Generation) (step : Step) : Prop :=
  match step.job with
  | .folder _ => step.after.files = step.before.files
  | .file _ => step.after.files = step.before.files
  | .pair task template output =>
    (step.outputs = [] ∧ step.after.files = step.before.files ∧
        task.isFresh template output step.before = .ok true step.before) ∨
      (step.outputs = [output] ∧
        task.Produces generation.engine template output step.before step.after)

/-- In a step that is complete a tree evolves. -/
theorem Step.Complete.evolves {step : Step} (complete : step.Complete generation)
    (sound : step.before.files.Sound) : Evolves step.before.files step.after.files := by
  obtain ⟨job, before, after, outputs⟩ := step
  cases job with
  | folder path => exact .of_eq sound complete
  | file path => exact .of_eq sound complete
  | pair task template output =>
    rcases complete with ⟨-, files, -⟩ | ⟨-, bytes, -, written⟩
    · exact .of_eq sound files
    · exact (sound.grown_withDirectories output.parent).evolves.trans written.evolves

theorem Runs.evolves_of_complete (sound : world.files.Sound)
    (runs : Runs generation world jobs steps finish left)
    (complete : ∀ step ∈ steps, step.Complete generation) :
    Evolves world.files finish.files := by
  induction runs with
  | stop => exact .refl sound
  | step _ _ ih =>
    have first := (complete _ (List.mem_cons_self ..)).evolves sound
    have more := ih first.sound fun step later => complete step (List.mem_cons_of_mem _ later)
    exact first.trans more

theorem complete_of_perform [rendering.IsQuiet] {job : Job} {next : List Job} {outputs : List Path}
    (readers : generation.readers.IsOwn)
    (sound : world.files.Sound)
    (performed : generation.perform job world = .ok (next, outputs) after) :
    Step.Complete generation ⟨job, world, after, outputs⟩ := by
  cases job with
  | folder path =>
    obtain ⟨rfl, -⟩ := perform_folder_ok performed
    rfl
  | file path => exact (perform_file_ok readers performed).1
  | pair task template output => exact (perform_pair_ok sound performed).2

theorem Runs.complete [rendering.IsQuiet] (readers : generation.readers.IsOwn)
    (sound : world.files.Sound)
    (runs : Runs generation world jobs steps finish left) :
    ∀ step ∈ steps, step.Complete generation := by
  induction runs with
  | stop => exact fun step member => nomatch member
  | step performed _ ih =>
    intro step member
    rcases List.mem_cons.mp member with rfl | later
    · exact complete_of_perform readers sound performed
    · exact ih (evolves_of_perform readers sound performed).sound step later

/-- The files when the last output had been attended to. -/
def filesAfter (start : Tree) : List Step → Tree
  | [] => start
  | step :: steps =>
    filesAfter (if step.job.pair?.isSome then step.after.files else start) steps

/-- Between outputs the files stay as they are. -/
theorem Runs.files_eq [rendering.IsQuiet] (readers : generation.readers.IsOwn)
    (sound : world.files.Sound)
    (runs : Runs generation world jobs steps finish left) :
    finish.files = filesAfter world.files steps := by
  induction runs with
  | stop => rfl
  | @step world middle _ job _ _ _ _ _ performed _ ih =>
    rw [ih (evolves_of_perform readers sound performed).sound, filesAfter]
    have complete := complete_of_perform readers sound performed
    cases job with
    | folder path => exact congrArg (filesAfter · _) complete
    | file path => exact congrArg (filesAfter · _) complete
    | pair task template output => rfl

/-! ## The failure -/

/--
A walk has stopped at the first job that fails.  Before that every job has been done that
comes first in the order of the walk, and every output among them is complete.  Unless the
failure is one of rendering, the files are as the last output left them; a failure of
rendering adds at most directories on the way of the job's own output, and that output.
-/
def FailsFast (generation : Generation) (root : Path) (world : World) (failure : Failure)
    (after : World) : Prop :=
  ∃ steps before job rest,
    Runs generation world [.folder root] steps before (job :: rest) ∧
    generation.perform job before = .error failure after ∧
    Thorough generation steps (job :: rest) ∧
    Ordered steps (job :: rest) ∧
    (∀ step ∈ steps, step.Complete generation) ∧
    before.files = filesAfter world.files steps ∧
    (((∀ dataFile cause, failure ≠ .render dataFile cause) ∧ after.files = before.files) ∨
      ∃ task template output cause, job = .pair task template output ∧
        failure = .render task.source cause ∧
        output = Naming.outputPath task.source template generation.outputFolder ∧
        Footprint generation.outputFolder (· = output.name) before.files after.files)

theorem failsFast_of_isQuiet [rendering.IsQuiet] {root : Path} {failure : Failure}
    (readers : generation.readers.IsOwn)
    (sound : world.files.Sound)
    (failed : generation.walk root world = .error failure after) :
    FailsFast generation root world failure after := by
  obtain ⟨steps, before, job, rest, runs, performed⟩ := walk_stops readers sound failed
  have evolves := runs.evolves readers sound
  refine ⟨steps, before, job, rest, runs, performed, runs.thorough,
    runs.ordered readers sound, runs.complete readers sound, runs.files_eq readers sound, ?_⟩
  rcases perform_error readers evolves.sound performed with ⟨same, other⟩ |
    ⟨task, template, output, cause, rfl, rfl, remains⟩
  · exact .inl ⟨other, same⟩
  · have accounted := runs.accounted readers (.refl sound)
    obtain ⟨outputEq, -⟩ := (accounted.pending _ (List.mem_cons_self ..)).output
    have inside : output.parent = generation.outputFolder := by
      rw [outputEq, Naming.parent_outputPath]
    exact .inr ⟨task, template, output, cause, rfl, rfl, outputEq,
      remains.footprint (Files.Grown.refl evolves.sound).openFootprint inside rfl⟩

theorem Step.Complete.of_quieted {step : Step}
    (complete : @Step.Complete rendering.quieted generation step) :
    step.Complete generation := by
  obtain ⟨job, before, after, outputs⟩ := step
  cases job with
  | folder path => exact complete
  | file path => exact complete
  | pair task template output =>
    refine complete.imp_right fun ⟨written, bytes, gives, isWritten⟩ =>
      ⟨written, bytes, ?_, isWritten⟩
    obtain ⟨place, loaded, spare, opened, text, loading, started, ⟨_, renders⟩, encoded⟩ := gives
    exact ⟨place, loaded, spare, opened, text, loading, started,
      rendering.exists_of_quieted_render renders, encoded⟩

/-- A walk on which no template changes a file fails fast. -/
theorem walk_failsFast {root : Path} {failure : Failure}
    (readers : generation.readers.IsOwn)
    (sound : world.files.Sound)
    (quiet : generation.WalksQuietly root world)
    (failed : generation.walk root world = .error failure after) :
    FailsFast generation root world failure after := by
  have alike := quiet.alike
  rw [← quiet.walk_eq readers sound] at failed
  obtain ⟨steps, before, job, rest, runs, performed, -, ordered, complete, files, remains⟩ :=
    @failsFast_of_isQuiet rendering.quieted _ _ _ _ _ _ readers sound failed
  have runs := alike.runs_iff.mp runs
  rw [alike.perform_eq runs] at performed
  exact ⟨steps, before, job, rest, runs, performed, runs.thorough, ordered,
    fun step member => (complete step member).of_quieted, files, remains⟩

/-- A walk that fails fast leaves a file wherever there was one. -/
theorem FailsFast.file {root : Path} {failure : Failure} {place : Files.Place}
    {content : Files.FileContent}
    (failsFast : FailsFast generation root world failure after) (sound : world.files.Sound)
    (there : world.files.at? place = some (.file content)) :
    ∃ later, after.files.at? place = some (.file later) := by
  obtain ⟨steps, before, job, rest, runs, -, -, -, complete, -, remains⟩ := failsFast
  obtain ⟨between, still⟩ := (runs.evolves_of_complete sound complete).file place content there
  rcases remains with ⟨-, same⟩ | ⟨_, _, _, _, -, -, -, footprint⟩
  · exact ⟨between, same ▸ still⟩
  · rcases footprint.kept still with kept | replaced
    · exact ⟨between, kept⟩
    · exact replaced

end WithRendering

/-- A tree with two data files, the second of which has no reader, and a template. -/
def unreadableFiles : Tree where
  entries := [
    (["data"], .directory),
    (["data", "Oak.json"], .file ⟨ByteArray.empty, 0o644, 0, 0⟩),
    (["data", "notes.txt"], .file ⟨ByteArray.empty, 0o644, 0, 0⟩),
    (["templates"], .directory),
    (["templates", "Bean"], .file ⟨"class".toUTF8, 0o644, 0, 0⟩)]
  here := []

/-- A generation with the reader that every run starts with. -/
def plainGeneration : Generation where
  engine := ⟨.ofString "templates", ⟨['<', '<'], ['>', '>']⟩, 0⟩
  properties := .none
  readers := Registry.defaultTable
  templateFolder := .ofString "templates"
  outputFolder := .ofString "out"
  fileMode := 0o644
  timestamp := 0

theorem sound_unreadableFiles : unreadableFiles.Sound :=
  .of_entries (by decide +kernel) (by decide +kernel) rfl fun _ => Files.marked_spareMark

theorem isOwn_plainGeneration : plainGeneration.readers.IsOwn := by
  intro known member
  rw [List.mem_singleton.mp member]
  trivial

/-- The files of that tree are generated from with the system as the host. -/
theorem walk_failsFast_unreadableFiles :
    plainGeneration.readers.IsOwn ∧ unreadableFiles.Sound ∧
      @WalksQuietly (.among .system) plainGeneration (.ofString "data")
        { files := unreadableFiles } ∧
      ∃ failure after,
        @walk (.among .system) plainGeneration (.ofString "data") { files := unreadableFiles } =
          .error failure after ∧
        @FailsFast (.among .system) plainGeneration (.ofString "data")
          { files := unreadableFiles } failure after := by
  obtain ⟨after, failed⟩ := exists_of_fault?_eq_some (by decide +kernel :
    fault? (plainGeneration.walk (.ofString "data") { files := unreadableFiles }) =
      some (.unknownExtension (.ofString "data/notes.txt")))
  have asksNothing : plainGeneration.AsksNothing (.ofString "data")
      { files := unreadableFiles } := by
    intro dataFile names finish asked
    rw [failed] at asked
    cases asked
  have alike : RendersAlike (.among .system) plainGeneration (.ofString "data")
      { files := unreadableFiles } :=
    asksNothing.alike isOwn_plainGeneration sound_unreadableFiles
  rw [← alike.walk_eq isOwn_plainGeneration sound_unreadableFiles] at failed
  exact ⟨isOwn_plainGeneration, sound_unreadableFiles, alike.walksQuietly, _, after, failed,
    @walk_failsFast (.among .system) _ _ _ _ _ isOwn_plainGeneration sound_unreadableFiles
      alike.walksQuietly failed⟩

/-- A tree with a data file and a template that removes it and then fails. -/
def removingFiles : Tree where
  entries := [
    (["data"], .directory),
    (["data", "Oak.json"], .file ⟨ByteArray.empty, 0o644, 0, 0⟩),
    (["templates"], .directory),
    (["templates", "Bean"], .file
      ⟨"<<lipsum.__globals__.os.remove('data/Oak.json')>><<nope>>".toUTF8, 0o644, 0, 0⟩)]
  here := []

/-- With the system as the host a template can break the law, since it reaches the files. -/
theorem not_failsFast_removingFiles :
    plainGeneration.readers.IsOwn ∧ removingFiles.Sound ∧
      ∃ failure after,
        @walk (.among .system) plainGeneration (.ofString "data") { files := removingFiles } =
          .error failure after ∧
        ¬@FailsFast (.among .system) plainGeneration (.ofString "data")
          { files := removingFiles } failure after := by
  have sound : removingFiles.Sound :=
    .of_entries (by decide +kernel) (by decide +kernel) rfl fun _ => Files.marked_spareMark
  obtain ⟨failure, after, failed⟩ := exists_of_value?_eq_none (by decide +kernel :
    value? (@walk (.among .system) plainGeneration (.ofString "data")
      { files := removingFiles }) = none)
  have gone : (left (@walk (.among .system) plainGeneration (.ofString "data")
      { files := removingFiles })).files.at? ["data", "Oak.json"] = none := by decide +kernel
  refine ⟨isOwn_plainGeneration, sound, failure, after, failed, fun failsFast => ?_⟩
  have there : removingFiles.at? ["data", "Oak.json"] =
      some (.file ⟨ByteArray.empty, 0o644, 0, 0⟩) := by decide +kernel
  obtain ⟨later, still⟩ := @FailsFast.file (.among .system) _ _ _ _ _ _ _ failsFast sound there
  rw [failed, left_error, still] at gone
  cases gone

end Stencil.Generation

import Stencil.Proofs.Files.Evolution
import Stencil.Proofs.Generation.Steps
import Stencil.Proofs.Generation.Task
import Stencil.Proofs.Task.Generate

/-!
# What one step does

Entering a directory and making a task leave the files as they are.  Generating an output
writes it, or leaves the files as they are where the output counts as fresh.  Each kind of
job is accounted for once here, with success and failure, for renderings that never change a
file themselves; everything about walks is derived from these accounts.
-/

namespace Stencil.Generation

open Outcome
open Files (Alike Evolves Grown LeadsInto Place Tree)
open Files.Change (Stranded Written)

variable [rendering : Rendering] {generation : Generation} {world after : World}
  {next : List Job} {outputs : List Path}

/-! ## Successful steps -/

/-- Entering a directory gives a job for each of its entries. -/
theorem perform_folder_ok {path : Path}
    (performed : generation.perform (.folder path) world = .ok (next, outputs) after) :
    after = world ∧ outputs = [] ∧ ∃ trail place, LeadsInto world.files path trail place ∧
      next = (childNames world.files place).map fun name =>
        Job.ofEntry (path.child name, isFolder world.files (path.child name)) := by
  obtain ⟨entries, same, asked, given⟩ := bind_eq_ok_iff.mp performed
  obtain ⟨listed, sameEq⟩ := Act.askFiles_eq_ok_iff.mp asked
  cases given
  obtain ⟨trail, place, leads, rfl⟩ := markedEntries_eq_ok_iff.mp listed
  exact ⟨sameEq, rfl, trail, place, leads, by rw [List.map_map]; rfl⟩

/-- A data file gives a job for each output of its task; anything else is passed over. -/
theorem perform_file_ok {path : Path} (readers : generation.readers.IsOwn)
    (performed : generation.perform (.file path) world = .ok (next, outputs) after) :
    after.files = world.files ∧ outputs = [] ∧
      ((isDataFile world.files path = .ok false ∧ next = []) ∨
        (isDataFile world.files path = .ok true ∧
          ∃ task, generation.taskFor path world = .ok task after ∧
            generation.IsTask path world.files task ∧ next = Job.ofTask task)) := by
  obtain ⟨isData, same, asked, more⟩ := bind_eq_ok_iff.mp performed
  obtain ⟨known, sameEq⟩ := Act.askFiles_eq_ok_iff.mp asked
  rw [sameEq] at more
  cases isData with
  | false =>
    cases more
    exact ⟨rfl, rfl, .inl ⟨known, rfl⟩⟩
  | true =>
    obtain ⟨task, made, making, given⟩ := bind_eq_ok_iff.mp more
    cases given
    obtain ⟨isTask, files⟩ := taskFor_ok readers making
    exact ⟨files, rfl, .inr ⟨known, task, making, isTask, rfl⟩⟩

variable [rendering.IsQuiet]

/-- An output is written, or passed over where it counts as fresh. -/
theorem perform_pair_ok {task : Task} {template output : Path} (sound : world.files.Sound)
    (performed : generation.perform (.pair task template output) world =
      .ok (next, outputs) after) :
    next = [] ∧
      ((outputs = [] ∧ after.files = world.files ∧
          task.isFresh template output world = .ok true world) ∨
        (outputs = [output] ∧
          task.Produces generation.engine template output world after)) := by
  obtain ⟨isWritten, finish, generated, given⟩ := bind_eq_ok_iff.mp performed
  rcases Task.generateOne_ok sound generated with ⟨rfl, files, fresh⟩ | ⟨rfl, produces⟩
  · cases given
    exact ⟨rfl, .inl ⟨rfl, files, fresh⟩⟩
  · cases given
    exact ⟨rfl, .inr ⟨rfl, produces⟩⟩

/-- Trees only evolve in a successful step. -/
theorem evolves_of_perform {job : Job} (readers : generation.readers.IsOwn)
    (sound : world.files.Sound)
    (performed : generation.perform job world = .ok (next, outputs) after) :
    Evolves world.files after.files := by
  cases job with
  | folder path =>
    obtain ⟨rfl, -⟩ := perform_folder_ok performed
    exact .refl sound
  | file path => exact .of_eq sound (perform_file_ok readers performed).1
  | pair task template output =>
    obtain ⟨-, ⟨-, files, -⟩ | ⟨-, produces⟩⟩ := perform_pair_ok sound performed
    · exact .of_eq sound files
    · obtain ⟨bytes, -, written⟩ := produces
      exact (sound.grown_withDirectories output.parent).evolves.trans written.evolves

/-! ## Failing steps -/

/--
A step that fails leaves the files as they are, unless an output could not be rendered.
-/
theorem perform_error {job : Job} {failure : Failure} (readers : generation.readers.IsOwn)
    (sound : world.files.Sound)
    (failed : generation.perform job world = .error failure after) :
    (after.files = world.files ∧ ∀ dataFile cause, failure ≠ .render dataFile cause) ∨
      ∃ task template output cause, job = .pair task template output ∧
        failure = .render task.source cause ∧
        Task.Remains output task.mode world.files after.files := by
  cases job with
  | folder path =>
    rcases bind_eq_error_iff.mp failed with asked | ⟨_, _, _, given⟩
    · obtain ⟨rfl, fault, rfl⟩ := Act.askFiles_error asked
      exact .inl ⟨rfl, by simp⟩
    · cases given
  | file path =>
    rcases bind_eq_error_iff.mp failed with asked | ⟨isData, same, asked, more⟩
    · obtain ⟨rfl, fault, rfl⟩ := Act.askFiles_error asked
      exact .inl ⟨rfl, by simp⟩
    · obtain ⟨-, rfl⟩ := Act.askFiles_eq_ok_iff.mp asked
      cases isData with
      | false => cases more
      | true =>
        rcases bind_eq_error_iff.mp more with making | ⟨_, _, _, given⟩
        · exact .inl ⟨(sameFiles_taskFor readers path).of_error making,
            neverRenders_taskFor readers path _ _ _ making⟩
        · cases given
  | pair task template output =>
    rcases bind_eq_error_iff.mp failed with generated | ⟨_, _, _, given⟩
    · rcases Task.generateOne_error sound generated with same | ⟨⟨cause, rfl⟩, remains⟩
      · exact .inl same
      · exact .inr ⟨task, template, output, cause, rfl, rfl, remains⟩
    · cases given

end Stencil.Generation

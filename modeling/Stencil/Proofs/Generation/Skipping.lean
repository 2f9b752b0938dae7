import Stencil.Proofs.Generation.EndToEnd

/-!
# Which outputs are passed over

An output is passed over only where none is there, and the data file, the template and the
descriptors are all dated before the time that a missing file counts as, which is zero.
Every other output is written, whether one is there or not and however young it is.

A task that is generated by itself is a run over nothing but its outputs, so all that is
known of runs applies to it.
-/

namespace Stencil

open Outcome
open Files (Tree)
open Generation (Job Runs Stands Step)

namespace Task

variable {task : Task} {engine : Template.Engine} {template output : Path}
  {world after : World}

/-! ## When an output is passed over -/

/-- No output is there, and all that it is made from is dated before time zero. -/
structure PassesOver (task : Task) (files : Tree) (template output : Path) : Prop where
  missing : files.has output = .ok false
  source : files.lastModified task.source < 0
  template : files.lastModified template < 0
  descriptors : task.timestamp < 0

theorem isFresh_eq_true_iff :
    task.isFresh template output world = .ok true world ↔
      task.PassesOver world.files template output := by
  constructor
  · intro fresh
    obtain ⟨present, between, asked, rest⟩ := bind_eq_ok_iff.mp fresh
    obtain ⟨known, rfl⟩ := Act.askFiles_eq_ok_iff.mp asked
    cases present with
    | true => cases rest
    | false =>
      obtain ⟨older, -⟩ := EStateM.Result.ok.inj rest
      simp only [Bool.and_eq_true, decide_eq_true_eq, lastModified_of_not_has known] at older
      exact ⟨known, older.1.1, older.1.2, older.2⟩
  · rintro ⟨missing, source, older, descriptors⟩
    refine (bind_apply_of_ok (Act.askFiles_eq_ok_iff.mpr ⟨missing, rfl⟩)).trans ?_
    refine congrArg (EStateM.Result.ok · world) ?_
    simp [lastModified_of_not_has missing, source, older, descriptors]

/-- An output that is to be passed over is not written. -/
theorem PassesOver.not_written {isWritten : Bool}
    (passes : task.PassesOver world.files template output)
    (ended : task.generateOne engine template output world = .ok isWritten after) :
    isWritten = false := by
  obtain ⟨fresh, between, checked, more⟩ := bind_eq_ok_iff.mp ended
  rw [isFresh_eq_true_iff.mpr passes] at checked
  cases checked
  cases more
  rfl

/-! ## All outputs of a task -/

/-- A generation for a task that is there already. -/
def alone (task : Task) (engine : Template.Engine) : Generation where
  engine
  properties := .none
  readers := []
  templateFolder := task.folder
  outputFolder := task.folder
  fileMode := task.mode
  timestamp := task.timestamp

theorem isOwn_alone (task : Task) (engine : Template.Engine) :
    (task.alone engine).readers.IsOwn :=
  fun _ member => nomatch member

/-- A step has passed over an output or written it, whichever was due. -/
def Attends (task : Task) (engine : Template.Engine) (pair : Path × Path) (step : Step) :
    Prop :=
  step.job = .pair task pair.1 pair.2 ∧
    ((step.outputs = [] ∧ task.PassesOver step.before.files pair.1 pair.2 ∧
        step.after.files = step.before.files) ∨
      (step.outputs = [pair.2] ∧ ¬task.PassesOver step.before.files pair.1 pair.2 ∧
        task.Produces engine pair.1 pair.2 step.before step.after))

theorem attends_of_perform {generation : Generation} {next : List Job} {outputs : List Path}
    (sound : world.files.Sound)
    (performed : generation.perform (.pair task template output) world =
      .ok (next, outputs) after) :
    next = [] ∧
      task.Attends generation.engine (template, output)
        ⟨.pair task template output, world, after, outputs⟩ := by
  obtain ⟨isWritten, finish, generated, given⟩ := bind_eq_ok_iff.mp performed
  obtain ⟨rfl, ⟨rfl, files, fresh⟩ | ⟨rfl, produces⟩⟩ :=
    Generation.perform_pair_ok sound performed
  · exact ⟨rfl, rfl, .inl ⟨rfl, isFresh_eq_true_iff.mp fresh, files⟩⟩
  · refine ⟨rfl, rfl, .inr ⟨rfl, fun passes => ?_, produces⟩⟩
    obtain rfl := passes.not_written generated
    cases given

/-- A run over outputs attends to each of them in turn. -/
theorem attends_of_runs {generation : Generation} {pairs : List (Path × Path)}
    {steps : List Step}
    (readers : generation.readers.IsOwn)
    (sound : world.files.Sound)
    (runs : Runs generation world (pairs.map fun (template, output) =>
      .pair task template output) steps after []) :
    List.Forall₂ (task.Attends generation.engine) pairs steps := by
  induction pairs generalizing world steps with
  | nil =>
    cases runs
    exact .nil
  | cons pair rest ih =>
    cases runs with
    | step performed onward =>
      have later := (Generation.evolves_of_perform readers sound performed).sound
      obtain ⟨rfl, attends⟩ := attends_of_perform sound performed
      exact .cons attends (ih later onward)

theorem exists_attends {pairs : List (Path × Path)} {steps : List Step} {step : Step}
    (attended : List.Forall₂ (task.Attends engine) pairs steps) (member : step ∈ steps) :
    ∃ pair ∈ pairs, task.Attends engine pair step := by
  induction attended with
  | nil => cases member
  | cons attends _ ih =>
    rcases List.mem_cons.mp member with rfl | later
    · exact ⟨_, List.mem_cons_self .., attends⟩
    · obtain ⟨pair, among, found⟩ := ih later
      exact ⟨pair, List.mem_cons_of_mem _ among, found⟩

/-- Outputs that are attended to are given in order, without those that are passed over. -/
theorem flatMap_outputs_sublist {pairs : List (Path × Path)} {steps : List Step}
    (attended : List.Forall₂ (task.Attends engine) pairs steps) :
    (steps.flatMap Step.outputs).Sublist (pairs.map Prod.snd) := by
  induction attended with
  | nil => exact .slnil
  | cons attends _ ih =>
    rw [List.flatMap_cons, List.map_cons]
    obtain ⟨-, ⟨none, -⟩ | ⟨one, -⟩⟩ := attends
    · rw [none]
      exact ih.cons _
    · rw [one]
      exact ih.cons_cons _

/-- All outputs are given exactly if none is passed over. -/
theorem flatMap_outputs_eq_iff {pairs : List (Path × Path)} {steps : List Step}
    (attended : List.Forall₂ (task.Attends engine) pairs steps) :
    steps.flatMap Step.outputs = pairs.map Prod.snd ↔ ∀ step ∈ steps, step.outputs ≠ [] := by
  induction attended with
  | nil => simp
  | @cons pair step pairs steps attends others ih =>
    rw [List.flatMap_cons, List.map_cons, List.forall_mem_cons, ← ih]
    obtain ⟨-, ⟨none, -⟩ | ⟨one, -⟩⟩ := attends
    · have fewer := (flatMap_outputs_sublist others).length_le
      refine ⟨fun all => ?_, fun some => absurd none some.1⟩
      have more := congrArg List.length all
      simp only [none, List.nil_append, List.length_cons] at more
      omega
    · simp [one]

/--
A task that is generated attends to its outputs in order.  It passes over those that are
missing while all that they are made from is dated before time zero; it writes and gives
all others, and each path that it gives holds what was rendered for it last.
-/
theorem generate_attends {outputs : List Path} (sound : world.files.Sound)
    (ended : task.generate engine world = .ok outputs after) :
    ∃ steps, Runs (task.alone engine) world (Job.ofTask task) steps after [] ∧
      List.Forall₂ (task.Attends engine) task.outputs steps ∧
      outputs = steps.flatMap Step.outputs ∧
      (outputs = task.outputs.map Prod.snd ↔ ∀ step ∈ steps, step.outputs ≠ []) ∧
      ∀ path ∈ outputs, ∃ front template before written back,
        steps = front ++ ⟨.pair task template path, before, written, [path]⟩ :: back ∧
        (∀ step ∈ back, path ∉ step.outputs) ∧
        Stands (task.alone engine) task template path before after := by
  have follows : Generation.Follows (task.alone engine) 0 _ _ :=
    Generation.follows_generateAll task task.outputs
  obtain ⟨steps, runs, rfl⟩ := follows.ok _ _ _ ended
  have attended := attends_of_runs (isOwn_alone task engine) sound runs
  refine ⟨steps, runs, attended, rfl, flatMap_outputs_eq_iff attended, fun path member => ?_⟩
  have inside : ∀ step ∈ steps, ∀ output ∈ step.outputs,
      task.folder.child output.name = output := by
    intro step among output given
    obtain ⟨⟨template, known⟩, listed, -, ⟨none, -⟩ | ⟨one, -⟩⟩ := exists_attends attended among
    · rw [none] at given
      cases given
    · rw [one, List.mem_singleton] at given
      obtain ⟨-, rfl⟩ := Generation.mem_outputs.mp listed
      rw [given, Naming.name_outputPath, Naming.outputPath]
  obtain ⟨front, other, template, before, written, back, rfl, last, stands⟩ :=
    runs.leaves (isOwn_alone task engine) sound inside member
  obtain ⟨pair, -, isPair, -⟩ :=
    exists_attends attended (List.mem_append_right _ (List.mem_cons_self ..))
  cases isPair
  exact ⟨front, _, before, written, back, rfl, last, stands⟩

/-! ## Files from before time zero -/

/-- A tree in which all is dated before time zero but one of the two templates. -/
def ancientFiles : Tree where
  entries := [
    (["data"], .directory),
    (["data", "Oak.json"], .file ⟨ByteArray.empty, 0o644, -1000000, 0⟩),
    (["pyproject.toml"], .file ⟨ByteArray.empty, 0o644, -1000000, 0⟩),
    (["templates"], .directory),
    (["templates", "Bean"], .file ⟨"class".toUTF8, 0o644, -1000000, 0⟩),
    (["templates", "Form"], .file ⟨"form".toUTF8, 0o644, 0, 0⟩)]
  here := []

theorem sound_ancientFiles : ancientFiles.Sound :=
  .of_entries (by decide +kernel) (by decide +kernel) rfl fun _ => Files.marked_spareMark

/-- The task of the only data file, with the timestamp that a session gives it. -/
def ancientTask : Task where
  timestamp := Generation.plainSession.lastModified ancientFiles
  source := .ofString "data/Oak.json"
  templates := [.ofString "templates/Bean", .ofString "templates/Form"]
  folder := .ofString "out"
  model := .dict 0
  mode := defaultMode

/-- The tree, and a machine that holds the data model of the task. -/
def ancientWorld : World where
  files := ancientFiles
  machine := { heap := ⟨#[.dict []]⟩ }

/-- An engine for the templates of the tree. -/
def plainEngine : Template.Engine where
  directory := .ofString "templates"
  delimiters := ⟨Generation.plainSettings.interpolationStart.toList,
    Generation.plainSettings.interpolationEnd.toList⟩
  number := 0

theorem generate_attends_ancientFiles :
    ancientWorld.files.Sound ∧ ∃ after,
      ancientTask.generate plainEngine ancientWorld =
        .ok [.ofString "out/Oak.jsonForm.java"] after ∧
      ∃ steps,
        List.Forall₂ (ancientTask.Attends plainEngine) ancientTask.outputs steps ∧
        ∃ front template before written back,
          steps = front ++ ⟨.pair ancientTask template (.ofString "out/Oak.jsonForm.java"),
            before, written, [.ofString "out/Oak.jsonForm.java"]⟩ :: back ∧
          Stands (ancientTask.alone plainEngine) ancientTask template
            (.ofString "out/Oak.jsonForm.java") before after := by
  obtain ⟨after, ended⟩ := exists_of_value?_eq_some (by decide +kernel :
    value? (ancientTask.generate plainEngine ancientWorld) =
      some [.ofString "out/Oak.jsonForm.java"])
  have sound : ancientWorld.files.Sound := sound_ancientFiles
  obtain ⟨steps, -, attended, -, -, left⟩ := generate_attends sound ended
  obtain ⟨front, template, before, written, back, split, -, stands⟩ :=
    left _ (List.mem_singleton_self _)
  exact ⟨sound, after, ended, steps, attended, front, template, before, written, back, split,
    stands⟩

/-- A missing output is passed over, in a task by itself and in a run. -/
theorem not_all_outputs_ancientFiles :
    ancientWorld.files.Sound ∧
      ancientTask.outputs.map Prod.snd =
        [.ofString "out/Oak.jsonBean.java", .ofString "out/Oak.jsonForm.java"] ∧
      ancientFiles.has (.ofString "out/Oak.jsonBean.java") = .ok false ∧
      (∃ after, ancientTask.generate plainEngine ancientWorld =
        .ok [.ofString "out/Oak.jsonForm.java"] after) ∧
      ∃ after,
        Generation.run Registry.ownModules Generation.plainSettings Generation.plainSession
            { files := ancientFiles } =
          .ok [.ofString "out/Oak.jsonForm.java"] after :=
  ⟨sound_ancientFiles, by decide +kernel, by decide +kernel,
    exists_of_value?_eq_some (by decide +kernel), exists_of_value?_eq_some (by decide +kernel)⟩

end Task

end Stencil

import Stencil.Proofs.Files.Overlong
import Stencil.Proofs.Generation.Skipping

/-!
# How tasks fail

A task stops at its first output that breaks off, for one of four causes.  Three of them have
names of their own: the template cannot be loaded, the folder of outputs is no directory, or
rendering and writing fail.  The fourth has none, since nobody is prepared for it: it cannot
even be told whether the output is there, because of a name that is too long.
-/

namespace Stencil

open Outcome
open Files (LeadsInto Overlong Tree overlongFault)

/-! ## Loading templates -/

namespace Engine

/-- A template that cannot be loaded cannot be read, and nothing has changed. -/
theorem loadTemplate_error {files : Tree} {engine : Template.Engine} {name : String}
    {machine after : Template.Machine} {fault : Fault}
    (failed : Template.loadTemplate files engine name machine = .error fault after) :
    after = machine ∧ Template.readTemplate files engine name = .error fault := by
  unfold Template.loadTemplate at failed
  rw [bind_apply_of_ok (get_apply machine)] at failed
  dsimp only at failed
  generalize Option.bind _ _ = known at failed
  cases known with
  | some place => cases failed
  | none =>
    rcases bind_eq_error_iff.mp failed with lifted | ⟨loaded, middle, -, stored⟩
    · cases read : Template.readTemplate files engine name with
      | ok loaded =>
        rw [read] at lifted
        cases lifted
      | error unread =>
        rw [read] at lifted
        cases lifted
        exact ⟨rfl, rfl⟩
    · cases stored

theorem load_error {engine : Template.Engine} {name : String} {world after : World}
    {failure : Failure} (failed : load engine name world = .error failure after) :
    after = world ∧ ∃ fault, failure = .unforeseen fault ∧
      Template.readTemplate world.files engine name = .error fault := by
  have run : Act.onMachine (Template.loadTemplate world.files engine name) world =
      .error failure after := failed
  rw [Act.onMachine_apply] at run
  cases ended : Template.loadTemplate world.files engine name world.machine with
  | ok place machine =>
    rw [ended] at run
    cases run
  | error fault machine =>
    rw [ended] at run
    cases run
    obtain ⟨rfl, unread⟩ := loadTemplate_error ended
    exact ⟨rfl, fault, rfl, unread⟩

end Engine

/-! ## Causes -/

namespace Task

/-- An output is there although its folder is none, so nothing can be written into this. -/
def IsBlocked (task : Task) (files : Tree) : Prop :=
  files.has task.folder = .ok true ∧ files.isDirectory task.folder = .ok false

/-- The folder of outputs, from the root on. -/
def shownFolder (task : Task) (files : Tree) : Path :=
  if task.folder.isAbsolute then task.folder else ⟨.slash, files.here ++ task.folder.parts⟩

/-- It can be told whether an output is there, and the output is not passed over. -/
structure Attempts (task : Task) (files : Tree) (template output : Path) : Prop where
  answered : ¬Overlong files output
  due : ¬task.PassesOver files template output

/-- An output breaks off with a failure, and leaves this. -/
inductive Breaks (task : Task) (engine : Template.Engine) (template output : Path)
    (before : World) : Failure → World → Prop
  | overlong (overlong : Overlong before.files output) :
      Breaks task engine template output before (.unforeseen (overlongFault output)) before
  | load {fault : Fault} (attempts : task.Attempts before.files template output)
      (unread : Template.readTemplate before.files engine template.name = .error fault)
      (failed : Engine.load engine template.name before = .error (.unforeseen fault) before) :
      Breaks task engine template output before (.templateLoad template.name fault) before
  | folder {place : Nat} {loaded : World}
      (attempts : task.Attempts before.files template output)
      (loads : Engine.load engine template.name before = .ok place loaded)
      (blocked : task.IsBlocked before.files) :
      Breaks task engine template output before
        (.config (.outputNoDirectory (task.shownFolder before.files))) loaded
  | render {place : Nat} {loaded after : World} {fault : Fault}
      (attempts : task.Attempts before.files template output)
      (loads : Engine.load engine template.name before = .ok place loaded)
      (free : ¬task.IsBlocked before.files)
      (failed : task.write engine place output loaded = .error (.unforeseen fault) after) :
      Breaks task engine template output before (.render task.source fault) after

variable {task : Task} {engine : Template.Engine} {template output : Path}
  {world after : World} {failure : Failure}

private theorem exists_has {files : Tree} {path : Path} (answered : ¬Overlong files path) :
    ∃ present, files.has path = .ok present := by
  cases known : files.has path with
  | ok present => exact ⟨present, rfl⟩
  | error fault => exact absurd (Files.has_eq_error_iff.mp known).1 answered

private theorem isFresh_of_overlong (overlong : Overlong world.files output) :
    task.isFresh template output world =
      .error (.unforeseen (overlongFault output)) world := by
  refine bind_apply_of_error ?_
  rw [Act.askFiles_apply, Files.has_eq_error_iff.mpr ⟨overlong, rfl⟩]

private theorem isFresh_of_attempts (attempts : task.Attempts world.files template output) :
    task.isFresh template output world = .ok false world := by
  obtain ⟨present, known⟩ := exists_has attempts.answered
  cases ended : task.isFresh template output world with
  | error failure after =>
    unfold isFresh at ended
    rw [bind_apply_of_ok (Act.askFiles_eq_ok_iff.mpr ⟨known, rfl⟩)] at ended
    cases present <;> cases ended
  | ok answer after =>
    obtain ⟨rfl, -⟩ := isFresh_ok ended
    cases answer with
    | false => rfl
    | true => exact absurd (isFresh_eq_true_iff.mp ended) attempts.due

private theorem checkFolder_of_blocked (blocked : task.IsBlocked world.files) :
    task.checkFolder world =
      .error (.config (.outputNoDirectory (task.shownFolder world.files))) world := by
  have asked : Act.askFiles (fun files => files.isDirectory task.folder) world =
      .ok false world := Act.askFiles_eq_ok_iff.mpr ⟨blocked.2, rfl⟩
  unfold checkFolder
  rw [bind_apply_of_ok (Act.askFiles_eq_ok_iff.mpr ⟨blocked.1, rfl⟩)]
  exact bind_apply_of_ok asked

private theorem checkFolder_of_free (answered : ¬Overlong world.files task.folder)
    (free : ¬task.IsBlocked world.files) : task.checkFolder world = .ok () world := by
  obtain ⟨present, known⟩ := exists_has answered
  unfold checkFolder
  rw [bind_apply_of_ok (Act.askFiles_eq_ok_iff.mpr ⟨known, rfl⟩)]
  cases present with
  | false => rfl
  | true =>
    cases isDirectory : world.files.isDirectory task.folder with
    | error fault => exact absurd (Files.leadsTo_eq_error_iff.mp isDirectory).1 answered
    | ok directory =>
      have asked : Act.askFiles (fun files => files.isDirectory task.folder) world =
          .ok directory world := Act.askFiles_eq_ok_iff.mpr ⟨isDirectory, rfl⟩
      cases directory with
      | true => exact bind_apply_of_ok asked
      | false => exact absurd ⟨known, isDirectory⟩ free

private theorem write_error_unforeseen {place : Nat}
    (failed : task.write engine place output world = .error failure after) :
    ∃ fault, failure = .unforeseen fault := by
  rcases bind_eq_error_iff.mp failed with starting | ⟨spare, opened, -, rest⟩
  · obtain ⟨fault, -, -, rfl, -⟩ := Act.onFiles_error starting
    exact ⟨fault, rfl⟩
  · rcases bind_eq_error_iff.mp rest with rendering | ⟨bytes, rendered, -, finishing⟩
    · exact absurd rendering postponed_content_ne_error
    · obtain ⟨fault, -, -, rfl, -⟩ := Act.onFiles_error finishing
      exact ⟨fault, rfl⟩

/-! ## One output -/

/-- Once its template is loaded, an output is written unless its folder is none. -/
theorem generateOne_of_load {place : Nat} {loaded : World}
    (attempts : task.Attempts world.files template output)
    (loads : Engine.load engine template.name world = .ok place loaded) :
    task.generateOne engine template output world =
      (do
        task.checkFolder
        Act.naming (.render task.source) (task.write engine place output)
        Act.onMachine (Template.Run.reclaim world.machine)
        Act.detail ("Rendered " ++ template.name ++ " → " ++ output.text)
        return true) loaded := by
  have taken : Act.machine world = .ok world.machine world := rfl
  exact (bind_apply_of_ok (isFresh_of_attempts attempts)).trans
    ((bind_apply_of_ok taken).trans (bind_apply_of_ok (Act.naming_eq_ok_iff.mpr loads)))

theorem Attempts.checkFolder_of_load {name : String} {place : Nat} {loaded : World}
    (attempts : task.Attempts world.files template (task.folder.child name))
    (loads : Engine.load engine template.name world = .ok place loaded)
    (free : ¬task.IsBlocked world.files) : task.checkFolder loaded = .ok () loaded := by
  have files : loaded.files = world.files :=
    (Engine.sameFiles_load engine template.name).of_ok loads
  refine checkFolder_of_free (fun overlong => attempts.answered ?_) (files ▸ free)
  rw [files] at overlong
  exact overlong.child name

/-- Where an output breaks off, generating it fails. -/
theorem Breaks.generateOne_eq {name : String}
    (breaks : Breaks task engine template (task.folder.child name) world failure after) :
    task.generateOne engine template (task.folder.child name) world = .error failure after := by
  cases breaks with
  | overlong overlong => exact bind_apply_of_error (isFresh_of_overlong overlong)
  | load attempts _ failed =>
    have taken : Act.machine world = .ok world.machine world := rfl
    refine (bind_apply_of_ok (isFresh_of_attempts attempts)).trans
      ((bind_apply_of_ok taken).trans (bind_apply_of_error ?_))
    rw [Act.naming_apply, failed]
  | folder attempts loads blocked =>
    have files := (Engine.sameFiles_load engine template.name).of_ok loads
    have refused := checkFolder_of_blocked (files ▸ blocked)
    rw [generateOne_of_load attempts loads, bind_apply_of_error refused, files]
  | render attempts loads free failed =>
    rw [generateOne_of_load attempts loads,
      bind_apply_of_ok (attempts.checkFolder_of_load loads free)]
    refine bind_apply_of_error ?_
    rw [Act.naming_apply, failed]

/-- Where an output does not break off, generating it succeeds. -/
theorem breaks_or_ok (task : Task) (engine : Template.Engine) (template : Path) (name : String)
    (world : World) :
    (∃ failure after,
        Breaks task engine template (task.folder.child name) world failure after) ∨
      ∃ isWritten after,
        task.generateOne engine template (task.folder.child name) world =
          .ok isWritten after := by
  by_cases overlong : Overlong world.files (task.folder.child name)
  · exact .inl ⟨_, _, .overlong overlong⟩
  by_cases passes : task.PassesOver world.files template (task.folder.child name)
  · exact .inr ⟨_, _, bind_apply_of_ok (isFresh_eq_true_iff.mpr passes)⟩
  have attempts : task.Attempts world.files template (task.folder.child name) :=
    ⟨overlong, passes⟩
  cases loads : Engine.load engine template.name world with
  | error unloaded left =>
    obtain ⟨rfl, fault, rfl, unread⟩ := Engine.load_error loads
    exact .inl ⟨_, _, .load attempts unread loads⟩
  | ok place loaded =>
    by_cases blocked : task.IsBlocked world.files
    · exact .inl ⟨_, _, .folder attempts loads blocked⟩
    cases ended : task.write engine place (task.folder.child name) loaded with
    | error failure after =>
      obtain ⟨fault, rfl⟩ := write_error_unforeseen ended
      exact .inl ⟨_, _, .render attempts loads blocked ended⟩
    | ok nothing written =>
      refine .inr ⟨true, ?_⟩
      rw [generateOne_of_load attempts loads,
        bind_apply_of_ok (attempts.checkFolder_of_load loads blocked),
        bind_apply_of_ok (Act.naming_eq_ok_iff.mpr ended)]
      exact ⟨_, rfl⟩

/-- Generating an output fails exactly where the output breaks off, and in no other way. -/
theorem generateOne_eq_error_iff {name : String} :
    task.generateOne engine template (task.folder.child name) world = .error failure after ↔
      Breaks task engine template (task.folder.child name) world failure after := by
  refine ⟨fun failed => ?_, Breaks.generateOne_eq⟩
  rcases breaks_or_ok task engine template name world with
    ⟨_, _, breaks⟩ | ⟨_, _, generated⟩
  · rw [breaks.generateOne_eq] at failed
    cases failed
    exact breaks
  · rw [generated] at failed
    cases failed

/-! ## All outputs of a task -/

/-- Outputs in a row fail where the first of them does, when those before it are complete. -/
theorem generateAll_eq_error_iff {pairs : List (Path × Path)} :
    task.generateAll engine pairs world = .error failure after ↔
      ∃ front template output back outputs before,
        pairs = front ++ (template, output) :: back ∧
          task.generateAll engine front world = .ok outputs before ∧
          task.generateOne engine template output before = .error failure after := by
  induction pairs generalizing world with
  | nil =>
    constructor
    · intro failed
      cases failed
    · rintro ⟨front, _, _, _, _, _, split, -⟩
      cases front <;> cases split
  | cons pair rest ih =>
    obtain ⟨template, output⟩ := pair
    constructor
    · intro failed
      rcases bind_eq_error_iff.mp failed with first | ⟨isWritten, middle, first, more⟩
      · exact ⟨[], template, output, rest, [], world, rfl, rfl, first⟩
      rcases bind_eq_error_iff.mp more with later | ⟨_, _, _, collected⟩
      · obtain ⟨front, last, lastOutput, back, outputs, before, rfl, complete, breaks⟩ :=
          ih.mp later
        exact ⟨(template, output) :: front, last, lastOutput, back, _, before, rfl,
          (bind_apply_of_ok first).trans (bind_apply_of_ok complete), breaks⟩
      · cases collected
    · rintro ⟨front, last, lastOutput, back, outputs, before, split, complete, breaks⟩
      cases front with
      | nil =>
        cases split
        cases complete
        exact bind_apply_of_error breaks
      | cons pair front =>
        cases split
        obtain ⟨isWritten, middle, first, more⟩ := bind_eq_ok_iff.mp complete
        obtain ⟨others, last, later, collected⟩ := bind_eq_ok_iff.mp more
        cases collected
        exact (bind_apply_of_ok first).trans
          (bind_apply_of_error (ih.mpr ⟨_, _, _, _, _, _, rfl, later, breaks⟩))

/-- A task comes to an output when all outputs before it are complete. -/
def Reaches (task : Task) (engine : Template.Engine) (world : World) (template output : Path)
    (before : World) : Prop :=
  ∃ front back outputs, task.outputs = front ++ (template, output) :: back ∧
    task.generateAll engine front world = .ok outputs before

theorem Reaches.output_eq {before : World}
    (reaches : task.Reaches engine world template output before) :
    output = task.folder.child (Naming.outputName task.source template) := by
  obtain ⟨front, back, outputs, split, -⟩ := reaches
  have member : (template, output) ∈ task.outputs := by
    rw [split]
    exact List.mem_append_right _ (List.mem_cons_self ..)
  exact (Generation.mem_outputs.mp member).2

private theorem generate_eq_error_iff :
    task.generate engine world = .error failure after ↔
      ∃ template output before, task.Reaches engine world template output before ∧
        Breaks task engine template output before failure after := by
  refine generateAll_eq_error_iff.trans ⟨?_, ?_⟩
  · rintro ⟨front, template, output, back, outputs, before, split, complete, failed⟩
    have reaches : task.Reaches engine world template output before :=
      ⟨front, back, outputs, split, complete⟩
    obtain rfl := reaches.output_eq
    exact ⟨template, _, before, reaches, generateOne_eq_error_iff.mp failed⟩
  · rintro ⟨template, output, before, reaches, breaks⟩
    obtain rfl := reaches.output_eq
    obtain ⟨front, back, outputs, split, complete⟩ := reaches
    exact ⟨front, template, _, back, outputs, before, split, complete, breaks.generateOne_eq⟩

/--
A task fails exactly where an output that it comes to breaks off.  The failure has a name
of its own unless the path of the output holds a name that is too long for a walk.  It does
where the folder of outputs is there and the output's own name, which joins the name of the
data file and that of the template, is too long.
-/
theorem generate_fails_iff (task : Task) (engine : Template.Engine) (world : World) :
    (∀ failure after, task.generate engine world = .error failure after ↔
      ∃ template output before, task.Reaches engine world template output before ∧
        Breaks task engine template output before failure after) ∧
    ((∀ failure after, task.generate engine world = .error failure after →
        failure.isNamed = true) ↔
      ∀ template output before, task.Reaches engine world template output before →
        ¬Overlong before.files output) ∧
    ∀ template output before trail folder,
      task.Reaches engine world template output before →
        LeadsInto before.files task.folder trail folder →
        Tree.nameLimit < Text.storedLength (Naming.outputName task.source template) →
        task.generate engine world =
          .error (.unforeseen (overlongFault output)) before := by
  refine ⟨fun failure after => generate_eq_error_iff, ⟨?_, ?_⟩, ?_⟩
  · intro named template output before reaches overlong
    cases named _ _ (generate_eq_error_iff.mpr ⟨_, _, _, reaches, .overlong overlong⟩)
  · intro answered failure after failed
    obtain ⟨template, output, before, reaches, breaks⟩ := generate_eq_error_iff.mp failed
    cases breaks with
    | overlong overlong => exact absurd overlong (answered _ _ _ reaches)
    | load => rfl
    | folder => rfl
    | render => rfl
  · intro template output before trail folder reaches leads long
    refine generate_eq_error_iff.mpr ⟨template, output, before, reaches, .overlong ?_⟩
    rw [reaches.output_eq]
    exact Files.overlong_child_of_long leads long

/-! ## Names that only join to one that is too long -/

/-- A name that is no more than one letter, again and again. -/
def repeated (letter : Char) (count : Nat) : String :=
  String.ofList (List.replicate count letter)

/-- A task whose data file and template have names that are long, but not too long. -/
def lengthyTask : Task where
  timestamp := 0
  source := ⟨.none, ["data", repeated 'a' 200 ++ ".json"]⟩
  templates := [⟨.none, ["templates", repeated 'b' 60]⟩]
  folder := ⟨.none, ["out"]⟩
  model := .dict 0
  mode := defaultMode

/-- The path of the only output of the task. -/
def lengthyOutput : Path :=
  ⟨.none, ["out", repeated 'a' 200 ++ ".json" ++ repeated 'b' 60 ++ ".java"]⟩

/-- A world with the template, which may have the folder of outputs already. -/
def lengthyWorld (outputs : List (Files.Place × Files.Entry)) : World where
  files := {
    entries := outputs ++ [
      (["templates"], .directory),
      (["templates", repeated 'b' 60], .file ⟨"class".toUTF8, 0o644, 0, 0⟩)]
    here := [] }
  machine := { heap := ⟨#[.dict []]⟩ }

/--
The failure of one and the same task has a name where the folder of outputs is yet to be
made, and none where it is there.
-/
theorem not_isNamed_lengthyTask :
    (fault? (lengthyTask.generate plainEngine (lengthyWorld []))).map Failure.isNamed =
      some true ∧
    fault? (lengthyTask.generate plainEngine (lengthyWorld [(["out"], .directory)])) =
      some (.unforeseen (overlongFault lengthyOutput)) ∧
    (Failure.unforeseen (overlongFault lengthyOutput)).isNamed = false :=
  ⟨by decide +kernel, by decide +kernel, rfl⟩

end Task

end Stencil

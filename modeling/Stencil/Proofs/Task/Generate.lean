import Stencil.Proofs.Files.Footprint
import Stencil.Proofs.Rendering
import Stencil.Task.Generate

/-!
# What generating one output leaves

Where rendering never changes a file, all that generating one output can change comes from
the writer.  A success has written the rendered text.  A failure of any other kind than
rendering leaves the files as they are; a failure of rendering may leave directories and,
where the mode was refused after the move, the output itself.
-/

namespace Stencil

open Outcome
open Files (Change Footprint Grown OpenFootprint Tree)

namespace Task

/-! ## Checks before an output is written -/

theorem lastModified_of_not_has {files : Tree} {path : Path}
    (absent : files.has path = .ok false) : files.lastModified path = 0 := by
  unfold Files.Tree.has Files.Tree.leadsTo at absent
  unfold Files.Tree.lastModified Files.Tree.stamp?
  cases found : files.find true path with
  | ok entry =>
    rw [found] at absent
    cases absent
  | error reason => rfl

/-- An output counts as fresh only if the descriptors are older than all time. -/
theorem isFresh_ok
    {task : Task} {template output : Path} {world after : World} {answer : Bool}
    (ended : task.isFresh template output world = .ok answer after) :
    after = world ∧ (answer = true → task.timestamp < 0) := by
  unfold isFresh at ended
  obtain ⟨present, between, asked, rest⟩ := bind_eq_ok_iff.mp ended
  obtain ⟨known, rfl⟩ := Act.askFiles_eq_ok_iff.mp asked
  cases present with
  | true =>
    cases rest
    exact ⟨rfl, fun impossible => by cases impossible⟩
  | false =>
    cases rest
    refine ⟨rfl, fun fresh => ?_⟩
    simp only [Bool.and_eq_true, decide_eq_true_eq, lastModified_of_not_has known] at fresh
    exact fresh.2

theorem isFresh_error
    {task : Task} {template output : Path} {world after : World} {failure : Failure}
    (failed : task.isFresh template output world = .error failure after) :
    after = world ∧ ∃ fault, failure = .unforeseen fault := by
  unfold isFresh at failed
  rcases bind_eq_error_iff.mp failed with asked | ⟨present, between, asked, rest⟩
  · exact Act.askFiles_error asked
  · cases present <;> cases rest

theorem checkFolder_ok {task : Task} {world after : World}
    (ended : task.checkFolder world = .ok ⟨⟩ after) : after = world := by
  unfold checkFolder at ended
  obtain ⟨present, between, asked, rest⟩ := bind_eq_ok_iff.mp ended
  obtain ⟨-, rfl⟩ := Act.askFiles_eq_ok_iff.mp asked
  cases present with
  | false => cases rest; rfl
  | true =>
    obtain ⟨directory, last, again, rest⟩ := bind_eq_ok_iff.mp rest
    obtain ⟨-, rfl⟩ := Act.askFiles_eq_ok_iff.mp again
    cases directory <;> cases rest
    rfl

/-- A folder that is none is no failure of rendering. -/
theorem checkFolder_error
    {task : Task} {world after : World} {failure : Failure}
    (failed : task.checkFolder world = .error failure after) :
    after = world ∧ ∀ dataFile cause, failure ≠ .render dataFile cause := by
  have unforeseen {question : Tree → Except Fault Bool}
      (asked : Act.askFiles question world = .error failure after) :
      after = world ∧ ∀ dataFile cause, failure ≠ .render dataFile cause := by
    obtain ⟨same, fault, rfl⟩ := Act.askFiles_error asked
    exact ⟨same, by simp⟩
  unfold checkFolder at failed
  rcases bind_eq_error_iff.mp failed with asked | ⟨present, between, asked, rest⟩
  · exact unforeseen asked
  · obtain ⟨-, rfl⟩ := Act.askFiles_eq_ok_iff.mp asked
    cases present with
    | false => cases rest
    | true =>
      rcases bind_eq_error_iff.mp rest with again | ⟨directory, last, again, stop⟩
      · exact unforeseen again
      · obtain ⟨-, rfl⟩ := Act.askFiles_eq_ok_iff.mp again
        cases directory <;> cases stop
        exact ⟨rfl, by simp⟩

/-! ## Failed writes -/

/-- What a write that fails leaves of the files. -/
def Remains (output : Path) (mode : Int) (before after : Tree) : Prop :=
  Files.Alike (before.withDirectories output.parent) after ∨
    ∃ bytes, Change.Stranded output mode bytes (before.withDirectories output.parent) after

/-- A write that fails leaves nothing but directories and its own output. -/
theorem Remains.footprint
    {output folder : Path} {mode : Int} {allowed : String → Prop} {start before after : Tree}
    (remains : Remains output mode before after)
    (isOpen : OpenFootprint folder allowed start before)
    (inside : output.parent = folder)
    (isAllowed : allowed output.name) : Footprint folder allowed start after := by
  unfold Remains at remains
  rw [inside] at remains
  rcases remains with alike | ⟨bytes, stranded⟩
  · exact isOpen.withDirectories.alike alike
  · exact isOpen.stranded inside isAllowed stranded

/-! ## Rendering -/

theorem postponed_eq_ok_iff
    {α : Type} {act : Act α} {world after : World} {result : Except Fault α} :
    postponed act world = .ok result after ↔
      (∃ value, result = .ok value ∧ act world = .ok value after) ∨
        ∃ fault, result = .error fault ∧ act world = .error (.unforeseen fault) after := by
  unfold postponed
  cases act world with
  | ok value left => simp [eq_comm]
  | error failure left => cases failure <;> simp [eq_comm]

theorem sameFiles_postponed {α : Type} {act : Act α} (same : Moves Act.SameFiles act) :
    Moves Act.SameFiles (postponed act) := by
  intro world
  have files := same world
  unfold postponed
  cases ended : act world with
  | ok value after => rwa [ended] at files
  | error failure after =>
    rw [ended] at files
    cases failure <;> exact files

section WithRendering

variable [rendering : Rendering]

/-- Rendering has no failures of its own. -/
theorem content_error
    {task : Task} {engine : Template.Engine} {template : Nat} {world after : World}
    {failure : Failure} (failed : task.content engine template world = .error failure after) :
    ∃ fault, failure = .unforeseen fault := by
  rcases bind_eq_error_iff.mp failed with first | ⟨_, between, _, rest⟩
  · exact Act.onMachine_error first
  · rcases bind_eq_error_iff.mp rest with failed | ⟨text, last, -, stored⟩
    · exact rendering.unforeseen failed
    · cases storing : Change.storedPieces [text] none with
      | ok bytes =>
        rw [storing] at stored
        cases stored
      | error fault =>
        rw [storing] at stored
        cases stored
        exact ⟨fault, rfl⟩

theorem postponed_content_ne_error
    {task : Task} {engine : Template.Engine} {template : Nat} {world after : World}
    {failure : Failure} :
    postponed (task.content engine template) world ≠ .error failure after := by
  intro failed
  unfold postponed at failed
  split at failed
  · cases failed
  · cases failed
  · next unforeseen ended =>
    obtain ⟨fault, rfl⟩ := content_error ended
    exact unforeseen fault rfl

/-- The machine is told that output is stored, and the template is rendered. -/
def Renders (engine : Template.Engine) (template : Nat) (model : Value) (world : World)
    (text : Text) : Prop :=
  ∃ after, Rendering.render engine template model
    { world with machine := { world.machine with storesOutput := true } } = .ok text after

theorem content_ok
    {task : Task} {engine : Template.Engine} {template : Nat} {world after : World}
    {bytes : ByteArray} (ended : task.content engine template world = .ok bytes after) :
    ∃ text, Renders engine template task.model world text ∧
      Text.encode? text = some bytes := by
  obtain ⟨_, between, told, rest⟩ := bind_eq_ok_iff.mp ended
  cases told
  obtain ⟨text, last, rendered, stored⟩ := bind_eq_ok_iff.mp rest
  refine ⟨text, ⟨last, rendered⟩, ?_⟩
  cases storing : Change.storedPieces [text] none with
  | ok given =>
    rw [storing] at stored
    cases stored
    have encoded := (Change.storedPieces_eq_ok_iff.mp storing).2
    rwa [List.flatten_singleton] at encoded
  | error fault =>
    rw [storing] at stored
    cases stored

/-- The stored form of the text that a template gives for a task. -/
def Gives (task : Task) (engine : Template.Engine) (template output : Path) (world : World)
    (bytes : ByteArray) : Prop :=
  ∃ place loaded spare opened text,
    Engine.load engine template.name world = .ok place loaded ∧
    Change.startFile output loaded.files = .ok spare opened ∧
    Renders engine place task.model { loaded with files := opened } text ∧
    Text.encode? text = some bytes

/-- An output has been written with the text that its template gives for the task. -/
def Produces (task : Task) (engine : Template.Engine) (template output : Path)
    (world after : World) : Prop :=
  ∃ bytes, task.Gives engine template output world bytes ∧
    Change.Written output task.mode bytes (world.files.withDirectories output.parent)
      after.files

variable [rendering.IsQuiet]

/-! ## Writing the output -/

theorem sameFiles_content (task : Task) (engine : Template.Engine) (template : Nat) :
    Moves Act.SameFiles (task.content engine template) := by
  unfold content
  refine .bind (Act.sameFiles_onMachine _) fun _ =>
    .bind (Rendering.IsQuiet.sameFiles _ _ _) fun text => ?_
  cases Change.storedPieces [text] none with
  | ok bytes => exact .pure bytes
  | error fault => exact Act.sameFiles_fail fault

/-- How an output is written: what is rendered, and what becomes of the files. -/
theorem write_ok
    {task : Task} {engine : Template.Engine} {template : Nat} {output : Path}
    {world after : World} (sound : world.files.Sound)
    (ended : task.write engine template output world = .ok ⟨⟩ after) :
    ∃ spare opened text bytes, Change.startFile output world.files = .ok spare opened ∧
      Renders engine template task.model { world with files := opened } text ∧
      Text.encode? text = some bytes ∧
      Change.Written output task.mode bytes (world.files.withDirectories output.parent)
        after.files := by
  obtain ⟨spare, between, starting, rest⟩ := bind_eq_ok_iff.mp ended
  obtain ⟨opened, started, rfl⟩ := Act.onFiles_eq_ok_iff.mp starting
  have isOpened := Change.startFile_ok sound started
  obtain ⟨content, last, giving, finishing⟩ := bind_eq_ok_iff.mp rest
  obtain ⟨written, finished, rfl⟩ := Act.onFiles_eq_ok_iff.mp finishing
  have files : last.files = opened :=
    (sameFiles_postponed (sameFiles_content task engine template)).of_ok giving
  rw [files] at finished
  obtain ⟨bytes, rfl, isWritten⟩ := Change.finishFile_ok isOpened finished
  rcases postponed_eq_ok_iff.mp giving with ⟨value, same, given⟩ | ⟨_, impossible, -⟩
  · cases same
    obtain ⟨text, renders, encoded⟩ := content_ok given
    exact ⟨spare, opened, text, bytes, started, renders, encoded, isWritten⟩
  · cases impossible

theorem write_error
    {task : Task} {engine : Template.Engine} {template : Nat} {output : Path}
    {world after : World} {failure : Failure} (sound : world.files.Sound)
    (failed : task.write engine template output world = .error failure after) :
    (∃ fault, failure = .unforeseen fault) ∧
      Remains output task.mode world.files after.files := by
  rcases bind_eq_error_iff.mp failed with starting | ⟨spare, between, starting, rest⟩
  · obtain ⟨fault, left, refused, rfl, rfl⟩ := Act.onFiles_error starting
    refine ⟨⟨fault, rfl⟩, .inl ?_⟩
    rw [Change.startFile_error refused]
    exact .refl (sound.grown_withDirectories output.parent).sound
  · obtain ⟨opened, started, rfl⟩ := Act.onFiles_eq_ok_iff.mp starting
    have isOpened := Change.startFile_ok sound started
    rcases bind_eq_error_iff.mp rest with giving | ⟨content, last, giving, finishing⟩
    · exact absurd giving postponed_content_ne_error
    · obtain ⟨fault, left, refused, rfl, rfl⟩ := Act.onFiles_error finishing
      have files : last.files = opened :=
        (sameFiles_postponed (sameFiles_content task engine template)).of_ok giving
      rw [files] at refused
      refine ⟨⟨fault, rfl⟩, ?_⟩
      rcases Change.finishFile_error isOpened refused with alike | ⟨bytes, -, stranded⟩
      · exact .inl alike
      · exact .inr ⟨bytes, stranded⟩

/-! ## One output -/

/-- What a successful attempt at one output does. -/
theorem generateOne_ok
    {task : Task} {engine : Template.Engine} {template output : Path} {world after : World}
    {isWritten : Bool} (sound : world.files.Sound)
    (ended : task.generateOne engine template output world = .ok isWritten after) :
    (isWritten = false ∧ after.files = world.files ∧
        task.isFresh template output world = .ok true world) ∨
      (isWritten = true ∧ Produces task engine template output world after) := by
  unfold generateOne at ended
  obtain ⟨fresh, between, checked, more⟩ := bind_eq_ok_iff.mp ended
  obtain ⟨rfl, -⟩ := isFresh_ok checked
  cases fresh with
  | true =>
    cases more
    exact .inl ⟨rfl, rfl, checked⟩
  | false =>
    obtain ⟨start, _, taken, more⟩ := bind_eq_ok_iff.mp more
    cases taken
    obtain ⟨place, loaded, loading, rest⟩ := bind_eq_ok_iff.mp more
    have loading := Act.naming_eq_ok_iff.mp loading
    have files := (Engine.sameFiles_load engine template.name).of_ok loading
    obtain ⟨_, last, folder, writing⟩ := bind_eq_ok_iff.mp rest
    obtain rfl := checkFolder_ok folder
    obtain ⟨_, finish, written, reclaiming⟩ := bind_eq_ok_iff.mp writing
    obtain ⟨_, _, reclaimed, noticed⟩ := bind_eq_ok_iff.mp reclaiming
    cases reclaimed
    cases noticed
    rw [← files] at sound
    obtain ⟨spare, opened, text, bytes, started, renders, encoded, isWritten⟩ :=
      write_ok sound (Act.naming_eq_ok_iff.mp written)
    rw [files] at isWritten
    exact .inr ⟨rfl, bytes,
      ⟨place, last, spare, opened, text, loading, started, renders, encoded⟩, isWritten⟩

/-- What a failed attempt at one output leaves. -/
theorem generateOne_error
    {task : Task} {engine : Template.Engine} {template output : Path} {world after : World}
    {failure : Failure} (sound : world.files.Sound)
    (failed : task.generateOne engine template output world = .error failure after) :
    (after.files = world.files ∧ ∀ dataFile cause, failure ≠ .render dataFile cause) ∨
      ((∃ cause, failure = .render task.source cause) ∧
        Remains output task.mode world.files after.files) := by
  unfold generateOne at failed
  rcases bind_eq_error_iff.mp failed with checked | ⟨fresh, between, checked, more⟩
  · obtain ⟨rfl, fault, rfl⟩ := isFresh_error checked
    exact .inl ⟨rfl, by simp⟩
  obtain ⟨rfl, -⟩ := isFresh_ok checked
  cases fresh with
  | true => cases more
  | false =>
    rcases bind_eq_error_iff.mp more with taken | ⟨start, _, taken, more⟩
    · cases taken
    cases taken
    rcases bind_eq_error_iff.mp more with loading | ⟨place, loaded, loading, rest⟩
    · have files := (Act.sameFiles_naming (Engine.sameFiles_load engine template.name)
        (Failure.templateLoad template.name)).of_error loading
      rcases Act.naming_error loading with ⟨fault, -, rfl⟩ | ⟨ended, named⟩
      · exact .inl ⟨files, by simp⟩
      · obtain ⟨fault, rfl⟩ := Act.onMachine_error ended
        cases named
    have loading := Act.naming_eq_ok_iff.mp loading
    have files := (Engine.sameFiles_load engine template.name).of_ok loading
    rcases bind_eq_error_iff.mp rest with folder | ⟨_, last, folder, writing⟩
    · obtain ⟨rfl, other⟩ := checkFolder_error folder
      exact .inl ⟨files, other⟩
    obtain rfl := checkFolder_ok folder
    rcases bind_eq_error_iff.mp writing with written | ⟨_, _, _, reclaiming⟩
    · rw [← files] at sound ⊢
      rcases Act.naming_error written with ⟨fault, ended, rfl⟩ | ⟨ended, named⟩
      · exact .inr ⟨⟨fault, rfl⟩, (write_error sound ended).2⟩
      · obtain ⟨⟨fault, rfl⟩, -⟩ := write_error sound ended
        cases named
    · rcases bind_eq_error_iff.mp reclaiming with reclaimed | ⟨_, _, _, noticed⟩
      · cases reclaimed
      · cases noticed

end WithRendering

end Task

end Stencil

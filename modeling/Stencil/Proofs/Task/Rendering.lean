import Stencil.Proofs.Files.Replacing
import Stencil.Proofs.Generation.Blindness

/-!
# What decides a rendering

The text of an output, and what the machine is afterwards, is decided by the machine and by
what the directory of the templates shows.
-/

namespace Stencil.Task

open Outcome
open Files (Change Tree)
open Generation (SameBelow)

variable {task : Task} {engine : Template.Engine} {template output : Path}
  {files opened other another : Tree} {machine : Template.Machine} {bytes : ByteArray}
  {world after : World}

/--
The stored form of what a template gives on a machine, and the machine that this leaves.  The
template is loaded from one tree, and rendered in another one.
-/
def Yields (task : Task) (engine : Template.Engine) (template : Path) (files opened : Tree)
    (machine : Template.Machine) (bytes : ByteArray) (finish : Template.Machine) : Prop :=
  ∃ place loaded text,
    Template.loadTemplate files engine template.name machine = .ok place loaded ∧
    Template.renderTemplate opened engine place task.model
      { loaded with storesOutput := true } = .ok text finish ∧
    Text.encode? text = some bytes

namespace Yields

variable {finish : Template.Machine}

theorem unique {further : ByteArray} {last : Template.Machine}
    (yields : task.Yields engine template files opened machine bytes finish)
    (again : task.Yields engine template files opened machine further last) :
    further = bytes ∧ last = finish := by
  obtain ⟨place, loaded, text, loads, renders, encoded⟩ := yields
  obtain ⟨_, _, _, loadsAgain, rendersAgain, encodedAgain⟩ := again
  rw [loads] at loadsAgain
  cases loadsAgain
  rw [renders] at rendersAgain
  cases rendersAgain
  rw [encoded] at encodedAgain
  cases encodedAgain
  exact ⟨rfl, rfl⟩

/-- Templates that are the same give the same. -/
theorem transfer (yields : task.Yields engine template files opened machine bytes finish)
    (same : SameBelow files other engine.directory)
    (sameOpened : SameBelow opened another engine.directory) :
    task.Yields engine template other another machine bytes finish := by
  unfold Yields
  rw [Template.loadTemplate_eq same, Template.renderTemplate_eq sameOpened]
  exact yields

end Yields

theorem gives_iff :
    task.Gives engine template output world bytes ↔
      ∃ spare opened finish, Change.startFile output world.files = .ok spare opened ∧
        task.Yields engine template world.files opened world.machine bytes finish := by
  constructor
  · rintro ⟨place, _, spare, opened, text, loading, started, ⟨_, rendering⟩, encoded⟩
    obtain ⟨loaded, loads, rfl⟩ := Act.onMachine_eq_ok_iff.mp loading
    obtain ⟨last, renders, rfl⟩ := Act.onMachine_eq_ok_iff.mp rendering
    exact ⟨spare, opened, last, started, place, loaded, text, loads, renders, encoded⟩
  · rintro ⟨spare, opened, finish, started, place, loaded, text, loads, renders, encoded⟩
    exact ⟨place, { world with machine := loaded }, spare, opened, text,
      Act.onMachine_eq_ok_iff.mpr ⟨loaded, loads, rfl⟩, started,
      ⟨_, Act.onMachine_eq_ok_iff.mpr ⟨finish, renders, rfl⟩⟩, encoded⟩

theorem Gives.unique {further : ByteArray}
    (gives : task.Gives engine template output world bytes)
    (again : task.Gives engine template output world further) : further = bytes := by
  obtain ⟨spare, opened, finish, started, yields⟩ := gives_iff.mp gives
  obtain ⟨_, _, _, startedAgain, yieldsAgain⟩ := gives_iff.mp again
  rw [started] at startedAgain
  cases startedAgain
  exact (yields.unique yieldsAgain).1

theorem content_machine {place : Nat}
    (ended : task.content engine place world = .ok bytes after) :
    ∃ text, Template.renderTemplate world.files engine place task.model
        { world.machine with storesOutput := true } = .ok text after.machine ∧
      Text.encode? text = some bytes := by
  obtain ⟨_, between, told, rest⟩ := bind_eq_ok_iff.mp ended
  cases told
  obtain ⟨text, last, rendered, stored⟩ := bind_eq_ok_iff.mp rest
  obtain ⟨finish, renders, rfl⟩ := Act.onMachine_eq_ok_iff.mp rendered
  cases storing : Change.storedPieces [text] none with
  | ok given =>
    rw [storing] at stored
    cases stored
    have encoded := (Change.storedPieces_eq_ok_iff.mp storing).2
    rw [List.flatten_singleton] at encoded
    exact ⟨text, renders, encoded⟩
  | error fault =>
    rw [storing] at stored
    cases stored

/-- Writing an output leaves the machine as rendering does. -/
theorem write_machine {place : Nat}
    (ended : task.write engine place output world = .ok ⟨⟩ after) :
    ∃ spare opened text bytes, Change.startFile output world.files = .ok spare opened ∧
      Template.renderTemplate opened engine place task.model
        { world.machine with storesOutput := true } = .ok text after.machine ∧
      Text.encode? text = some bytes := by
  obtain ⟨spare, between, starting, rest⟩ := bind_eq_ok_iff.mp ended
  obtain ⟨opened, started, rfl⟩ := Act.onFiles_eq_ok_iff.mp starting
  obtain ⟨content, last, rendering, finishing⟩ := bind_eq_ok_iff.mp rest
  obtain ⟨written, finished, rfl⟩ := Act.onFiles_eq_ok_iff.mp finishing
  rcases postponed_eq_ok_iff.mp rendering with ⟨bytes, rfl, given⟩ | ⟨fault, rfl, -⟩
  · obtain ⟨text, renders, encoded⟩ := content_machine given
    exact ⟨spare, opened, text, bytes, started, renders, encoded⟩
  · rw [Change.finishFile_of_fault] at finished
    cases finished

/-- What is left of the machine when an output has been written. -/
theorem generateOne_machine
    (ended : task.generateOne engine template output world = .ok true after) :
    ∃ spare opened bytes finish, Change.startFile output world.files = .ok spare opened ∧
      task.Yields engine template world.files opened world.machine bytes finish ∧
      after.machine = finish.reclaim world.machine := by
  unfold generateOne at ended
  obtain ⟨fresh, between, checked, more⟩ := bind_eq_ok_iff.mp ended
  obtain ⟨rfl, -⟩ := isFresh_ok checked
  cases fresh with
  | true => cases more
  | false =>
    obtain ⟨start, _, taken, more⟩ := bind_eq_ok_iff.mp more
    cases taken
    obtain ⟨place, _, loading, rest⟩ := bind_eq_ok_iff.mp more
    obtain ⟨loaded, loads, rfl⟩ := Act.onMachine_eq_ok_iff.mp (Act.naming_eq_ok_iff.mp loading)
    obtain ⟨_, last, folder, writing⟩ := bind_eq_ok_iff.mp rest
    obtain rfl := checkFolder_ok folder
    obtain ⟨_, finish, written, reclaiming⟩ := bind_eq_ok_iff.mp writing
    obtain ⟨_, _, reclaimed, noticed⟩ := bind_eq_ok_iff.mp reclaiming
    cases reclaimed
    cases noticed
    obtain ⟨spare, opened, text, bytes, started, renders, encoded⟩ :=
      write_machine (Act.naming_eq_ok_iff.mp written)
    exact ⟨spare, opened, bytes, finish.machine, started,
      ⟨place, loaded, text, loads, renders, encoded⟩, rfl⟩

end Stencil.Task

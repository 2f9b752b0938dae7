import Stencil.Generation.Basic
import Stencil.Proofs.Reader.Contribute

/-!
# The task of a data file

The library's own readers only decide what the data model of a task holds.  Everything
else about the task is as the walk over the data files has it, and no file is changed
before the task is carried out.
-/

namespace Stencil.Generation

open Outcome
open Files (Tree)

/-- A task as the walk has it for a data file, whatever its data model. -/
structure IsTask (generation : Generation) (path : Path) (files : Tree) (task : Task) :
    Prop where
  timestamp : task.timestamp = generation.timestamp
  source : task.source = path
  templates : listTemplates files generation.templateFolder = .ok task.templates
  folder : task.folder = generation.outputFolder
  mode : task.mode = generation.fileMode

variable {generation : Generation} {path : Path} {world after : World}

theorem sameFiles_draftFor (generation : Generation) (path : Path) :
    Moves Act.SameFiles (generation.draftFor path) :=
  .bind (Act.sameFiles_askFiles _) fun _ => .bind (Act.sameFiles_onMachine _) fun _ => .pure _

/-- A draft starts with what the walk knows and without a data model. -/
theorem draftFor_ok {draft : Draft} (ended : generation.draftFor path world = .ok draft after) :
    ∃ templates ref, listTemplates world.files generation.templateFolder = .ok templates ∧
      draft.Ready generation.timestamp path ref generation.outputFolder generation.fileMode ∧
      draft.model = .none ∧ ref < after.machine.heap.cells.size ∧
      after.machine.heap.items ref = templates.map Value.path := by
  unfold draftFor at ended
  obtain ⟨templates, same, asked, storing⟩ := bind_eq_ok_iff.mp ended
  obtain ⟨listed, sameEq⟩ := Act.askFiles_eq_ok_iff.mp asked
  rw [sameEq] at storing
  obtain ⟨value, stored, making, draftEq⟩ := bind_eq_ok_iff.mp storing
  cases making
  cases draftEq
  refine ⟨templates, _, listed, ⟨rfl, rfl, rfl, rfl, rfl⟩, rfl, by simp, ?_⟩
  have cell := world.machine.heap.get_allocate (.list (templates.map Value.path))
  rw [Heap.allocate] at cell
  rw [Heap.items, cell]

theorem isOwn_of_readerFor (readers : generation.readers.IsOwn) {reader : Reader}
    (found : generation.readerFor path = .ok reader) : reader.IsOwn := by
  unfold readerFor at found
  split at found
  · next known =>
    cases found
    obtain ⟨extension, -, stored⟩ := Option.bind_eq_some_iff.mp known
    obtain ⟨before, after, split, -⟩ := List.lookup_eq_some_iff.mp stored
    exact readers _ (split ▸ List.mem_append_right _ (List.mem_cons_self ..))
  · cases found

theorem sameFiles_taskFor (readers : generation.readers.IsOwn) (path : Path) :
    Moves Act.SameFiles (generation.taskFor path) := by
  refine .bind (Act.sameFiles_onMachine _) fun _ =>
    .bind (sameFiles_draftFor generation path) fun draft =>
      .bindReached (Act.sameFiles_lift _) fun reader ⟨_, _, lifted⟩ => ?_
  have isOwn := isOwn_of_readerFor readers (Act.lift_eq_ok_iff.mp lifted).1
  exact .bind (isOwn.sameFiles_contribute path draft) fun draft =>
    .bind (draft.sameFiles_add _ _) fun _ => .bind (Act.sameFiles_detail _) fun _ =>
    Draft.sameFiles_create _

theorem neverRenders_taskFor (readers : generation.readers.IsOwn) (path : Path) :
    Act.NeverRenders (generation.taskFor path) := by
  have drafting : Act.NeverRenders (generation.draftFor path) :=
    .bind (Act.neverRenders_askFiles _) fun _ _ =>
      .bind (Act.neverRenders_onMachine _) fun _ _ => .pure _
  have dispatching : Act.NeverRenders (Act.lift (generation.readerFor path)) := by
    apply Act.neverRenders_lift
    intro failure missing
    unfold readerFor at missing
    split at missing <;> cases missing
    simp
  refine .bind (Act.neverRenders_onMachine _) fun _ _ => .bind drafting fun draft _ =>
    .bind dispatching fun reader ⟨_, _, lifted⟩ => ?_
  have isOwn := isOwn_of_readerFor readers (Act.lift_eq_ok_iff.mp lifted).1
  exact .bind (isOwn.neverRenders_contribute path draft) fun draft _ =>
    .bind (draft.neverRenders_add _ _) fun _ _ => .bind (Act.neverRenders_detail _) fun _ _ =>
    Draft.neverRenders_create _

/-- What a reader makes of the draft that the walk has begun for a data file. -/
structure Drafts (generation : Generation) (path : Path) (world : World) (reader : Reader)
    (begun : Draft) (start : World) (drafted : Draft) (after : World) : Prop where
  begins : generation.draftFor path
    { world with machine := world.machine.reclaim generation.start } = .ok begun start
  reads : generation.readerFor path = .ok reader
  contributes : reader.contribute path begun start = .ok drafted after

/-- A task is made of a draft of its reader, to which the properties are added. -/
theorem exists_drafts {task : Task} (ended : generation.taskFor path world = .ok task after) :
    ∃ reader begun start drafted between,
      Drafts generation path world reader begun start drafted between ∧
      ∃ full last noticed,
        drafted.add propertiesKey generation.properties between = .ok full last ∧
        noticed.machine = last.machine ∧ full.create noticed = .ok task after := by
  obtain ⟨_, _, reclaimed, making⟩ := bind_eq_ok_iff.mp ended
  cases reclaimed
  obtain ⟨begun, start, begins, dispatching⟩ := bind_eq_ok_iff.mp making
  obtain ⟨reader, same, lifted, contributing⟩ := bind_eq_ok_iff.mp dispatching
  obtain ⟨reads, rfl⟩ := Act.lift_eq_ok_iff.mp lifted
  obtain ⟨drafted, between, contributes, adding⟩ := bind_eq_ok_iff.mp contributing
  obtain ⟨full, last, addition, noticing⟩ := bind_eq_ok_iff.mp adding
  obtain ⟨_, noticed, notice, creating⟩ := bind_eq_ok_iff.mp noticing
  cases notice
  refine ⟨reader, begun, _, drafted, between, ⟨begins, reads, contributes⟩, full, last, _,
    addition, ?_, creating⟩
  rfl

/-- With a reader of the library's own a task has everything but its data model from the walk. -/
theorem Drafts.isTask {reader : Reader} {begun drafted full : Draft} {start between last : World}
    {task : Task} (drafts : Drafts generation path world reader begun start drafted between)
    (isOwn : reader.IsOwn)
    (addition : drafted.add propertiesKey generation.properties between = .ok full last)
    {noticed : World} (machine : noticed.machine = last.machine)
    (creating : full.create noticed = .ok task after) :
    IsTask generation path world.files task := by
  obtain ⟨templates, ref, listed, ready, empty, inside, items⟩ := draftFor_ok drafts.begins
  have first := isOwn.contribute_ok (.refl _) (.inl empty) drafts.contributes
  have all := first.trans (Draft.add_ok first.keeps first.apart addition)
  have stillReady : full.Ready generation.timestamp path ref generation.outputFolder
      generation.fileMode := by
    rw [all.parts]
    exact ⟨ready.timestamp, ready.source, ready.templates, ready.folder, ready.mode⟩
  have stillItems : noticed.machine.heap.items ref = templates.map Value.path := by
    rw [machine, all.keeps.items_eq inside, items]
  obtain ⟨timestampEq, sourceEq, templatesEq, folderEq, modeEq⟩ :=
    Draft.create_ok stillReady stillItems creating
  exact ⟨timestampEq, sourceEq, by rw [listed, templatesEq], folderEq, modeEq⟩

/-- A task that is made has everything but its data model from the walk. -/
theorem taskFor_ok (readers : generation.readers.IsOwn) {task : Task}
    (ended : generation.taskFor path world = .ok task after) :
    IsTask generation path world.files task ∧ after.files = world.files := by
  refine ⟨?_, (sameFiles_taskFor readers path).of_ok ended⟩
  obtain ⟨reader, begun, start, drafted, between, drafts, full, last, noticed, addition, machine,
    creating⟩ := exists_drafts ended
  exact drafts.isTask (isOwn_of_readerFor readers drafts.reads) addition machine creating

end Stencil.Generation

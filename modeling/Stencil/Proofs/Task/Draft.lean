import Stencil.Proofs.Act
import Stencil.Proofs.Heap
import Stencil.Task.Draft

/-!
# Drafts and the parts of tasks

A draft that only grows by entries of its own data model keeps its other parts, and the
containers that were there before it.  The task that is made of it then has the parts that
the draft was started with.
-/

namespace Stencil.Draft

open Outcome

/-- The data model of a draft is none of the known containers. -/
def Apart (known : Heap) (draft : Draft) : Prop :=
  draft.model = .none ∨ ∃ ref, draft.model = .dict ref ∧ known.cells.size ≤ ref

namespace Apart

variable {known heap : Heap} {draft later : Draft}

theorem ne_dict (apart : draft.Apart known) {ref : Ref} (inside : ref < known.cells.size) :
    draft.model ≠ .dict ref := by
  rcases apart with none | ⟨own, model, isNew⟩
  · simp [none]
  · rw [model]
    rintro same
    cases same
    exact absurd inside (Nat.not_lt.mpr isNew)

theorem mono (apart : draft.Apart heap) (fewer : known.cells.size ≤ heap.cells.size) :
    draft.Apart known :=
  apart.imp id fun ⟨ref, model, isNew⟩ => ⟨ref, model, Nat.le_trans fewer isNew⟩

theorem of_model_eq (apart : draft.Apart known) (same : later.model = draft.model) :
    later.Apart known := by
  unfold Apart
  rwa [same]

end Apart

/-- A draft has grown by entries of its own data model. -/
structure Adds (known : Heap) (draft : Draft) (world : World) (later : Draft)
    (after : World) : Prop where
  files : after.files = world.files
  keeps : known.Keeps after.machine.heap
  apart : later.Apart known
  parts : later = { draft with model := later.model }

namespace Adds

variable {known : Heap} {draft : Draft} {world : World}

theorem refl (keeps : known.Keeps world.machine.heap) (apart : draft.Apart known) :
    Adds known draft world draft world := ⟨rfl, keeps, apart, rfl⟩

theorem trans {middle later : Draft} {between after : World}
    (first : Adds known draft world middle between)
    (second : Adds known middle between later after) :
    Adds known draft world later after := by
  refine ⟨second.files.trans first.files, second.keeps, second.apart, ?_⟩
  rw [second.parts, first.parts]

end Adds

/-! ## Adding entries -/

theorem sameFiles_withModel (draft : Draft) : Moves Act.SameFiles draft.withModel := by
  unfold withModel
  split
  · exact .bind (Act.sameFiles_onMachine _) fun _ => .pure _
  · exact .pure _

theorem sameFiles_add (draft : Draft) (key value : Value) :
    Moves Act.SameFiles (draft.add key value) :=
  .bind (sameFiles_withModel draft) fun _ =>
    .bind (Act.sameFiles_onMachine _) fun _ => .pure _

/-- A draft without a data model is given a new one. -/
private theorem withModel_ok
    {known : Heap} {draft later : Draft} {world after : World}
    (keeps : known.Keeps world.machine.heap) (apart : draft.Apart known)
    (ended : draft.withModel world = .ok later after) :
    Adds known draft world later after ∧
      ∃ ref, later.model = .dict ref ∧ known.cells.size ≤ ref := by
  unfold withModel at ended
  rcases apart with none | ⟨ref, model, isNew⟩
  · rw [none] at ended
    cases ended
    have isNew := keeps.size_le_allocate (.dict [])
    exact ⟨⟨rfl, keeps.allocate _, .inr ⟨_, rfl, isNew⟩, rfl⟩, _, rfl, isNew⟩
  · rw [model] at ended
    cases ended
    exact ⟨.refl keeps (.inr ⟨ref, model, isNew⟩), ref, model, isNew⟩

theorem onHeap_apply {α : Type} (compute : Heap → Except Fault α)
    (machine : Template.Machine) :
    Template.Run.onHeap compute machine =
      match compute machine.heap with
      | .ok result => .ok result machine
      | .error fault => .error fault machine := by
  refine (bind_apply_of_ok (get_apply machine)).trans ?_
  cases compute machine.heap <;> rfl

/-- An entry that is put into a mapping only changes the mapping. -/
private theorem putEntry_ok
    {known : Heap} {ref : Ref} {key value : Value} {world after : World}
    (keeps : known.Keeps world.machine.heap) (isNew : known.cells.size ≤ ref)
    (ended : Act.onMachine (putEntry (.dict ref) key value) world = .ok ⟨⟩ after) :
    after.files = world.files ∧ known.Keeps after.machine.heap := by
  refine ⟨(Act.sameFiles_onMachine _).of_ok ended, ?_⟩
  have changed : ∀ {machine : Template.Machine},
      putEntry (.dict ref) key value world.machine = .ok ⟨⟩ machine →
      known.Keeps machine.heap := by
    intro machine put
    obtain ⟨entries, between, found, put⟩ := bind_eq_ok_iff.mp put
    cases found
    obtain ⟨inserted, between, computed, put⟩ := bind_eq_ok_iff.mp put
    rw [onHeap_apply] at computed
    split at computed
    · cases computed
      cases put
      exact keeps.set isNew _
    · cases computed
  unfold Act.onMachine at ended
  split at ended
  · next put =>
    cases ended
    exact changed put
  · cases ended

theorem add_ok
    {known : Heap} {draft later : Draft} {key value : Value} {world after : World}
    (keeps : known.Keeps world.machine.heap) (apart : draft.Apart known)
    (ended : draft.add key value world = .ok later after) :
    Adds known draft world later after := by
  obtain ⟨drafted, between, given, ended⟩ := bind_eq_ok_iff.mp ended
  obtain ⟨adds, ref, model, isNew⟩ := withModel_ok keeps apart given
  obtain ⟨_, last, put, ended⟩ := bind_eq_ok_iff.mp ended
  cases ended
  rw [model] at put
  obtain ⟨files, keeps⟩ := putEntry_ok adds.keeps isNew put
  exact adds.trans ⟨files, keeps, adds.apart, rfl⟩

/-! ## Making the task -/

theorem sameFiles_require (part : Value) (problem : Misconfiguration) :
    Moves Act.SameFiles (require part problem) := by
  unfold require
  split
  · exact .throw _
  · exact .pure _

theorem sameFiles_create (draft : Draft) : Moves Act.SameFiles draft.create := by
  unfold create
  refine .bind (sameFiles_require _ _) fun _ => .bind (sameFiles_require _ _) fun _ =>
    .bind (sameFiles_require _ _) fun _ => .bind (sameFiles_require _ _) fun _ =>
    .bind (sameFiles_require _ _) fun _ => .bind Act.sameFiles_heap fun heap => ?_
  split
  · exact Act.sameFiles_fail _
  · split
    · exact Act.sameFiles_fail _
    · exact Act.sameFiles_onMachine _

theorem neverRenders_add (draft : Draft) (key value : Value) :
    Act.NeverRenders (draft.add key value) := by
  have withModel : Act.NeverRenders draft.withModel := by
    unfold Draft.withModel
    split
    · exact .bind (Act.neverRenders_onMachine _) fun _ _ => .pure _
    · exact .pure _
  exact .bind withModel fun _ _ => .bind (Act.neverRenders_onMachine _) fun _ _ => .pure _

theorem neverRenders_create (draft : Draft) : Act.NeverRenders draft.create := by
  have required (part : Value) (problem : Misconfiguration) :
      Act.NeverRenders (require part problem) := by
    unfold require
    split
    · exact .throw (by simp)
    · exact .pure _
  unfold create
  refine .bind (required _ _) fun _ _ => .bind (required _ _) fun _ _ =>
    .bind (required _ _) fun _ _ => .bind (required _ _) fun _ _ =>
    .bind (required _ _) fun _ _ => .bind (fun _ _ _ failed => by cases failed) fun heap _ => ?_
  split
  · exact .throw (by simp)
  · split
    · exact .throw (by simp)
    · exact Act.neverRenders_onMachine _

/-- The paths of a list are checked without a change. -/
theorem paths_map_path (place : String) (templates : List Path) :
    Validation.paths place (templates.map Value.path) = .ok templates := by
  have checked : (templates.map Value.path).zipIdx.map (fun entry =>
      Validation.path (place ++ "." ++ toString entry.2) entry.1) =
        templates.map fun template => (.ok template : Validation.Checked Path) := by
    refine List.ext_getElem (by simp) fun index inside _ => ?_
    simp [Validation.path]
  exact (congrArg Validation.all checked).trans (Validation.all_map_ok _)

/-- The parts of a draft that is ready but for its data model. -/
structure Ready (draft : Draft) (timestamp : Int) (source : Path) (ref : Ref) (folder : Path)
    (mode : Int) : Prop where
  timestamp : draft.timestamp = .int timestamp
  source : draft.source = .path source
  templates : draft.templates = .list ref
  folder : draft.folder = .path folder
  mode : draft.mode = .int mode

theorem check_ok
    {draft : Draft} {timestamp : Int} {source : Path} {ref : Ref} {folder : Path} {mode : Int}
    (ready : draft.Ready timestamp source ref folder mode) {heap : Heap}
    {templates : List Path} {parts : Task.Parts}
    (checked : draft.check heap (templates.map Value.path) = .ok parts) :
    parts.timestamp = timestamp ∧ parts.source = source ∧ parts.templates = templates ∧
      parts.folder = folder ∧ parts.mode = mode := by
  unfold check at checked
  rw [ready.timestamp, ready.source, ready.folder, ready.mode, paths_map_path] at checked
  simp only [Validation.integer, Validation.path] at checked
  cases entries : Validation.entries heap "data_model" (fun _ value => .ok value)
      draft.model with
  | error complaints =>
    rw [entries] at checked
    cases checked
  | ok found =>
    rw [entries] at checked
    cases checked
    exact ⟨rfl, rfl, rfl, rfl, rfl⟩

/-- A part that is required has been given. -/
private theorem of_require
    {α : Type} {part : Value} {problem : Misconfiguration} {next : Act α} {result : α}
    {world after : World}
    (ended : (do require part problem; next) world = .ok result after) :
    next world = .ok result after := by
  obtain ⟨_, between, required, rest⟩ := bind_eq_ok_iff.mp ended
  unfold require at required
  split at required <;> cases required
  exact rest

/-- A task is made of the checked parts of its draft. -/
theorem create_eq_ok {draft : Draft} {world after : World} {task : Task}
    (created : draft.create world = .ok task after) :
    ∃ templates parts, draft.templates.membersOf world.machine.heap = .ok templates ∧
      draft.check world.machine.heap templates = .ok parts ∧
      Act.onMachine (Task.ofParts parts) world = .ok task after := by
  unfold create at created
  have afterTimestamp := of_require created
  have afterSource := of_require afterTimestamp
  have afterTemplates := of_require afterSource
  have afterFolder := of_require afterTemplates
  have afterModel := of_require afterFolder
  obtain ⟨heap, _, found, created⟩ := bind_eq_ok_iff.mp afterModel
  cases found
  cases members : draft.templates.membersOf world.machine.heap with
  | error fault =>
    rw [members] at created
    cases created
  | ok templates =>
    rw [members] at created
    dsimp only at created
    cases checked : draft.check world.machine.heap templates with
    | error complaints =>
      rw [checked] at created
      cases created
    | ok parts =>
      rw [checked] at created
      exact ⟨templates, parts, rfl, checked, created⟩

/-- The task of a draft has the parts of the draft. -/
theorem create_ok
    {draft : Draft} {timestamp : Int} {source : Path} {ref : Ref} {folder : Path} {mode : Int}
    (ready : draft.Ready timestamp source ref folder mode) {templates : List Path}
    {world after : World} {task : Task}
    (listed : world.machine.heap.items ref = templates.map Value.path)
    (created : draft.create world = .ok task after) :
    task.timestamp = timestamp ∧ task.source = source ∧ task.templates = templates ∧
      task.folder = folder ∧ task.mode = mode := by
  obtain ⟨members, parts, given, checked, made⟩ := create_eq_ok created
  have members : members = templates.map Value.path := by
    rw [ready.templates, Value.membersOf, listed] at given
    exact (Except.ok.inj given).symm
  rw [members] at checked
  have same : task.timestamp = parts.timestamp ∧ task.source = parts.source ∧
      task.templates = parts.templates ∧ task.folder = parts.folder ∧
      task.mode = parts.mode := by
    obtain ⟨machine, built, -⟩ := Act.onMachine_eq_ok_iff.mp made
    obtain ⟨model, _, -, made⟩ := bind_eq_ok_iff.mp built
    cases made
    exact ⟨rfl, rfl, rfl, rfl, rfl⟩
  obtain ⟨timestampEq, sourceEq, templatesEq, folderEq, modeEq⟩ := same
  rw [timestampEq, sourceEq, templatesEq, folderEq, modeEq]
  exact check_ok ready checked

end Stencil.Draft

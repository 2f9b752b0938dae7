import Mathlib.Data.List.DropRight
import Mathlib.Data.List.Forall2
import Stencil.Proofs.Task.Making

/-!
# Drafting step by step

Someone drafts tasks by any steps in any order, and makes tasks in between.  What a task is
made of can be read off the steps that came before: of each part the last one that was given,
and of the data model the last whole one and the entries that were added later.  A task has
containers of its own, so it stays as it was made, whatever is done with the draft afterwards.
-/

namespace Stencil

open Outcome

namespace Draft

/-! ## Steps -/

/--
A step of drafting.  A part is given or taken back; whole data models and lists of templates
are new ones.
-/
inductive Step
  | timestamp (given : Option Int)
  | source (given : Option Path)
  | templates (given : Option (List Path))
  | folder (given : Option Path)
  | model (given : Option (List (Text × Value)))
  | mode (given : Int)
  | entry (key : Text) (value : Value)
  | create

namespace Step

def timestamp? : Step → Option (Option Int)
  | .timestamp given => some given
  | _ => none

def source? : Step → Option (Option Path)
  | .source given => some given
  | _ => none

def templates? : Step → Option (Option (List Path))
  | .templates given => some given
  | _ => none

def folder? : Step → Option (Option Path)
  | .folder given => some given
  | _ => none

def model? : Step → Option (Option (List (Text × Value)))
  | .model given => some given
  | _ => none

def mode? : Step → Option (Option Int)
  | .mode given => some (some given)
  | _ => none

def entry? : Step → Option (Text × Value)
  | .entry key value => some (key, value)
  | _ => none

/-- Whether a task is to be made. -/
def isCreate : Step → Bool
  | .create => true
  | _ => false

end Step

/-- A draft, and what making tasks of it has come to so far. -/
structure Desk where
  draft : Draft := {}
  made : List (Except Failure Task) := []

/-- A part as a draft has it. -/
def partOf {α : Type} (form : α → Value) (given : Option α) : Value :=
  (given.map form).getD .none

namespace Desk

/-- Take a step. -/
def perform (desk : Desk) : Step → Act Desk
  | .timestamp given => return { desk with draft.timestamp := partOf .int given }
  | .source given => return { desk with draft.source := partOf .path given }
  | .templates none => return { desk with draft.templates := .none }
  | .templates (some given) => do
    let list ← Act.onMachine (Template.Run.newList (given.map Value.path))
    return { desk with draft.templates := list }
  | .folder given => return { desk with draft.folder := partOf .path given }
  | .model none => return { desk with draft.model := .none }
  | .model (some given) => do
    let dict ← Act.onMachine (Template.Run.buildDict (textEntries given))
    return { desk with draft.model := dict }
  | .mode given => return { desk with draft.mode := .int given }
  | .entry key value => return { desk with draft := ← desk.draft.add (.text key) value }
  | .create => do
    let outcome ← tryCatch (do return .ok (← desk.draft.create)) fun failure =>
      return .error failure
    return { desk with made := desk.made ++ [outcome] }

/-- Take steps one after the other. -/
def run (desk : Desk) (steps : List Step) : Act Desk :=
  steps.foldlM perform desk

end Desk

/-! ## What has been given -/

section Given

variable {α : Type}

/-- What was given of a part last, unless it has been taken back. -/
def lastGiven (part : Step → Option (Option α)) (steps : List Step) : Option α :=
  (steps.filterMap part).getLast?.join

theorem lastGiven_concat (part : Step → Option (Option α)) (steps : List Step) (step : Step) :
    lastGiven part (steps ++ [step]) = (part step).getD (lastGiven part steps) := by
  unfold lastGiven
  rw [List.filterMap_append]
  cases found : part step <;> simp [found]

end Given

/-- The entries that were added after the last whole data model. -/
def added (steps : List Step) : List (Text × Value) :=
  (steps.rtakeWhile fun step => step.model?.isNone).filterMap Step.entry?

/--
What a data model is made of: the last whole one, if any, and what was added later.  It is
there as soon as there is something to be put into it.
-/
def written (steps : List Step) : Option (List (Text × Value)) :=
  let whole := lastGiven Step.model? steps
  if whole.isNone && (added steps).isEmpty then none else some (whole.getD [] ++ added steps)

/-- What has been given of a task. -/
structure Outline where
  timestamp : Option Int
  source : Option Path
  templates : Option (List Path)
  folder : Option Path
  writes : Option (List (Text × Value))
  mode : Int

/-- What steps give of a task. -/
def outline (steps : List Step) : Outline where
  timestamp := lastGiven Step.timestamp? steps
  source := lastGiven Step.source? steps
  templates := lastGiven Step.templates? steps
  folder := lastGiven Step.folder? steps
  writes := written steps
  mode := (lastGiven Step.mode? steps).getD Task.defaultMode

namespace Outline

/-- What has been given after one more step. -/
def after (outline : Outline) : Step → Outline
  | .timestamp given => { outline with timestamp := given }
  | .source given => { outline with source := given }
  | .templates given => { outline with templates := given }
  | .folder given => { outline with folder := given }
  | .model given => { outline with writes := given }
  | .mode given => { outline with mode := given }
  | .entry key value => { outline with writes := some (outline.writes.getD [] ++ [(key, value)]) }
  | .create => outline

/-- The first part that is missing, as a failure to make a task names it. -/
def missing? (outline : Outline) : Option Misconfiguration :=
  if outline.timestamp.isNone then some .noTimestamp
  else if outline.source.isNone then some (.noPart "generator_location")
  else if outline.templates.isNone then some (.noPart "template_locations")
  else if outline.folder.isNone then some (.noPart "output_dir")
  else if outline.writes.isNone then some (.noPart "data_model")
  else none

end Outline

theorem added_concat (steps : List Step) (step : Step) :
    added (steps ++ [step]) =
      if step.model?.isNone then added steps ++ step.entry?.toList else [] := by
  unfold added
  rw [List.rtakeWhile_concat]
  split
  · rw [List.filterMap_append]
    cases step <;> rfl
  · rfl

private theorem written_concat (steps : List Step) (step : Step) :
    written (steps ++ [step]) = ((outline steps).after step).writes := by
  unfold written
  rw [lastGiven_concat, added_concat]
  cases step with
  | model given => cases given <;> simp [Step.model?, Outline.after]
  | entry key value =>
    by_cases nothing : ((lastGiven Step.model? steps).isNone && (added steps).isEmpty) = true
    · simp_all [Step.model?, Step.entry?, Outline.after, outline, written]
    · simp [Step.model?, Step.entry?, Outline.after, outline, written, nothing]
  | _ => simp [Step.model?, Step.entry?, Outline.after, outline, written]

/-- One more step changes what has been given by what it gives. -/
theorem outline_concat (steps : List Step) (step : Step) :
    outline (steps ++ [step]) = (outline steps).after step := by
  have writes := written_concat steps step
  cases step <;> simp_all [outline, lastGiven_concat, Outline.after, Step.timestamp?, Step.source?,
    Step.templates?, Step.folder?, Step.mode?]

/-! ## When tasks are to be made -/

/-- The steps before each of those at which a task is to be made, after some at the front. -/
def historiesFrom (front : List Step) : List Step → List (List Step)
  | [] => []
  | step :: rest =>
    if step.isCreate then front :: historiesFrom (front ++ [step]) rest
    else historiesFrom (front ++ [step]) rest

/-- The steps before each of those at which a task is to be made. -/
def histories (steps : List Step) : List (List Step) :=
  historiesFrom [] steps

theorem historiesFrom_concat (front steps : List Step) (step : Step) :
    historiesFrom front (steps ++ [step]) =
      historiesFrom front steps ++ if step.isCreate then [front ++ steps] else [] := by
  induction steps generalizing front with
  | nil => simp [historiesFrom]
  | cons first rest ih =>
    rw [List.cons_append, historiesFrom, historiesFrom, ih]
    split <;> simp

theorem histories_concat (steps : List Step) (step : Step) :
    histories (steps ++ [step]) = histories steps ++ if step.isCreate then [steps] else [] :=
  historiesFrom_concat [] steps step

/-- A history is what comes before a step at which a task is to be made. -/
theorem mem_histories {before steps : List Step} :
    before ∈ histories steps ↔ ∃ later, steps = before ++ .create :: later := by
  induction steps using List.reverseRecOn with
  | nil => simp [histories, historiesFrom]
  | append_singleton steps step ih =>
    rw [histories_concat, List.mem_append, ih]
    constructor
    · rintro (⟨later, rfl⟩ | last)
      · exact ⟨later ++ [step], by rw [List.append_assoc, List.cons_append]⟩
      · cases step with
        | create => exact ⟨[], by rw [List.mem_singleton.mp last]⟩
        | _ => cases last
    · rintro ⟨later, split⟩
      rcases List.eq_nil_or_concat later with rfl | ⟨others, last, rfl⟩
      · rcases List.append_inj' split rfl with ⟨rfl, same⟩
        cases same
        exact .inr (List.mem_singleton_self _)
      · rw [List.concat_eq_append, ← List.cons_append, ← List.append_assoc] at split
        exact .inl ⟨others, (List.append_inj' split rfl).1⟩

/-! ## What a draft stands for -/

/-- A value is a list of these paths, or nothing. -/
def Lists (heap : Heap) (value : Value) : Option (List Path) → Prop
  | none => value = .none
  | some paths => ∃ ref, value = .list ref ∧ ref < heap.cells.size ∧
      heap.get ref = .list (paths.map Value.path)

/-- A value is a data model into which these entries have been put in turn, or nothing. -/
def Holds (heap : Heap) (value : Value) : Option (List (Text × Value)) → Prop
  | none => value = .none
  | some writes => heap.Models value (Entries.putAll [] writes)

/-- A draft has the parts that have been given. -/
structure StandsFor (heap : Heap) (outline : Outline) (draft : Draft) : Prop where
  timestamp : draft.timestamp = partOf .int outline.timestamp
  source : draft.source = partOf .path outline.source
  templates : Lists heap draft.templates outline.templates
  folder : draft.folder = partOf .path outline.folder
  model : Holds heap draft.model outline.writes
  mode : draft.mode = .int outline.mode

/-- Entries are what is left of writes: each key where it was first written, with its last value. -/
structure Leaves (writes entries : List (Text × Value)) : Prop where
  keys : Entries.FirstSeen (entries.map Prod.fst) (writes.map Prod.fst)
  values : ∀ key, entries.lookup key = Entries.last? key writes

/-- What it comes to when a task is to be made of what has been given. -/
inductive Comes (heap : Heap) (outline : Outline) : Except Failure Task → Prop
  | refused {problem : Misconfiguration} (missing : outline.missing? = some problem) :
      Comes heap outline (.error (.config problem))
  | made {task : Task} {writes entries : List (Text × Value)}
      (timestamp : outline.timestamp = some task.timestamp)
      (source : outline.source = some task.source)
      (templates : outline.templates = some task.templates)
      (folder : outline.folder = some task.folder)
      (written : outline.writes = some writes)
      (leaves : Leaves writes entries)
      (models : heap.Models task.model entries)
      (mode : task.mode = outline.mode) : Comes heap outline (.ok task)

theorem leaves_putAll (writes : List (Text × Value)) :
    Leaves writes (Entries.putAll [] writes) where
  keys := Entries.firstSeen_putAll_nil writes
  values := fun key => Entries.lookup_putAll_nil key writes

section Making

variable {draft : Draft} {outline : Outline} {world : World}

private theorem require_apply {α : Type} {part : Value} {given : Option α}
    (isNone : part = .none ↔ given = none) (problem : Misconfiguration) (next : Act Task) :
    (do require part problem; next) world =
      if given.isNone then .error (.config problem) world else next world := by
  by_cases missing : given = none
  · rw [isNone.mpr missing, missing]
    rfl
  · rw [bind_apply_of_ok (require_of_ne (mt isNone.mp missing) problem world)]
    simp [missing]

private theorem partOf_eq_none {α : Type} {form : α → Value} (isSome : ∀ value, form value ≠ .none)
    (given : Option α) : partOf form given = .none ↔ given = none := by
  cases given with
  | none => exact iff_of_true rfl rfl
  | some value => exact iff_of_false (isSome value) (Option.some_ne_none value)

private theorem Lists.eq_none {heap : Heap} {value : Value} {given : Option (List Path)}
    (lists : Lists heap value given) : value = .none ↔ given = none := by
  cases given with
  | none => exact iff_of_true lists rfl
  | some paths =>
    rcases lists with ⟨ref, rfl, -⟩
    simp

private theorem Holds.eq_none {heap : Heap} {value : Value}
    {given : Option (List (Text × Value))} (holds : Holds heap value given) :
    value = .none ↔ given = none := by
  cases given with
  | none => exact iff_of_true holds rfl
  | some writes =>
    rcases holds with ⟨ref, rfl, -⟩
    simp

/-- A draft is refused for the first part that has not been given, and nothing changes. -/
theorem StandsFor.create_of_missing (stands : StandsFor world.machine.heap outline draft)
    {problem : Misconfiguration} (missing : outline.missing? = some problem) :
    draft.create world = .error (.config problem) world := by
  have timestamp := partOf_eq_none (by simp : ∀ given, Value.int given ≠ .none) outline.timestamp
  have source := partOf_eq_none (by simp : ∀ given, Value.path given ≠ .none) outline.source
  have folder := partOf_eq_none (by simp : ∀ given, Value.path given ≠ .none) outline.folder
  unfold create
  rw [stands.timestamp, stands.source, stands.folder, require_apply timestamp,
    require_apply source, require_apply stands.templates.eq_none, require_apply folder,
    require_apply stands.model.eq_none]
  unfold Outline.missing? at missing
  split_ifs at missing ⊢ <;> cases missing <;> rfl

private theorem Outline.eq_of_complete (complete : outline.missing? = none) :
    ∃ timestamp source templates folder writes, outline =
      ⟨some timestamp, some source, some templates, some folder, some writes, outline.mode⟩ := by
  rcases outline with ⟨timestamp, source, templates, folder, writes, mode⟩
  cases timestamp <;> cases source <;> cases templates <;> cases folder <;> cases writes <;>
    first | exact ⟨_, _, _, _, _, rfl⟩ | cases complete

/-- A draft that has all parts is made into a task of these. -/
theorem StandsFor.create_of_complete (stands : StandsFor world.machine.heap outline draft)
    (complete : outline.missing? = none) :
    ∃ task cell, draft.create world =
        .ok task (world.withHeap (world.machine.heap.allocate cell).2) ∧
      task.model = .dict world.machine.heap.cells.size ∧
      Comes (world.machine.heap.allocate cell).2 outline (.ok task) := by
  rcases outline.eq_of_complete complete with
    ⟨timestamp, source, templates, folder, writes, same⟩
  rw [same] at stands ⊢
  rcases stands.templates with ⟨list, templatesEq, -, there⟩
  have listed : world.machine.heap.items list = templates.map Value.path := by
    rw [Heap.items, there]
  rcases stands.model with ⟨ref, modelEq, holds, nodup⟩
  have ready : draft.Ready timestamp source list folder outline.mode :=
    ⟨stands.timestamp, stands.source, templatesEq, stands.folder, stands.mode⟩
  refine ⟨_, _, create_of_ready ready listed modelEq holds nodup, rfl, ?_⟩
  exact .made rfl rfl rfl rfl rfl (leaves_putAll writes)
    ⟨_, rfl, Heap.get_allocate _ _, nodup⟩ rfl

end Making

/-! ## What changes leave alone -/

section Beside

variable {value model : Value} {start heap later : Heap} {draft : Draft}

private theorem Holds.models {writes : Option (List (Text × Value))}
    (holds : Holds heap value writes) :
    (value = .none ∧ Entries.putAll [] (writes.getD []) = []) ∨
      heap.Models value (Entries.putAll [] (writes.getD [])) := by
  cases writes with
  | none => exact .inl ⟨holds, rfl⟩
  | some writes => exact .inr holds

private theorem Holds.keep {writes : Option (List (Text × Value))}
    (holds : Holds heap value writes) (keeps : heap.Keeps later) : Holds later value writes := by
  cases writes with
  | none => exact holds
  | some writes =>
    have notNone : value ≠ .none := by
      rcases holds with ⟨ref, rfl, -⟩
      simp
    exact (Heap.keepsBeside_of_keeps keeps .none).models holds notNone

/-- A list is no mapping, so a change of a data model leaves it alone. -/
private theorem Lists.keep {given : Option (List Path)} (lists : Lists heap value given)
    {writes : Option (List (Text × Value))} (holds : Holds heap model writes)
    (beside : Heap.KeepsBeside model heap later) : Lists later value given := by
  cases given with
  | none => exact lists
  | some paths =>
    rcases lists with ⟨ref, rfl, inside, there⟩
    refine ⟨ref, rfl, Nat.lt_of_lt_of_le inside beside.size_le, ?_⟩
    rw [beside.get_eq ref inside, there]
    rintro rfl
    cases writes with
    | none => cases holds
    | some writes =>
      rcases holds with ⟨other, same, dict, -⟩
      cases same
      rw [there] at dict
      cases dict

/-- A change of a data model that is a new one leaves all old containers alone. -/
private theorem Apart.keeps (apart : draft.Apart start) (keeps : start.Keeps heap)
    (beside : Heap.KeepsBeside draft.model heap later) : start.Keeps later where
  size_le := Nat.le_trans keeps.size_le beside.size_le
  get_eq := by
    intro ref inside
    rw [beside.get_eq ref (Nat.lt_of_lt_of_le inside keeps.size_le) (apart.ne_dict inside),
      keeps.get_eq ref inside]

end Beside

/-! ## One step -/

/-- A desk is where steps from the start lead to. -/
structure Follows (start : World) (steps : List Step) (desk : Desk) (world : World) : Prop where
  stands : StandsFor world.machine.heap (outline steps) desk.draft
  made : List.Forall₂ (fun before => Comes world.machine.heap (outline before)) (histories steps)
    desk.made
  apart : ∀ task, .ok task ∈ desk.made → task.model ≠ desk.draft.model
  new : desk.draft.Apart start.machine.heap
  keeps : start.machine.heap.Keeps world.machine.heap
  files : world.files = start.files

/--
What has been made is still there, and all containers are as they were, but for the data model
that the draft had.  Another data model of the draft is a new one.
-/
structure Onward (desk : Desk) (world : World) (next : Desk) (after : World) : Prop where
  made : desk.made <+: next.made
  beside : Heap.KeepsBeside desk.draft.model world.machine.heap after.machine.heap
  model : next.draft.model = desk.draft.model ∨ next.draft.Apart world.machine.heap

namespace Onward

variable {desk next last : Desk} {world between after : World}

theorem refl (desk : Desk) (world : World) : Onward desk world desk world where
  made := List.prefix_refl _
  beside := Heap.keepsBeside_of_keeps (.refl _) _
  model := .inl rfl

theorem trans (first : Onward desk world next between) (second : Onward next between last after) :
    Onward desk world last after where
  made := first.made.trans second.made
  beside := by
    refine ⟨Nat.le_trans first.beside.size_le second.beside.size_le, fun ref inside other => ?_⟩
    have notModel : next.draft.model ≠ .dict ref := by
      rcases first.model with same | apart
      · rwa [same]
      · exact apart.ne_dict inside
    rw [second.beside.get_eq ref (Nat.lt_of_lt_of_le inside first.beside.size_le) notModel,
      first.beside.get_eq ref inside other]
  model := by
    rcases second.model with same | apart
    · exact first.model.imp same.trans fun apart => apart.of_model_eq same
    · exact .inr (apart.mono first.beside.size_le)

end Onward

section Steps

variable {start world after : World} {steps : List Step} {desk : Desk} {step : Step}

theorem Comes.mono {heap later : Heap} {outline : Outline} {outcome : Except Failure Task}
    (comes : Comes heap outline outcome)
    (kept : ∀ task, outcome = .ok task → ∀ entries,
      heap.Models task.model entries → later.Models task.model entries) :
    Comes later outline outcome := by
  cases comes with
  | refused missing => exact .refused missing
  | made timestamp source templates folder written leaves models mode =>
    exact .made timestamp source templates folder written leaves (kept _ rfl _ models) mode

private theorem forall₂_comes_mono {heap later : Heap} {befores : List (List Step)}
    {outcomes : List (Except Failure Task)}
    (all : List.Forall₂ (fun before => Comes heap (outline before)) befores outcomes)
    (kept : ∀ task, .ok task ∈ outcomes → ∀ entries,
      heap.Models task.model entries → later.Models task.model entries) :
    List.Forall₂ (fun before => Comes later (outline before)) befores outcomes := by
  induction all with
  | nil => exact .nil
  | cons comes others ih =>
    refine .cons (comes.mono fun task same => ?_) (ih fun task member => ?_)
    · exact kept task (same ▸ List.mem_cons_self ..)
    · exact kept task (List.mem_cons_of_mem _ member)

private theorem exists_comes {heap : Heap} {befores : List (List Step)}
    {outcomes : List (Except Failure Task)} {outcome : Except Failure Task}
    (all : List.Forall₂ (fun before => Comes heap (outline before)) befores outcomes)
    (member : outcome ∈ outcomes) : ∃ before, Comes heap (outline before) outcome := by
  induction all with
  | nil => cases member
  | cons comes others ih =>
    rcases List.mem_cons.mp member with rfl | later
    · exact ⟨_, comes⟩
    · exact ih later

/-- The data model of a task that was made is there. -/
private theorem Follows.exists_ref (follows : Follows start steps desk world) {task : Task}
    (member : .ok task ∈ desk.made) :
    ∃ ref, task.model = .dict ref ∧ ref < world.machine.heap.cells.size := by
  rcases exists_comes follows.made member with ⟨_, comes⟩
  cases comes with
  | made _ _ _ _ _ _ models _ =>
    rcases models with ⟨ref, model, there, -⟩
    exact ⟨ref, model, Heap.lt_size_of_dict there⟩

/-- The data models of tasks are as they were when only the one of the draft has changed. -/
theorem Follows.models (follows : Follows start steps desk world)
    (beside : Heap.KeepsBeside desk.draft.model world.machine.heap after.machine.heap)
    (task : Task) (member : .ok task ∈ desk.made) (entries : List (Text × Value))
    (models : world.machine.heap.Models task.model entries) :
    after.machine.heap.Models task.model entries :=
  beside.models models (follows.apart task member)

/--
A step that makes no task leads on to a draft that stands for one step more, as long as all
containers but the data model of the draft are left alone, and another data model is a new one.
-/
private theorem Follows.redraft (follows : Follows start steps desk world)
    (makesNone : step.isCreate = false) {draft : Draft}
    (beside : Heap.KeepsBeside desk.draft.model world.machine.heap after.machine.heap)
    (files : after.files = world.files)
    (stands : StandsFor after.machine.heap ((outline steps).after step) draft)
    (model : draft.model = desk.draft.model ∨ draft.Apart world.machine.heap) :
    Follows start (steps ++ [step]) { desk with draft } after ∧
      Onward desk world { desk with draft } after := by
  refine ⟨⟨?stands, ?made, ?apart, ?new, follows.new.keeps follows.keeps beside,
    files.trans follows.files⟩, ⟨List.prefix_refl _, beside, model⟩⟩
  case stands =>
    rwa [outline_concat]
  case made =>
    rw [histories_concat, makesNone]
    simpa using forall₂_comes_mono follows.made (follows.models beside)
  case apart =>
    intro task member
    rcases follows.exists_ref member with ⟨ref, there, inside⟩
    rcases model with same | apart
    · rw [same]
      exact follows.apart task member
    · rw [there]
      exact (apart.ne_dict inside).symm
  case new =>
    rcases model with same | apart
    · exact follows.new.of_model_eq same
    · exact apart.mono follows.keeps.size_le

/-- An entry is put into the data model of the draft, or into a new one. -/
private theorem Follows.performEntry (follows : Follows start steps desk world) (key : Text)
    (value : Value) :
    ∃ next after, desk.perform (.entry key value) world = .ok next after ∧
      Follows start (steps ++ [.entry key value]) next after ∧ Onward desk world next after := by
  have stands := follows.stands
  rcases exists_add_of_models stands.model.models key value with
    ⟨ref, heap, adding, models, beside, place⟩
  have writes : Holds heap (.dict ref)
      (some ((outline steps).writes.getD [] ++ [(key, value)])) := by
    show heap.Models (.dict ref)
      (Entries.putAll [] ((outline steps).writes.getD [] ++ [(key, value)]))
    rwa [Entries.putAll_append]
  refine ⟨_, _, bind_apply_of_ok adding, follows.redraft rfl beside rfl
    { stands with
      templates := stands.templates.keep stands.model beside
      model := writes } ?_⟩
  rcases place with same | fresh
  · exact .inl same
  · exact .inr (.inr ⟨ref, rfl, Nat.le_of_eq fresh.symm⟩)

/-- What it comes to when a task is to be made is told, and only a new data model is added. -/
private theorem Follows.exists_outcome (follows : Follows start steps desk world) :
    ∃ outcome after,
      desk.perform .create world = .ok { desk with made := desk.made ++ [outcome] } after ∧
        world.machine.heap.Keeps after.machine.heap ∧ after.files = world.files ∧
        Comes after.machine.heap (outline steps) outcome ∧
        ∀ task, outcome = .ok task → task.model = .dict world.machine.heap.cells.size := by
  cases missing : (outline steps).missing? with
  | some problem =>
    have refused := follows.stands.create_of_missing missing
    refine ⟨.error (.config problem), world, ?_, .refl _, rfl, .refused missing, nofun⟩
    exact bind_apply_of_ok (tryCatch_apply_of_error (bind_apply_of_error refused))
  | none =>
    rcases follows.stands.create_of_complete missing with ⟨task, cell, created, model, comes⟩
    refine ⟨.ok task, world.withHeap (world.machine.heap.allocate cell).2, ?_,
      (Heap.Keeps.refl _).allocate cell, rfl, comes, fun other same => ?_⟩
    · exact bind_apply_of_ok (tryCatch_apply_of_ok (bind_apply_of_ok created))
    · cases same
      exact model

/-- A draft from which a task has been made, or was to be made, is as it was. -/
theorem Follows.performCreate (follows : Follows start steps desk world) :
    ∃ outcome after,
      desk.perform .create world = .ok { desk with made := desk.made ++ [outcome] } after ∧
        world.machine.heap.Keeps after.machine.heap ∧
        Follows start (steps ++ [.create]) { desk with made := desk.made ++ [outcome] } after ∧
        Onward desk world { desk with made := desk.made ++ [outcome] } after := by
  rcases follows.exists_outcome with ⟨outcome, after, performed, keeps, files, comes, fresh⟩
  have beside := Heap.keepsBeside_of_keeps keeps desk.draft.model
  refine ⟨outcome, after, performed, keeps, ⟨?stands, ?made, ?apart, follows.new,
    follows.keeps.trans keeps, files.trans follows.files⟩,
    ⟨List.prefix_append _ _, beside, .inl rfl⟩⟩
  case stands =>
    rw [outline_concat]
    exact { follows.stands with
      templates := follows.stands.templates.keep follows.stands.model beside
      model := follows.stands.model.keep keeps }
  case made =>
    rw [histories_concat]
    exact List.rel_append (forall₂_comes_mono follows.made (follows.models beside))
      (.cons comes .nil)
  case apart =>
    intro task member
    rcases List.mem_append.mp member with before | last
    · exact follows.apart task before
    · rw [fresh task (List.mem_singleton.mp last).symm]
      intro same
      have holds := follows.stands.model.models
      rw [← same] at holds
      rcases holds with ⟨none, -⟩ | ⟨ref, own, there, -⟩
      · cases none
      · cases own
        exact absurd (Heap.lt_size_of_dict there) (Nat.lt_irrefl _)

/-- Whatever the next step is, it can be taken. -/
theorem Follows.perform (follows : Follows start steps desk world) (step : Step) :
    ∃ next after, desk.perform step world = .ok next after ∧
      Follows start (steps ++ [step]) next after ∧ Onward desk world next after := by
  have stands := follows.stands
  have same := Heap.keepsBeside_of_keeps (.refl world.machine.heap) desk.draft.model
  cases step with
  | timestamp given =>
    exact ⟨_, world, rfl,
      follows.redraft rfl same rfl { stands with timestamp := rfl } (.inl rfl)⟩
  | source given =>
    exact ⟨_, world, rfl, follows.redraft rfl same rfl { stands with source := rfl } (.inl rfl)⟩
  | templates given =>
    cases given with
    | none =>
      exact ⟨_, world, rfl,
        follows.redraft rfl same rfl { stands with templates := rfl } (.inl rfl)⟩
    | some given =>
      have keeps := (Heap.Keeps.refl world.machine.heap).allocate (.list (given.map Value.path))
      exact ⟨_, _, bind_apply_of_ok (Act.newList_apply _ world),
        follows.redraft rfl (Heap.keepsBeside_of_keeps keeps _) rfl
          { stands with
            templates := ⟨_, rfl, by simp [Heap.allocate], Heap.get_allocate _ _⟩
            model := stands.model.keep keeps } (.inl rfl)⟩
  | folder given =>
    exact ⟨_, world, rfl, follows.redraft rfl same rfl { stands with folder := rfl } (.inl rfl)⟩
  | model given =>
    cases given with
    | none =>
      exact ⟨_, world, rfl,
        follows.redraft rfl same rfl { stands with model := rfl } (.inr (.inl rfl))⟩
    | some given =>
      have beside := Heap.keepsBeside_of_keeps ((Heap.Keeps.refl world.machine.heap).allocate
        (.dict (textEntries (Entries.putAll [] given)))) desk.draft.model
      exact ⟨_, _, bind_apply_of_ok (Act.buildDict_apply given world),
        follows.redraft rfl beside rfl
          { stands with
            templates := stands.templates.keep stands.model beside
            model := ⟨_, rfl, Heap.get_allocate _ _, Entries.nodup_putAll_nil given⟩ }
          (.inr (.inr ⟨_, rfl, Nat.le_refl _⟩))⟩
  | mode given =>
    exact ⟨_, world, rfl, follows.redraft rfl same rfl { stands with mode := rfl } (.inl rfl)⟩
  | entry key value => exact follows.performEntry key value
  | create =>
    rcases follows.performCreate with ⟨outcome, after, performed, -, further, onward⟩
    exact ⟨_, after, performed, further, onward⟩

/-! ## Whole runs -/

theorem follows_start (start : World) : Follows start [] {} start where
  stands := ⟨rfl, rfl, rfl, rfl, rfl, rfl⟩
  made := .nil
  apart := nofun
  new := .inl rfl
  keeps := .refl _
  files := rfl

theorem Follows.run (follows : Follows start steps desk world) (more : List Step) :
    ∃ last after, desk.run more world = .ok last after ∧
      Follows start (steps ++ more) last after ∧ Onward desk world last after := by
  induction more generalizing steps desk world with
  | nil => exact ⟨desk, world, rfl, by rwa [List.append_nil], .refl desk world⟩
  | cons step rest ih =>
    rcases follows.perform step with ⟨next, between, performed, further, first⟩
    rcases ih further with ⟨last, after, ran, all, second⟩
    rw [List.append_assoc] at all
    exact ⟨last, after, (bind_apply_of_ok performed).trans ran, all, first.trans second⟩

end Steps

/--
Whatever steps are taken, every time that a task is to be made this is refused for the first
part that is missing, or gives a task of what was given last of each part: of the data model the
last whole one with the entries that were added to it, in the order in which the keys were first
written.  Making a task leaves the draft and all containers as they are.  Further steps leave the
tasks that were made as they are, and all containers but the data model that the draft has.
-/
theorem run_law (start : World) (steps more : List Step) :
    (∀ before, before ∈ histories steps ↔ ∃ later, steps = before ++ .create :: later) ∧
    ∃ desk world last after,
      Desk.run {} steps start = .ok desk world ∧
      desk.run more world = .ok last after ∧
      StandsFor world.machine.heap (outline steps) desk.draft ∧
      List.Forall₂ (fun before => Comes world.machine.heap (outline before)) (histories steps)
        desk.made ∧
      List.Forall₂ (fun before => Comes after.machine.heap (outline before))
        (histories (steps ++ more)) last.made ∧
      desk.made <+: last.made ∧
      (∀ task, .ok task ∈ desk.made → ∀ entries, world.machine.heap.Models task.model entries →
        after.machine.heap.Models task.model entries) ∧
      Heap.KeepsBeside desk.draft.model world.machine.heap after.machine.heap ∧
      start.machine.heap.Keeps after.machine.heap ∧ after.files = start.files ∧
      ∃ outcome left,
        desk.perform .create world = .ok { desk with made := desk.made ++ [outcome] } left ∧
        world.machine.heap.Keeps left.machine.heap ∧
        StandsFor left.machine.heap (outline steps) desk.draft := by
  refine ⟨fun _ => mem_histories, ?_⟩
  rcases (follows_start start).run steps with ⟨desk, world, ran, follows, -⟩
  rcases follows.run more with ⟨last, after, ranMore, further, onward⟩
  rcases follows.performCreate with ⟨outcome, left, performed, keeps, made, -⟩
  have stands := made.stands
  rw [outline_concat] at stands
  exact ⟨desk, world, last, after, ran, ranMore, follows.stands, follows.made, further.made,
    onward.made, follows.models onward.beside, onward.beside, further.keeps, further.files, outcome,
    left, performed, keeps, stands⟩

end Draft

end Stencil

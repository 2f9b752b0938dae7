import Stencil.Proofs.Task.Model

/-!
# What a draft does with good values

A value can be put under a text in every draft whose data model has texts only, and only the
data model of the draft changes then.  A draft that has all of its parts is made into a task
with a data model of its own, which is the only thing that is new.
-/

namespace Stencil

open Outcome

namespace World

/-- The same with other containers. -/
def withHeap (world : World) (heap : Heap) : World :=
  { world with machine := { world.machine with heap } }

@[simp]
theorem heap_withHeap (world : World) (heap : Heap) : (world.withHeap heap).machine.heap = heap :=
  rfl

end World

namespace Act

theorem newList_apply (items : List Value) (world : World) :
    onMachine (Template.Run.newList items) world =
      .ok (.list world.machine.heap.cells.size)
        (world.withHeap (world.machine.heap.allocate (.list items)).2) :=
  rfl

theorem newDict_apply (entries : List (Value × Value)) (world : World) :
    onMachine (Template.Run.newDict entries) world =
      .ok (.dict world.machine.heap.cells.size)
        (world.withHeap (world.machine.heap.allocate (.dict entries)).2) :=
  rfl

/-- A mapping of texts is built of entries that are put one after the other. -/
theorem buildDict_apply (entries : List (Text × Value)) (world : World) :
    onMachine (Template.Run.buildDict (textEntries entries)) world =
      .ok (.dict world.machine.heap.cells.size)
        (world.withHeap
          (world.machine.heap.allocate (.dict (textEntries (Entries.putAll [] entries)))).2) := by
  have inserted : world.machine.heap.insertAll [] (textEntries entries) =
      .ok (textEntries (Entries.putAll [] entries)) :=
    world.machine.heap.insertAll_textEntries [] entries
  have built : Template.Run.buildDict (textEntries entries) world.machine =
      Template.Run.newDict (textEntries (Entries.putAll [] entries)) world.machine := by
    unfold Template.Run.buildDict
    refine bind_apply_of_ok ?_
    rw [Draft.onHeap_apply, inserted]
  rw [← newDict_apply, onMachine_apply, onMachine_apply, built]

end Act

namespace Heap

/-- All containers are left alone, but for the one that a value may be. -/
structure KeepsBeside (value : Value) (heap later : Heap) : Prop where
  size_le : heap.cells.size ≤ later.cells.size
  get_eq : ∀ ref, ref < heap.cells.size → value ≠ .dict ref → later.get ref = heap.get ref

theorem keepsBeside_of_keeps {heap later : Heap} (keeps : heap.Keeps later) (value : Value) :
    KeepsBeside value heap later :=
  ⟨keeps.size_le, fun ref inside _ => keeps.get_eq ref inside⟩

theorem keepsBeside_set (heap : Heap) (ref : Ref) (cell : Cell) :
    KeepsBeside (.dict ref) heap (heap.set ref cell) where
  size_le := by simp [Heap.set]
  get_eq := by
    intro other _ apart
    exact heap.get_set_of_ne cell fun same => apart (congrArg Value.dict same)

/-- Another mapping has the same entries afterwards. -/
theorem KeepsBeside.models {value model : Value} {heap later : Heap}
    {entries : List (Text × Value)} (beside : KeepsBeside value heap later)
    (models : heap.Models model entries) (apart : model ≠ value) :
    later.Models model entries := by
  rcases models with ⟨ref, rfl, there, nodup⟩
  exact ⟨ref, rfl, by rw [beside.get_eq ref (lt_size_of_dict there) apart.symm, there], nodup⟩

end Heap

namespace Draft

variable {draft : Draft} {world : World} {ref : Ref} {entries : List (Text × Value)}

/-! ## Adding -/

/-- Where the data model is a mapping of texts, it is changed in place. -/
theorem add_of_dict (model : draft.model = .dict ref)
    (there : world.machine.heap.get ref = .dict (textEntries entries)) (key : Text)
    (value : Value) :
    draft.add (.text key) value world =
      .ok draft (world.withHeap
        (world.machine.heap.set ref (.dict (textEntries (Entries.put key value entries))))) := by
  have given : draft.withModel world = .ok draft world := by
    unfold withModel
    rw [model]
    rfl
  have inserted : world.machine.heap.insert (textEntries entries) (.text key) value =
      .ok (textEntries (Entries.put key value entries)) :=
    world.machine.heap.insertEntry_textEntries key value entries
  have put := putEntry_of_insert there inserted
  rw [← model] at put
  exact (bind_apply_of_ok given).trans
    (bind_apply_of_ok (Act.onMachine_eq_ok_iff.mpr ⟨_, put, rfl⟩))

/-- Where there is no data model, an empty one is made first. -/
theorem add_of_none (model : draft.model = .none) (key value : Value) :
    draft.add key value world =
      { draft with model := .dict world.machine.heap.cells.size }.add key value
        (world.withHeap (world.machine.heap.allocate (.dict [])).2) := by
  have given : draft.withModel world =
      .ok { draft with model := .dict world.machine.heap.cells.size }
        (world.withHeap (world.machine.heap.allocate (.dict [])).2) := by
    unfold withModel
    rw [model]
    rfl
  exact bind_apply_of_ok given

/--
Where there is a mapping of texts or nothing yet, an entry is put into this mapping or into a
new one, and all other containers are left alone.
-/
theorem exists_add_of_models
    (models : (draft.model = .none ∧ entries = []) ∨
      world.machine.heap.Models draft.model entries) (key : Text) (value : Value) :
    ∃ ref heap, draft.add (.text key) value world =
        .ok { draft with model := .dict ref } (world.withHeap heap) ∧
      heap.Models (.dict ref) (Entries.put key value entries) ∧
      Heap.KeepsBeside draft.model world.machine.heap heap ∧
      (.dict ref = draft.model ∨ ref = world.machine.heap.cells.size) := by
  rcases models with ⟨none, rfl⟩ | ⟨ref, model, there, nodup⟩
  · have empty := world.machine.heap.get_allocate (.dict (textEntries []))
    have keeps := (Heap.Keeps.refl world.machine.heap).allocate (.dict (textEntries []))
    have nodup : (([] : List (Text × Value)).map Prod.fst).Nodup := List.nodup_nil
    refine ⟨_, _, (add_of_none none _ _).trans (add_of_dict rfl empty key value),
      ⟨_, rfl, Heap.get_set_of_dict empty _, Entries.nodup_put nodup _ _⟩, ?_, .inr rfl⟩
    exact Heap.keepsBeside_of_keeps (keeps.set (Nat.le_refl _) _) _
  · have same : { draft with model := .dict ref } = draft := by
      rw [← model]
    refine ⟨ref, _, same ▸ add_of_dict model there key value,
      ⟨ref, rfl, Heap.get_set_of_dict there _, Entries.nodup_put nodup _ _⟩, ?_, .inl model.symm⟩
    rw [model]
    exact Heap.keepsBeside_set _ _ _

/-- Where a draft has texts, a value can be put under any text. -/
theorem exists_add_text (has : draft.Has world.machine.heap (textEntries entries)) (key : Text)
    (value : Value) : ∃ later after, draft.add (.text key) value world = .ok later after := by
  rcases has with ⟨none, -⟩ | ⟨ref, model, there⟩
  · rw [add_of_none none]
    have empty := world.machine.heap.get_allocate (.dict (textEntries []))
    exact ⟨_, _, add_of_dict rfl empty key value⟩
  · exact ⟨_, _, add_of_dict model there key value⟩

/-! ## Making tasks -/

/-- A part that has been given is not refused. -/
theorem require_of_ne {part : Value} (given : part ≠ .none) (problem : Misconfiguration)
    (world : World) : require part problem world = .ok ⟨⟩ world := by
  unfold require
  split
  · exact absurd rfl given
  · rfl

/-- The entries of a mapping of texts are checked without a change. -/
theorem entries_textEntries {heap : Heap} (there : heap.get ref = .dict (textEntries entries))
    (place : String) :
    Validation.entries heap place (fun _ value => .ok value) (.dict ref) = .ok entries := by
  have found : heap.entries ref = textEntries entries := by
    rw [Heap.entries, there]
  rw [Validation.entries_dict, found, textEntries, List.map_map]
  exact Validation.all_map_ok entries

/-- A draft with all of its parts is made into a task with a data model of its own. -/
theorem create_of_ready {timestamp mode : Int} {source folder : Path} {templates : List Path}
    {list : Ref} (ready : draft.Ready timestamp source list folder mode)
    (listed : world.machine.heap.items list = templates.map Value.path)
    (model : draft.model = .dict ref)
    (there : world.machine.heap.get ref = .dict (textEntries entries))
    (nodup : (entries.map Prod.fst).Nodup) :
    draft.create world =
      .ok ⟨timestamp, source, templates, folder, .dict world.machine.heap.cells.size, mode⟩
        (world.withHeap (world.machine.heap.allocate (.dict (textEntries entries))).2) := by
  have checked : draft.check world.machine.heap (templates.map Value.path) =
      .ok ⟨timestamp, source, templates, folder, entries, mode⟩ := by
    unfold check
    rw [ready.timestamp, ready.source, ready.folder, ready.mode, paths_map_path, model,
      entries_textEntries there]
    rfl
  have made : Act.onMachine
      (Task.ofParts ⟨timestamp, source, templates, folder, entries, mode⟩) world =
        .ok ⟨timestamp, source, templates, folder, .dict world.machine.heap.cells.size, mode⟩
          (world.withHeap (world.machine.heap.allocate (.dict (textEntries entries))).2) := by
    have built := Act.buildDict_apply entries world
    rw [Entries.putAll_of_nodup nodup, List.nil_append] at built
    rcases Act.onMachine_eq_ok_iff.mp built with ⟨machine, building, same⟩
    exact Act.onMachine_eq_ok_iff.mpr ⟨machine, bind_apply_of_ok building, same⟩
  have members : draft.templates.membersOf world.machine.heap =
      .ok (templates.map Value.path) := by
    rw [ready.templates, Value.membersOf, listed]
  have heap : Act.heap world = .ok world.machine.heap world := rfl
  have required {part : Value} (given : part ≠ .none) (problem : Misconfiguration) :
      require part problem world = .ok ⟨⟩ world := require_of_ne given problem world
  unfold create
  rw [bind_apply_of_ok (required (by simp [ready.timestamp]) _),
    bind_apply_of_ok (required (by simp [ready.source]) _),
    bind_apply_of_ok (required (by simp [ready.templates]) _),
    bind_apply_of_ok (required (by simp [ready.folder]) _),
    bind_apply_of_ok (required (by simp [model]) _), bind_apply_of_ok heap, members]
  dsimp only
  rw [checked]
  exact made

end Draft

end Stencil

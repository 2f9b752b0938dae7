import Stencil.Proofs.Spelling
import Stencil.Proofs.Task.Draft

/-!
# Data models

A data model is a mapping of text keys.  Adding to a draft puts an entry into its data
model, a new one unless the draft has one, and the task that is made of the draft has a
mapping of its own with the same entries.
-/

namespace Stencil

open Outcome

namespace Heap

/-- A value is a mapping of these entries, each of its texts once. -/
def Models (heap : Heap) (model : Value) (entries : List (Text × Value)) : Prop :=
  ∃ ref, model = .dict ref ∧ heap.get ref = .dict (textEntries entries) ∧
    (entries.map Prod.fst).Nodup

theorem Models.unique {heap : Heap} {model : Value} {entries others : List (Text × Value)}
    (first : heap.Models model entries) (second : heap.Models model others) :
    entries = others := by
  rcases first with ⟨ref, rfl, there, -⟩
  rcases second with ⟨same, equal, alsoThere, -⟩
  cases equal
  rw [there] at alsoThere
  exact textEntries_injective (Cell.dict.inj alsoThere)

/-- A value is a mapping of texts and gives each text what is wanted there. -/
def Maps (heap : Heap) (model : Value) (wanted : Text → Option Value) : Prop :=
  ∃ entries, heap.Models model entries ∧ ∀ key, entries.lookup key = wanted key

/-- Beyond the containers there is no mapping. -/
theorem lt_size_of_dict {heap : Heap} {ref : Ref} {entries : List (Value × Value)}
    (there : heap.get ref = .dict entries) : ref < heap.cells.size := by
  by_contra beyond
  rw [Heap.get, Array.getD_eq_getD_getElem?, Array.getElem?_eq_none (Nat.not_lt.mp beyond)]
    at there
  cases there

/-- Where a mapping is, a change at its place is one. -/
theorem get_set_of_dict {heap : Heap} {ref : Ref} {entries : List (Value × Value)}
    (there : heap.get ref = .dict entries) (cell : Cell) : (heap.set ref cell).get ref = cell := by
  have inside := lt_size_of_dict there
  simp [Heap.set, get, inside]

end Heap

/-! ## Adding to drafts -/

namespace Draft

/-- The entries of the data model of a draft; without a data model there are none. -/
def Has (draft : Draft) (heap : Heap) (entries : List (Value × Value)) : Prop :=
  (draft.model = .none ∧ entries = []) ∨
    ∃ ref, draft.model = .dict ref ∧ heap.get ref = .dict entries

/-- A draft has the same entries as long as the containers are kept. -/
theorem Has.keep {draft : Draft} {heap later : Heap} {entries : List (Value × Value)}
    (has : draft.Has heap entries) (keeps : heap.Keeps later) : draft.Has later entries := by
  rcases has with none | ⟨ref, model, there⟩
  · exact .inl none
  · exact .inr ⟨ref, model, by rw [keeps.get_eq ref (Heap.lt_size_of_dict there), there]⟩

variable {draft later : Draft} {key value : Value} {world after : World}

/-- Adding to a draft leaves all its parts but the data model as they are. -/
theorem add_parts (added : draft.add key value world = .ok later after) :
    later = { draft with model := later.model } := by
  rcases bind_eq_ok_iff.mp added with ⟨drafted, between, given, added⟩
  rcases bind_eq_ok_iff.mp added with ⟨_, _, -, added⟩
  cases added
  unfold withModel at given
  cases model : draft.model with
  | none =>
    rw [model] at given
    cases given
    rfl
  | _ =>
    rw [model] at given
    cases given
    rfl

private theorem putEntry_dict {ref : Ref} {machine left : Template.Machine}
    {entries : List (Value × Value)} (there : machine.heap.get ref = .dict entries)
    (put : putEntry (.dict ref) key value machine = .ok ⟨⟩ left) :
    ∃ more, machine.heap.insert entries key value = .ok more ∧
      left.heap.get ref = .dict more := by
  rcases bind_eq_ok_iff.mp put with ⟨known, _, found, put⟩
  cases found
  rcases bind_eq_ok_iff.mp put with ⟨more, _, computed, put⟩
  have entriesEq : machine.heap.entries ref = entries := by
    rw [Heap.entries, there]
  rw [onHeap_apply, entriesEq] at computed
  cases inserted : machine.heap.insert entries key value with
  | error fault =>
    rw [inserted] at computed
    cases computed
  | ok result =>
    rw [inserted] at computed
    cases computed
    cases put
    exact ⟨_, rfl, Heap.get_set_of_dict there _⟩

/-- An entry that can be put into a mapping is put there. -/
theorem putEntry_of_insert {ref : Ref} {machine : Template.Machine}
    {entries more : List (Value × Value)} (there : machine.heap.get ref = .dict entries)
    (inserted : machine.heap.insert entries key value = .ok more) :
    putEntry (.dict ref) key value machine =
      .ok ⟨⟩ { machine with heap := machine.heap.set ref (.dict more) } := by
  have found : Template.Run.entries ref machine = .ok entries machine := by
    show EStateM.Result.ok (machine.heap.entries ref) machine = _
    rw [Heap.entries, there]
  have computed : Template.Run.onHeap (fun heap => heap.insert entries key value) machine =
      .ok more machine := by
    rw [onHeap_apply, inserted]
  exact (bind_apply_of_ok found).trans (bind_apply_of_ok computed)

/-- Adding to a draft puts an entry into its data model. -/
theorem add_has {entries : List (Value × Value)} (has : draft.Has world.machine.heap entries)
    (added : draft.add key value world = .ok later after) :
    ∃ ref more heap, Heap.insert heap entries key value = .ok more ∧
      later.model = .dict ref ∧ after.machine.heap.get ref = .dict more := by
  rcases bind_eq_ok_iff.mp added with ⟨drafted, between, given, added⟩
  rcases bind_eq_ok_iff.mp added with ⟨_, last, put, added⟩
  cases added
  have isDict : ∃ ref, later.model = .dict ref ∧
      between.machine.heap.get ref = .dict entries := by
    unfold withModel at given
    rcases has with ⟨none, rfl⟩ | ⟨ref, model, there⟩
    · rw [none] at given
      cases given
      exact ⟨_, rfl, Heap.get_allocate _ _⟩
    · rw [model] at given
      cases given
      exact ⟨ref, model, there⟩
  rcases isDict with ⟨ref, model, there⟩
  rw [model] at put
  rcases Act.onMachine_eq_ok_iff.mp put with ⟨machine, changed, rfl⟩
  rcases putEntry_dict there changed with ⟨more, inserted, there⟩
  exact ⟨ref, more, _, inserted, model, there⟩

/-- Adding under a text to a data model of texts. -/
theorem add_text {name : Text} {entries : List (Text × Value)}
    (has : draft.Has world.machine.heap (textEntries entries))
    (added : draft.add (.text name) value world = .ok later after) :
    later.Has after.machine.heap (textEntries (Entries.put name value entries)) := by
  rcases add_has has added with ⟨ref, more, heap, inserted, model, there⟩
  have putting := heap.insertEntry_textEntries name value entries
  rw [show heap.insert (textEntries entries) (.text name) value =
    heap.insertEntry (.text name) value (textEntries entries) from rfl, putting] at inserted
  cases inserted
  exact .inr ⟨ref, model, there⟩

/-- An entry under a text can only be added to a mapping. -/
theorem isDict_of_add {name : Text} (added : draft.add (.text name) value world = .ok later after) :
    draft.model = .none ∨ ∃ ref, draft.model = .dict ref := by
  rcases bind_eq_ok_iff.mp added with ⟨drafted, between, given, added⟩
  rcases bind_eq_ok_iff.mp added with ⟨_, last, put, -⟩
  rcases Act.onMachine_eq_ok_iff.mp put with ⟨machine, put, -⟩
  cases model : draft.model with
  | none => exact .inl rfl
  | dict ref => exact .inr ⟨ref, rfl⟩
  | list ref =>
    unfold withModel at given
    rw [model] at given
    cases given
    rw [model] at put
    rcases bind_eq_ok_iff.mp put with ⟨_, _, -, put⟩
    cases put
  | _ =>
    unfold withModel at given
    rw [model] at given
    cases given
    rw [model] at put
    cases put

/-! ## The data model of a task -/

private theorem spelled_of_checked {heap : Heap} {place : String}
    {given : List (Text × Value)} {entries : List (Value × Value)}
    (checked : Validation.all (entries.map fun (key, value) =>
      let inner := place ++ "." ++ Validation.keyPlace heap key
      Validation.both (Validation.text (inner ++ ".[key]") key) (.ok value)) = .ok given) :
    Spelled entries given := by
  induction entries generalizing given with
  | nil =>
    cases checked
    exact .nil
  | cons entry rest ih =>
    rcases entry with ⟨key, value⟩
    rcases Validation.all_cons_eq_ok_iff.mp checked with ⟨⟨name, _⟩, more, one, others, rfl⟩
    rcases Validation.both_eq_ok_iff.mp one with ⟨named, same⟩
    cases same
    exact .cons ⟨Value.text_eq_ok_iff.mp named, rfl⟩ (ih others)

/-- The entries of a task are those that its draft was checked with. -/
theorem entries_of_check {heap : Heap} {templates : List Value} {parts : Task.Parts}
    (checked : draft.check heap templates = .ok parts) :
    Validation.entries heap "data_model" (fun _ value => .ok value) draft.model =
      .ok parts.entries := by
  rcases Validation.map_eq_ok_iff.mp checked with ⟨accepted, all, same⟩
  rcases Validation.both_eq_ok_iff.mp all with ⟨-, withSource⟩
  rcases Validation.both_eq_ok_iff.mp withSource with ⟨-, withTemplates⟩
  rcases Validation.both_eq_ok_iff.mp withTemplates with ⟨-, withFolder⟩
  rcases Validation.both_eq_ok_iff.mp withFolder with ⟨-, withModel⟩
  rcases Validation.both_eq_ok_iff.mp withModel with ⟨entries, -⟩
  rw [← same]
  exact entries

/-- A task that is made of a draft has its entries, under texts, in a data model of its own. -/
theorem create_models {ref : Ref} {entries : List (Value × Value)} {task : Task}
    (model : draft.model = .dict ref) (there : world.machine.heap.get ref = .dict entries)
    (created : draft.create world = .ok task after) :
    ∃ given, Spelled entries given ∧
      after.machine.heap.Models task.model (Entries.putAll [] given) := by
  rcases create_eq_ok created with ⟨templates, parts, -, checked, made⟩
  have stored : world.machine.heap.entries ref = entries := by
    rw [Heap.entries, there]
  have accepted := entries_of_check checked
  rw [model, Validation.entries_dict, stored] at accepted
  refine ⟨parts.entries, spelled_of_checked accepted, ?_⟩
  rcases Act.onMachine_eq_ok_iff.mp made with ⟨machine, built, rfl⟩
  rcases bind_eq_ok_iff.mp built with ⟨value, _, building, given⟩
  cases given
  rcases bind_eq_ok_iff.mp building with ⟨all, _, inserted, allocated⟩
  rw [onHeap_apply] at inserted
  have inserting : world.machine.heap.insertAll []
      (parts.entries.map fun entry => (Value.text entry.1, entry.2)) =
        .ok (textEntries (Entries.putAll [] parts.entries)) :=
    Heap.insertAll_textEntries world.machine.heap [] parts.entries
  rw [inserting] at inserted
  cases inserted
  cases allocated
  exact ⟨_, rfl, Heap.get_allocate _ _, Entries.nodup_putAll_nil _⟩

/-- Where a draft has texts, what is added to it is put into them for the task. -/
theorem models_of_add {name : Text} {between last noticed : World} {full : Draft}
    {found : List (Text × Value)} {task : Task}
    (has : draft.Has between.machine.heap (textEntries found))
    (nodup : (found.map Prod.fst).Nodup)
    (addition : draft.add (.text name) value between = .ok full last)
    (machine : noticed.machine = last.machine)
    (created : full.create noticed = .ok task after) :
    after.machine.heap.Models task.model (Entries.put name value found) := by
  rcases add_has has addition with ⟨ref, more, heap, inserted, model, there⟩
  have inserting : heap.insertEntry (.text name) value (textEntries found) = .ok more := inserted
  rw [Heap.insertEntry_textEntries] at inserting
  cases inserting
  rw [← machine] at there
  rcases create_models model there created with ⟨given, spelled, models⟩
  have still := Entries.nodup_put nodup name value
  rwa [(spelled_textEntries _).unique spelled, Entries.putAll_of_nodup still] at models

/--
What is added to a draft under a text is what the data model of the task has there, and all
other entries are those of the draft, as long as no two keys of the draft spell the same.
-/
theorem maps_of_add {name : Text} {between last noticed : World} {full : Draft}
    {entries : List (Value × Value)} {task : Task}
    (has : draft.Has between.machine.heap entries)
    (addition : draft.add (.text name) value between = .ok full last)
    (machine : noticed.machine = last.machine)
    (created : full.create noticed = .ok task after) :
    ∃ found, Spelled entries found ∧
      ((found.map Prod.fst).Nodup →
        after.machine.heap.Maps task.model fun key =>
          if key = name then some value else found.lookup key) := by
  rcases add_has has addition with ⟨ref, more, heap, inserted, model, there⟩
  rw [← machine] at there
  rcases create_models model there created with ⟨given, spelled, models⟩
  rcases spelled_of_insertEntry inserted spelled with ⟨found, first, law⟩
  refine ⟨found, first, fun nodup => ⟨_, models, fun key => ?_⟩⟩
  rw [Entries.lookup_putAll_nil, law nodup]

end Draft

end Stencil

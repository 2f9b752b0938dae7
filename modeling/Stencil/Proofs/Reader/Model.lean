import Stencil.Proofs.Reader.Contribute
import Stencil.Proofs.Task.Model
import Stencil.Proofs.Value.Display

/-!
# The data models that readers draft

The reader of entities only adds the entity that the name of a file gives.  The reader of
YAML files adds the stem of the name as entity and then each entry of the mapping that the
file holds, under its key as it is shown, so later entries win over earlier ones.
-/

namespace Stencil

open Outcome

/-! ## Keys as text -/

namespace Value.IsScalar

variable {key : Value} {objects : ObjectDisplay}

/-- A scalar shows no container. -/
theorem plain_eq (heap other : Heap) (isScalar : key.IsScalar) :
    plain heap objects key = plain other objects key := by
  cases isScalar <;> rfl

end Value.IsScalar

/-! ## The readers -/

namespace Reader

/-- The name of the entry for a data file's entity. -/
def entityName : Text := Text.ofString "entityName"

/-- Entries under their keys as these are shown. -/
def shownEntries : List (Value × Value) → Except Fault (List (Text × Value))
  | [] => .ok []
  | (key, value) :: rest => do
    let name ← Value.plain {} .none key
    return (name, value) :: (← shownEntries rest)

variable {draft later : Draft} {path : Path} {world after : World}

/-- The reader of entities adds the entity that a name gives. -/
theorem contributeEntity_has {entries : List (Text × Value)}
    (has : draft.Has world.machine.heap (textEntries entries))
    (contributed : contributeEntity path draft world = .ok later after) :
    ∃ name, Naming.entityName path = .ok name ∧
      later.Has after.machine.heap
        (textEntries (Entries.put entityName (Value.ofString name) entries)) := by
  rcases bind_eq_ok_iff.mp contributed with ⟨name, between, named, added⟩
  rcases Act.lift_eq_ok_iff.mp named with ⟨found, rfl⟩
  exact ⟨name, found, Draft.add_text has added⟩

theorem addEntries_has {entries : List (Text × Value)} {more : List (Value × Value)}
    (keyed : Yaml.Keyed more) (has : draft.Has world.machine.heap (textEntries entries))
    (added : addEntries draft more world = .ok later after) :
    ∃ shown, shownEntries more = .ok shown ∧
      later.Has after.machine.heap (textEntries (Entries.putAll entries shown)) := by
  induction more generalizing draft world entries with
  | nil =>
    cases added
    exact ⟨[], rfl, has⟩
  | cons entry rest ih =>
    rcases entry with ⟨key, value⟩
    unfold addEntries at added
    rcases bind_eq_ok_iff.mp added with ⟨heap, _, got, added⟩
    cases got
    rcases bind_eq_ok_iff.mp added with ⟨name, _, lifted, added⟩
    rcases Act.lift_eq_ok_iff.mp lifted with ⟨shownKey, same⟩
    rw [same] at added
    rcases bind_eq_ok_iff.mp added with ⟨middle, _, first, others⟩
    have isScalar : key.IsScalar := keyed (key, value) (List.mem_cons_self ..)
    have named : Value.plain {} .none key = .ok name := by
      rw [isScalar.plain_eq _ world.machine.heap]
      cases plain : Value.plain world.machine.heap .none key with
      | ok text =>
        rw [plain] at shownKey
        cases shownKey
        rfl
      | error fault =>
        rw [plain] at shownKey
        cases shownKey
    rcases ih (fun entry member => keyed entry (List.mem_cons_of_mem _ member))
      (Draft.add_text has first) others with ⟨shown, showing, hasMore⟩
    refine ⟨(name, value) :: shown, ?_, hasMore⟩
    rw [shownEntries, named, showing]
    rfl

/-- The reader of YAML files adds the stem of a name and then what the file holds. -/
theorem contributeDocument_has {entries : List (Text × Value)}
    (has : draft.Has world.machine.heap (textEntries entries))
    (contributed : contributeDocument path draft world = .ok later after) :
    ∃ found loaded shown, documentEntries path world = .ok found loaded ∧
      shownEntries found = .ok shown ∧
      later.Has after.machine.heap (textEntries (Entries.putAll entries
        ((entityName, Value.ofString path.stem) :: shown))) := by
  rcases bind_eq_ok_iff.mp contributed with ⟨found, loaded, read, contributed⟩
  rcases bind_eq_ok_iff.mp contributed with ⟨named, _, first, contributed⟩
  rcases bind_eq_ok_iff.mp contributed with ⟨filled, _, others, contributed⟩
  cases contributed
  have kept := has.keep (keeps_of_documentEntries (.refl _) read)
  rcases addEntries_has (keyed_documentEntries read) (Draft.add_text kept first) others with
    ⟨shown, showing, hasAll⟩
  exact ⟨found, loaded, shown, read, showing, hasAll⟩

theorem addEntries_parts {more : List (Value × Value)}
    (added : addEntries draft more world = .ok later after) :
    later = { draft with model := later.model } := by
  induction more generalizing draft world with
  | nil =>
    cases added
    rfl
  | cons entry rest ih =>
    rcases bind_eq_ok_iff.mp added with ⟨_, _, -, added⟩
    rcases bind_eq_ok_iff.mp added with ⟨_, _, -, added⟩
    rcases bind_eq_ok_iff.mp added with ⟨middle, _, first, others⟩
    rw [ih others, Draft.add_parts first]

/-- The library's own readers leave all parts of a draft but its data model as they are. -/
theorem IsOwn.contribute_parts {reader : Reader} (isOwn : reader.IsOwn)
    (contributed : reader.contribute path draft world = .ok later after) :
    later = { draft with model := later.model } := by
  cases reader with
  | entity =>
    rcases bind_eq_ok_iff.mp contributed with ⟨_, _, -, added⟩
    exact Draft.add_parts added
  | yaml =>
    rcases bind_eq_ok_iff.mp contributed with ⟨_, _, -, contributed⟩
    rcases bind_eq_ok_iff.mp contributed with ⟨named, _, first, contributed⟩
    rcases bind_eq_ok_iff.mp contributed with ⟨filled, _, others, contributed⟩
    cases contributed
    rw [addEntries_parts others, Draft.add_parts first]
  | plugin custom => exact isOwn.elim

end Reader

end Stencil

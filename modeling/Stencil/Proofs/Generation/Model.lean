import Stencil.Proofs.Generation.Dispatch
import Stencil.Proofs.Reader.Model

/-!
# The data model that templates are given

Whatever the reader of a data file leaves as data model, the properties of the project are
put into it last, so they win over an entry that the reader has put in their place.  All
other entries are those of the reader.  Only keys that are bytes escape this: a mapping may
have them beside the text that they spell, and they become this text when the task is made.
-/

namespace Stencil

open Outcome

namespace Naming

/-- A name that ends in an extension is what stands before it and the extension. -/
theorem append_of_lastExtension? {name extension : String}
    (found : lastExtension? name = some extension) :
    String.ofList (name.toList.take (name.toList.length - extension.toList.length)) ++ extension =
      name := by
  rcases Option.map_eq_some_iff.mp found with ⟨place, -, rest⟩
  have split := List.take_append_drop place name.toList
  have length := congrArg List.length (congrArg String.toList rest)
  rw [String.toList_ofList, List.length_drop] at length
  by_cases inside : place ≤ name.toList.length
  · have front : name.toList.length - extension.toList.length = place := by omega
    rw [front, ← rest, ← String.ofList_append, split, String.ofList_toList]
  · have beyond : name.toList.length ≤ place := Nat.le_of_not_le inside
    rw [← rest, List.drop_eq_nil_of_le beyond]
    simp

/-- The entity of a file of the usual extension is the name in front of it. -/
theorem entityName_append {path : Path} {entity : String}
    (named : entityName path = .ok entity) (found : lastExtension? path.name = some ".json") :
    entity ≠ "" ∧ path.name = entity ++ ".json" := by
  have whole := append_of_lastExtension? found
  have ending : ".json".toList.length = endingLength := by decide
  rw [ending] at whole
  unfold entityName at named
  by_cases short : path.name.toList.length ≤ endingLength
  · rw [if_pos short] at named
    cases named
  · rw [if_neg short] at named
    cases named
    refine ⟨fun empty => ?_, whole.symm⟩
    rw [empty, String.empty_append] at whole
    rw [← whole, ending] at short
    exact short (Nat.le_refl _)

end Naming

namespace Generation

/-- The name of the entry for the properties of the project. -/
def propertiesName : Text := Text.ofString "pomProperties"

variable {generation : Generation} {path : Path} {world after start between last : World}
  {begun drafted full : Draft} {task : Task} {reader : Reader}

theorem draftFor_has (begins : generation.draftFor path world = .ok begun start) :
    begun.Has start.machine.heap (textEntries []) := by
  rcases draftFor_ok begins with ⟨-, -, -, -, empty, -⟩
  exact .inl ⟨empty, rfl⟩

/--
A task that is made comes of what its reader has drafted, which has a mapping as data model
or none.  Its keys spell texts.  Where no two of them spell the same, the data model of the
task differs from it in the properties of the project only.  The reader of entities gives
the entity as well.  The reader of YAML files gives what the file holds, the last
entry for each key, and the stem of the name as entity unless the file has one.  Both leave
everything else as the walk has it.
-/
theorem taskFor_dataModel (made : generation.taskFor path world = .ok task after) :
    ∃ reader begun start drafted between,
      Drafts generation path world reader begun start drafted between ∧
      (drafted.model = .none ∨ ∃ ref, drafted.model = .dict ref) ∧
      (∀ entries, drafted.Has between.machine.heap entries →
        ∃ found, Spelled entries found ∧
          ((found.map Prod.fst).Nodup →
            after.machine.heap.Maps task.model fun key =>
              if key = propertiesName then some generation.properties else found.lookup key)) ∧
      (reader = .entity → Naming.lastExtension? path.name = some ".json" →
        ∃ entity, entity ≠ "" ∧ path.name = entity ++ ".json" ∧
          after.machine.heap.Models task.model
            [(Reader.entityName, Value.ofString entity),
              (propertiesName, generation.properties)]) ∧
      (reader = .yaml →
        ∃ found loaded shown, Reader.documentEntries path start = .ok found loaded ∧
          Reader.shownEntries found = .ok shown ∧
          after.machine.heap.Maps task.model fun key =>
            if key = propertiesName then some generation.properties
            else (Entries.last? key shown).or
              (if key = Reader.entityName then some (Value.ofString path.stem) else none)) ∧
      (reader.IsOwn →
        drafted = { begun with model := drafted.model } ∧
          IsTask generation path world.files task) := by
  rcases exists_drafts made with
    ⟨reader, begun, start, drafted, between, drafts, full, last, noticed, addition, machine,
      creating⟩
  have empty := draftFor_has drafts.begins
  have contributes := drafts.contributes
  refine ⟨reader, begun, start, drafted, between, drafts, Draft.isDict_of_add addition, ?any,
    ?entity, ?document, ?own⟩
  case any =>
    intro entries has
    exact Draft.maps_of_add has addition machine creating
  case entity =>
    rintro rfl extension
    rcases Reader.contributeEntity_has empty contributes with ⟨entity, named, has⟩
    rcases Naming.entityName_append named extension with ⟨nonempty, whole⟩
    refine ⟨entity, nonempty, whole, ?_⟩
    exact Draft.models_of_add has (List.nodup_singleton _) addition machine creating
  case document =>
    rintro rfl
    rcases Reader.contributeDocument_has empty contributes with
      ⟨found, loaded, shown, read, showing, has⟩
    have nodup := Entries.nodup_putAll_nil ((Reader.entityName, Value.ofString path.stem) :: shown)
    refine ⟨found, loaded, shown, read, showing, _,
      Draft.models_of_add has nodup addition machine creating, fun key => ?_⟩
    rw [Entries.lookup_put, Entries.lookup_putAll_nil, Entries.last?]
    simp only [eq_comm]
    rfl
  case own =>
    intro isOwn
    exact ⟨isOwn.contribute_parts contributes,
      drafts.isTask isOwn addition machine creating⟩

theorem taskFor_dataModel_unreadableFiles :
    ∃ task after,
      plainGeneration.taskFor (.ofString "data/Oak.json") { files := unreadableFiles } =
          .ok task after ∧
        after.machine.heap.Models task.model
          [(Reader.entityName, Value.ofString "Oak"), (propertiesName, .none)] := by
  have isSome : (value? (plainGeneration.taskFor (.ofString "data/Oak.json")
      { files := unreadableFiles })).isSome = true := by
    decide +kernel
  rcases Option.isSome_iff_exists.mp isSome with ⟨task, hasValue⟩
  rcases exists_of_value?_eq_some hasValue with ⟨after, made⟩
  rcases taskFor_dataModel made with ⟨reader, _, _, _, _, drafts, -, -, ofEntity, -⟩
  have read : plainGeneration.readerFor (.ofString "data/Oak.json") = .ok .entity := by
    rfl
  have isEntity : reader = .entity := Except.ok.inj (drafts.reads.symm.trans read)
  rcases ofEntity isEntity (by decide +kernel) with ⟨entity, -, named, models⟩
  have isOak : entity = "Oak" := by
    have whole : "Oak" ++ ".json" = entity ++ ".json" := by
      rw [← named]
      decide +kernel
    exact ((String.append_left_inj _).mp whole).symm
  rw [isOak] at models
  exact ⟨task, after, made, models⟩

/-- A reader that gives the properties twice, under their name and under its bytes. -/
def spellingReader : Reader :=
  .plugin {
    name := "SpellingParser"
    contribute := fun _ draft => do
      let model ← Act.onMachine (Template.Run.newDict [
        (.text propertiesName, .int 0),
        (.bytes "pomProperties".toUTF8.toList, .int 1)])
      return { draft with model } }

/-- The integer that the data model of a task has as its only entry, for the properties. -/
def propertiesInteger? : EStateM.Result Failure World Task → Option Int
  | .ok task after =>
    match task.model with
    | .dict ref =>
      match after.machine.heap.get ref with
      | .dict [(.text name, .int integer)] =>
        if name = propertiesName then some integer else none
      | _ => none
    | _ => none
  | .error .. => none

theorem models_of_propertiesInteger? {result : EStateM.Result Failure World Task} {integer : Int}
    (gives : propertiesInteger? result = some integer) :
    ∃ task after, result = .ok task after ∧
      after.machine.heap.Models task.model [(propertiesName, .int integer)] := by
  unfold propertiesInteger? at gives
  split at gives
  · next task after =>
    split at gives
    · next ref model =>
      split at gives
      · next name stored cell =>
        split at gives
        · next same =>
          cases gives
          refine ⟨task, after, rfl, ref, model, ?_, List.nodup_singleton _⟩
          rw [cell, same]
          rfl
        · cases gives
      · cases gives
    · cases gives
  · cases gives

/-- A generation with this reader. -/
def spellingGeneration : Generation :=
  { plainGeneration with readers := [(".json", spellingReader)] }

/-- Where keys spell the same, the properties of the project are not in the data model. -/
theorem not_dataModel_spellingReader :
    ∃ task after,
      spellingGeneration.taskFor (.ofString "data/Oak.json") { files := unreadableFiles } =
          .ok task after ∧
        after.machine.heap.Models task.model [(propertiesName, .int 1)] ∧
        spellingGeneration.properties = .none ∧
        ¬∃ entries, after.machine.heap.Models task.model entries ∧
          entries.lookup propertiesName = some spellingGeneration.properties := by
  rcases models_of_propertiesInteger? (by decide +kernel :
    propertiesInteger? (spellingGeneration.taskFor (.ofString "data/Oak.json")
      { files := unreadableFiles }) = some 1) with ⟨task, after, made, models⟩
  refine ⟨task, after, made, models, rfl, ?_⟩
  rintro ⟨entries, others, found⟩
  rw [others.unique models, List.lookup_cons_self] at found
  cases found

end Generation

end Stencil

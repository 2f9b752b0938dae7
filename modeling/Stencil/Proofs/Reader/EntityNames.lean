import Stencil.Proofs.Generation.Model
import Stencil.Proofs.Task.Making

/-!
# The entities that file names give

A data file is given to the reader of the last extension of its name.  Both readers of the
library then take the name without the extension as the entity, the reader of entities by
the length of the usual extension and the reader of YAML files by the last dot.  They part
over a name that is nothing but the extension: the first one refuses it, and the second one
takes all of it, since a dot at the start of a name does not begin an extension there.
-/

namespace Stencil

open Outcome

namespace Naming

variable {path : Path} {extension : String}

/-- The stem of a file is its name without the extension, unless this is the whole name. -/
theorem stem_of_extension? (found : extension? path = some extension)
    (valid : Registry.isExtension extension = true) :
    (path.name = extension ∧ path.stem = extension) ∨
      (path.stem ≠ "" ∧ path.stem ++ extension = path.name) := by
  rcases Option.map_eq_some_iff.mp found with ⟨place, last, rest⟩
  have length : path.name.toList.length - place = extension.toList.length := by
    rw [← rest, String.toList_ofList, List.length_drop]
  have goesOn : 1 < extension.toList.length := by
    unfold Registry.isExtension at valid
    split at valid
    · next split =>
      rw [split]
      simp
    · cases valid
  have inside : place + 1 < path.name.toList.length := by omega
  have stem : path.stem =
      if 0 < place then String.ofList (path.name.toList.take place) else path.name := by
    simp [Path.stem, Path.stemOf, last, inside]
  by_cases first : place = 0
  · rw [first, List.drop_zero, String.ofList_toList] at rest
    left
    rw [stem, if_neg (by omega)]
    exact ⟨rest, rest⟩
  · right
    rw [stem, if_pos (by omega)]
    constructor
    · intro empty
      have lengths := congrArg List.length (congrArg String.toList empty)
      rw [String.toList_ofList, List.length_take] at lengths
      have none : "".toList.length = 0 := rfl
      omega
    · rw [← rest, ← String.ofList_append, List.take_append_drop, String.ofList_toList]

/-- A file names an entity unless its name is the usual extension. -/
theorem entityName_of_extension? (found : extension? path = some ".json") :
    (path.name = ".json" ∧ entityName path = .error (.uninterpretable path .nameTooShort)) ∨
      ∃ entity, entityName path = .ok entity ∧ entity ≠ "" ∧ entity ++ ".json" = path.name := by
  rw [extension?_eq] at found
  by_cases short : path.name.toList.length ≤ endingLength
  · left
    have whole := append_of_lastExtension? found
    have ending : ".json".toList.length = endingLength := by decide
    rw [ending, Nat.sub_eq_zero_of_le short, List.take_zero, String.ofList_nil,
      String.empty_append] at whole
    exact ⟨whole.symm, if_pos short⟩
  · right
    have named : entityName path = .ok _ := if_neg short
    rcases entityName_append named found with ⟨nonempty, whole⟩
    exact ⟨_, named, nonempty, whole.symm⟩

end Naming

/-! ## What readers find -/

namespace Reader

/--
What a reader finds in a data file: the entity that the name of the file gives, and the entries
that are put after it.
-/
inductive Finds (path : Path) (world : World) : Reader → String → List (Text × Value) → Prop
  | entity {name : String} (named : Naming.entityName path = .ok name) :
      Finds path world .entity name []
  | yaml {found : List (Value × Value)} {loaded : World} {shown : List (Text × Value)}
      (read : documentEntries path world = .ok found loaded)
      (showing : shownEntries found = .ok shown) : Finds path world .yaml path.stem shown

variable {reader : Reader} {path : Path} {draft later : Draft} {world after : World}
  {entity another : String} {entries more others : List (Text × Value)}

theorem Finds.unique (first : Finds path world reader entity more)
    (second : Finds path world reader another others) : entity = another ∧ more = others := by
  cases first with
  | entity named =>
    cases second with
    | entity alsoNamed => exact ⟨Except.ok.inj (named.symm.trans alsoNamed), rfl⟩
  | yaml read showing =>
    cases second with
    | yaml alsoRead alsoShowing =>
      cases read.symm.trans alsoRead
      exact ⟨rfl, Except.ok.inj (showing.symm.trans alsoShowing)⟩

/-- What a reader contributes is what it finds. -/
theorem IsOwn.contribute_has (isOwn : reader.IsOwn)
    (has : draft.Has world.machine.heap (textEntries entries))
    (contributed : reader.contribute path draft world = .ok later after) :
    ∃ entity more, Finds path world reader entity more ∧
      later.Has after.machine.heap (textEntries (Entries.putAll entries
        ((entityName, Value.ofString entity) :: more))) := by
  cases reader with
  | entity =>
    rcases contributeEntity_has has contributed with ⟨entity, named, hasEntity⟩
    exact ⟨entity, [], .entity named, hasEntity⟩
  | yaml =>
    rcases contributeDocument_has has contributed with ⟨_, _, shown, read, showing, hasAll⟩
    exact ⟨_, shown, .yaml read showing, hasAll⟩
  | plugin custom => exact isOwn.elim

/-- Entries whose keys can be shown are added. -/
theorem exists_addEntries_of_shown {found : List (Value × Value)} {shown : List (Text × Value)}
    (keyed : Yaml.Keyed found) (showing : shownEntries found = .ok shown)
    (has : draft.Has world.machine.heap (textEntries entries)) :
    ∃ later after, addEntries draft found world = .ok later after := by
  induction found generalizing draft world entries shown with
  | nil => exact ⟨draft, world, rfl⟩
  | cons entry rest ih =>
    rcases entry with ⟨key, value⟩
    rcases List.forall_mem_cons.mp keyed with ⟨isScalar, keyedRest⟩
    rcases except_bind_eq_ok_iff.mp showing with ⟨name, named, showing⟩
    rcases except_bind_eq_ok_iff.mp showing with ⟨shownRest, showingRest, -⟩
    rcases Draft.exists_add_text has name value with ⟨middle, between, added⟩
    rcases ih keyedRest showingRest (Draft.add_text has added) with ⟨later, after, ended⟩
    have here : Value.plain world.machine.heap .none key = .ok name :=
      (isScalar.plain_eq _ _).trans named
    have lifted : Act.lift (Failure.ofFault (Value.plain world.machine.heap .none key)) world =
        .ok name world := by
      rw [here]
      rfl
    have got : Act.heap world = .ok world.machine.heap world := rfl
    refine ⟨later, after, ?_⟩
    unfold addEntries
    rw [bind_apply_of_ok got, bind_apply_of_ok lifted, bind_apply_of_ok added, ended]

/-- A file without content holds no entries. -/
theorem documentEntries_of_empty (stored : world.files.read path = .ok ByteArray.empty) :
    documentEntries path world = .ok [] world := by
  have nothing : Yaml.read world.machine.heap (Text.unifyLineEnds []) =
      .ok (.none, world.machine.heap) := Yaml.read_nil _
  have decoded : Text.decode? ByteArray.empty = some [] := by rfl
  have read : readDocument world.files world.machine.heap path =
      .ok (.none, world.machine.heap) := by
    simp only [readDocument, stored, bind, Except.bind, decoded, nothing]
  unfold documentEntries
  rw [bind_apply_of_ok (get_apply world), read]
  rfl

/-- A reader contributes where it finds something. -/
theorem Finds.exists_contribute (finds : Finds path world reader entity more)
    (has : draft.Has world.machine.heap (textEntries entries)) :
    ∃ later after, reader.contribute path draft world = .ok later after := by
  cases finds with
  | entity named =>
    rcases Draft.exists_add_text has entityName (Value.ofString entity) with
      ⟨later, after, added⟩
    have lifted : Act.lift (Naming.entityName path) world = .ok entity world := by
      rw [named]
      rfl
    exact ⟨later, after, (bind_apply_of_ok lifted).trans added⟩
  | @yaml found loaded shown read showing =>
    have kept := has.keep (keeps_of_documentEntries (.refl _) read)
    rcases Draft.exists_add_text kept entityName (Value.ofString path.stem) with
      ⟨named, between, first⟩
    rcases exists_addEntries_of_shown (keyed_documentEntries read) showing
      (Draft.add_text kept first) with ⟨filled, after, others⟩
    exact ⟨filled, _, (bind_apply_of_ok read).trans ((bind_apply_of_ok first).trans
      (bind_apply_of_ok others))⟩

end Reader

/-! ## Dispatch and names -/

namespace Generation

open Reader (Finds)

variable {generation : Generation} {path : Path} {extension : String} {reader : Reader}

/-- A data file is given to a reader that the table has for its extension. -/
theorem mem_readers_of_readerFor (found : Naming.extension? path = some extension)
    (given : generation.readerFor path = .ok reader) :
    (extension, reader) ∈ generation.readers := by
  unfold readerFor at given
  rw [found, Option.bind_some] at given
  cases entered : generation.readers.lookup extension with
  | none =>
    rw [entered] at given
    cases given
  | some known =>
    rw [entered] at given
    cases given
    rcases List.lookup_eq_some_iff.mp entered with ⟨front, back, split, -⟩
    rw [split]
    exact List.mem_append_right _ (List.mem_cons_self ..)

/-- What a reader takes from a name has the extension beside it, or is nothing else. -/
private theorem named_of_finds {world : World} {entity : String} {more : List (Text × Value)}
    (valid : Registry.isExtension extension = true)
    (found : Naming.extension? path = some extension)
    (suited : (reader = .entity ∧ extension = ".json") ∨ reader = .yaml)
    (finds : Finds path world reader entity more) :
    entity ≠ "" ∧ (entity ++ extension = path.name ∨
      (reader = .yaml ∧ path.name = extension ∧ entity = extension)) := by
  cases finds with
  | entity named =>
    rcases suited with ⟨-, rfl⟩ | other
    · rcases Naming.entityName_of_extension? found with ⟨-, refused⟩ | ⟨name, here, nonempty, whole⟩
      · rw [named] at refused
        cases refused
      · cases named.symm.trans here
        exact ⟨nonempty, .inl whole⟩
    · cases other
  | yaml read showing =>
    rcases Naming.stem_of_extension? found valid with ⟨whole, same⟩ | ⟨nonempty, whole⟩
    · refine ⟨fun empty => ?_, .inr ⟨rfl, whole, same⟩⟩
      rw [← same, empty] at valid
      cases valid
    · exact ⟨nonempty, .inl whole⟩

/--
Where a data file is given to the reader of entities for the usual extension, or to the reader
of YAML files for any extension, the reader contributes exactly if it finds an entity.  This is
the name of the file without the extension, and not empty.  A name that is nothing but the
extension is refused by the reader of entities, and by it only; the reader of YAML files takes
the extension itself as entity.  So files of one extension and different names have different
entities, unless the name of one of them is the extension and the reader that of YAML files.
-/
theorem names_agree {modules : List Registry.Module} {references : List (String × String)}
    {table : Registry.Table} {before after : World}
    (built : Registry.build modules references before = .ok table after)
    (readers : generation.readers = table)
    (found : Naming.extension? path = some extension)
    (given : generation.readerFor path = .ok reader)
    (suited : (reader = .entity ∧ extension = ".json") ∨ reader = .yaml) :
    (∀ draft world entries, draft.Has world.machine.heap (textEntries entries) →
      (∀ entity more, Finds path world reader entity more →
        ∃ later left, reader.contribute path draft world = .ok later left ∧
          later.Has left.machine.heap (textEntries (Entries.putAll entries
            ((Reader.entityName, Value.ofString entity) :: more)))) ∧
      ((∃ later left, reader.contribute path draft world = .ok later left) →
        ∃ entity more, Finds path world reader entity more)) ∧
    (∀ world entity more, Finds path world reader entity more →
      entity ≠ "" ∧ (entity ++ extension = path.name ∨
        (reader = .yaml ∧ path.name = extension ∧ entity = extension))) ∧
    (reader = .entity →
      (path.name = extension → ∀ draft world, reader.contribute path draft world =
        .error (.uninterpretable path .nameTooShort) world) ∧
      (path.name ≠ extension → ∀ world, ∃ entity, Finds path world reader entity [])) ∧
    (∀ other, Naming.extension? other = some extension → other.name ≠ path.name →
      ∀ world elsewhere entity more others, Finds path world reader entity more →
        Finds other elsewhere reader entity others →
        reader = .yaml ∧ (path.name = extension ∨ other.name = extension)) := by
  have entered := mem_readers_of_readerFor found given
  rw [readers] at entered
  have valid := (Registry.wellFormed_build built).extensions _ entered
  have isOwn : reader.IsOwn := by
    rcases suited with ⟨rfl, -⟩ | rfl <;> trivial
  refine ⟨fun draft world entries has => ⟨fun entity more finds => ?contributes, ?finds⟩,
    fun world entity more => named_of_finds valid found suited, ?refuses, ?apart⟩
  case contributes =>
    rcases finds.exists_contribute has with ⟨later, left, contributed⟩
    rcases isOwn.contribute_has has contributed with ⟨_, _, alsoFinds, hasAll⟩
    rcases finds.unique alsoFinds with ⟨rfl, rfl⟩
    exact ⟨later, left, contributed, hasAll⟩
  case finds =>
    rintro ⟨later, left, contributed⟩
    rcases isOwn.contribute_has has contributed with ⟨entity, more, finds, -⟩
    exact ⟨entity, more, finds⟩
  case refuses =>
    rintro rfl
    rcases suited with ⟨-, rfl⟩ | other
    · rcases Naming.entityName_of_extension? found with
        ⟨whole, refused⟩ | ⟨name, named, nonempty, whole⟩
      · refine ⟨fun _ draft world => ?_, fun other => absurd whole other⟩
        show Reader.contributeEntity path draft world = _
        unfold Reader.contributeEntity
        rw [refused]
        rfl
      · refine ⟨fun same => ?_, fun _ world => ⟨name, .entity named⟩⟩
        rw [same] at whole
        exact absurd (String.append_eq_right_iff.mp whole) nonempty
    · cases other
  case apart =>
    intro other alsoFound different world elsewhere entity more others finds alsoFinds
    rcases named_of_finds valid found suited finds with ⟨-, whole | ⟨isYaml, bare, -⟩⟩
    · rcases named_of_finds valid alsoFound suited alsoFinds with ⟨-, same | ⟨isYaml, bare, -⟩⟩
      · exact absurd (same.symm.trans whole) different
      · exact ⟨isYaml, .inr bare⟩
    · exact ⟨isYaml, .inl bare⟩

/-- A tree with data files named by an extension alone, once and twice, and a template. -/
def hiddenFiles : Files.Tree where
  entries := [
    (["data"], .directory),
    (["data", ".yaml"], .file ⟨ByteArray.empty, 0o644, 0, 0⟩),
    (["data", ".yaml.yaml"], .file ⟨ByteArray.empty, 0o644, 0, 0⟩),
    (["templates"], .directory),
    (["templates", "Bean"], .file ⟨"class".toUTF8, 0o644, 0, 0⟩)]
  here := []

/-- The data file of `hiddenFiles` that is named by the extension. -/
def hiddenPath : Path := .ofString "data/.yaml"

/-- The data file of `hiddenFiles` that has something before the extension. -/
def dottedPath : Path := .ofString "data/.yaml.yaml"

/-- The readers that every run starts with, and the one of YAML files. -/
def documentTable : Registry.Table := Registry.put ".yaml" .yaml Registry.defaultTable

/-- A generation with these readers. -/
def documentGeneration : Generation := { plainGeneration with readers := documentTable }

theorem build_documentTable (world : World) :
    ∃ after,
      Registry.build Registry.ownModules [(".yaml", "templategen.parsing:YamlDataParser")] world =
        .ok documentTable after := by
  have resolved :
      Registry.resolve Registry.ownModules "templategen.parsing:YamlDataParser" = .ok .yaml := by
    rfl
  have valid : Registry.isExtension ".yaml" = true := by decide
  unfold Registry.build Registry.extend
  rw [valid, resolved]
  exact ⟨_, rfl⟩

private theorem finds_dottedPath : Finds dottedPath { files := hiddenFiles } .yaml ".yaml" [] := by
  have stem : dottedPath.stem = ".yaml" := by decide +kernel
  rw [← stem]
  exact .yaml (Reader.documentEntries_of_empty (by rfl)) rfl

theorem names_agree_hiddenFiles :
    ∃ after,
      Registry.build Registry.ownModules [(".yaml", "templategen.parsing:YamlDataParser")]
          { files := hiddenFiles } = .ok documentTable after ∧
        Naming.extension? dottedPath = some ".yaml" ∧
        documentGeneration.readerFor dottedPath = .ok .yaml ∧
        Finds dottedPath { files := hiddenFiles } .yaml ".yaml" [] ∧
        ".yaml" ++ ".yaml" = dottedPath.name := by
  rcases build_documentTable { files := hiddenFiles } with ⟨after, built⟩
  have found : Naming.extension? dottedPath = some ".yaml" := by decide +kernel
  have given : documentGeneration.readerFor dottedPath = .ok .yaml := by rfl
  have whole : dottedPath.name ≠ ".yaml" := by decide +kernel
  have law := names_agree built rfl found given (.inr rfl)
  rcases (law.2.1 _ _ _ finds_dottedPath).2 with same | ⟨-, bare, -⟩
  · exact ⟨after, built, found, given, finds_dottedPath, same⟩
  · exact absurd bare whole

/--
A data file that is named by the extension alone is not refused: the extension is taken as its
entity, as it is for another data file of the same extension.
-/
theorem not_refused_hiddenFiles :
    ∃ after,
      Registry.build Registry.ownModules [(".yaml", "templategen.parsing:YamlDataParser")]
          { files := hiddenFiles } = .ok documentTable after ∧
        Naming.extension? hiddenPath = some ".yaml" ∧
        documentGeneration.readerFor hiddenPath = .ok .yaml ∧
        Finds hiddenPath { files := hiddenFiles } .yaml ".yaml" [] ∧
        (∃ later left,
          Reader.contribute .yaml hiddenPath {} { files := hiddenFiles } = .ok later left) ∧
        hiddenPath.name = ".yaml" ∧ ".yaml" ++ ".yaml" ≠ hiddenPath.name ∧
        Naming.extension? dottedPath = some ".yaml" ∧ dottedPath.name ≠ hiddenPath.name ∧
        Finds dottedPath { files := hiddenFiles } .yaml ".yaml" [] := by
  rcases build_documentTable { files := hiddenFiles } with ⟨after, built⟩
  have finds : Finds hiddenPath { files := hiddenFiles } .yaml ".yaml" [] := by
    have stem : hiddenPath.stem = ".yaml" := by decide +kernel
    rw [← stem]
    exact .yaml (Reader.documentEntries_of_empty (by rfl)) rfl
  have has : Draft.Has {} ({ files := hiddenFiles } : World).machine.heap (textEntries []) :=
    .inl ⟨rfl, rfl⟩
  exact ⟨after, built, by decide +kernel, rfl, finds, finds.exists_contribute has,
    by decide +kernel, by decide +kernel, by decide +kernel, by decide +kernel,
    finds_dottedPath⟩

end Generation

end Stencil

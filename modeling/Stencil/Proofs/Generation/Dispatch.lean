import Stencil.Proofs.Entries
import Stencil.Proofs.Generation.FailFast
import Stencil.Proofs.Text.Split

/-!
# The reader that a data file is given to

A table of readers takes every extension that starts with a dot and goes on, while a data
file is looked up by what follows the last dot of its name.  The two agree on the simple
extensions, those without another dot: a file whose name ends in a simple extension of the
table is given to the reader of that extension.  An extension with another dot is never
looked up.  Files that end in it are given to the reader of its last part, or to none.
-/

namespace Stencil

open Outcome

/-! ## The last dot of a name -/

namespace Text

variable {α : Type} [DecidableEq α]

theorem findLast?_append {wanted : α} (front : List α) {back : List α}
    (absent : wanted ∉ back) :
    findLast? [wanted] (front ++ wanted :: back) = some front.length := by
  have reversed :
      (front ++ wanted :: back).reverse = back.reverse ++ wanted :: front.reverse := by
    simp
  rw [findLast?, reversed, List.reverse_singleton, find?_append _ (by simpa using absent)]
  simp only [Option.map_some, List.length_append, List.length_cons, List.length_reverse,
    List.length_nil, Option.some.injEq]
  omega

/-- A list is cut at the last occurrence of a member. -/
theorem exists_last_eq {wanted : α} {items : List α} (member : wanted ∈ items) :
    ∃ front back, items = front ++ wanted :: back ∧ wanted ∉ back := by
  induction items with
  | nil => cases member
  | cons item rest ih =>
    by_cases later : wanted ∈ rest
    · rcases ih later with ⟨front, back, rfl, absent⟩
      exact ⟨item :: front, back, rfl, absent⟩
    · rcases List.mem_cons.mp member with rfl | inside
      · exact ⟨[], rest, rfl, later⟩
      · exact absurd inside later

end Text

namespace Naming

/-- The part of a name from its last dot on. -/
def lastExtension? (name : String) : Option String :=
  (Text.findLast? ['.'] name.toList).map fun place => String.ofList (name.toList.drop place)

/-- An extension has no dot but its first character. -/
def IsSimple (extension : String) : Prop :=
  '.' ∉ extension.toList.tail

instance (extension : String) : Decidable (IsSimple extension) :=
  inferInstanceAs (Decidable ('.' ∉ extension.toList.tail))

theorem extension?_eq (path : Path) : extension? path = lastExtension? path.name := rfl

theorem lastExtension?_of_split {name : String} {front back : List Char}
    (split : name.toList = front ++ '.' :: back) (last : '.' ∉ back) :
    lastExtension? name = some (String.ofList ('.' :: back)) := by
  rw [lastExtension?, split, Text.findLast?_append front last]
  simp

/-- What stands before an ending with a dot does not matter. -/
theorem lastExtension?_append (stem : String) {ending : String} (dotted : '.' ∈ ending.toList) :
    lastExtension? (stem ++ ending) = lastExtension? ending := by
  rcases Text.exists_last_eq dotted with ⟨front, back, split, last⟩
  have whole : (stem ++ ending).toList = (stem.toList ++ front) ++ '.' :: back := by
    rw [String.toList_append, split, List.append_assoc]
  rw [lastExtension?_of_split whole last, lastExtension?_of_split split last]

/-- The last extension of a name with a dot is simple. -/
theorem exists_lastExtension? {name : String} (dotted : '.' ∈ name.toList) :
    ∃ last, lastExtension? name = some last ∧ IsSimple last := by
  rcases Text.exists_last_eq dotted with ⟨front, back, split, last⟩
  exact ⟨_, lastExtension?_of_split split last, by simpa [IsSimple] using last⟩

/-- A simple extension is its own last one. -/
theorem IsSimple.lastExtension? {extension : String} (simple : IsSimple extension)
    (starts : extension.toList.head? = some '.') :
    lastExtension? extension = some extension := by
  have split : extension.toList = [] ++ '.' :: extension.toList.tail :=
    List.eq_cons_of_mem_head? (Option.mem_def.mpr starts)
  rw [lastExtension?_of_split split simple, ← List.nil_append (_ :: _), ← split,
    String.ofList_toList]

end Naming

/-! ## What a table holds -/

namespace Registry

/-- Every extension of a table is one, and is there once. -/
structure Table.WellFormed (table : Table) : Prop where
  extensions : ∀ known ∈ table, isExtension known.1 = true
  nodup : (table.map Prod.fst).Nodup

theorem put_eq (extension : String) (reader : Reader) (table : Table) :
    put extension reader table = Entries.put extension reader table := by
  induction table with
  | nil => rfl
  | cons first rest ih => rw [put, Entries.put, ih]

theorem Table.WellFormed.put {extension : String} {table : Table}
    (wellFormed : table.WellFormed) (isExtension : isExtension extension = true)
    (reader : Reader) : Table.WellFormed (put extension reader table) where
  extensions := by
    intro known member
    rw [put_eq] at member
    rcases Entries.mem_keys_put.mp (List.mem_map_of_mem member) with same | old
    · rw [same]
      exact isExtension
    · rcases List.mem_map.mp old with ⟨entry, inside, same⟩
      rw [← same]
      exact wellFormed.extensions entry inside
  nodup := by
    rw [put_eq]
    exact Entries.nodup_put wellFormed.nodup extension reader

theorem wellFormed_extend {modules : List Module} {references : List (String × String)}
    {table later : Table} {world after : World} (wellFormed : table.WellFormed)
    (ended : extend modules table references world = .ok later after) : later.WellFormed := by
  induction references generalizing table world with
  | nil =>
    cases ended
    exact wellFormed
  | cons reference rest ih =>
    rcases reference with ⟨extension, reference⟩
    unfold extend at ended
    by_cases valid : isExtension extension = true
    · simp only [valid, Bool.not_true, Bool.false_eq_true, if_false] at ended
      rcases bind_eq_ok_iff.mp ended with ⟨reader, between, -, ended⟩
      rcases bind_eq_ok_iff.mp ended with ⟨-, _, -, extended⟩
      exact ih (wellFormed.put valid reader) extended
    · simp only [valid, Bool.not_false, if_true] at ended
      cases ended

theorem wellFormed_build {modules : List Module} {references : List (String × String)}
    {table : Table} {world after : World}
    (built : build modules references world = .ok table after) : table.WellFormed := by
  refine wellFormed_extend ⟨?_, ?_⟩ built
  · decide
  · decide

theorem head?_of_isExtension {extension : String} (valid : isExtension extension = true) :
    extension.toList.head? = some '.' := by
  unfold isExtension at valid
  split at valid
  · next split => rw [split, List.head?_cons]
  · cases valid

end Registry

/-! ## What a data file is given to -/

namespace Generation

/-- Generate from a data file with a reader, whatever the table of readers holds. -/
def generateWith (generation : Generation) (reader : Reader) (path : Path) :
    Act (List Path) := do
  Act.onMachine (Template.Run.reclaim generation.start)
  let draft ← generation.draftFor path
  let draft ← reader.contribute path draft
  let draft ← draft.add propertiesKey generation.properties
  Act.detail ("Generating from " ++ path.text)
  let task ← draft.create
  task.generate generation.engine

/-- Refuse a data file for which there is no reader. -/
def refuse (generation : Generation) (path : Path) : Act (List Path) := do
  Act.onMachine (Template.Run.reclaim generation.start)
  let _ ← generation.draftFor path
  throw (.unknownExtension path)

/-- Generate from a data file with the reader that was found for it, if there is one. -/
def handOver (generation : Generation) (path : Path) : Option Reader → Act (List Path)
  | some reader => generation.generateWith reader path
  | none => generation.refuse path

variable {generation : Generation} {path : Path} {world : World}

/-- A data file is handed over to the reader of its last extension. -/
theorem visit_eq_handOver (regular : isDataFile world.files path = .ok true) :
    generation.visit path world =
      generation.handOver path
        ((Naming.lastExtension? path.name).bind fun last => generation.readers.lookup last)
        world := by
  have asked : Act.askFiles (fun files => isDataFile files path) world = .ok true world :=
    Act.askFiles_eq_ok_iff.mpr ⟨regular, rfl⟩
  unfold visit
  rw [bind_apply_of_ok asked, if_pos rfl]
  unfold taskFor makeTask readerFor
  rw [Naming.extension?_eq]
  cases (Naming.lastExtension? path.name).bind fun last => generation.readers.lookup last with
  | none =>
    simp only [handOver, refuse, bind_assoc]
    rfl
  | some reader =>
    simp only [handOver, generateWith, bind_assoc]
    rfl

/--
A data file whose name ends in an extension of a table that was built is given to the
reader of that extension, if the extension is simple.  Otherwise the reader is the one of
the last part of the extension, which is another extension, or there is none.
-/
theorem visit_dispatches
    {modules : List Registry.Module} {references : List (String × String)}
    {table : Registry.Table} {before after : World} {extension stem : String}
    {reader : Reader}
    (built : Registry.build modules references before = .ok table after)
    (readers : generation.readers = table)
    (entered : (extension, reader) ∈ table)
    (named : path.name = stem ++ extension)
    (regular : isDataFile world.files path = .ok true) :
    (Naming.IsSimple extension →
      generation.visit path world = generation.generateWith reader path world) ∧
    (¬Naming.IsSimple extension →
      ∃ last, Naming.lastExtension? extension = some last ∧ last ≠ extension ∧
        generation.visit path world =
          generation.handOver path (table.lookup last) world) := by
  have wellFormed := Registry.wellFormed_build built
  have starts : extension.toList.head? = some '.' :=
    Registry.head?_of_isExtension (wellFormed.extensions _ entered)
  have dotted : '.' ∈ extension.toList := List.mem_of_head? starts
  have handed : generation.visit path world = _ := visit_eq_handOver regular
  rw [named, Naming.lastExtension?_append stem dotted, readers] at handed
  constructor
  · intro simple
    rw [handed, simple.lastExtension? starts, Option.bind_some,
      Entries.lookup_of_mem wellFormed.nodup entered]
    rfl
  · intro further
    rcases Naming.exists_lastExtension? dotted with ⟨last, found, simple⟩
    refine ⟨last, found, ?_, ?_⟩
    · rintro rfl
      exact further simple
    · rw [handed, found, Option.bind_some]

/-- A tree with a data file whose name has two dots, and a template. -/
def archiveFiles : Files.Tree where
  entries := [
    (["data"], .directory),
    (["data", "Oak.tar.gz"], .file ⟨ByteArray.empty, 0o644, 0, 0⟩),
    (["templates"], .directory),
    (["templates", "Bean"], .file ⟨"class".toUTF8, 0o644, 0, 0⟩)]
  here := []

/-- The data file of `archiveFiles`. -/
def archivePath : Path := .ofString "data/Oak.tar.gz"

/-- The readers that every run starts with, and the one of entities for an extension. -/
def archiveTable (extension : String) : Registry.Table :=
  Registry.put extension .entity Registry.defaultTable

/-- A generation with these readers. -/
def archiveGeneration (extension : String) : Generation :=
  { plainGeneration with readers := archiveTable extension }

theorem build_archiveTable {extension : String}
    (valid : Registry.isExtension extension = true) :
    ∃ after,
      Registry.build Registry.ownModules [(extension, "templategen.parsing:EntityParser")]
          { files := archiveFiles } = .ok (archiveTable extension) after := by
  have resolved :
      Registry.resolve Registry.ownModules "templategen.parsing:EntityParser" =
        .ok .entity := by
    rfl
  apply exists_of_value?_eq_some
  unfold Registry.build Registry.extend
  rw [valid, resolved]
  rfl

theorem visit_dispatches_archiveFiles :
    ∃ after,
      Registry.build Registry.ownModules [(".gz", "templategen.parsing:EntityParser")]
          { files := archiveFiles } = .ok (archiveTable ".gz") after ∧
        (".gz", .entity) ∈ archiveTable ".gz" ∧ archivePath.name = "Oak.tar" ++ ".gz" ∧
        isDataFile archiveFiles archivePath = .ok true ∧
        (archiveGeneration ".gz").visit archivePath { files := archiveFiles } =
          (archiveGeneration ".gz").generateWith .entity archivePath
            { files := archiveFiles } := by
  rcases build_archiveTable (by decide : Registry.isExtension ".gz" = true) with ⟨after, built⟩
  have entered : (".gz", Reader.entity) ∈ archiveTable ".gz" := .tail _ (.head _)
  have named : archivePath.name = "Oak.tar" ++ ".gz" := by decide +kernel
  have regular : isDataFile archiveFiles archivePath = .ok true := by decide +kernel
  refine ⟨after, built, entered, named, regular, ?_⟩
  exact (visit_dispatches built rfl entered named regular).1 (by decide +kernel)

/-- An extension with two dots is taken, but a file that ends in it is refused. -/
theorem not_dispatches_archiveFiles :
    ∃ after,
      Registry.build Registry.ownModules [(".tar.gz", "templategen.parsing:EntityParser")]
          { files := archiveFiles } = .ok (archiveTable ".tar.gz") after ∧
        (".tar.gz", .entity) ∈ archiveTable ".tar.gz" ∧
        archivePath.name = "Oak" ++ ".tar.gz" ∧
        isDataFile archiveFiles archivePath = .ok true ∧
        (∃ left,
          (archiveGeneration ".tar.gz").visit archivePath { files := archiveFiles } =
            .error (.unknownExtension archivePath) left) ∧
        (archiveGeneration ".tar.gz").visit archivePath { files := archiveFiles } ≠
          (archiveGeneration ".tar.gz").generateWith .entity archivePath
            { files := archiveFiles } := by
  rcases build_archiveTable (by decide : Registry.isExtension ".tar.gz" = true) with
    ⟨after, built⟩
  have entered : (".tar.gz", Reader.entity) ∈ archiveTable ".tar.gz" := .tail _ (.head _)
  rcases exists_of_fault?_eq_some (by decide +kernel :
    fault? ((archiveGeneration ".tar.gz").visit archivePath { files := archiveFiles }) =
      some (.unknownExtension archivePath)) with ⟨left, refused⟩
  rcases exists_of_value?_eq_some (by decide +kernel :
    value? ((archiveGeneration ".tar.gz").generateWith .entity archivePath
      { files := archiveFiles }) = some [.ofString "out/Oak.tar.gzBean.java"]) with
    ⟨_, generated⟩
  refine ⟨after, built, entered, by decide +kernel, by decide +kernel, ⟨left, refused⟩, ?_⟩
  intro same
  rw [refused, generated] at same
  cases same

end Generation

end Stencil

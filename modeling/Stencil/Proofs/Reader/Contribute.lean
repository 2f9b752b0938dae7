import Stencil.Proofs.Task.Draft
import Stencil.Proofs.Yaml.Values
import Stencil.Reader.Contribute
import Stencil.Reader.Registry

/-!
# What the library's own readers contribute

The library's own readers never change a file.  They only add entries to the data model of
the draft that they are given, and leave its other parts alone.
-/

namespace Stencil

open Outcome

namespace Reader

/-- A reader that is one of the library's own. -/
def IsOwn : Reader → Prop
  | .entity => True
  | .yaml => True
  | .plugin _ => False

instance : DecidablePred IsOwn
  | .entity => isTrue trivial
  | .yaml => isTrue trivial
  | .plugin _ => isFalse id

/-! ## The reader of documents -/

theorem sameFiles_documentEntries (path : Path) :
    Moves Act.SameFiles (documentEntries path) := by
  intro world
  unfold documentEntries
  rw [bind_apply_of_ok (get_apply world)]
  cases readDocument world.files world.machine.heap path with
  | error fault => rfl
  | ok found =>
    obtain ⟨value, heap⟩ := found
    cases value <;> rfl

/-- A document is read from the decoded bytes of a file. -/
theorem readDocument_ok {files : Files.Tree} {heap later : Heap} {path : Path} {value : Value}
    (found : readDocument files heap path = .ok (value, later)) :
    ∃ characters, Yaml.read heap (Text.unifyLineEnds characters) = .ok (value, later) := by
  unfold readDocument at found
  cases stored : files.read path with
  | error fault =>
    rw [stored] at found
    cases found
  | ok bytes =>
    rw [stored] at found
    simp only [bind, Except.bind] at found
    cases decoded : Text.decode? bytes with
    | none =>
      rw [decoded] at found
      cases found
    | some characters =>
      rw [decoded] at found
      exact ⟨characters, found⟩

/-- A file that is read holds nothing or a mapping, and only containers are new. -/
theorem documentEntries_ok {path : Path} {world after : World} {entries : List (Value × Value)}
    (ended : documentEntries path world = .ok entries after) :
    ∃ value heap, readDocument world.files world.machine.heap path = .ok (value, heap) ∧
      after = { world with machine := { world.machine with heap } } ∧
      ((value = .none ∧ entries = []) ∨ ∃ ref, value = .dict ref ∧ entries = heap.entries ref) := by
  unfold documentEntries at ended
  rw [bind_apply_of_ok (get_apply world)] at ended
  cases found : readDocument world.files world.machine.heap path with
  | error fault =>
    rw [found] at ended
    cases ended
  | ok result =>
    obtain ⟨value, heap⟩ := result
    rw [found] at ended
    dsimp only at ended
    rw [bind_apply_of_ok (set_apply _ _)] at ended
    cases value with
    | none =>
      cases ended
      exact ⟨_, heap, rfl, rfl, .inl ⟨rfl, rfl⟩⟩
    | dict ref =>
      cases ended
      exact ⟨_, heap, rfl, rfl, .inr ⟨ref, rfl, rfl⟩⟩
    | _ => cases ended

/-- Reading a document keeps the containers that were there. -/
theorem keeps_of_documentEntries
    {known : Heap} {path : Path} {world after : World} {entries : List (Value × Value)}
    (keeps : known.Keeps world.machine.heap)
    (ended : documentEntries path world = .ok entries after) :
    known.Keeps after.machine.heap := by
  obtain ⟨value, heap, found, rfl, -⟩ := documentEntries_ok ended
  obtain ⟨characters, read⟩ := readDocument_ok found
  exact keeps.trans (Yaml.keeps_of_read read)

/-- The keys of the mapping that a YAML file holds are values that cannot change. -/
theorem keyed_documentEntries {path : Path} {world after : World}
    {entries : List (Value × Value)}
    (ended : documentEntries path world = .ok entries after) : Yaml.Keyed entries := by
  obtain ⟨value, heap, found, -, ⟨-, rfl⟩ | ⟨ref, rfl, rfl⟩⟩ := documentEntries_ok ended
  · simp [Yaml.Keyed]
  · obtain ⟨characters, read⟩ := readDocument_ok found
    exact Yaml.keyed_of_read read

theorem sameFiles_addEntries (draft : Draft) (entries : List (Value × Value)) :
    Moves Act.SameFiles (addEntries draft entries) := by
  induction entries generalizing draft with
  | nil => exact .pure draft
  | cons entry rest ih =>
    obtain ⟨key, value⟩ := entry
    unfold addEntries
    exact .bind Act.sameFiles_heap fun _ => .bind (Act.sameFiles_lift _) fun _ =>
      .bind (draft.sameFiles_add _ _) fun _ => ih _

theorem addEntries_ok
    {known : Heap} {draft later : Draft} {entries : List (Value × Value)}
    {world after : World}
    (keeps : known.Keeps world.machine.heap) (apart : draft.Apart known)
    (ended : addEntries draft entries world = .ok later after) :
    draft.Adds known world later after := by
  induction entries generalizing draft world with
  | nil =>
    cases ended
    exact .refl keeps apart
  | cons entry rest ih =>
    obtain ⟨key, value⟩ := entry
    unfold addEntries at ended
    obtain ⟨heap, _, found, ended⟩ := bind_eq_ok_iff.mp ended
    cases found
    obtain ⟨name, between, shown, adding⟩ := bind_eq_ok_iff.mp ended
    obtain ⟨-, rfl⟩ := Act.lift_eq_ok_iff.mp shown
    obtain ⟨added, middle, first, more⟩ := bind_eq_ok_iff.mp adding
    have adds := Draft.add_ok keeps apart first
    exact adds.trans (ih adds.keeps adds.apart more)

/-! ## Both readers -/

theorem IsOwn.sameFiles_contribute {reader : Reader} (isOwn : reader.IsOwn) (path : Path)
    (draft : Draft) : Moves Act.SameFiles (reader.contribute path draft) := by
  cases reader with
  | entity => exact .bind (Act.sameFiles_lift _) fun _ => draft.sameFiles_add _ _
  | yaml =>
    exact .bind (sameFiles_documentEntries path) fun _ =>
      .bind (draft.sameFiles_add _ _) fun _ => .bind (sameFiles_addEntries _ _) fun _ =>
      .bind (Act.sameFiles_detail _) fun _ => .pure _
  | plugin custom => exact isOwn.elim

/-- A contribution adds to the data model of the draft, and to nothing that was there. -/
theorem IsOwn.contribute_ok
    {reader : Reader} (isOwn : reader.IsOwn) {known : Heap} {path : Path}
    {draft later : Draft} {world after : World}
    (keeps : known.Keeps world.machine.heap) (apart : draft.Apart known)
    (ended : reader.contribute path draft world = .ok later after) :
    draft.Adds known world later after := by
  cases reader with
  | entity =>
    obtain ⟨name, between, named, adding⟩ := bind_eq_ok_iff.mp ended
    obtain ⟨-, rfl⟩ := Act.lift_eq_ok_iff.mp named
    exact Draft.add_ok keeps apart adding
  | yaml =>
    obtain ⟨entries, between, read, ended⟩ := bind_eq_ok_iff.mp ended
    have keeps := keeps_of_documentEntries keeps read
    have files := (sameFiles_documentEntries path).of_ok read
    obtain ⟨named, middle, adding, ended⟩ := bind_eq_ok_iff.mp ended
    have first := Draft.add_ok keeps apart adding
    obtain ⟨filled, last, more, ended⟩ := bind_eq_ok_iff.mp ended
    have all := first.trans (addEntries_ok first.keeps first.apart more)
    cases ended
    exact ⟨all.files.trans files, all.keeps, all.apart, all.parts⟩
  | plugin custom => exact isOwn.elim

private theorem neverRenders_documentEntries (path : Path) :
    Act.NeverRenders (documentEntries path) := by
  intro world failure after failed
  unfold documentEntries at failed
  rw [bind_apply_of_ok (get_apply world)] at failed
  cases found : readDocument world.files world.machine.heap path with
  | error fault =>
    rw [found] at failed
    cases failed
    cases fault <;> simp [failureOf]
  | ok result =>
    obtain ⟨value, heap⟩ := result
    rw [found] at failed
    dsimp only at failed
    rw [bind_apply_of_ok (set_apply _ _)] at failed
    cases value <;> cases failed <;> simp

private theorem neverRenders_addEntries (draft : Draft) (entries : List (Value × Value)) :
    Act.NeverRenders (addEntries draft entries) := by
  induction entries generalizing draft with
  | nil => exact .pure draft
  | cons entry rest ih =>
    obtain ⟨key, value⟩ := entry
    unfold addEntries
    refine .bind (fun _ _ _ failed => by cases failed) fun heap _ =>
      .bind (Act.neverRenders_lift fun failure shown => ?_) fun _ _ =>
        .bind (draft.neverRenders_add _ _) fun _ _ => ih _
    cases plain : Value.plain heap .none key with
    | ok text =>
      rw [plain] at shown
      cases shown
    | error fault =>
      rw [plain] at shown
      cases shown
      simp

/-- A reader of the library's own has nothing to do with rendering. -/
theorem IsOwn.neverRenders_contribute {reader : Reader} (isOwn : reader.IsOwn) (path : Path)
    (draft : Draft) : Act.NeverRenders (reader.contribute path draft) := by
  cases reader with
  | entity =>
    refine .bind (Act.neverRenders_lift fun failure named => ?_) fun _ _ =>
      draft.neverRenders_add _ _
    unfold Naming.entityName at named
    dsimp only at named
    split at named <;> cases named
    simp
  | yaml =>
    exact .bind (neverRenders_documentEntries path) fun _ _ =>
      .bind (draft.neverRenders_add _ _) fun _ _ => .bind (neverRenders_addEntries _ _)
      fun _ _ => .bind (Act.neverRenders_detail _) fun _ _ => .pure _
  | plugin custom => exact isOwn.elim

end Reader

/-! ## Tables of readers -/

namespace Registry

/-- A member of a module that is none of others' readers. -/
def Member.IsOwn : Member → Prop
  | .reader found => found.IsOwn
  | .unusable => True
  | .other => True

instance : DecidablePred Member.IsOwn
  | .reader found => inferInstanceAs (Decidable found.IsOwn)
  | .unusable => isTrue trivial
  | .other => isTrue trivial

/-- References for extensions only resolve to the library's own readers. -/
def ResolvesOwn (modules : List Module) (references : List (String × String)) : Prop :=
  ∀ given ∈ references, ∀ reader, resolve modules given.2 = .ok reader → reader.IsOwn

/-- All readers of a table are the library's own. -/
def Table.IsOwn (table : Table) : Prop :=
  ∀ known ∈ table, known.2.IsOwn

theorem isOwn_put {extension : String} {reader : Reader} {table : Table}
    (isOwn : reader.IsOwn) (all : Table.IsOwn table) :
    Table.IsOwn (put extension reader table) := by
  induction table with
  | nil =>
    intro known member
    rw [List.mem_singleton.mp member]
    exact isOwn
  | cons first rest ih =>
    obtain ⟨name, old⟩ := first
    unfold put
    intro known member
    split at member
    · rcases List.mem_cons.mp member with rfl | later
      · exact isOwn
      · exact all known (List.mem_cons_of_mem _ later)
    · rcases List.mem_cons.mp member with rfl | later
      · exact all _ (List.mem_cons_self ..)
      · exact ih (fun other inside => all other (List.mem_cons_of_mem _ inside)) known later

theorem sameFiles_extend (modules : List Module) (table : Table)
    (references : List (String × String)) :
    Moves Act.SameFiles (extend modules table references) := by
  induction references generalizing table with
  | nil => exact .pure table
  | cons reference rest ih =>
    obtain ⟨extension, reference⟩ := reference
    unfold extend
    split
    · exact .bind (.throw _) fun _ => .bind (Act.sameFiles_lift _) fun _ =>
        .bind (Act.sameFiles_detail _) fun _ => ih _
    · exact .bind (Act.sameFiles_lift _) fun _ => .bind (Act.sameFiles_detail _) fun _ => ih _

theorem isOwn_extend {modules : List Module} {references : List (String × String)}
    (resolves : ResolvesOwn modules references) {table later : Table} {world after : World}
    (all : table.IsOwn) (ended : extend modules table references world = .ok later after) :
    later.IsOwn := by
  induction references generalizing table world with
  | nil =>
    cases ended
    exact all
  | cons reference rest ih =>
    obtain ⟨extension, reference⟩ := reference
    unfold extend at ended
    split at ended
    · cases ended
    · obtain ⟨reader, between, lifted, noticed⟩ := bind_eq_ok_iff.mp ended
      obtain ⟨resolved, rfl⟩ := Act.lift_eq_ok_iff.mp lifted
      obtain ⟨_, _, -, extended⟩ := bind_eq_ok_iff.mp noticed
      have isOwn := resolves _ (List.mem_cons_self ..) _ resolved
      exact ih (fun given member => resolves given (List.mem_cons_of_mem _ member))
        (isOwn_put isOwn all) extended

theorem sameFiles_build (modules : List Module) (references : List (String × String)) :
    Moves Act.SameFiles (build modules references) :=
  sameFiles_extend modules defaultTable references

theorem isOwn_build {modules : List Module} {references : List (String × String)}
    (resolves : ResolvesOwn modules references) {table : Table} {world after : World}
    (built : build modules references world = .ok table after) : table.IsOwn := by
  refine isOwn_extend resolves (fun known member => ?_) built
  rw [List.mem_singleton.mp member]
  trivial

private theorem mem_of_importFrom {modules : List Module} {within found : Module}
    {parts : List String} (inside : within ∈ modules)
    (imported : importFrom modules within parts = .ok found) : found ∈ modules := by
  induction parts generalizing within with
  | nil =>
    cases imported
    exact inside
  | cons part parts ih =>
    unfold importFrom at imported
    dsimp only at imported
    split at imported
    · next next known => exact ih (List.mem_of_find?_eq_some known) imported
    · cases imported

private theorem mem_of_importModule {modules : List Module} {name : String} {found : Module}
    (imported : importModule modules name = .ok found) : found ∈ modules := by
  unfold importModule at imported
  split at imported
  · cases imported
  · split at imported
    · cases imported
    · split at imported
      · next first known => exact mem_of_importFrom (List.mem_of_find?_eq_some known) imported
      · cases imported

/-- A reader that is resolved is a member of a module. -/
theorem mem_of_resolve {modules : List Module} {reference : String} {reader : Reader}
    (resolved : resolve modules reference = .ok reader) :
    ∃ found ∈ modules, ∃ name, (name, Member.reader reader) ∈ found.members := by
  unfold resolve at resolved
  split at resolved
  · next moduleName member cut =>
    dsimp only at resolved
    split at resolved
    · cases resolved
    · split at resolved
      · split at resolved <;> cases resolved
      · next found imported =>
        split at resolved
        · cases resolved
        · next known =>
          cases resolved
          obtain ⟨before, after, split, -⟩ := List.lookup_eq_some_iff.mp known
          refine ⟨found, mem_of_importModule imported, String.ofList member, ?_⟩
          rw [split]
          exact List.mem_append_right _ (List.mem_cons_self ..)
        · cases resolved
        · cases resolved
  · cases resolved

/-- Without the modules of others, references resolve to the library's own readers. -/
theorem resolvesOwn_ownModules (references : List (String × String)) :
    ResolvesOwn ownModules references := by
  intro given _ reader resolved
  obtain ⟨found, inside, name, member⟩ := mem_of_resolve resolved
  have all : ∀ found ∈ ownModules, ∀ member ∈ found.members,
      member.2.IsOwn := by decide
  exact all found inside _ member

end Registry

end Stencil

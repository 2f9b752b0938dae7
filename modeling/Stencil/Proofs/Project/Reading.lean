import Stencil.Proofs.Data.Display
import Stencil.Proofs.Files.Overlong
import Stencil.Proofs.Generation.Blindness
import Stencil.Proofs.Toml.Reading

/-!
# How reading descriptors ends

Reading the descriptors of a project ends with what they hold, or is refused because of a
wrong setting.  Some faults are not turned into refusals: the path of a descriptor may hold
a name that is too long, its bytes may be no text, and numbers in it may have too many
digits to be read or to be shown again.
-/

namespace Stencil

open Outcome
open Data (Item Table)
open Files (Overlong Tree overlongFault)

/-! ## Faults that are let out -/

/-- A reading is refused for wrong settings, and lets out faults exactly of a kind. -/
structure LetsOut {α : Type} (kind : Fault → Prop) (result : Except Failure α) : Prop where
  out_iff : ∀ fault, result = .error (.unforeseen fault) ↔ kind fault
  foreseen : ∀ failure, result = .error failure →
    (∃ fault, failure = .unforeseen fault) ∨ ∃ problem, failure = .config problem

namespace LetsOut

variable {α β : Type} {kind : Fault → Prop}

theorem ok (value : α) : LetsOut (fun _ => False) (.ok value) :=
  ⟨fun _ => iff_of_false (fun failed => nomatch failed) id, fun _ failed => nomatch failed⟩

theorem config (problem : Misconfiguration) :
    LetsOut (fun _ => False) (.error (.config problem) : Except Failure α) := by
  refine ⟨fun _ => iff_of_false (fun failed => nomatch failed) id, fun failure failed => ?_⟩
  cases failed
  exact .inr ⟨problem, rfl⟩

theorem congr {other : Fault → Prop} {result : Except Failure α} (lets : LetsOut kind result)
    (same : ∀ fault, kind fault ↔ other fault) : LetsOut other result :=
  ⟨fun fault => (lets.out_iff fault).trans (same fault), lets.foreseen⟩

theorem unforeseen (fault : Fault) :
    LetsOut (· = fault) (.error (.unforeseen fault) : Except Failure α) := by
  refine ⟨fun other => by simp [eq_comm], fun failure failed => ?_⟩
  cases failed
  exact .inl ⟨fault, rfl⟩

theorem ofFault (result : Except Fault α) :
    LetsOut (fun fault => result = .error fault) (Failure.ofFault result) := by
  cases result with
  | ok value =>
    exact (ok value).congr fun fault => iff_of_false id fun failed => nomatch failed
  | error fault => exact ⟨fun other => by simp [Failure.ofFault], (unforeseen fault).foreseen⟩

/-- The second part lets out faults where the first one succeeds. -/
theorem bind {result : Except Failure α} {next : α → Except Failure β}
    {later : α → Fault → Prop} (here : LetsOut kind result)
    (there : ∀ value, result = .ok value → LetsOut (later value) (next value)) :
    LetsOut (fun fault => kind fault ∨ ∃ value, result = .ok value ∧ later value fault)
      (result >>= next) := by
  cases result with
  | ok value =>
    refine (there value rfl).congr fun fault => ?_
    have none : ¬kind fault := fun isKind => nomatch (here.out_iff fault).mpr isKind
    simp [none]
  | error failure =>
    refine ⟨fun fault => ?_, fun failure failed => ?_⟩
    · have stopped : (Except.error failure >>= next) = .error failure := rfl
      rw [← here.out_iff, stopped]
      simp
    · cases failed
      exact here.foreseen failure rfl

/-- Parts in a row let out the faults of the first one that fails. -/
theorem mapM {part : α → Except Failure β} {each : α → Fault → Prop}
    (lets : ∀ item, LetsOut (each item) (part item)) (items : List α) :
    LetsOut (fun fault => ∃ front item back, items = front ++ item :: back ∧
      (∀ earlier ∈ front, ∃ result, part earlier = .ok result) ∧ each item fault)
      (items.mapM part) := by
  induction items with
  | nil =>
    refine (ok _).congr fun fault => iff_of_false id ?_
    rintro ⟨front, _, _, split, -⟩
    cases front <;> cases split
  | cons item rest ih =>
    rw [List.mapM_cons]
    refine (bind (lets item) fun first _ => bind ih fun others _ => ok _).congr fun fault => ?_
    constructor
    · rintro (here | ⟨first, given, ⟨front, last, back, rfl, before, fails⟩ | ⟨_, _, none⟩⟩)
      · exact ⟨[], item, rest, rfl, List.forall_mem_nil _, here⟩
      · exact ⟨item :: front, last, back, rfl, List.forall_mem_cons.mpr ⟨⟨first, given⟩, before⟩,
          fails⟩
      · exact none.elim
    · rintro ⟨front, last, back, split, before, fails⟩
      cases front with
      | nil =>
        cases split
        exact .inl fails
      | cons known front =>
        cases split
        obtain ⟨⟨first, given⟩, before⟩ := List.forall_mem_cons.mp before
        exact .inr ⟨first, given, .inl ⟨front, last, back, rfl, before, fails⟩⟩

end LetsOut

/-- A fault that is not turned into a refusal. -/
inductive Fault.OfDescriptors : Fault → Prop
  | overlong (descriptor : Path) : OfDescriptors (overlongFault descriptor)
  | undecodable : OfDescriptors .undecodable
  | display {fault : Fault} (ofDisplay : fault.OfDisplay) : OfDescriptors fault

/-! ## Descriptors -/

namespace Project

variable {files : Tree} {root descriptor : Path}

/-- A descriptor is there, with some bytes. -/
structure Holds (files : Tree) (descriptor : Path) (bytes : ByteArray) : Prop where
  isFile : files.isFile descriptor = .ok true
  read : files.read descriptor = .ok bytes

/-- A descriptor is neither read nor refused. -/
inductive Unread (files : Tree) (descriptor : Path) : Fault → Prop
  | overlong (overlong : Overlong files descriptor) :
      Unread files descriptor (overlongFault descriptor)
  | noText {bytes : ByteArray} (holds : Holds files descriptor bytes)
      (noText : Text.decode? bytes = none) : Unread files descriptor .undecodable
  | longNumber {bytes : ByteArray} {characters : List Char} (holds : Holds files descriptor bytes)
      (decoded : Text.decode? bytes = some characters)
      (failed : Toml.read characters = .error .wrongValue) :
      Unread files descriptor .wrongValue

theorem Unread.ofDescriptors {fault : Fault} (unread : Unread files descriptor fault) :
    fault.OfDescriptors := by
  cases unread with
  | overlong => exact .overlong descriptor
  | noText => exact .undecodable
  | longNumber => exact .display .wrongValue

private theorem exists_holds (isFile : files.isFile descriptor = .ok true) :
    ∃ bytes, Holds files descriptor bytes := by
  cases found : files.find true descriptor with
  | error reason =>
    unfold Tree.isFile Tree.leadsTo at isFile
    rw [found] at isFile
    dsimp only at isFile
    split at isFile <;> cases isFile
  | ok entry =>
    have isFile' := isFile
    unfold Tree.isFile Tree.leadsTo at isFile'
    rw [found] at isFile'
    cases entry with
    | file content =>
      refine ⟨content.bytes, isFile, ?_⟩
      rw [Tree.read, found]
    | _ => cases isFile'

theorem Holds.unique {bytes others : ByteArray} (holds : Holds files descriptor bytes)
    (known : Holds files descriptor others) : bytes = others := by
  have same := holds.read
  rw [known.read] at same
  cases same
  rfl

private theorem isFile_of_overlong (overlong : Overlong files descriptor) :
    files.isFile descriptor = .error (overlongFault descriptor) :=
  Files.leadsTo_eq_error_iff.mpr ⟨overlong, rfl⟩

theorem Holds.not_overlong {bytes : ByteArray} (holds : Holds files descriptor bytes) :
    ¬Overlong files descriptor := by
  intro overlong
  have unanswered := isFile_of_overlong overlong
  rw [holds.isFile] at unanswered
  cases unanswered

/-- Of the faults of a document only its form is refused. -/
private theorem unread_iff_of_holds {bytes : ByteArray} (holds : Holds files descriptor bytes)
    {fault : Fault} :
    Unread files descriptor fault ↔
      Toml.readBytes bytes = .error fault ∧ fault ≠ .descriptorSyntax := by
  unfold Toml.readBytes
  constructor
  · intro unread
    cases unread with
    | overlong overlong => exact absurd overlong holds.not_overlong
    | noText same noText =>
      rw [holds.unique same, noText]
      exact ⟨rfl, by simp⟩
    | longNumber same decoded failed =>
      rw [holds.unique same, decoded]
      exact ⟨failed, by simp⟩
  · rintro ⟨failed, other⟩
    cases decoded : Text.decode? bytes with
    | none =>
      rw [decoded] at failed
      cases failed
      exact .noText holds decoded
    | some characters =>
      rw [decoded] at failed
      cases Toml.failsOnly_read characters fault failed with
      | malformed => exact absurd rfl other
      | long => exact .longNumber holds decoded failed

/-- What becomes of a descriptor that is there. -/
private theorem readDescriptor_of_holds {bytes : ByteArray}
    (holds : Holds files descriptor bytes) :
    readDescriptor files descriptor =
      match Toml.readBytes bytes with
      | .ok document => .ok document
      | .error fault =>
        if isReadingFault fault then .error (.config (.unreadableDescriptor descriptor fault))
        else .error (.unforeseen fault) := by
  have document : (Except.ok bytes >>= Toml.readBytes) = Toml.readBytes bytes := rfl
  unfold readDescriptor
  rw [holds.isFile, holds.read, document]
  cases Toml.readBytes bytes with
  | ok table => rfl
  | error fault =>
    dsimp only [Failure.ofFault, bind, Except.bind]
    exact if_neg (by decide)

private theorem letsOut_of_holds {bytes : ByteArray} (holds : Holds files descriptor bytes) :
    LetsOut (Unread files descriptor) (readDescriptor files descriptor) := by
  rw [readDescriptor_of_holds holds]
  cases ended : Toml.readBytes bytes with
  | ok table =>
    refine (LetsOut.ok table).congr fun fault => iff_of_false id fun unread => ?_
    rw [((unread_iff_of_holds holds).mp unread).1] at ended
    cases ended
  | error fault =>
    have only : ∀ other, Unread files descriptor other → other = fault := by
      intro other unread
      rw [((unread_iff_of_holds holds).mp unread).1] at ended
      exact Except.error.inj ended
    by_cases malformed : fault = .descriptorSyntax
    · subst malformed
      refine (LetsOut.config _).congr fun other => iff_of_false id fun unread => ?_
      have itself := only other unread
      exact ((unread_iff_of_holds holds).mp unread).2 itself
    · have unread := (unread_iff_of_holds holds).mpr ⟨ended, malformed⟩
      have passes : isReadingFault fault = false := by
        cases unread with
        | overlong overlong => exact absurd overlong holds.not_overlong
        | noText => rfl
        | longNumber => rfl
      dsimp only
      rw [passes]
      refine (LetsOut.unforeseen fault).congr fun other => ⟨?_, only other⟩
      rintro rfl
      exact unread

theorem letsOut_readDescriptor (files : Tree) (descriptor : Path) :
    LetsOut (Unread files descriptor) (readDescriptor files descriptor) := by
  cases isFile : files.isFile descriptor with
  | error fault =>
    obtain ⟨overlong, rfl⟩ := Files.leadsTo_eq_error_iff.mp isFile
    unfold readDescriptor
    rw [isFile]
    refine (LetsOut.unforeseen _).congr fun fault => ⟨?_, fun unread => ?_⟩
    · rintro rfl
      exact .overlong overlong
    · cases unread with
      | overlong => rfl
      | noText holds | longNumber holds => exact absurd overlong holds.not_overlong
  | ok present =>
    cases present with
    | false =>
      unfold readDescriptor
      rw [isFile]
      refine (LetsOut.ok _).congr fun fault => iff_of_false id fun unread => ?_
      cases unread with
      | overlong overlong =>
        rw [isFile_of_overlong overlong] at isFile
        cases isFile
      | noText holds | longNumber holds =>
        rw [holds.isFile] at isFile
        cases isFile
    | true =>
      obtain ⟨bytes, holds⟩ := exists_holds isFile
      exact letsOut_of_holds holds

private theorem letsOut_innerTable (descriptor : Path) (title name : String) (table : Table) :
    LetsOut (fun _ => False) (innerTable descriptor title name table) := by
  unfold innerTable
  split
  · exact .ok _
  · exact .ok _
  · exact .config _

/-- The tables of a descriptor are only not reached if the descriptor is unread. -/
private theorem letsOut_toolTable (files : Tree) (root : Path) :
    LetsOut (Unread files (descriptorOf root)) (toolTable files root) := by
  refine (LetsOut.bind (letsOut_readDescriptor files (descriptorOf root)) fun document _ =>
    .bind (letsOut_innerTable _ "tool" "tool" document) fun tool _ =>
      letsOut_innerTable _ "tool.templategen" "templategen" tool).congr fun fault => ?_
  simp

theorem letsOut_settingsTable (files : Tree) (root : Path) :
    LetsOut (Unread files (descriptorOf root)) (settingsTable files root) := by
  refine (LetsOut.bind (letsOut_toolTable files root) fun table _ => .ok _).congr fun fault => ?_
  simp

/-- The first property of a table that has no text has this fault. -/
def HasNoText (descriptor : Path) (table : Table) (fault : Fault) : Prop :=
  ∃ properties front entry back,
    innerTable descriptor "tool.templategen.properties" "properties" table = .ok properties ∧
      properties = front ++ entry :: back ∧
      (∀ earlier ∈ front, ∃ text, propertyText earlier.2 = .ok text) ∧
      propertyText entry.2 = .error fault

private theorem failsOnly_propertyText (item : Item) :
    FailsOnly Fault.OfDisplay (propertyText item) := by
  cases item with
  | flag isSet => exact .ok _
  | _ =>
    unfold propertyText
    exact Item.failsOnly_plain _

private theorem letsOut_ofTable (descriptor : Path) (table : Table) :
    LetsOut (HasNoText descriptor table) (ofTable descriptor table) := by
  have letsOut (entry : String × Item) :
      LetsOut (fun fault => propertyText entry.2 = .error fault) (do
        return (entry.1, ← Failure.ofFault (propertyText entry.2))) :=
    (LetsOut.bind (.ofFault (propertyText entry.2)) fun text _ => .ok _).congr fun fault => by
      simp
  have shown_iff (entry : String × Item) :
      (∃ result, (do return (entry.1, ← Failure.ofFault (propertyText entry.2))) =
        (.ok result : Except Failure (String × Text))) ↔
          ∃ text, propertyText entry.2 = .ok text := by
    cases propertyText entry.2 <;> simp [Failure.ofFault, bind, Except.bind, pure, Except.pure]
  refine (LetsOut.bind (letsOut_innerTable descriptor _ _ table) fun properties _ =>
    .bind (.mapM letsOut properties) fun texts _ => .ok _).congr fun fault => ?_
  constructor
  · rintro (none | ⟨properties, found, ⟨front, entry, back, split, before, failed⟩ | ⟨_, _, none⟩⟩)
    · exact none.elim
    · exact ⟨properties, front, entry, back, found, split,
        fun earlier member => (shown_iff earlier).mp (before earlier member), failed⟩
    · exact none.elim
  · rintro ⟨properties, front, entry, back, found, split, before, failed⟩
    exact .inr ⟨properties, found, .inl ⟨front, entry, back, split,
      fun earlier member => (shown_iff earlier).mpr (before earlier member), failed⟩⟩

/-- Reading the project of a root directory lets out a fault. -/
inductive Escapes (files : Tree) (root : Path) (fault : Fault) : Prop
  | descriptor (unread : Unread files (descriptorOf root) fault)
  | property {table : Table} (tools : toolTable files root = .ok table)
      (noText : HasNoText (descriptorOf root) table fault)

theorem Escapes.ofDescriptors {fault : Fault} (escapes : Escapes files root fault) :
    fault.OfDescriptors := by
  cases escapes with
  | descriptor unread => exact unread.ofDescriptors
  | property _ noText =>
    obtain ⟨_, _, entry, _, -, -, -, failed⟩ := noText
    exact .display (failsOnly_propertyText entry.2 _ failed)

theorem letsOut_load (files : Tree) (root : Path) :
    LetsOut (Escapes files root) (load files root) := by
  refine (LetsOut.bind (letsOut_toolTable files root) fun table _ =>
    letsOut_ofTable (descriptorOf root) table).congr fun fault => ⟨?_, fun escapes => ?_⟩
  · rintro (unread | ⟨table, tools, noText⟩)
    · exact .descriptor unread
    · exact .property tools noText
  · cases escapes with
    | descriptor unread => exact .inl unread
    | property tools noText => exact .inr ⟨_, tools, noText⟩

end Project

/-! ## Sessions -/

namespace Session

variable {files : Tree} {root : Path}

/-- Reading the session at a root directory lets out a fault. -/
inductive Escapes (files : Tree) (root : Path) (fault : Fault) : Prop
  | current (escapes : Project.Escapes files root fault)
  | member {current : Project} {front back : List Item} {item : Item}
      (loads : Project.load files root = .ok current)
      (listed : listedMembers files root = .ok (front ++ item :: back))
      (before : ∀ earlier ∈ front, ∃ project, loadMember files root earlier = .ok project)
      (failed : item.plain = .error fault ∨ ∃ place, item.plain = .ok place ∧
        Project.Escapes files (root.join (Path.ofString place.string)) fault)

theorem Escapes.ofDescriptors {fault : Fault} (escapes : Escapes files root fault) :
    fault.OfDescriptors := by
  cases escapes with
  | current escapes => exact escapes.ofDescriptors
  | @member _ _ _ item _ _ _ failed =>
    rcases failed with failed | ⟨_, -, escapes⟩
    · exact .display (item.failsOnly_plain _ failed)
    · exact escapes.ofDescriptors

private theorem letsOut_memberItems (descriptor : Path) (table : Table) :
    LetsOut (fun _ => False) (memberItems descriptor table) := by
  unfold memberItems
  split
  · exact .ok _
  · exact .ok _
  · exact .config _

private theorem letsOut_loadMember (files : Tree) (root : Path) (item : Item) :
    LetsOut (fun fault => item.plain = .error fault ∨ ∃ place, item.plain = .ok place ∧
      Project.Escapes files (root.join (Path.ofString place.string)) fault)
      (loadMember files root item) := by
  refine (LetsOut.bind (.ofFault item.plain) fun place _ =>
    Project.letsOut_load files (root.join (Path.ofString place.string))).congr fun fault => ?_
  simp only [ofFault_eq_ok_iff]

/-- A session is read in four parts, the first two of which load the current project. -/
theorem letsOut_read (files : Tree) (root : Path) :
    LetsOut (Escapes files root) (read files root) := by
  refine (LetsOut.bind (Project.letsOut_toolTable files root) fun table _ =>
    .bind (Project.letsOut_ofTable (Project.descriptorOf root) table) fun current _ =>
      .bind (letsOut_memberItems (Project.descriptorOf root) table) fun items _ =>
        .bind (.mapM (letsOut_loadMember files root) items) fun members _ =>
          .ok _).congr fun fault => ⟨?_, fun escapes => ?_⟩
  · rintro (unread | ⟨table, tools, noText | ⟨current, made, none | ⟨items, listed,
      ⟨front, item, back, rfl, before, failed⟩ | ⟨_, _, none⟩⟩⟩⟩)
    · exact .current (.descriptor unread)
    · exact .current (.property tools noText)
    · exact none.elim
    · have loads : Project.load files root = .ok current :=
        except_bind_eq_ok_iff.mpr ⟨table, tools, made⟩
      exact .member loads (listedMembers_of_toolTable tools listed) before failed
    · exact none.elim
  · cases escapes with
    | current escapes =>
      cases escapes with
      | descriptor unread => exact .inl unread
      | property tools noText => exact .inr ⟨_, tools, .inl noText⟩
    | member loads listed before failed =>
      obtain ⟨table, tools, made⟩ := except_bind_eq_ok_iff.mp loads
      obtain ⟨same, toolsAgain, listed⟩ := except_bind_eq_ok_iff.mp listed
      rw [tools] at toolsAgain
      cases toolsAgain
      exact .inr ⟨table, tools, .inr ⟨_, made, .inr ⟨_, listed, .inl
        ⟨_, _, _, rfl, before, failed⟩⟩⟩⟩

private theorem load_eq_error_iff {world after : World} {failure : Failure} :
    load root world = .error failure after ↔
      read world.files root = .error failure ∧ after = world := by
  have asked : (get : Act World) world = .ok world world := rfl
  unfold load
  rw [bind_apply_of_ok asked]
  cases known : read world.files root with
  | ok session =>
    refine iff_of_false (fun failed => ?_) fun refused => nomatch refused.1
    have lifted : Act.lift (.ok session) world = .ok session world := rfl
    rw [bind_apply_of_ok lifted] at failed
    cases failed
  | error refused =>
    have lifted : (Act.lift (.error refused) : Act Session) world = .error refused world := rfl
    rw [bind_apply_of_error lifted]
    simp [eq_comm]

/-- What a listed member stands for. -/
def Lists (files : Tree) (root : Path) (item : Item) (project : Project) : Prop :=
  ∃ place, item.plain = .ok place ∧
    Project.load files (root.join (Path.ofString place.string)) = .ok project

private theorem loadMember_eq_ok_iff {item : Item} {project : Project} :
    loadMember files root item = .ok project ↔ Lists files root item project := by
  unfold loadMember Lists
  simp only [except_bind_eq_ok_iff, ofFault_eq_ok_iff]

private theorem members_of_load {world after : World} {session : Session}
    (ended : load root world = .ok session after) :
    Project.load world.files root = .ok session.current ∧
      ∃ items members, listedMembers world.files root = .ok items ∧
        List.Forall₂ (Lists world.files root) items members ∧
        session.projects = session.current :: members := by
  obtain ⟨table, items, members, tools, made, listed, loaded, projects⟩ :=
    read_eq_ok_iff.mp (read_of_load ended)
  refine ⟨except_bind_eq_ok_iff.mpr ⟨table, tools, made⟩, items, members,
    listedMembers_of_toolTable tools listed, ?_, projects⟩
  exact (except_mapM_eq_ok_iff.mp loaded).imp fun _ _ => loadMember_eq_ok_iff.mp

end Session

namespace Project

variable {files : Tree} {root : Path}

/-- A project has the properties of a table in order, each as its text. -/
def Shows (properties : Table) (project : Project) : Prop :=
  List.Forall₂ (fun entry shown => shown.1 = entry.1 ∧ propertyText entry.2 = .ok shown.2)
    properties project.properties

private theorem shows_of_load {project : Project} (loaded : load files root = .ok project) :
    ∃ table properties, toolTable files root = .ok table ∧
      innerTable (descriptorOf root) "tool.templategen.properties" "properties" table =
        .ok properties ∧
      project.Shows properties := by
  obtain ⟨table, tools, made⟩ := except_bind_eq_ok_iff.mp loaded
  obtain ⟨properties, found, made⟩ := except_bind_eq_ok_iff.mp made
  obtain ⟨texts, shown, same⟩ := except_bind_eq_ok_iff.mp made
  cases same
  refine ⟨table, properties, tools, found, (except_mapM_eq_ok_iff.mp shown).imp ?_⟩
  intro entry text given
  obtain ⟨found, known, same⟩ := except_bind_eq_ok_iff.mp given
  cases same
  exact ⟨rfl, ofFault_eq_ok_iff.mp known⟩

/-- A property has a text exactly if no integer in it is too long and it is not too deep. -/
private theorem exists_propertyText_iff {item : Item} :
    (∃ text, propertyText item = .ok text) ↔ item.ShownWithin nestingLimit := by
  cases item with
  | flag isSet => exact iff_of_true ⟨_, rfl⟩ (Item.shownWithin_of_single trivial id)
  | _ =>
    unfold propertyText
    exact Item.exists_plain_iff

end Project

/--
Reading the descriptors of a project gives what they hold, is refused because of a wrong
setting, or lets out a fault.  That happens exactly where the path of a descriptor holds a
name that is too long, its bytes are no text, a decimal number in it has too many digits, or
a property or a member has no text.

A session that is read has the current project and then one project for each listed member,
in order.
-/
theorem reading_letsOut (root : Path) (world : World) :
    LetsOut (Project.Unread world.files (Project.descriptorOf root))
        (Project.settingsTable world.files root) ∧
      LetsOut (Project.Escapes world.files root) (Project.load world.files root) ∧
      LetsOut (Session.Escapes world.files root) (Session.read world.files root) ∧
      (∀ fault, Session.Escapes world.files root fault → fault.OfDescriptors) ∧
      (∀ failure after, Session.load root world = .error failure after ↔
        Session.read world.files root = .error failure ∧ after = world) ∧
      (∀ project, Project.load world.files root = .ok project →
        ∃ table properties, Project.toolTable world.files root = .ok table ∧
          Project.innerTable (Project.descriptorOf root) "tool.templategen.properties"
            "properties" table = .ok properties ∧
          project.Shows properties) ∧
      (∀ session after, Session.load root world = .ok session after →
        Project.load world.files root = .ok session.current ∧
          ∃ items members, Session.listedMembers world.files root = .ok items ∧
            List.Forall₂ (Session.Lists world.files root) items members ∧
            session.projects = session.current :: members) ∧
      (∀ characters, Toml.read characters = .error .wrongValue →
        Number.digitLimit < characters.length) ∧
      ∀ item : Item,
        ((∃ text, Project.propertyText item = .ok text) ↔ item.ShownWithin nestingLimit) ∧
        ((∃ text, item.plain = .ok text) ↔ item.ShownWithin nestingLimit) :=
  ⟨Project.letsOut_settingsTable world.files root, Project.letsOut_load world.files root,
    Session.letsOut_read world.files root, fun _ escapes => escapes.ofDescriptors,
    fun _ _ => Session.load_eq_error_iff,
    fun _ => Project.shows_of_load, fun _ _ => Session.members_of_load,
    fun _ => Toml.length_gt_of_read,
    fun _ => ⟨Project.exists_propertyText_iff, Item.exists_plain_iff⟩⟩

/-! ## A descriptor that is no text -/

/-- A tree with nothing but a descriptor, which holds a byte that no text has. -/
def latinDescriptor : Tree where
  entries := [(["pyproject.toml"], .file ⟨⟨#[0xff]⟩, 0o644, 0, 0⟩)]
  here := []

/-- What is let out is not refused because of a wrong setting. -/
theorem not_config_latinDescriptor :
    (∀ problem, Project.settingsTable latinDescriptor .here ≠ .error (.config problem)) ∧
      Project.settingsTable latinDescriptor .here = .error (.unforeseen .undecodable) ∧
      Project.load latinDescriptor .here = .error (.unforeseen .undecodable) ∧
      Session.read latinDescriptor .here = .error (.unforeseen .undecodable) := by
  have holds : Project.Holds latinDescriptor (Project.descriptorOf .here) ⟨#[0xff]⟩ :=
    ⟨by decide +kernel, by decide +kernel⟩
  have unread : Project.Unread latinDescriptor (Project.descriptorOf .here) .undecodable :=
    .noText holds (by decide +kernel)
  have settings := ((Project.letsOut_settingsTable latinDescriptor .here).out_iff _).mpr unread
  refine ⟨fun problem => ?_, settings, ?_, ?_⟩
  · rw [settings]
    simp
  · exact ((Project.letsOut_load latinDescriptor .here).out_iff _).mpr (.descriptor unread)
  · exact ((Session.letsOut_read latinDescriptor .here).out_iff _).mpr
      (.current (.descriptor unread))

end Stencil

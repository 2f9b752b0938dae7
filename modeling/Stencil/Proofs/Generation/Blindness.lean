import Stencil.Generation.Basic
import Stencil.Proofs.Files.Visits
import Stencil.Proofs.Generation.Walks
import Stencil.Proofs.Lockstep
import Stencil.Settings.Load

/-!
# What a run looks at

Loading settings and a session looks at descriptors; making a task looks at its data file
and at the directory of the templates, and so does rendering.  Two trees in which these
paths show the same are not told apart by any of it, and the notices that have been given
make no difference to a task.
-/

namespace Stencil

open Act (Blind Heedless)
open Files (LeadsInto Place SameAt Tree)
open Generation (pathBelow pathBelow_concat pathBelow_nil)
open Outcome

variable {left right : Tree}

/-! ## Descriptors -/

namespace Project

variable {root descriptor : Path}

theorem readDescriptor_eq (same : SameAt left right descriptor) :
    readDescriptor right descriptor = readDescriptor left descriptor := by
  unfold readDescriptor Tree.isFile
  rw [same.leadsTo_eq, same.read_eq]

theorem toolTable_eq (same : SameAt left right (descriptorOf root)) :
    toolTable right root = toolTable left root := by
  unfold toolTable
  dsimp only
  rw [readDescriptor_eq same]

theorem load_eq (same : SameAt left right (descriptorOf root)) :
    load right root = load left root := by
  unfold load
  rw [toolTable_eq same]

theorem settingsTable_eq (same : SameAt left right (descriptorOf root)) :
    settingsTable right root = settingsTable left root := by
  unfold settingsTable
  rw [toolTable_eq same]

theorem descriptor_of_ofTable {table : Data.Table} {project : Project}
    (made : ofTable descriptor table = .ok project) : project.descriptor = descriptor := by
  obtain ⟨_, _, made⟩ := except_bind_eq_ok_iff.mp made
  obtain ⟨_, _, made⟩ := except_bind_eq_ok_iff.mp made
  cases made
  rfl

theorem descriptor_of_load {files : Tree} {project : Project}
    (loaded : load files root = .ok project) : project.descriptor = descriptorOf root := by
  obtain ⟨_, _, made⟩ := except_bind_eq_ok_iff.mp loaded
  exact descriptor_of_ofTable made

end Project

theorem Settings.blind_load {root : Path}
    (same : SameAt left right (Project.descriptorOf root))
    (environment : List (String × String)) (overrides : Given) :
    Blind left right (load environment root overrides) := by
  refine .get_bind (fun world files => ?_) fun world => ?_
  · rw [Project.settingsTable_eq same, files]
  · refine .bind (.lift _) fun table => .bind (.lift _) fun found => ?_
    dsimp only
    split
    · exact .pure _
    · exact .throw _
    · exact .throw _

/-! ## Sessions -/

namespace Session

variable {root : Path}

/-- The members that the descriptor of a root directory lists. -/
def listedMembers (files : Tree) (root : Path) : Except Failure (List Data.Item) := do
  memberItems (Project.descriptorOf root) (← Project.toolTable files root)

/-- The root directories of listed members. -/
def memberRoots (files : Tree) (root : Path) : List Path :=
  match listedMembers files root with
  | .ok items => items.filterMap fun item =>
    item.plain.toOption.map fun text => root.join (Path.ofString text.string)
  | .error _ => []

/-- The descriptors that the session at a root directory is read from. -/
def descriptors (files : Tree) (root : Path) : List Path :=
  (root :: memberRoots files root).map Project.descriptorOf

theorem listedMembers_of_toolTable {files : Tree} {table : Data.Table} {items : List Data.Item}
    (found : Project.toolTable files root = .ok table)
    (listed : memberItems (Project.descriptorOf root) table = .ok items) :
    listedMembers files root = .ok items := by
  unfold listedMembers
  rw [found]
  exact listed

theorem mem_descriptors_of_member {files : Tree} {items : List Data.Item} {item : Data.Item}
    {text : Text}
    (listed : listedMembers files root = .ok items) (member : item ∈ items)
    (plain : item.plain = .ok text) :
    Project.descriptorOf (root.join (Path.ofString text.string)) ∈ descriptors files root := by
  refine List.mem_map_of_mem (List.mem_cons_of_mem _ ?_)
  unfold memberRoots
  rw [listed]
  refine List.mem_filterMap.mpr ⟨item, member, ?_⟩
  rw [plain]
  rfl

/-- The parts that a session is read from. -/
theorem read_eq_ok_iff {files : Tree} {session : Session} :
    read files root = .ok session ↔
      ∃ table items members, Project.toolTable files root = .ok table ∧
        Project.ofTable (Project.descriptorOf root) table = .ok session.current ∧
        memberItems (Project.descriptorOf root) table = .ok items ∧
        items.mapM (loadMember files root) = .ok members ∧
        session.projects = session.current :: members := by
  unfold read
  simp only [except_bind_eq_ok_iff]
  constructor
  · rintro ⟨table, found, current, made, items, listed, members, loaded, same⟩
    cases same
    exact ⟨table, items, members, found, made, listed, loaded, rfl⟩
  · rintro ⟨table, items, members, found, made, listed, loaded, projects⟩
    refine ⟨table, found, session.current, made, items, listed, members, loaded, ?_⟩
    rw [← projects]
    rfl

/-- What a member is loaded from. -/
theorem loadMember_eq {item : Data.Item}
    (same : ∀ text, item.plain = .ok text →
      SameAt left right (Project.descriptorOf (root.join (Path.ofString text.string)))) :
    loadMember right root item = loadMember left root item := by
  unfold loadMember
  exact except_bind_congr fun text plain =>
    Project.load_eq (same text (ofFault_eq_ok_iff.mp plain))

theorem read_eq
    (same : ∀ descriptor ∈ descriptors left root, SameAt left right descriptor) :
    read right root = read left root := by
  unfold read
  dsimp only
  rw [Project.toolTable_eq (same _ (List.mem_cons_self ..))]
  refine except_bind_congr fun table found => except_bind_congr fun current _ =>
    except_bind_congr fun items listed => ?_
  have known := listedMembers_of_toolTable found listed
  rw [except_mapM_congr fun item member => loadMember_eq fun text plain =>
    same _ (mem_descriptors_of_member known member plain)]

theorem blind_load
    (same : ∀ descriptor ∈ descriptors left root, SameAt left right descriptor) :
    Blind left right (load root) := by
  refine .get_bind (fun world files => ?_) fun world => ?_
  · rw [read_eq same, files]
  · exact .bind (.lift _) fun session => .bind (.detail _) fun _ => .pure _

theorem read_of_load {world after : World} {session : Session}
    (ended : load root world = .ok session after) : read world.files root = .ok session := by
  obtain ⟨start, _, asked, afterAsking⟩ := bind_eq_ok_iff.mp ended
  cases asked
  obtain ⟨found, _, lifted, afterReading⟩ := bind_eq_ok_iff.mp afterAsking
  obtain ⟨known, rfl⟩ := Act.lift_eq_ok_iff.mp lifted
  obtain ⟨_, _, -, given⟩ := bind_eq_ok_iff.mp afterReading
  cases given
  exact known

/-- The descriptors of the projects of a session are among those that it is read from. -/
theorem mem_descriptors_of_read {files : Tree} {session : Session} {project : Project}
    (known : read files root = .ok session) (member : project ∈ session.projects) :
    project.descriptor ∈ descriptors files root := by
  obtain ⟨table, items, members, found, made, listed, loaded, projects⟩ :=
    read_eq_ok_iff.mp known
  rw [projects] at member
  rcases List.mem_cons.mp member with rfl | later
  · rw [Project.descriptor_of_ofTable made]
    exact List.mem_cons_self ..
  · obtain ⟨item, among, loading⟩ := except_mem_mapM loaded later
    obtain ⟨text, plain, loading⟩ := except_bind_eq_ok_iff.mp loading
    rw [Project.descriptor_of_load loading]
    exact mem_descriptors_of_member (listedMembers_of_toolTable found listed) among
      (ofFault_eq_ok_iff.mp plain)

theorem lastModified_eq {session : Session}
    (same : ∀ project ∈ session.projects, SameAt left right project.descriptor) :
    session.lastModified right = session.lastModified left := by
  unfold lastModified
  have times : session.projects.map (Project.lastModified right) =
      session.projects.map (Project.lastModified left) :=
    List.map_congr_left fun project member => (same project member).lastModified_eq
  rw [times]

/-- A session is at least as young as the descriptor of its root directory. -/
theorem le_lastModified {files : Tree} {session : Session}
    (known : read files root = .ok session) (other : Tree) :
    other.lastModified (Project.descriptorOf root) ≤ session.lastModified other := by
  obtain ⟨table, items, members, -, made, -, -, projects⟩ := read_eq_ok_iff.mp known
  unfold lastModified
  rw [projects, List.map_cons]
  have le_foldl (times : List Int) (first : Int) : first ≤ times.foldl max first := by
    induction times generalizing first with
    | nil => exact Int.le_refl first
    | cons time rest ih => exact Int.le_trans (Int.le_max_left first time) (ih _)
  refine Int.le_trans (Int.le_of_eq ?_) (le_foldl _ _)
  rw [Project.lastModified, Project.descriptor_of_ofTable made]

end Session

/-! ## Directories -/

namespace Generation

/-- A path and the paths of its entries show the same in two trees. -/
structure SameIn (left right : Tree) (folder : Path) : Prop where
  self : SameAt left right folder
  child : ∀ name, name ≠ ".." → SameAt left right (folder.child name)

theorem isFolder_eq {path : Path} (same : SameAt left right path) :
    isFolder right path = isFolder left path := by
  unfold isFolder
  rw [same.find_eq]

namespace SameIn

variable {folder : Path}

/-- The entries of the directory are the same. -/
theorem at?_eq (same : SameIn left right folder)
    (leftSound : left.Sound) (rightSound : right.Sound)
    {trail : List Place} {place : Place} (leads : LeadsInto left folder trail place)
    (name : String) : right.at? (place ++ [name]) = left.at? (place ++ [name]) := by
  by_cases isName : Files.IsName name
  · have also := same.self true
    rw [leads.walk_eq] at also
    obtain ⟨front, leadsAlso⟩ := Files.walk_eq_ok_iff.mp also
    have around : LeadsInto right folder front place := leadsAlso
    have here := (leads.child false isName fun _ _ => rfl).walk_eq
    have there := (around.child false isName fun _ _ => rfl).walk_eq
    rw [same.child name isName.notAround false, here] at there
    exact (congrArg Tree.Spot.entry (Except.ok.inj there)).symm
  · have vacant {tree : Tree} (sound : tree.Sound) : tree.at? (place ++ [name]) = none := by
      cases there : tree.at? (place ++ [name]) with
      | none => rfl
      | some entry => exact absurd (sound.named _ _ _ there) isName
    rw [vacant leftSound, vacant rightSound]

theorem entriesOf_eq (same : SameIn left right folder)
    (leftSound : left.Sound) (rightSound : right.Sound) :
    entriesOf right folder = entriesOf left folder := by
  unfold entriesOf Tree.list
  rw [same.self true]
  cases walked : left.walk true folder with
  | error reason => rfl
  | ok spot =>
    obtain ⟨place, entry⟩ := spot
    cases entry with
    | none => rfl
    | some entry =>
      cases entry with
      | file content => rfl
      | link target => rfl
      | pipe => rfl
      | directory =>
        obtain ⟨trail, leads⟩ := Files.walk_eq_ok_iff.mp walked
        have names : inOrder (right.namesWithin place) = inOrder (left.namesWithin place) :=
          childNames_eq leftSound rightSound (same.at?_eq leftSound rightSound leads)
        exact congrArg (fun names => Except.ok (names.map folder.child)) names

theorem listTemplates_eq (same : SameIn left right folder)
    (leftSound : left.Sound) (rightSound : right.Sound) :
    listTemplates right folder = listTemplates left folder := by
  unfold listTemplates Tree.isDirectory
  rw [same.self.leadsTo_eq, same.entriesOf_eq leftSound rightSound]

theorem markedEntries_eq (same : SameIn left right folder)
    (leftSound : left.Sound) (rightSound : right.Sound) :
    markedEntries right folder = markedEntries left folder := by
  unfold markedEntries
  rw [same.entriesOf_eq leftSound rightSound]
  cases listed : entriesOf left folder with
  | error fault => rfl
  | ok entries =>
    obtain ⟨trail, place, leads, rfl⟩ := entriesOf_eq_ok_iff.mp listed
    refine congrArg Except.ok (List.map_congr_left fun path member => ?_)
    obtain ⟨name, among, rfl⟩ := List.mem_map.mp member
    have isName := isName_of_mem_childNames leftSound among
    rw [isFolder_eq (same.child name isName.notAround)]

end SameIn

/-- Everything below a path shows the same in two trees. -/
def SameBelow (left right : Tree) (folder : Path) : Prop :=
  ∀ names, ".." ∉ names → SameAt left right (pathBelow folder names)

theorem SameBelow.sameIn {folder : Path} (same : SameBelow left right folder) :
    SameIn left right folder where
  self := by
    have nothing := same [] List.not_mem_nil
    rwa [pathBelow_nil] at nothing
  child := fun name notAround => by
    have below := same [name] (by simpa using notAround.symm)
    rwa [← List.nil_append [name], pathBelow_concat, pathBelow_nil] at below

theorem isDataFile_eq {path : Path} (same : SameAt left right path) :
    isDataFile right path = isDataFile left path := by
  unfold isDataFile Tree.isFile Tree.isLink
  rw [same.leadsTo_eq, same.leadsTo_eq]

end Generation

/-! ## Templates -/

namespace Template

open Generation (SameBelow)

variable {engine : Engine}

theorem straight_of_namesOf? {name : String} {names : List String}
    (found : namesOf? name = some names) : ".." ∉ names := by
  unfold namesOf? at found
  dsimp only at found
  split at found
  · cases found
  · next straight =>
    cases found
    intro member
    have inside := (List.mem_filter.mp member).1
    exact straight (by simpa using inside)

theorem fileOf_eq (same : SameBelow left right engine.directory) (name : String) :
    fileOf right engine name = fileOf left engine name := by
  unfold fileOf
  cases found : namesOf? name with
  | none => rfl
  | some names =>
    have below : SameAt left right (pathBelow engine.directory names) :=
      same names (straight_of_namesOf? found)
    unfold pathBelow at below
    dsimp only
    rw [below.find_eq]

/-- The file of a template lies below the directory of the templates. -/
theorem sameAt_of_fileOf (same : SameBelow left right engine.directory) {name : String}
    {path : Path} (found : fileOf left engine name = .ok path) : SameAt left right path := by
  unfold fileOf at found
  cases known : namesOf? name with
  | none =>
    rw [known] at found
    cases found
  | some names =>
    rw [known] at found
    dsimp only at found
    split at found
    · cases found
      exact same names (straight_of_namesOf? known)
    · cases found

theorem readTemplate_eq (same : SameBelow left right engine.directory) (name : String) :
    readTemplate right engine name = readTemplate left engine name := by
  unfold readTemplate
  rw [fileOf_eq same]
  cases found : fileOf left engine name with
  | error fault => rfl
  | ok path =>
    have below := sameAt_of_fileOf same found
    dsimp only [bind, Except.bind]
    unfold sourceOf
    rw [below.read_eq, below.stamp?_eq]

theorem isCurrent_eq (same : SameBelow left right engine.directory) (name : String)
    (loaded : LoadedTemplate) :
    isCurrent right engine name loaded = isCurrent left engine name loaded := by
  unfold isCurrent
  rw [fileOf_eq same]
  cases found : fileOf left engine name with
  | error fault => rfl
  | ok path =>
    dsimp only
    rw [(sameAt_of_fileOf same found).stamp?_eq]

theorem loadTemplate_eq (same : SameBelow left right engine.directory) :
    loadTemplate right engine = loadTemplate left engine := by
  funext name
  unfold loadTemplate
  simp only [isCurrent_eq same, readTemplate_eq same]

theorem renderTemplate_eq (same : SameBelow left right engine.directory) :
    renderTemplate right engine = renderTemplate left engine := by
  funext place model
  unfold renderTemplate Engine.outside
  rw [loadTemplate_eq same]

end Template

namespace Engine

open Generation (SameBelow)

variable {engine : Template.Engine}

theorem blind_load (same : SameBelow left right engine.directory) (name : String) :
    Blind left right (load engine name) := by
  rintro world other ⟨rfl, rfl⟩
  unfold load
  dsimp only
  rw [Template.loadTemplate_eq same]
  exact Blind.onMachine _ _ _ ⟨rfl, rfl⟩

theorem blind_render (same : SameBelow left right engine.directory) (place : Nat)
    (model : Value) : Blind left right (render engine place model) := by
  rintro world other ⟨rfl, rfl⟩
  unfold render
  dsimp only
  rw [Template.renderTemplate_eq same]
  exact Blind.onMachine _ _ _ ⟨rfl, rfl⟩

theorem blind_setUp (directory : Path) (version : String) (delimiters : Template.Delimiters) :
    Blind left right (setUp directory version delimiters) := by
  refine .bind (.lift _) fun _ => .bind (.detail _) fun _ => ?_
  split
  · exact .bind (.fail _) fun _ => .bind (.onMachine _) fun _ => .pure _
  · exact .bind (.onMachine _) fun _ => .pure _

end Engine

/-! ## Tasks -/

namespace Draft

theorem blind_add (draft : Draft) (key value : Value) :
    Blind left right (draft.add key value) := by
  refine .bind ?_ fun draft => .bind (.onMachine _) fun _ => .pure _
  unfold withModel
  split
  · exact .bind (.onMachine _) fun _ => .pure _
  · exact .pure _

theorem blind_require (part : Value) (problem : Misconfiguration) :
    Blind left right (require part problem) := by
  unfold require
  split
  · exact .throw _
  · exact .pure _

theorem blind_create (draft : Draft) : Blind left right draft.create := by
  refine .bind (blind_require _ _) fun _ => .bind (blind_require _ _) fun _ =>
    .bind (blind_require _ _) fun _ => .bind (blind_require _ _) fun _ =>
    .bind (blind_require _ _) fun _ => .bind .heap fun heap => ?_
  split
  · exact .fail _
  · split
    · exact .fail _
    · exact .onMachine _

theorem heedless_add (draft : Draft) (key value : Value) : Heedless (draft.add key value) := by
  refine .bind ?_ fun draft => .bind (.onMachine _) fun _ => .pure _
  unfold withModel
  split
  · exact .bind (.onMachine _) fun _ => .pure _
  · exact .pure _

theorem heedless_require (part : Value) (problem : Misconfiguration) :
    Heedless (require part problem) := by
  unfold require
  split
  · exact .throw _
  · exact .pure _

theorem heedless_create (draft : Draft) : Heedless draft.create := by
  refine .bind (heedless_require _ _) fun _ => .bind (heedless_require _ _) fun _ =>
    .bind (heedless_require _ _) fun _ => .bind (heedless_require _ _) fun _ =>
    .bind (heedless_require _ _) fun _ => .bind .heap fun heap => ?_
  split
  · exact .fail _
  · split
    · exact .fail _
    · exact .onMachine _

end Draft

namespace Reader

variable {path : Path}

theorem readDocument_eq (same : SameAt left right path) (heap : Heap) :
    readDocument right heap path = readDocument left heap path := by
  unfold readDocument
  rw [same.read_eq]

theorem blind_documentEntries (same : SameAt left right path) :
    Blind left right (documentEntries path) := by
  rintro world other ⟨rfl, rfl⟩
  unfold documentEntries
  rw [bind_apply_of_ok (get_apply _), bind_apply_of_ok (get_apply _)]
  dsimp only
  rw [readDocument_eq same]
  cases readDocument world.files world.machine.heap path with
  | error fault => exact .error ⟨rfl, rfl, rfl⟩
  | ok found =>
    obtain ⟨value, heap⟩ := found
    dsimp only
    rw [bind_apply_of_ok (set_apply _ _), bind_apply_of_ok (set_apply _ _)]
    cases value with
    | none => exact .ok ⟨rfl, rfl⟩
    | dict ref => exact .ok ⟨rfl, rfl⟩
    | _ => exact .error ⟨rfl, rfl, rfl⟩

theorem blind_addEntries (draft : Draft) (entries : List (Value × Value)) :
    Blind left right (addEntries draft entries) := by
  induction entries generalizing draft with
  | nil => exact .pure _
  | cons entry rest ih =>
    exact .bind .heap fun heap => .bind (.lift _) fun name =>
      .bind (draft.blind_add _ _) fun later => ih later

/-- The library's own readers look at the data file only. -/
theorem IsOwn.blind_contribute {reader : Reader} (isOwn : reader.IsOwn)
    (same : SameAt left right path) (draft : Draft) :
    Blind left right (reader.contribute path draft) := by
  cases reader with
  | entity => exact .bind (.lift _) fun name => draft.blind_add _ _
  | yaml =>
    exact .bind (blind_documentEntries same) fun entries =>
      .bind (draft.blind_add _ _) fun draft => .bind (blind_addEntries draft entries) fun _ =>
        .bind (.detail _) fun _ => .pure _
  | plugin custom => exact isOwn.elim

theorem heedless_documentEntries (path : Path) : Heedless (documentEntries path) := by
  intro world notices entries after ended
  refine ⟨notices, ?_⟩
  unfold documentEntries at ended ⊢
  rw [bind_apply_of_ok (get_apply _)] at ended ⊢
  dsimp only at ended ⊢
  cases read : readDocument world.files world.machine.heap path with
  | error fault =>
    rw [read] at ended
    cases ended
  | ok found =>
    obtain ⟨value, heap⟩ := found
    rw [read] at ended
    dsimp only at ended ⊢
    rw [bind_apply_of_ok (set_apply _ _)] at ended ⊢
    cases value <;> cases ended <;> rfl

theorem heedless_addEntries (draft : Draft) (entries : List (Value × Value)) :
    Heedless (addEntries draft entries) := by
  induction entries generalizing draft with
  | nil => exact .pure _
  | cons entry rest ih =>
    exact .bind .heap fun heap => .bind (.lift _) fun name =>
      .bind (draft.heedless_add _ _) fun later => ih later

theorem IsOwn.heedless_contribute {reader : Reader} (isOwn : reader.IsOwn) (path : Path)
    (draft : Draft) : Heedless (reader.contribute path draft) := by
  cases reader with
  | entity => exact .bind (.lift _) fun name => draft.heedless_add _ _
  | yaml =>
    exact .bind (heedless_documentEntries path) fun entries =>
      .bind (draft.heedless_add _ _) fun draft => .bind (heedless_addEntries draft entries) fun _ =>
        .bind (.detail _) fun _ => .pure _
  | plugin custom => exact isOwn.elim

end Reader

theorem Registry.blind_extend (modules : List Module) (table : Table)
    (references : List (String × String)) : Blind left right (extend modules table references) := by
  induction references generalizing table with
  | nil => exact .pure _
  | cons reference rest ih =>
    unfold extend
    split
    · exact .bind (.throw _) fun _ => .bind (.lift _) fun _ => .bind (.detail _) fun _ => ih _
    · exact .bind (.lift _) fun _ => .bind (.detail _) fun _ => ih _

namespace Generation

variable {generation : Generation} {path : Path}

theorem blind_requireFolder (same : SameAt left right path) (label : String) :
    Blind left right (requireFolder path label) := by
  refine .bind (.askFiles (same.leadsTo_eq true _)) fun isThere => ?_
  split
  · exact .throw _
  · exact .pure _

theorem blind_setUp {session : Session}
    (same : ∀ project ∈ session.projects, SameAt left right project.descriptor)
    (engine : Template.Engine) (readers : Registry.Table) (templateFolder outputFolder : Path)
    (fileMode : Int) :
    Blind left right (setUp engine session readers templateFolder outputFolder fileMode) := by
  refine .bind (.onMachine _) fun properties => .get_bind (fun world files => ?_) fun _ =>
    .bind .machine fun _ => .pure _
  rw [files]
  dsimp only
  rw [Session.lastModified_eq same]

theorem blind_makeTask (readers : generation.readers.IsOwn)
    (leftSound : left.Sound) (rightSound : right.Sound)
    (templates : SameIn left right generation.templateFolder)
    (same : SameAt left right path) : Blind left right (generation.makeTask path) := by
  refine .bind (.bind (.askFiles (templates.listTemplates_eq leftSound rightSound)) fun _ =>
    .bind (.onMachine _) fun _ => .pure _) fun draft => ?_
  exact .lift_bind fun reader found =>
    .bind ((isOwn_of_readerFor readers found).blind_contribute same draft) fun draft =>
      .bind (draft.blind_add _ _) fun draft => .bind (.detail _) fun _ => draft.blind_create

theorem blind_taskFor (readers : generation.readers.IsOwn)
    (leftSound : left.Sound) (rightSound : right.Sound)
    (templates : SameIn left right generation.templateFolder)
    (same : SameAt left right path) : Blind left right (generation.taskFor path) :=
  .bind (.onMachine _) fun _ => blind_makeTask readers leftSound rightSound templates same

theorem heedless_makeTask (readers : generation.readers.IsOwn) (path : Path) :
    Heedless (generation.makeTask path) := by
  refine .bind (.bind (.askFiles _) fun _ => .bind (.onMachine _) fun _ => .pure _)
    fun draft => ?_
  exact .lift_bind fun reader found =>
    .bind ((isOwn_of_readerFor readers found).heedless_contribute path draft) fun draft =>
      .bind (draft.heedless_add _ _) fun draft => .bind (.detail _) fun _ => draft.heedless_create

end Generation

namespace Task

/-- Putting off a fault hides nothing and shows nothing. -/
theorem blind_postponed {α : Type} {act : Act α} (blind : Blind left right act) :
    Blind left right (postponed act) := by
  intro world other between
  have ended := blind world other between
  unfold postponed
  generalize act world = result at ended
  generalize act other = twin at ended
  cases ended with
  | ok related => exact .ok related
  | @error failure another state twin alike =>
    obtain ⟨rfl, related⟩ := alike
    cases failure with
    | unforeseen fault => exact .ok related
    | _ => exact .error ⟨rfl, related⟩

theorem blind_content {task : Task} {engine : Template.Engine}
    (same : Generation.SameBelow left right engine.directory) (template : Nat) :
    Blind left right (task.content engine template) := by
  refine .bind (.onMachine _) fun _ => .bind (Engine.blind_render same _ _) fun text => ?_
  split
  · exact .pure _
  · exact .fail _

end Task

end Stencil

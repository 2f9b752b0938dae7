import Stencil.Proofs.Generation.Listing
import Stencil.Proofs.Task.Failure
import Stencil.Proofs.Template.Resolving
import Stencil.Proofs.Text.Split

/-!
# Templates that are listed and templates that are found

A generation takes every entry of the directory of templates for a template, whatever it
is.  The engine looks for it there again, under its name, and takes regular files only.
Both mean the same entry.  So the template of a file is found whatever its name is, and can
only be refused for what is in the file; anything else is not found, and no task that comes
to it gets past it.
-/

namespace Stencil

open Outcome

namespace Template

/-! ## The file of a template -/

/-- The name of an entry stands for itself. -/
theorem namesOf?_of_isName {name : String} (isName : Files.IsName name)
    (straight : '/' ∉ name.toList) : namesOf? name = some [name] := by
  have split : Stencil.Text.splitString '/' name = [name] := by
    unfold Stencil.Text.splitString
    rw [Stencil.Text.pieces_of_not_mem straight]
    simp
  unfold namesOf?
  rw [split]
  simp [isName.nonempty, isName.notHere, Ne.symm isName.notAround]

/-- What a template is refused with that is not found. -/
def notFoundText (engine : Engine) (name : String) : String :=
  Stencil.Text.quote name ++ " not found in search path: " ++
    Stencil.Text.quote engine.directory.text

/-- The engine looks at the very entry that the name stands for in its directory. -/
theorem fileOf_of_isName (files : Files.Tree) (engine : Engine) {name : String}
    (isName : Files.IsName name) (straight : '/' ∉ name.toList) :
    fileOf files engine name =
      match files.find true (engine.directory.child name) with
      | .ok (.file _) => .ok (engine.directory.child name)
      | _ => .error (.templateNotFound (notFoundText engine name)) := by
  unfold fileOf
  rw [namesOf?_of_isName isName straight]
  rfl

theorem stamp?_of_file {files : Files.Tree} {path : Path} {content : Files.FileContent}
    (regular : files.find true path = .ok (.file content)) :
    files.stamp? path = some content.stamp := by
  unfold Files.Tree.stamp?
  rw [regular]

/-- Reading the template of a file is decoding and compiling what the file holds. -/
theorem readTemplate_of_file {files : Files.Tree} {engine : Engine} {name : String}
    {content : Files.FileContent} {path : Path} (found : fileOf files engine name = .ok path)
    (regular : files.find true path = .ok (.file content)) :
    readTemplate files engine name =
      match Stencil.Text.decode? content.bytes with
      | none => .error .undecodable
      | some source => do
        return ⟨← compile engine.delimiters name source, content.stamp, none⟩ := by
  have bytes : files.read path = .ok content.bytes := by
    unfold Files.Tree.read
    rw [regular]
  unfold readTemplate sourceOf
  rw [found]
  dsimp only [bind, Except.bind]
  rw [bytes, stamp?_of_file regular]
  dsimp only
  cases Stencil.Text.decode? content.bytes <;> rfl

end Template

namespace Engine

open Fault (OfSource)
open Template (compile fileOf isCurrent loadTemplate notFoundText readTemplate)

/-! ## Loading -/

/--
A template that is loaded was loaded before and is current, or it has been read.  Then
neither the tree nor any container that data models are made of has changed.
-/
theorem load_ok {engine : Template.Engine} {name : String} {world after : World} {place : Nat}
    (loads : load engine name world = .ok place after) :
    (after = world ∧ ∃ loaded,
        world.machine.loaded.lookup (engine.number, name) = some place ∧
          world.machine.templates[place]? = some loaded ∧
          isCurrent world.files engine name loaded = true) ∨
      (after = { world with machine := after.machine } ∧
        after.machine.heap = world.machine.heap ∧ ∃ loaded,
          readTemplate world.files engine name = .ok loaded ∧
          after.machine.templates[place]? = some loaded) := by
  obtain ⟨machine, ended, rfl⟩ := Act.onMachine_eq_ok_iff.mp loads
  unfold loadTemplate at ended
  rw [bind_apply_of_ok (get_apply _)] at ended
  dsimp only at ended
  generalize remembered : Option.bind _ _ = known at ended
  cases known with
  | some known =>
    cases ended
    obtain ⟨place, entered, kept⟩ := Option.bind_eq_some_iff.mp remembered
    split at kept
    · next loaded stored =>
      split at kept
      · next current =>
        cases kept
        exact .inl ⟨rfl, loaded, entered, stored, current⟩
      · cases kept
    · cases kept
  | none =>
    cases read : readTemplate world.files engine name with
    | error fault =>
      rw [read] at ended
      cases ended
    | ok loaded =>
      rw [read] at ended
      cases ended
      exact .inr ⟨rfl, rfl, loaded, rfl, Array.getElem?_push_size⟩

/--
What loading the template of a file comes to.  It fails only for what the file holds: this
is no text, or the text is no template.
-/
inductive LoadsFile (engine : Template.Engine) (name : String) (content : Files.FileContent)
    (before : World) : EStateM.Result Failure World Nat → Prop
  | garbled (unread : Text.decode? content.bytes = none) :
      LoadsFile engine name content before (.error (.unforeseen .undecodable) before)
  | refused {source : List Char} {fault : Fault}
      (decoded : Text.decode? content.bytes = some source)
      (failed : compile engine.delimiters name source = .error fault)
      (ofSource : fault.OfSource) :
      LoadsFile engine name content before (.error (.unforeseen fault) before)
  | compiled {source : List Char} {program : Template.Program} {place : Nat} {after : World}
      (decoded : Text.decode? content.bytes = some source)
      (compiles : compile engine.delimiters name source = .ok program)
      (files : after.files = before.files)
      (stored : after.machine.templates[place]? = some ⟨program, content.stamp, none⟩) :
      LoadsFile engine name content before (.ok place after)
  | known {place : Nat} {loaded : Template.LoadedTemplate}
      (remembered : before.machine.loaded.lookup (engine.number, name) = some place)
      (stored : before.machine.templates[place]? = some loaded)
      (current : loaded.stamp = content.stamp) :
      LoadsFile engine name content before (.ok place before)

section Files

variable {engine : Template.Engine} {name : String} {world : World}

/-- The template of a file is loaded unless the file holds none. -/
theorem loadsFile_of_file {content : Files.FileContent} (isName : Files.IsName name)
    (straight : '/' ∉ name.toList)
    (regular : world.files.find true (engine.directory.child name) = .ok (.file content)) :
    LoadsFile engine name content world (load engine name world) := by
  have found : fileOf world.files engine name = .ok (engine.directory.child name) := by
    rw [Template.fileOf_of_isName _ _ isName straight, regular]
  have reading := Template.readTemplate_of_file found regular
  cases ended : load engine name world with
  | error failure after =>
    obtain ⟨rfl, fault, rfl, unread⟩ := load_error ended
    rw [reading] at unread
    split at unread
    · next undecodable =>
      cases unread
      exact .garbled undecodable
    · next source decoded =>
      cases compiled : compile engine.delimiters name source with
      | ok program =>
        rw [compiled] at unread
        cases unread
      | error fault =>
        rw [compiled] at unread
        cases unread
        exact .refused decoded compiled (Template.failsOnly_compile _ _ _ _ compiled)
  | ok place after =>
    rcases load_ok ended with
      ⟨rfl, loaded, remembered, stored, current⟩ | ⟨same, -, loaded, read, stored⟩
    · refine .known remembered stored ?_
      unfold isCurrent at current
      rw [found] at current
      dsimp only at current
      rw [Template.stamp?_of_file regular] at current
      exact (Option.some.inj (eq_of_beq current)).symm
    · rw [reading] at read
      split at read
      · cases read
      · next source decoded =>
        obtain ⟨program, compiles, made⟩ := except_bind_eq_ok_iff.mp read
        cases made
        exact .compiled decoded compiles (by rw [same]) stored

/-- What is no file is not found, even where a file of that name was loaded before. -/
theorem load_of_no_file (isName : Files.IsName name) (straight : '/' ∉ name.toList)
    (other : ∀ content,
      world.files.find true (engine.directory.child name) ≠ .ok (.file content)) :
    load engine name world =
      .error (.unforeseen (.templateNotFound (notFoundText engine name))) world := by
  have missing : fileOf world.files engine name =
      .error (.templateNotFound (notFoundText engine name)) := by
    rw [Template.fileOf_of_isName _ _ isName straight]
    split
    · next content regular => exact absurd regular (other content)
    · rfl
  have unread : readTemplate world.files engine name =
      .error (.templateNotFound (notFoundText engine name)) := by
    unfold readTemplate
    rw [missing]
    rfl
  cases ended : load engine name world with
  | error failure after =>
    obtain ⟨rfl, fault, rfl, failed⟩ := load_error ended
    rw [unread] at failed
    cases failed
    rfl
  | ok place after =>
    rcases load_ok ended with ⟨rfl, loaded, -, -, current⟩ | ⟨-, -, loaded, read, -⟩
    · unfold isCurrent at current
      rw [missing] at current
      cases current
    · rw [unread] at read
      cases read

end Files

end Engine

namespace Generation

open Engine (LoadsFile)
open Files (Tree)
open Template (notFoundText)

/-! ## Entries of the directory of templates -/

/-- Whatever is listed for a template is a name in the directory. -/
theorem child_of_mem_listTemplates {files : Tree} (sound : files.Sound) {folder template : Path}
    {templates : List Path} (listed : listTemplates files folder = .ok templates)
    (member : template ∈ templates) :
    Files.IsName template.name ∧ template = folder.child template.name := by
  rcases listTemplates_ok listed with ⟨trail, place, -, rfl⟩ | ⟨-, rfl⟩
  · obtain ⟨name, among, rfl⟩ := List.mem_map.mp member
    rw [Path.name_child]
    exact ⟨isName_of_mem_childNames sound among, rfl⟩
  · cases member

/--
A listed template is one that the engine of the same directory finds, if it is a file: its
loading can only fail for what this very file holds.  A listed entry that is no file, such
as a directory, is not found, and a task that attempts to render it fails with just that.
-/
theorem listed_loads {engine : Template.Engine} {world : World} {templates : List Path}
    {template : Path} (sound : world.files.Sound)
    (listed : listTemplates world.files engine.directory = .ok templates)
    (member : template ∈ templates) (straight : '/' ∉ template.name.toList) :
    (∀ content, world.files.find true template = .ok (.file content) →
      LoadsFile engine template.name content world (Engine.load engine template.name world)) ∧
    ((∀ content, world.files.find true template ≠ .ok (.file content)) →
      Engine.load engine template.name world =
          .error (.unforeseen (.templateNotFound (notFoundText engine template.name))) world ∧
        ∀ (task : Task) (name : String),
          task.Attempts world.files template (task.folder.child name) →
          task.generateOne engine template (task.folder.child name) world =
            .error (.templateLoad template.name
              (.templateNotFound (notFoundText engine template.name))) world) := by
  obtain ⟨isName, same⟩ := child_of_mem_listTemplates sound listed member
  constructor
  · intro content regular
    rw [same] at regular
    exact Engine.loadsFile_of_file isName straight regular
  · intro other
    rw [same] at other
    have missing := Engine.load_of_no_file isName straight other
    refine ⟨missing, fun task name attempts => Task.Breaks.generateOne_eq ?_⟩
    obtain ⟨-, fault, same, unread⟩ := Engine.load_error missing
    cases same
    exact .load attempts unread missing

/-- A template beside a directory of helpers, and a data file. -/
def partsFiles : Tree where
  entries := [
    (["data"], .directory),
    (["data", "Oak.json"], .file ⟨ByteArray.empty, 0o644, 0, 0⟩),
    (["pyproject.toml"], .file ⟨ByteArray.empty, 0o644, 0, 0⟩),
    (["templates"], .directory),
    (["templates", "Bean"], .file ⟨"class".toUTF8, 0o644, 0, 0⟩),
    (["templates", "parts"], .directory)]
  here := []

theorem sound_partsFiles : partsFiles.Sound :=
  .of_entries (by decide +kernel) (by decide +kernel) rfl fun _ => Files.marked_spareMark

/-- The directory of helpers, which is listed among the templates. -/
def partsPath : Path := .ofString "templates/parts"

theorem listed_loads_partsFiles :
    partsFiles.Sound ∧
      listTemplates partsFiles (.ofString "templates") =
        .ok [.ofString "templates/Bean", partsPath] ∧
      LoadsFile Task.plainEngine "Bean" ⟨"class".toUTF8, 0o644, 0, 0⟩ { files := partsFiles }
        (Engine.load Task.plainEngine "Bean" { files := partsFiles }) ∧
      Engine.load Task.plainEngine "parts" { files := partsFiles } =
        .error (.unforeseen (.templateNotFound (notFoundText Task.plainEngine "parts")))
          { files := partsFiles } := by
  have listed : listTemplates partsFiles Task.plainEngine.directory =
      .ok [.ofString "templates/Bean", partsPath] := by
    decide +kernel
  have other : ∀ content, partsFiles.find true partsPath ≠ .ok (.file content) := by
    have directory : partsFiles.find true partsPath = .ok .directory := by decide +kernel
    intro content regular
    rw [directory] at regular
    cases regular
  have bean := @listed_loads Task.plainEngine { files := partsFiles } _ _ sound_partsFiles listed
    (List.mem_cons_self ..) (by decide +kernel)
  have parts := @listed_loads Task.plainEngine { files := partsFiles } _ _ sound_partsFiles listed
    (List.mem_cons_of_mem _ (List.mem_singleton_self _)) (by decide +kernel)
  exact ⟨sound_partsFiles, listed, bean.1 _ (by decide +kernel), (parts.2 other).1⟩

/-- A directory beside the templates is listed, but not found, and a run fails with that. -/
theorem not_found_partsFiles :
    partsFiles.Sound ∧
      listTemplates partsFiles (.ofString "templates") =
        .ok [.ofString "templates/Bean", partsPath] ∧
      fault? (Engine.load Task.plainEngine partsPath.name { files := partsFiles }) =
        some (.unforeseen (.templateNotFound (notFoundText Task.plainEngine "parts"))) ∧
      fault? (run Registry.ownModules plainSettings plainSession { files := partsFiles }) =
        some (.templateLoad "parts"
          (.templateNotFound "'parts' not found in search path: 'templates'")) :=
  ⟨sound_partsFiles, by decide +kernel, by decide +kernel, by decide +kernel⟩

end Generation

end Stencil

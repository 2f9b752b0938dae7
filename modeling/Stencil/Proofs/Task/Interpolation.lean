import Stencil.Proofs.Files.Acceptance
import Stencil.Proofs.Generation.TemplateFiles
import Stencil.Proofs.Task.Rendering
import Stencil.Proofs.Template.InterpolationRendering

/-!
# Outputs of text with references

A task comes to an output whose template is plain: literal text, with references to names in
it.  Its data model holds texts.  What is written is then the literal text with the texts of
the names in between, as they are, and nothing is written where nobody knows a name.

The parts of this are known.  The engine loads what the text of the template compiles to,
rendering it gives a text or a fault whatever the tree is, and the write of an output is
that of the stored form of what is rendered.
-/

namespace Stencil

open Outcome
open Files (Change Tree)
open Template (Interpolated compile givenValue? modelEntries undefinedFault)

/-- The name of an output is at least as long as its ending. -/
theorem Naming.le_length_outputName (dataFile template : Path) :
    5 ≤ (Naming.outputName dataFile template).length := by
  have ending : Naming.outputEnding.length = 5 := rfl
  rw [Naming.outputName, String.length_append, ending]
  exact Nat.le_add_left ..

namespace Engine

/-! ## Loading -/

/-- Loading a template changes no container that data models are made of. -/
theorem heap_of_load {engine : Template.Engine} {name : String} {world after : World}
    {place : Nat} (loads : load engine name world = .ok place after) :
    after = { world with machine := after.machine } ∧
      after.machine.heap = world.machine.heap := by
  rcases load_ok loads with ⟨rfl, -⟩ | ⟨same, heap, -⟩
  · exact ⟨rfl, rfl⟩
  · exact ⟨same, heap⟩

/-- What an engine remembers of a template as current was compiled from this text. -/
def Remembers (engine : Template.Engine) (name : String) (content : Files.FileContent)
    (source : List Char) (machine : Template.Machine) : Prop :=
  ∀ place loaded, machine.loaded.lookup (engine.number, name) = some place →
    machine.templates[place]? = some loaded → loaded.stamp = content.stamp →
    compile engine.delimiters name source = .ok loaded.program

/-- The template of a file with a program is loaded. -/
theorem load_of_compile {engine : Template.Engine} {name : String} {world : World}
    {content : Files.FileContent} {source : List Char} {program : Template.Program}
    (isName : Files.IsName name) (straight : '/' ∉ name.toList)
    (regular : world.files.find true (engine.directory.child name) = .ok (.file content))
    (decoded : Text.decode? content.bytes = some source)
    (compiles : compile engine.delimiters name source = .ok program)
    (remembers : Remembers engine name content source world.machine) :
    ∃ place machine loaded, load engine name world = .ok place { world with machine } ∧
      machine.heap = world.machine.heap ∧ machine.templates[place]? = some loaded ∧
      loaded.program = program := by
  have loading := loadsFile_of_file isName straight regular
  cases ended : load engine name world with
  | error failure after =>
    rw [ended] at loading
    cases loading with
    | garbled unread =>
      rw [decoded] at unread
      cases unread
    | refused again failed =>
      rw [decoded] at again
      cases again
      rw [compiles] at failed
      cases failed
  | ok place after =>
    obtain ⟨same, heap⟩ := heap_of_load ended
    rw [ended] at loading
    refine ⟨place, after.machine, ?_⟩
    rw [← same]
    cases loading with
    | compiled again compiled files stored =>
      rw [decoded] at again
      cases again
      rw [compiles] at compiled
      cases compiled
      exact ⟨_, rfl, heap, stored, rfl⟩
    | known remembered stored current =>
      have kept := remembers place _ remembered stored current
      rw [compiles] at kept
      cases kept
      exact ⟨_, rfl, heap, stored, rfl⟩

end Engine

namespace Task

variable {task : Task} {engine : Template.Engine} {template output : Path} {world : World}

/-! ## Writing what is rendered -/

/-- On every tree rendering gives this text, or fails with this fault. -/
def RendersTo (task : Task) (engine : Template.Engine) (place : Nat)
    (machine : Template.Machine) : Except Fault (List Char) → Prop
  | .ok text => ∀ files, ∃ after, Template.renderTemplate files engine place task.model
      { machine with storesOutput := true } = .ok (Text.ofChars text) after
  | .error fault => ∀ files, ∃ after, Template.renderTemplate files engine place task.model
      { machine with storesOutput := true } = .error fault after

section Writing

variable {place : Nat} {result : Except Fault (List Char)}

/-- The content of an output is the stored form of what is rendered. -/
theorem RendersTo.content (renders : task.RendersTo engine place world.machine result) :
    ∃ machine, postponed (task.content engine place) world =
      .ok (result.map Text.encodeChars) { world with machine } := by
  let told : World := { world with machine := { world.machine with storesOutput := true } }
  have telling : Act.onMachine (modify fun machine => { machine with storesOutput := true })
      world = .ok ⟨⟩ told := rfl
  cases result with
  | ok text =>
    obtain ⟨machine, rendered⟩ := renders world.files
    have rendering : Engine.render engine place task.model told =
        .ok (Text.ofChars text) { world with machine } :=
      Act.onMachine_eq_ok_iff.mpr ⟨machine, rendered, rfl⟩
    have stored : Change.storedPieces [Text.ofChars text] none = .ok (Text.encodeChars text) := by
      refine Change.storedPieces_eq_ok_iff.mpr ⟨rfl, ?_⟩
      rw [List.flatten_singleton, Text.encode?, Text.chars?_ofChars]
      rfl
    have given : task.content engine place world =
        .ok (Text.encodeChars text) { world with machine } := by
      refine (bind_apply_of_ok telling).trans ((bind_apply_of_ok rendering).trans ?_)
      rw [stored]
      rfl
    exact ⟨machine, postponed_eq_ok_iff.mpr (.inl ⟨_, rfl, given⟩)⟩
  | error fault =>
    obtain ⟨machine, failed⟩ := renders world.files
    have rendering : Engine.render engine place task.model told =
        .error (.unforeseen fault) { world with machine } := by
      show Act.onMachine (Template.renderTemplate world.files engine place task.model) told = _
      rw [Act.onMachine_apply, failed]
    have given : task.content engine place world =
        .error (.unforeseen fault) { world with machine } :=
      (bind_apply_of_ok telling).trans (bind_apply_of_error rendering)
    exact ⟨machine, postponed_eq_ok_iff.mpr (.inr ⟨fault, rfl, given⟩)⟩

/-- Writing an output is writing the stored form of what is rendered. -/
theorem RendersTo.write (renders : task.RendersTo engine place world.machine result)
    (output : Path) :
    ∃ machine, task.write engine place output world =
      match Change.writeFile output task.mode (result.map Text.encodeChars) world.files with
      | .ok _ files => .ok ⟨⟩ { world with files, machine }
      | .error fault files => .error (.unforeseen fault) { world with files, machine } := by
  cases started : Change.startFile output world.files with
  | error fault left =>
    refine ⟨world.machine, ?_⟩
    have refused : Change.writeFile output task.mode (result.map Text.encodeChars) world.files =
        .error fault left := bind_apply_of_error started
    rw [refused]
    refine bind_apply_of_error ?_
    rw [Act.onFiles_apply, started]
  | ok spare opened =>
    obtain ⟨machine, given⟩ :=
      @RendersTo.content task engine { world with files := opened } place result renders
    refine ⟨machine, ?_⟩
    have began : Act.onFiles (Change.startFile output) world =
        .ok spare { world with files := opened } := by
      rw [Act.onFiles_apply, started]
    have writes : Change.writeFile output task.mode (result.map Text.encodeChars) world.files =
        Change.finishFile output task.mode spare (result.map Text.encodeChars) opened :=
      bind_apply_of_ok started
    rw [writes]
    refine (bind_apply_of_ok began).trans ((bind_apply_of_ok given).trans ?_)
    rw [Act.onFiles_apply]
    dsimp only
    cases Change.finishFile output task.mode spare (result.map Text.encodeChars) opened <;> rfl

/-- What becomes of an output is what becomes of writing the stored form of its rendering. -/
theorem RendersTo.generateOne {name : String} {machine : Template.Machine}
    (renders : task.RendersTo engine place machine result)
    (attempts : task.Attempts world.files template (task.folder.child name))
    (free : ¬task.IsBlocked world.files)
    (loads : Engine.load engine template.name world = .ok place { world with machine }) :
    match Change.writeFile (task.folder.child name) task.mode (result.map Text.encodeChars)
      world.files with
    | .ok _ files => ∃ after, after.files = files ∧
        task.generateOne engine template (task.folder.child name) world = .ok true after
    | .error fault files => ∃ after, after.files = files ∧
        task.generateOne engine template (task.folder.child name) world =
          .error (.render task.source fault) after := by
  obtain ⟨finish, writing⟩ := @RendersTo.write task engine { world with machine } place result
    renders (task.folder.child name)
  rw [generateOne_of_load attempts loads,
    bind_apply_of_ok (attempts.checkFolder_of_load loads free)]
  cases written : Change.writeFile (task.folder.child name) task.mode
      (result.map Text.encodeChars) world.files with
  | ok nothing files =>
    dsimp only at writing ⊢
    rw [written] at writing
    rw [bind_apply_of_ok (Act.naming_eq_ok_iff.mpr writing)]
    exact ⟨_, rfl, rfl⟩
  | error fault files =>
    dsimp only at writing ⊢
    rw [written] at writing
    refine ⟨{ world with files, machine := finish }, rfl, bind_apply_of_error ?_⟩
    rw [Act.naming_apply, writing]

end Writing

/-! ## Outputs in a row -/

/-- Outputs in a row are generated one part after the other. -/
theorem generateAll_append {front back : List (Path × Path)} {outputs others : List Path}
    {middle last : World} (first : task.generateAll engine front world = .ok outputs middle)
    (rest : task.generateAll engine back middle = .ok others last) :
    task.generateAll engine (front ++ back) world = .ok (outputs ++ others) last := by
  induction front generalizing world outputs with
  | nil =>
    cases first
    exact rest
  | cons pair front ih =>
    obtain ⟨template, output⟩ := pair
    obtain ⟨isWritten, next, here, more⟩ := bind_eq_ok_iff.mp first
    obtain ⟨found, _, further, collected⟩ := bind_eq_ok_iff.mp more
    cases collected
    refine (bind_apply_of_ok here).trans ((bind_apply_of_ok (ih further)).trans ?_)
    cases isWritten <;> rfl

/-! ## Plain templates -/

/--
An output is due whose template is plain, and whose data model holds texts.  The engine has
the default marks, and has not loaded the template from another text.
-/
structure Interpolates (task : Task) (engine : Template.Engine) (template output : Path)
    (world : World) (text : Interpolated) (model : List (Text × List Char)) : Prop where
  sound : world.files.Sound
  attempts : task.Attempts world.files template output
  free : ¬task.IsBlocked world.files
  marks : engine.delimiters = .default
  isName : Files.IsName template.name
  single : '/' ∉ template.name.toList
  stored : ∃ content,
    world.files.find true (engine.directory.child template.name) = .ok (.file content) ∧
      Text.decode? content.bytes = some text.source ∧
      Engine.Remembers engine template.name content text.source world.machine
  isPlain : text.IsPlain
  given : ∃ ref, task.model = .dict ref ∧
    world.machine.heap.entries ref = modelEntries model
  distinct : (model.map Prod.fst).Nodup

section Interpolates

variable {text : Interpolated} {model : List (Text × List Char)}

/-- What rendering a plain template on a data model of texts comes to for a task. -/
theorem Interpolates.renders
    (interpolates : task.Interpolates engine template output world text model) :
    ∃ place machine,
      Engine.load engine template.name world = .ok place { world with machine } ∧
      ((∀ name ∈ text.names, (model.lookup (Text.ofString name)).isSome) →
        task.RendersTo engine place machine (.ok (text.unified.rendered model))) ∧
      ∀ missing, text.unknown? model = some missing →
        task.RendersTo engine place machine (.error (undefinedFault missing)) := by
  obtain ⟨content, regular, decoded, remembers⟩ := interpolates.stored
  obtain ⟨ref, isModel, entries⟩ := interpolates.given
  obtain ⟨names, -, compiled⟩ := Template.compile_plain interpolates.isPlain template.name
  have compiles := compiled
  rw [← interpolates.marks] at compiles
  obtain ⟨place, machine, loaded, loads, heap, there, isProgram⟩ := Engine.load_of_compile
    interpolates.isName interpolates.single regular decoded compiles remembers
  rw [← isProgram] at compiled
  rw [← heap] at entries
  have rendering (files : Tree) := @Template.renderTemplate_plain files engine place
    template.name { machine with storesOutput := true } loaded text model ref
    interpolates.isPlain there compiled entries interpolates.distinct rfl
  refine ⟨place, machine, loads, fun known files => ?_, fun missing unknown files => ?_⟩
  · rw [isModel]
    exact (rendering files).1 known
  · rw [isModel]
    exact (rendering files).2 missing unknown

variable {front back : List (Path × Path)} {outputs : List Path} {start : World}

/--
Interpolation is a homomorphism on plain templates.  Where a task comes to an output with a
plain template, its data model holds texts and it knows all the names, the output is written
if its path accepts a file: with the literal text, its line ends unified, and the texts of the
names between, as they are.  Where nobody knows some name, the task fails with its data file,
and the output is spared; the cause is the first such name, once the file has been begun.
-/
theorem generate_interpolates (split : task.outputs = front ++ (template, output) :: back)
    (before : task.generateAll engine front start = .ok outputs world)
    (interpolates : task.Interpolates engine template output world text model) :
    ((∀ name ∈ text.names, (model.lookup (Text.ofString name)).isSome) →
      (Change.Accepts output task.mode world.files →
        ∃ after, task.generateAll engine (front ++ [(template, output)]) start =
            .ok (outputs ++ [output]) after ∧
          Change.Complete output task.mode (Text.encodeChars (text.unified.rendered model))
            world.files after.files) ∧
      (¬Change.Accepts output task.mode world.files →
        ∃ fault after, task.generate engine start = .error (.render task.source fault) after)) ∧
    ((∃ name ∈ text.names, model.lookup (Text.ofString name) = none ∧
        Template.standardNames.lookup name = none) →
      ∃ fault after, task.generate engine start = .error (.render task.source fault) after ∧
        Files.Spared output world.files after.files ∧
        ((∃ spare opened, Change.startFile output world.files = .ok spare opened) →
          (text.unknown? model).map undefinedFault = some fault)) := by
  obtain ⟨place, machine, loads, complete, broken⟩ := interpolates.renders
  have reaches : task.Reaches engine start template output world :=
    ⟨front, back, outputs, split, before⟩
  obtain rfl := reaches.output_eq
  have sound := interpolates.sound
  have fails {failure : Failure} {after : World}
      (failed : task.generateOne engine template
        (task.folder.child (Naming.outputName task.source template)) world =
          .error failure after) : task.generate engine start = .error failure after :=
    generateAll_eq_error_iff.mpr ⟨front, template, _, back, outputs, world, split, before, failed⟩
  refine ⟨fun known => ⟨fun accepts => ?_, fun refuses => ?_⟩, fun unknown => ?_⟩
  · obtain ⟨files, writes, isComplete⟩ := Change.writeFile_of_accepts sound accepts
      (Text.encodeChars (text.unified.rendered model))
    have generated := (complete known).generateOne interpolates.attempts interpolates.free loads
    rw [Except.map, writes] at generated
    obtain ⟨after, rfl, generated⟩ := generated
    exact ⟨after, generateAll_append before (bind_apply_of_ok generated), isComplete⟩
  · obtain ⟨fault, files, writes⟩ := Change.writeFile_of_not_accepts sound refuses
      (.ok (Text.encodeChars (text.unified.rendered model)))
    have generated := (complete known).generateOne interpolates.attempts interpolates.free loads
    rw [Except.map, writes] at generated
    obtain ⟨after, -, generated⟩ := generated
    exact ⟨fault, after, fails generated⟩
  · obtain ⟨missing, first⟩ : ∃ missing, text.unknown? model = some missing := by
      obtain ⟨name, among, noText, notStandard⟩ := unknown
      rw [← Option.isSome_iff_exists, Interpolated.unknown?, List.find?_isSome]
      refine ⟨name, among, ?_⟩
      rw [givenValue?, noText, notStandard]
      rfl
    have long := Naming.le_length_outputName task.source template
    have noDots : Naming.outputName task.source template ≠ "" ∧
        Naming.outputName task.source template ≠ "." ∧
        Naming.outputName task.source template ≠ ".." := by
      refine ⟨?_, ?_, ?_⟩ <;> intro same <;> rw [same] at long <;> revert long <;> decide
    obtain ⟨fault, files, writes, spared, cause⟩ := @Change.writeFile_of_fault task.folder _
      world.files (undefinedFault missing) sound noDots task.mode
    have generated := (broken missing first).generateOne interpolates.attempts
      interpolates.free loads
    rw [Except.map, writes] at generated
    obtain ⟨after, rfl, generated⟩ := generated
    refine ⟨fault, after, fails generated, spared, fun began => ?_⟩
    rw [first, cause began]
    rfl

end Interpolates

/-! ### A garden -/

/-- The template `class $${name} {}` with line breaks behind its last two braces. -/
def gardenTemplate : Files.FileContent :=
  ⟨"class $$\x7bname\x7d \x7b\r\n\x7d\n".toUTF8, 0o644, 0, 0⟩

/-- A tree with a data file and the template. -/
def gardenFiles : Tree where
  entries := [
    (["data"], .directory),
    (["data", "Oak.json"], .file ⟨ByteArray.empty, 0o644, 0, 0⟩),
    (["pyproject.toml"], .file ⟨ByteArray.empty, 0o644, 0, 0⟩),
    (["templates"], .directory),
    (["templates", "Bean"], .file gardenTemplate)]
  here := []

theorem sound_gardenFiles : gardenFiles.Sound :=
  .of_entries (by decide +kernel) (by decide +kernel) rfl fun _ => Files.marked_spareMark

/-- The task of the data file. -/
def gardenTask : Task where
  timestamp := 0
  source := .ofString "data/Oak.json"
  templates := [.ofString "templates/Bean"]
  folder := .ofString "out"
  model := .dict 0
  mode := defaultMode

/-- What the template consists of. -/
def gardenText : Interpolated :=
  ⟨"class $".toList, [("name", " \x7b\r\n\x7d\n".toList)]⟩

/-- The tree, and a machine that holds a data model of texts. -/
def gardenWorld (model : List (Text × List Char)) : World where
  files := gardenFiles
  machine := { heap := ⟨#[.dict (modelEntries model)]⟩ }

theorem interpolates_gardenTask {model : List (Text × List Char)}
    (distinct : (model.map Prod.fst).Nodup) :
    gardenTask.Interpolates plainEngine (.ofString "templates/Bean")
      (.ofString "out/Oak.jsonBean.java") (gardenWorld model) gardenText model where
  sound := sound_gardenFiles
  attempts := by
    refine ⟨fun overlong => ?_, fun passes => absurd passes.descriptors (by decide)⟩
    have missing : gardenFiles.has (.ofString "out/Oak.jsonBean.java") = .ok false := by
      decide +kernel
    exact nomatch missing.symm.trans (Files.has_eq_error_iff.mpr ⟨overlong, rfl⟩)
  free := by
    have missing : gardenFiles.has gardenTask.folder = .ok false := by decide +kernel
    rintro ⟨there, -⟩
    exact nomatch missing.symm.trans there
  marks := rfl
  isName := by decide +kernel
  single := by decide +kernel
  stored := by
    have regular : gardenFiles.find true (.ofString "templates/Bean") =
        .ok (.file gardenTemplate) := by
      decide +kernel
    exact ⟨gardenTemplate, regular, by decide +kernel, fun _ _ remembered => nomatch remembered⟩
  isPlain := ⟨by decide +kernel, by decide +kernel⟩
  given := ⟨0, rfl, rfl⟩
  distinct := distinct

/-- A data model that gives the name a text with marks and line ends. -/
def gardenModel : List (Text × List Char) :=
  [(.ofString "name", "$\x7bOak\x7d&\r\n".toList)]

theorem generate_interpolates_gardenTask :
    (∃ after,
      gardenTask.generateAll plainEngine gardenTask.outputs (gardenWorld gardenModel) =
        .ok [.ofString "out/Oak.jsonBean.java"] after ∧
      Change.Complete (.ofString "out/Oak.jsonBean.java") defaultMode
        (Text.encodeChars "class $$\x7bOak\x7d&\r\n \x7b\n\x7d\n".toList) gardenFiles after.files) ∧
    ∃ after,
      gardenTask.generate plainEngine (gardenWorld []) =
        .error (.render (.ofString "data/Oak.json") (undefinedFault "name")) after ∧
      Files.Spared (.ofString "out/Oak.jsonBean.java") gardenFiles after.files := by
  have split : gardenTask.outputs =
      [] ++ (.ofString "templates/Bean", .ofString "out/Oak.jsonBean.java") :: [] := by
    decide +kernel
  constructor
  · have interpolates := @interpolates_gardenTask gardenModel (List.nodup_singleton _)
    have complete := (generate_interpolates split rfl interpolates).1 (by decide +kernel)
    by_cases accepts :
        Change.Accepts (.ofString "out/Oak.jsonBean.java") gardenTask.mode gardenFiles
    · rw [split]
      exact complete.1 accepts
    · obtain ⟨fault, after, failed⟩ := complete.2 accepts
      obtain ⟨again, ended⟩ := exists_of_value?_eq_some (by decide +kernel :
        value? (gardenTask.generate plainEngine (gardenWorld gardenModel)) =
          some [.ofString "out/Oak.jsonBean.java"])
      exact nomatch ended.symm.trans failed
  · have interpolates := @interpolates_gardenTask [] List.nodup_nil
    obtain ⟨fault, after, failed, spared, cause⟩ := (generate_interpolates split rfl
      interpolates).2 ⟨"name", by decide +kernel, by decide +kernel⟩
    have begins : (value? (Change.startFile (.ofString "out/Oak.jsonBean.java")
        gardenFiles)).isSome := by
      decide +kernel
    obtain ⟨spare, known⟩ := Option.isSome_iff_exists.mp begins
    obtain ⟨opened, began⟩ := exists_of_value?_eq_some known
    have first : (gardenText.unknown? []).map undefinedFault = some (undefinedFault "name") := by
      decide +kernel
    cases first.symm.trans (cause ⟨spare, opened, began⟩)
    exact ⟨after, failed, spared⟩

end Task

end Stencil

import Stencil.Proofs.Command.Loading
import Stencil.Proofs.Generation.FailFast

/-!
# The footprint of a command

Whatever comes of a command on which no template changes files while it is rendered, it
changes the files only by making the directory of the outputs and putting outputs into it.  A
command that ends before that, since its arguments, the settings, the session or the
directories are not in order, changes nothing.
-/

namespace Stencil

open Outcome
open Files (Footprint Grown LeadsInto OpenFootprint Tree)

namespace Generation

/-! ## Runs -/

section WithRendering

variable [rendering : Rendering]

/--
The name of an output of a run: that of a data file that its walk reaches, with a template
that is listed for it.
-/
def RunName (modules : List Registry.Module) (settings : Settings) (session : Session)
    (world : World) (name : String) : Prop :=
  ∃ generation ready steps finish left,
    prepare modules settings session world = .ok generation ready ∧
    Runs generation ready [.folder settings.dataFolder] steps finish left ∧
    OutputName generation steps name

variable {modules : List Registry.Module} {settings : Settings} {session : Session}
  {world : World}

/-- A walk stays within the footprint of its outputs. -/
theorem footprint_walk_of_isQuiet [rendering.IsQuiet] {generation : Generation} {start : Tree}
    {ready : World} {root : Path}
    (readers : generation.readers.IsOwn)
    (grown : Grown generation.outputFolder start ready.files) :
    Footprint generation.outputFolder
      (fun name => ∃ steps finish rest,
        Runs generation ready [.folder root] steps finish rest ∧
          OutputName generation steps name)
      start (left (generation.walk root ready)).files := by
  cases walked : generation.walk root ready with
  | ok outputs after =>
    obtain ⟨steps, runs, -⟩ := walk_ok walked
    exact (runs.accounted readers grown).isOpen.footprint.weaken
      fun name isName => ⟨steps, after, [], runs, isName⟩
  | error failure after =>
    obtain ⟨steps, before, job, rest, runs, performed⟩ := walk_stops readers grown.sound walked
    have accounted := runs.accounted readers grown
    refine Footprint.weaken ?_ fun name isName => ⟨steps, before, job :: rest, runs, isName⟩
    rw [left_error]
    rcases perform_error readers accounted.isOpen.sound performed with ⟨same, -⟩ |
      ⟨task, template, output, cause, rfl, rfl, remains⟩
    · rw [same]
      exact accounted.isOpen.footprint
    · obtain ⟨outputEq, isName⟩ := (accounted.pending _ (List.mem_cons_self ..)).output
      exact remains.footprint accounted.isOpen
        (by rw [outputEq, Naming.parent_outputPath]) isName

theorem footprint_walk {generation : Generation} {start : Tree} {ready : World} {root : Path}
    (readers : generation.readers.IsOwn)
    (grown : Grown generation.outputFolder start ready.files)
    (quiet : generation.WalksQuietly root ready) :
    Footprint generation.outputFolder
      (fun name => ∃ steps finish rest,
        Runs generation ready [.folder root] steps finish rest ∧
          OutputName generation steps name)
      start (left (generation.walk root ready)).files := by
  rw [← quiet.walk_eq readers grown.sound]
  simp only [← quiet.alike.runs_iff]
  exact @footprint_walk_of_isQuiet rendering.quieted _ _ _ _ _ readers grown

/-- A run changes nothing unless its directories are there, and then makes its footprint. -/
theorem footprint_run (sound : world.files.Sound)
    (own : Registry.ResolvesOwn modules settings.extensions)
    (quiet : RunsQuietly modules settings session world) :
    (left (run modules settings session world)).files = world.files ∨
      ((∃ trail place, LeadsInto world.files settings.templateFolder trail place) ∧
        (∃ trail place, LeadsInto world.files settings.dataFolder trail place) ∧
        Footprint settings.outputFolder (RunName modules settings session world) world.files
          (left (run modules settings session world)).files) := by
  unfold run
  cases prepared : prepare modules settings session world with
  | error failure after =>
    rw [bind_apply_of_error prepared]
    rcases grown_prepare sound with same | ⟨templates, data, grown⟩
    · rw [prepared] at same
      exact .inl same
    · rw [prepared] at grown
      exact .inr ⟨templates, data, grown.openFootprint.footprint⟩
  | ok generation ready =>
    rw [bind_apply_of_ok prepared]
    have isPrepared := prepare_ok prepared
    have grown := grown_provideFolder sound settings.outputFolder
    rw [← isPrepared.files_eq, ← isPrepared.outputFolder] at grown
    refine .inr ⟨isPrepared.templates, isPrepared.data, ?_⟩
    rw [← isPrepared.outputFolder]
    apply (footprint_walk (isPrepared.isOwn own) grown (quiet generation ready prepared)).weaken
    intro name isName
    obtain ⟨steps, finish, rest, runs, isName⟩ := isName
    exact ⟨generation, ready, steps, finish, rest, prepared, runs, isName⟩

end WithRendering

end Generation

namespace Command

/-! ## Commands -/

variable {surroundings : Surroundings} {commandLine : List String} {world : World}

section WithRendering

variable [Rendering]

/--
Whatever comes of a command on which no template changes a file, the files are changed within
the footprint of its outputs, and not at all unless settings and session can be loaded and the
directories of the templates and of the data files are there.
-/
theorem run_footprint (sound : world.files.Sound)
    (own : ∀ settings session loaded,
      Loads surroundings commandLine world settings session loaded →
        Registry.ResolvesOwn surroundings.modules settings.extensions)
    (quiet : ∀ settings session loaded,
      Loads surroundings commandLine world settings session loaded →
        Generation.RunsQuietly surroundings.modules settings session loaded) :
    (run surroundings commandLine world).2.files = world.files ∨
      ∃ settings session loaded,
        Loads surroundings commandLine world settings session loaded ∧
        (∃ trail place, LeadsInto world.files settings.templateFolder trail place) ∧
        (∃ trail place, LeadsInto world.files settings.dataFolder trail place) ∧
        Footprint settings.outputFolder
          (Generation.RunName surroundings.modules settings session loaded) world.files
          (run surroundings commandLine world).2.files := by
  rcases files_run with same | ⟨settings, session, loaded, loads⟩
  · exact .inl same
  · rw [files_of_loads loads, ← loads.files_eq]
    rcases Generation.footprint_run (loads.files_eq ▸ sound) (own settings session loaded loads)
      (quiet settings session loaded loads) with same | ⟨templates, data, footprint⟩
    · exact .inl same
    · exact .inr ⟨settings, session, loaded, loads, templates, data, footprint⟩

end WithRendering

/-- A command line for the directories of a tree that hold its data files and templates. -/
def plainCommandLine : List String :=
  ["generate", "--template-dir", "templates", "--data-dir=data"]

/-- Only the library's own modules, and no variables. -/
def plainSurroundings : Surroundings where
  modules := Registry.ownModules
  environment := []

theorem resolvesOwn_plainSurroundings {commandLine : List String} {world : World}
    (settings : Settings) (session : Session) (loaded : World)
    (_ : Loads plainSurroundings commandLine world settings session loaded) :
    Registry.ResolvesOwn plainSurroundings.modules settings.extensions :=
  Registry.resolvesOwn_ownModules settings.extensions

/-- A command for that tree with the system as the host. -/
theorem run_footprint_unreadableFiles :
    Generation.unreadableFiles.Sound ∧
      (∀ settings session loaded,
        Loads plainSurroundings plainCommandLine { files := Generation.unreadableFiles }
          settings session loaded →
        Registry.ResolvesOwn plainSurroundings.modules settings.extensions) ∧
      (∀ settings session loaded,
        Loads plainSurroundings plainCommandLine { files := Generation.unreadableFiles }
          settings session loaded →
        @Generation.RunsQuietly (.among .system) plainSurroundings.modules settings session
          loaded) ∧
      ∃ settings session loaded,
        Loads plainSurroundings plainCommandLine { files := Generation.unreadableFiles }
          settings session loaded ∧
        Footprint settings.outputFolder
          (@Generation.RunName (.among .system) plainSurroundings.modules settings session loaded)
          Generation.unreadableFiles
          (@run (.among .system) plainSurroundings plainCommandLine
            { files := Generation.unreadableFiles }).2.files := by
  have sound : ({ files := Generation.unreadableFiles } : World).files.Sound :=
    Generation.sound_unreadableFiles
  have noticed : (run plainSurroundings plainCommandLine
      { files := Generation.unreadableFiles }).2.notices.head? =
        some (.failure (.unknownExtension (.ofString "/data/notes.txt"))) := by decide +kernel
  have asksNothing : AsksNothing plainSurroundings plainCommandLine
      { files := Generation.unreadableFiles } := by
    intro dataFile names asked
    rw [noticed] at asked
    cases asked
  have quiet : ∀ settings session loaded,
      Loads plainSurroundings plainCommandLine { files := Generation.unreadableFiles }
        settings session loaded →
      @Generation.RunsQuietly (.among .system) plainSurroundings.modules settings session
        loaded := fun settings session loaded loads =>
    (asksNothing.of_loads loads).runsQuietly (loads.files_eq ▸ sound)
      (resolvesOwn_plainSurroundings settings session loaded loads)
  refine ⟨Generation.sound_unreadableFiles, resolvesOwn_plainSurroundings, quiet, ?_⟩
  have changed : (@run (.among .system) plainSurroundings plainCommandLine
      { files := Generation.unreadableFiles }).2.files.entries.length ≠
        Generation.unreadableFiles.entries.length := by decide +kernel
  rcases @run_footprint _ _ _ (.among .system) sound resolvesOwn_plainSurroundings quiet with
    same | ⟨settings, session, loaded, loads, -, -, footprint⟩
  · exact absurd (congrArg (fun files => files.entries.length) same) changed
  · exact ⟨settings, session, loaded, loads, footprint⟩

/-- A tree with a data file and a template that removes it. -/
def removingFiles : Tree where
  entries := [
    (["data"], .directory),
    (["data", "Oak.json"], .file ⟨ByteArray.empty, 0o644, 0, 0⟩),
    (["pyproject.toml"], .file ⟨ByteArray.empty, 0o644, 0, 0⟩),
    (["templates"], .directory),
    (["templates", "Bean"], .file
      ⟨"$\x7blipsum.__globals__.os.remove('data/Oak.json')\x7d".toUTF8, 0o644, 0, 0⟩)]
  here := []

/-- With the system as the host a command can remove a file, since its templates reach them. -/
theorem not_footprint_removingFiles :
    removingFiles.Sound ∧
      (∀ settings session loaded,
        Loads plainSurroundings plainCommandLine { files := removingFiles } settings session
          loaded →
        Registry.ResolvesOwn plainSurroundings.modules settings.extensions) ∧
      ¬((@run (.among .system) plainSurroundings plainCommandLine
            { files := removingFiles }).2.files = removingFiles ∨
        ∃ settings session loaded,
          Loads plainSurroundings plainCommandLine { files := removingFiles } settings session
            loaded ∧
          (∃ trail place, LeadsInto removingFiles settings.templateFolder trail place) ∧
          (∃ trail place, LeadsInto removingFiles settings.dataFolder trail place) ∧
          Footprint settings.outputFolder
            (@Generation.RunName (.among .system) plainSurroundings.modules settings session
              loaded)
            removingFiles
            (@run (.among .system) plainSurroundings plainCommandLine
              { files := removingFiles }).2.files) := by
  have sound : removingFiles.Sound :=
    .of_entries (by decide +kernel) (by decide +kernel) rfl fun _ => Files.marked_spareMark
  have there : removingFiles.at? ["data", "Oak.json"] =
      some (.file ⟨ByteArray.empty, 0o644, 0, 0⟩) := by decide +kernel
  have gone : (@run (.among .system) plainSurroundings plainCommandLine
      { files := removingFiles }).2.files.at? ["data", "Oak.json"] = none := by decide +kernel
  refine ⟨sound, resolvesOwn_plainSurroundings, ?_⟩
  rintro (same | ⟨_, _, _, -, -, -, footprint⟩)
  · rw [same, there] at gone
    cases gone
  · rcases footprint.kept there with kept | ⟨content, kept⟩ <;>
    · rw [kept] at gone
      cases gone

end Command

end Stencil

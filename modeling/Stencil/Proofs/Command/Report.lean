import Stencil.Proofs.Command.Footprint
import Stencil.Proofs.Generation.Collisions

/-!
# What a command reports

A command that succeeds reports how many paths its run has given.  That is the number of
the files it has written unless the outputs of two pairs share a path.
-/

namespace Stencil

open Outcome
open Files (Tree)
open Generation (RunSeparates placesOf)

namespace Command

variable {surroundings : Surroundings} {world after : World}

/-- A generation that succeeds has done a run, and reports how many paths that has given. -/
theorem generate_ok {root : Path} {request : Request} {arguments : Arguments}
    (ended : generate surroundings root request arguments world = .ok ⟨⟩ after) :
    ∃ settings session loaded outputs finish, loaded.files = world.files ∧
      Generation.run surroundings.modules settings session loaded = .ok outputs finish ∧
      after.files = finish.files ∧
      after.notices = .report ("Generated " ++ toString outputs.length ++ " file(s) in " ++
        settings.outputFolder.text) :: finish.notices := by
  obtain ⟨given, overridden, overriding, rest⟩ := bind_eq_ok_iff.mp ended
  obtain ⟨settings, configured, loading, rest⟩ := bind_eq_ok_iff.mp rest
  obtain ⟨session, loaded, opening, rest⟩ := bind_eq_ok_iff.mp rest
  obtain ⟨outputs, finish, ran, reported⟩ := bind_eq_ok_iff.mp rest
  cases reported
  have files : loaded.files = world.files :=
    ((Session.sameFiles_load root).of_ok opening).trans
      (((Settings.sameFiles_load _ _ _).of_ok loading).trans
        ((sameFiles_overrides request arguments).of_ok overriding))
  exact ⟨settings, session, loaded, outputs, finish, files, ran, rfl, rfl⟩

/--
A run gives a path for each pair that it has written, and two of these paths are the same
exactly if the names of their pairs are the same when put together.  If none are the same,
then the pairs are written to as many files, each of which keeps what was rendered for its
pair; and the number of paths is what a command reports.
-/
theorem reports_files (sound : world.files.Sound) :
    (∀ settings session outputs after,
      Registry.ResolvesOwn surroundings.modules settings.extensions →
      Generation.run surroundings.modules settings session world = .ok outputs after →
      RunSeparates surroundings.modules settings session world outputs after) ∧
    ∀ root request arguments after,
      generate surroundings root request arguments world = .ok ⟨⟩ after →
      ∃ settings session loaded outputs finish, loaded.files = world.files ∧
        Generation.run surroundings.modules settings session loaded = .ok outputs finish ∧
        after.files = finish.files ∧
        after.notices = .report ("Generated " ++ toString outputs.length ++ " file(s) in " ++
          settings.outputFolder.text) :: finish.notices ∧
        (Registry.ResolvesOwn surroundings.modules settings.extensions →
          RunSeparates surroundings.modules settings session loaded outputs finish) := by
  refine ⟨fun settings session outputs after own ran =>
    Generation.run_ok_separates sound own ran, fun root request arguments after ended => ?_⟩
  obtain ⟨settings, session, loaded, outputs, finish, files, ran, filesEq, noticesEq⟩ :=
    generate_ok ended
  have loadedSound : loaded.files.Sound := files ▸ sound
  exact ⟨settings, session, loaded, outputs, finish, files, ran, filesEq, noticesEq,
    fun own => Generation.run_ok_separates loadedSound own ran⟩

/-! ## Outputs that collide -/

/--
A tree with three data files and two templates.  Two data files have the same name, and the
name of the third one goes with one template like theirs with the other.
-/
def collidingFiles : Tree where
  entries := [
    (["data"], .directory),
    (["data", "Elm.json"], .file ⟨ByteArray.empty, 0o644, 0, 0⟩),
    (["data", "Elm.json.json"], .file ⟨ByteArray.empty, 0o644, 0, 0⟩),
    (["data", "wood"], .directory),
    (["data", "wood", "Elm.json"], .file ⟨ByteArray.empty, 0o644, 0, 0⟩),
    (["pyproject.toml"], .file ⟨ByteArray.empty, 0o644, 0, 0⟩),
    (["templates"], .directory),
    (["templates", ".jsonBean"], .file ⟨"class".toUTF8, 0o644, 0, 0⟩),
    (["templates", "Bean"], .file ⟨"form".toUTF8, 0o644, 0, 0⟩)]
  here := []

theorem sound_collidingFiles : collidingFiles.Sound :=
  .of_entries (by decide +kernel) (by decide +kernel) rfl fun _ => Files.marked_spareMark

/-- The outputs of the tree in the order of the walk. -/
def collidingOutputs : List Path :=
  ["Elm.json.jsonBean.java", "Elm.jsonBean.java", "Elm.json.json.jsonBean.java",
    "Elm.json.jsonBean.java", "Elm.json.jsonBean.java", "Elm.jsonBean.java"].map
      (Path.ofString "out").child

/-- A run gives six paths and writes three files. -/
private theorem exists_run_collidingFiles :
    ∃ after,
      Generation.run plainSurroundings.modules Generation.plainSettings
          Generation.plainSession { files := collidingFiles } = .ok collidingOutputs after ∧
      (placesOf after.files collidingOutputs).card = 3 := by
  obtain ⟨after, ran⟩ := exists_of_value?_eq_some (by decide +kernel :
    value? (Generation.run plainSurroundings.modules Generation.plainSettings
      Generation.plainSession { files := collidingFiles }) = some collidingOutputs)
  have sound : ({ files := collidingFiles } : World).files.Sound := sound_collidingFiles
  obtain ⟨generation, ready, steps, -, -, separates⟩ :=
    Generation.run_ok_separates sound (Registry.resolvesOwn_ownModules _) ran
  refine ⟨after, ran, ?_⟩
  rw [separates.card_places]
  decide +kernel

/-- Six outputs are given and reported, but only three files are written. -/
theorem not_nodup_collidingFiles :
    collidingFiles.Sound ∧ ¬collidingOutputs.Nodup ∧
      (∃ after,
        Generation.run plainSurroundings.modules Generation.plainSettings
            Generation.plainSession { files := collidingFiles } = .ok collidingOutputs after ∧
        (placesOf after.files collidingOutputs).card = 3) ∧
      (run plainSurroundings (plainCommandLine ++ ["--output-dir", "out"])
        { files := collidingFiles }).2.notices.head? =
          some (.report "Generated 6 file(s) in /out") :=
  ⟨sound_collidingFiles, by decide +kernel, exists_run_collidingFiles, by decide +kernel⟩

theorem reports_files_collidingFiles :
    collidingFiles.Sound ∧
      Registry.ResolvesOwn plainSurroundings.modules Generation.plainSettings.extensions ∧
      ∃ after,
        Generation.run plainSurroundings.modules Generation.plainSettings
            Generation.plainSession { files := collidingFiles } = .ok collidingOutputs after ∧
        RunSeparates plainSurroundings.modules Generation.plainSettings
          Generation.plainSession { files := collidingFiles } collidingOutputs after := by
  have own : Registry.ResolvesOwn plainSurroundings.modules
      Generation.plainSettings.extensions := Registry.resolvesOwn_ownModules _
  have sound : ({ files := collidingFiles } : World).files.Sound := sound_collidingFiles
  obtain ⟨after, ran, -⟩ := exists_run_collidingFiles
  exact ⟨sound_collidingFiles, own, after, ran, (reports_files sound).1 _ _ _ _ own ran⟩

end Command

end Stencil

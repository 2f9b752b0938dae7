import Stencil.Proofs.Generation.Prepare
import Stencil.Proofs.Generation.Undisturbed

/-!
# Runs from end to end

A run that succeeds gives an output for each data file with each template, in order, and
leaves at each of these paths the text of the last pair that it belongs to.  This takes two
things: the outputs lie outside of the directories of data files and templates, and none of
them takes the place of a link on the way to these directories.
-/

namespace Stencil.Generation

open Outcome
open Files (Grown LeadsInto LeadsTo Place Tree)

/-! ## What is left of an output -/

variable {generation : Generation} {world middle finish after : World}
  {jobs left : List Job} {steps front back : List Step}

/-- Before an output is generated its task has been made. -/
theorem Runs.hasMade {root template output : Path} {task : Task} {before written : World}
    {outputs : List Path}
    (readers : generation.readers.IsOwn)
    (sound : world.files.Sound)
    (runs : Runs generation world [.folder root]
      (front ++ ⟨.pair task template output, before, written, outputs⟩ :: back) finish left) :
    HasMade generation front task := by
  obtain ⟨middle, between, first, second⟩ := runs.split
  cases second with
  | step performed onward =>
    have accounted := first.accounted readers (.refl sound)
    obtain ⟨files, -, made, -⟩ := accounted.pending _ (List.mem_cons_self ..)
    exact made

/-- What stands in a directory stays unless an output takes its place. -/
theorem Runs.keepsOutput {parent : Path} {trail : List Place} {folder : Place} {name : String}
    (readers : generation.readers.IsOwn)
    (sound : world.files.Sound)
    (runs : Runs generation world jobs steps finish left)
    (others : ∀ step ∈ steps, ∀ output ∈ step.outputs,
      output.parent = parent ∧ output.name ≠ name)
    (leads : LeadsInto world.files parent trail folder) :
    LeadsInto finish.files parent trail folder ∧
      finish.files.at? (folder ++ [name]) = world.files.at? (folder ++ [name]) := by
  induction runs with
  | stop => exact ⟨leads, rfl⟩
  | @step world middle _ job _ _ _ outputs _ performed _ ih =>
    have later := (evolves_of_perform readers sound performed).sound
    have kept : LeadsInto middle.files parent trail folder ∧
        middle.files.at? (folder ++ [name]) = world.files.at? (folder ++ [name]) := by
      cases job with
      | folder path =>
        obtain ⟨rfl, -⟩ := perform_folder_ok performed
        exact ⟨leads, rfl⟩
      | file path =>
        rw [(perform_file_ok readers performed).1]
        exact ⟨leads, rfl⟩
      | pair task template output =>
        obtain ⟨-, ⟨-, files, -⟩ | ⟨rfl, bytes, -, written⟩⟩ :=
          perform_pair_ok sound performed
        · rw [files]
          exact ⟨leads, rfl⟩
        · obtain ⟨inside, distinct⟩ :=
            others _ (List.mem_cons_self ..) output (List.mem_singleton_self _)
          obtain ⟨around, place, content, replaceable, beside, -, -, -, placed⟩ := written
          rw [inside, leads.withDirectories_eq] at replaceable placed
          have still := placed.leadsInto replaceable beside
          obtain ⟨rfl, rfl⟩ := leads.unique (inside ▸ replaceable.leads)
          refine ⟨inside ▸ still, placed.others _ fun same => ?_⟩
          obtain ⟨-, nameEq⟩ := List.append_inj' same rfl
          cases nameEq
          exact distinct rfl
    obtain ⟨stays, same⟩ := ih later
      (fun step member => others step (List.mem_cons_of_mem _ member)) kept.1
    exact ⟨stays, same.trans kept.2⟩

/-- A path leads to a file with what a template gives for a task. -/
def Stands (generation : Generation) (task : Task) (template path : Path)
    (world after : World) : Prop :=
  ∃ bytes place content, task.Gives generation.engine template path world bytes ∧
    (∀ follow, after.files.walk follow path = .ok ⟨place, some (.file content)⟩) ∧
    content.bytes = bytes ∧ content.mode = Files.Change.storedMode task.mode

/-- The last output that is written to a path is left there. -/
theorem Runs.stands {task : Task} {template path : Path} {before written : World}
    {outputs : List Path}
    (readers : generation.readers.IsOwn)
    (sound : world.files.Sound)
    (runs : Runs generation world jobs
      (front ++ ⟨.pair task template path, before, written, outputs⟩ :: back) finish left)
    (produces : task.Produces generation.engine template path before written)
    (last : ∀ step ∈ back, ∀ output ∈ step.outputs,
      output.parent = path.parent ∧ output.name ≠ path.name) :
    Stands generation task template path before finish := by
  obtain ⟨middle, between, first, second⟩ := runs.split
  cases second with
  | step performed onward =>
    have middleSound := (first.evolves readers sound).sound
    have later := (evolves_of_perform readers middleSound performed).sound
    obtain ⟨bytes, gives, trail, folder, content, replaceable, beside, -, bytesEq, modeEq,
      placed⟩ := produces
    have leads := placed.leadsInto replaceable beside
    obtain ⟨still, kept⟩ := onward.keepsOutput readers later last leads
    rw [placed.there] at kept
    refine ⟨bytes, folder ++ [path.name], content, gives, fun follow => ?_, bytesEq, modeEq⟩
    have child := still.child_of_there follow replaceable.isName kept (by simp)
    rw [replaceable.child_eq] at child
    exact child.walk_eq

/-- Among items that something holds of there is a last one. -/
theorem exists_last {α : Type} {holds : α → Prop} {items : List α}
    (among : ∃ item ∈ items, holds item) :
    ∃ front item back, items = front ++ item :: back ∧ holds item ∧
      ∀ later ∈ back, ¬holds later := by
  induction items with
  | nil => simp at among
  | cons first rest ih =>
    by_cases later : ∃ item ∈ rest, holds item
    · obtain ⟨front, item, back, rfl, found, none⟩ := ih later
      exact ⟨first :: front, item, back, rfl, found, none⟩
    · obtain ⟨item, member, found⟩ := among
      have isFirst : item = first :=
        (List.mem_cons.mp member).resolve_right fun inside => later ⟨item, inside, found⟩
      exact ⟨[], first, rest, rfl, isFirst ▸ found, fun other inside also =>
        later ⟨other, inside, also⟩⟩

/-- The last step that gives a path leaves its output there. -/
theorem Runs.leaves {folder path : Path}
    (readers : generation.readers.IsOwn)
    (sound : world.files.Sound)
    (runs : Runs generation world jobs steps finish left)
    (inside : ∀ step ∈ steps, ∀ output ∈ step.outputs, folder.child output.name = output)
    (member : path ∈ steps.flatMap Step.outputs) :
    ∃ front task template before written back,
      steps = front ++ ⟨.pair task template path, before, written, [path]⟩ :: back ∧
      (∀ step ∈ back, path ∉ step.outputs) ∧
      Stands generation task template path before finish := by
  obtain ⟨front, step, back, rfl, given, last⟩ := exists_last (List.mem_flatMap.mp member)
  obtain ⟨job, before, written, outputs⟩ := step
  obtain ⟨middle, between, first, second⟩ := runs.split
  have middleSound := (first.evolves readers sound).sound
  cases second with
  | step performed onward =>
    cases job with
    | folder place =>
      obtain ⟨-, rfl, -⟩ := perform_folder_ok performed
      cases given
    | file place =>
      obtain ⟨-, rfl, -⟩ := perform_file_ok readers performed
      cases given
    | pair task template output =>
      obtain ⟨-, ⟨rfl, -⟩ | ⟨rfl, produces⟩⟩ := perform_pair_ok middleSound performed
      · cases given
      obtain rfl := List.mem_singleton.mp given
      refine ⟨front, task, template, before, written, back, rfl, last, ?_⟩
      refine runs.stands readers sound produces fun later follows other among => ?_
      have isChild := inside later
        (List.mem_append_right _ (List.mem_cons_of_mem _ follows)) other among
      have pathIsChild := inside _ (List.mem_append_right _ (List.mem_cons_self ..)) path given
      refine ⟨?_, fun same => last later follows ?_⟩
      · rw [← isChild, ← pathIsChild, Path.parent_child, Path.parent_child]
      · rwa [← pathIsChild, ← same, isChild]

/-! ## Runs -/

variable {modules : List Registry.Module} {settings : Settings} {session : Session}
  {outputs : List Path}

/-- The files of a run when the directory of the outputs has been provided. -/
def filesToWalk (settings : Settings) (world : World) : Tree :=
  (Outcome.left (provideFolder settings.outputFolder world)).files

/-- With links resolved, the outputs lie outside of the other two directories. -/
def Apart (settings : Settings) (files : Tree) : Prop :=
  ∀ front output, LeadsInto files settings.outputFolder front output →
    (∀ trail data, LeadsInto files settings.dataFolder trail data → ¬data <+: output) ∧
    ∀ trail templates, LeadsInto files settings.templateFolder trail templates →
      ¬templates <+: output

/-- No output takes the place of a link on the way to one of the other two directories. -/
def Beside (settings : Settings) (files : Tree) : Prop :=
  ∀ front output, LeadsInto files settings.outputFolder front output →
    ∀ dataTrail data templateTrail templates,
      LeadsInto files settings.dataFolder dataTrail data →
      LeadsInto files settings.templateFolder templateTrail templates →
      ∀ pair ∈ pairsIn files settings.dataFolder settings.templateFolder data templates,
        output ++ [Naming.outputName pair.1 pair.2] ∉ dataTrail ∧
          output ++ [Naming.outputName pair.1 pair.2] ∉ templateTrail

/--
A run has attended to each data file with each template, in order, and has given their
outputs; each output path leads to a file with what the last of its pairs has given, for a
task that was made of the data file of this pair.
-/
def Generates (modules : List Registry.Module) (settings : Settings) (session : Session)
    (world : World) (outputs : List Path) (after : World) : Prop :=
  ∃ generation ready dataTrail data templateTrail templates steps,
    prepare modules settings session world = .ok generation ready ∧
    LeadsInto ready.files settings.dataFolder dataTrail data ∧
    LeadsInto ready.files settings.templateFolder templateTrail templates ∧
    Runs generation ready [.folder settings.dataFolder] steps after [] ∧
    pairsOf steps =
      pairsIn ready.files settings.dataFolder settings.templateFolder data templates ∧
    outputs = (pairsOf steps).map (fun pair =>
      Naming.outputPath pair.1 pair.2 settings.outputFolder) ∧
    ∀ path ∈ outputs, ∃ front task template before written back,
      steps = front ++ ⟨.pair task template path, before, written, [path]⟩ :: back ∧
      path = Naming.outputPath task.source template settings.outputFolder ∧
      (∀ pair ∈ pairsOf back,
        Naming.outputPath pair.1 pair.2 settings.outputFolder ≠ path) ∧
      HasMade generation front task ∧ task.mode = settings.fileMode ∧
      Stands generation task template path before after

/-- After the directory of the outputs has been provided there is no use in making it. -/
theorem settled_provideFolder {folder : Path} (sound : world.files.Sound)
    (ended : provideFolder folder world = .ok ⟨⟩ after) {grown : Tree} {trail : List Place}
    {place : Place} (growth : Grown folder after.files grown)
    (leads : LeadsInto grown folder trail place) : LeadsInto after.files folder trail place := by
  have found : ∃ other spot entry, LeadsTo after.files true folder other ⟨spot, some entry⟩ := by
    rcases provideFolder_ok sound ended with ⟨known, rfl⟩ | ⟨other, spot, around⟩
    · exact Files.has_eq_true_iff.mp known
    · exact ⟨other, spot, _, around⟩
  obtain ⟨other, spot, entry, there⟩ := found
  obtain ⟨rfl, same⟩ := Files.Leads.unique (there.mono growth) leads
  cases same
  exact there

/-- All outputs lie directly in the directory of the outputs. -/
theorem Layout.child_name {root : Path} {made : Tree} (layout : Layout generation root made)
    (runs : Runs generation world [.folder root] steps finish left)
    (start : world.files = made) :
    ∀ step ∈ steps, ∀ output ∈ step.outputs,
      generation.outputFolder.child output.name = output := by
  intro step among output given
  obtain ⟨-, -, outputsEq⟩ := layout.recorded runs start step among
  rw [outputsEq, Layout.outputsOf, Option.mem_toList, Option.map_eq_some_iff] at given
  obtain ⟨pair, -, rfl⟩ := given
  rw [Naming.name_outputPath, Naming.outputPath]

/-- The last output at a path is left there by a complete walk. -/
theorem Layout.leaves {root path : Path} {made : Tree} (layout : Layout generation root made)
    (runs : Runs generation world [.folder root] steps finish [])
    (start : world.files = made)
    (member : path ∈ steps.flatMap Step.outputs) :
    ∃ front task template before written back,
      steps = front ++ ⟨.pair task template path, before, written, [path]⟩ :: back ∧
      path = Naming.outputPath task.source template generation.outputFolder ∧
      (∀ pair ∈ pairsOf back,
        Naming.outputPath pair.1 pair.2 generation.outputFolder ≠ path) ∧
      HasMade generation front task ∧ task.mode = generation.fileMode ∧
      Stands generation task template path before finish := by
  obtain ⟨front, task, template, before, written, back, rfl, last, stands⟩ :=
    runs.leaves layout.readers (start ▸ layout.sound) (layout.child_name runs start) member
  obtain ⟨-, ⟨-, pathEq, -, modeEq⟩, -⟩ := layout.recorded runs start _
    (List.mem_append_right _ (List.mem_cons_self ..))
  refine ⟨front, task, template, before, written, back, rfl, pathEq, ?_,
    runs.hasMade layout.readers (start ▸ layout.sound), modeEq, stands⟩
  rintro pair among rfl
  obtain ⟨later, follows, isPair⟩ := List.mem_filterMap.mp among
  obtain ⟨-, -, outputsEq⟩ := layout.recorded runs start later
    (List.mem_append_right _ (List.mem_cons_of_mem _ follows))
  refine last later follows ?_
  rw [outputsEq, Layout.outputsOf, isPair]
  exact List.mem_singleton_self _

/-- What a run is prepared with is laid out as its walk needs it. -/
theorem Prepared.nonempty_layout {ready : World} (sound : world.files.Sound)
    (own : Registry.ResolvesOwn modules settings.extensions)
    (prepared : Prepared modules settings session world generation ready)
    (recent : 0 ≤ session.lastModified ready.files)
    (apart : Apart settings ready.files)
    (beside : Beside settings ready.files) :
    Nonempty (Layout generation settings.dataFolder ready.files) := by
  have grown := grown_provideFolder sound settings.outputFolder
  rw [← prepared.files_eq] at grown
  obtain ⟨dataTrail, data, inData⟩ := prepared.data
  obtain ⟨templateTrail, templates, inTemplates⟩ := prepared.templates
  have leadsData := LeadsTo.mono grown inData
  have leadsTemplates := LeadsTo.mono grown inTemplates
  obtain ⟨made, provided, same⟩ := prepared.provided
  refine ⟨⟨dataTrail, data, templateTrail, templates, grown.sound, prepared.isOwn own,
    leadsData, ?_, ?_, ?_, ?_, ?_⟩⟩
  · rw [prepared.templateFolder]
    exact leadsTemplates
  · intro front output leads
    rw [prepared.outputFolder] at leads
    obtain ⟨outsideData, outsideTemplates⟩ := apart front output leads
    exact ⟨outsideData _ _ leadsData, outsideTemplates _ _ leadsTemplates⟩
  · intro front output leads pair member
    rw [prepared.outputFolder] at leads
    rw [prepared.templateFolder] at member
    exact beside front output leads _ _ _ _ leadsData leadsTemplates pair member
  · intro later front output growth leads
    rw [prepared.outputFolder, same] at growth
    rw [prepared.outputFolder] at leads ⊢
    rw [same]
    exact settled_provideFolder sound provided growth leads
  · rwa [prepared.timestamp]

/--
A run that succeeds has generated all outputs, as long as these lie outside of the other
directories and beside the links on the way there.
-/
theorem run_generates (sound : world.files.Sound)
    (own : Registry.ResolvesOwn modules settings.extensions)
    (recent : 0 ≤ session.lastModified (filesToWalk settings world))
    (apart : Apart settings (filesToWalk settings world))
    (beside : Beside settings (filesToWalk settings world))
    (ran : run modules settings session world = .ok outputs after) :
    Generates modules settings session world outputs after := by
  obtain ⟨generation, ready, preparing, walked⟩ := bind_eq_ok_iff.mp ran
  have prepared := prepare_ok preparing
  have files : ready.files = filesToWalk settings world := prepared.files_eq
  rw [← files] at recent apart beside
  obtain ⟨layout⟩ := prepared.nonempty_layout sound own recent apart beside
  obtain ⟨steps, runs, rfl⟩ := walk_ok walked
  have pairs := layout.pairsOf_eq runs rfl
  have outputsEq := layout.outputs_eq runs rfl
  refine ⟨generation, ready, layout.dataTrail, layout.data, layout.templateTrail,
    layout.templates, steps, preparing, layout.leadsData, ?_, runs, ?_, ?_, ?_⟩
  · rw [← prepared.templateFolder]
    exact layout.leadsTemplates
  · rw [pairs, Layout.pairs, prepared.templateFolder]
  · rw [outputsEq, pairs, prepared.outputFolder]
  · rw [← prepared.fileMode, ← prepared.outputFolder]
    exact fun path member => layout.leaves runs rfl member

/-! ## Runs on trees with few entries -/

/-- Where a path leads can be computed. -/
theorem place_eq {files : Tree} {path : Path} {trail : List Place} {place known : Place}
    (leads : LeadsInto files path trail place)
    (walked : (files.walk true path).toOption.map Tree.Spot.place = some known) :
    place = known := by
  rw [leads.walk_eq] at walked
  cases walked
  rfl

/-- The settings of a run in the directories that are used here. -/
def plainSettings : Settings where
  templateFolder := .ofString "templates"
  dataFolder := .ofString "data"
  outputFolder := .ofString "out"

/-- A session of one project without properties. -/
def plainSession : Session where
  current := ⟨.ofString "pyproject.toml", []⟩
  projects := [⟨.ofString "pyproject.toml", []⟩]

/-- A tree with two data files, one below another directory, and two templates. -/
def nestedFiles : Tree where
  entries := [
    (["data"], .directory),
    (["data", "Oak.json"], .file ⟨ByteArray.empty, 0o644, 0, 0⟩),
    (["data", "wood"], .directory),
    (["data", "wood", "Elm.json"], .file ⟨ByteArray.empty, 0o644, 0, 0⟩),
    (["templates"], .directory),
    (["templates", "Bean"], .file ⟨"class".toUTF8, 0o644, 0, 0⟩),
    (["templates", "Form"], .file ⟨"form".toUTF8, 0o644, 0, 0⟩)]
  here := []

theorem sound_nestedFiles : nestedFiles.Sound :=
  .of_entries (by decide +kernel) (by decide +kernel) rfl fun _ => Files.marked_spareMark

theorem run_generates_nestedFiles :
    nestedFiles.Sound ∧ Registry.ResolvesOwn Registry.ownModules plainSettings.extensions ∧
      0 ≤ plainSession.lastModified (filesToWalk plainSettings { files := nestedFiles }) ∧
      Apart plainSettings (filesToWalk plainSettings { files := nestedFiles }) ∧
      Beside plainSettings (filesToWalk plainSettings { files := nestedFiles }) ∧
      ∃ after,
        run Registry.ownModules plainSettings plainSession { files := nestedFiles } =
          .ok (["Oak.jsonBean.java", "Oak.jsonForm.java", "Elm.jsonBean.java",
            "Elm.jsonForm.java"].map (Path.ofString "out").child) after ∧
        Generates Registry.ownModules plainSettings plainSession { files := nestedFiles }
          (["Oak.jsonBean.java", "Oak.jsonForm.java", "Elm.jsonBean.java",
            "Elm.jsonForm.java"].map (Path.ofString "out").child) after := by
  have own := Registry.resolvesOwn_ownModules plainSettings.extensions
  have recent :
      0 ≤ plainSession.lastModified (filesToWalk plainSettings { files := nestedFiles }) := by
    decide +kernel
  have apart : Apart plainSettings (filesToWalk plainSettings { files := nestedFiles }) := by
    intro front output around
    obtain rfl := place_eq around (by decide +kernel : _ = some ["out"])
    refine ⟨fun trail data leads => ?_, fun trail templates leads => ?_⟩
    · obtain rfl := place_eq leads (by decide +kernel : _ = some ["data"])
      decide
    · obtain rfl := place_eq leads (by decide +kernel : _ = some ["templates"])
      decide
  have beside : Beside plainSettings (filesToWalk plainSettings { files := nestedFiles }) := by
    intro front output around dataTrail data templateTrail templates leadsData leadsTemplates
      pair member
    have noLinks : ∀ known ∈ (filesToWalk plainSettings { files := nestedFiles }).entries,
        known.2.isLink = false := by decide +kernel
    have empty {path : Path} {trail : List Place} {place crossed : Place}
        (leads : LeadsInto (filesToWalk plainSettings { files := nestedFiles }) path trail
          place) : crossed ∉ trail := by
      intro among
      obtain ⟨target, link⟩ := Files.Leads.link_of_mem_trail leads among
      have inside : crossed ≠ [] := by
        rintro rfl
        cases link
      cases noLinks _ (Tree.mem_of_at? link inside)
    exact ⟨empty leadsData, empty leadsTemplates⟩
  obtain ⟨after, ran⟩ := exists_of_value?_eq_some (by decide +kernel :
    value? (run Registry.ownModules plainSettings plainSession { files := nestedFiles }) =
      some (["Oak.jsonBean.java", "Oak.jsonForm.java", "Elm.jsonBean.java",
        "Elm.jsonForm.java"].map (Path.ofString "out").child))
  exact ⟨sound_nestedFiles, own, recent, apart, beside, after, ran,
    run_generates sound_nestedFiles own recent apart beside ran⟩

/-- Settings that name the directory of the data files by the path of an output. -/
def linkedSettings : Settings where
  templateFolder := .ofString "templates"
  dataFolder := .ofString "Elm.jsonBean.java"
  outputFolder := .ofString "."

/-- A tree with a link to the directory of the data files at the path of an output. -/
def linkedFiles : Tree where
  entries := [
    (["Elm.jsonBean.java"], .link "data"),
    (["data"], .directory),
    (["data", "Elm.json"], .file ⟨ByteArray.empty, 0o644, 0, 0⟩),
    (["data", "Oak.json"], .file ⟨ByteArray.empty, 0o644, 0, 0⟩),
    (["templates"], .directory),
    (["templates", "Bean"], .file ⟨"class".toUTF8, 0o644, 0, 0⟩)]
  here := []

theorem sound_linkedFiles : linkedFiles.Sound :=
  .of_entries (by decide +kernel) (by decide +kernel) rfl fun _ => Files.marked_spareMark

/-- Without its last condition the law fails: the first output cuts the second one off. -/
theorem not_generates_linkedFiles :
    linkedFiles.Sound ∧ Registry.ResolvesOwn Registry.ownModules linkedSettings.extensions ∧
      0 ≤ plainSession.lastModified (filesToWalk linkedSettings { files := linkedFiles }) ∧
      Apart linkedSettings (filesToWalk linkedSettings { files := linkedFiles }) ∧
      ∃ after,
        run Registry.ownModules linkedSettings plainSession { files := linkedFiles } =
          .ok [.ofString "Elm.jsonBean.java"] after ∧
        ¬Generates Registry.ownModules linkedSettings plainSession { files := linkedFiles }
          [.ofString "Elm.jsonBean.java"] after := by
  have recent :
      0 ≤ plainSession.lastModified (filesToWalk linkedSettings { files := linkedFiles }) := by
    decide +kernel
  have apart : Apart linkedSettings (filesToWalk linkedSettings { files := linkedFiles }) := by
    intro front output around
    obtain rfl := place_eq around (by decide +kernel : _ = some [])
    refine ⟨fun trail data leads => ?_, fun trail templates leads => ?_⟩
    · obtain rfl := place_eq leads (by decide +kernel : _ = some ["data"])
      decide
    · obtain rfl := place_eq leads (by decide +kernel : _ = some ["templates"])
      decide
  obtain ⟨after, ran⟩ := exists_of_value?_eq_some (by decide +kernel :
    value? (run Registry.ownModules linkedSettings plainSession { files := linkedFiles }) =
      some [.ofString "Elm.jsonBean.java"])
  refine ⟨sound_linkedFiles, Registry.resolvesOwn_ownModules _, recent, apart, after, ran, ?_⟩
  rintro ⟨generation, ready, dataTrail, data, templateTrail, templates, steps, preparing,
    leadsData, leadsTemplates, -, pairs, outputs, -⟩
  have files : ready.files = filesToWalk linkedSettings { files := linkedFiles } :=
    (prepare_ok preparing).files_eq
  rw [files] at leadsData leadsTemplates pairs
  obtain rfl := place_eq leadsData (by decide +kernel : _ = some ["data"])
  obtain rfl := place_eq leadsTemplates (by decide +kernel : _ = some ["templates"])
  have two : (pairsIn (filesToWalk linkedSettings { files := linkedFiles })
      linkedSettings.dataFolder linkedSettings.templateFolder ["data"]
      ["templates"]).length = 2 := by decide +kernel
  have one := congrArg List.length outputs
  rw [pairs, List.length_map, two] at one
  cases one

end Stencil.Generation

import Stencil.Proofs.Generation.Collisions
import Stencil.Proofs.Generation.SideBySide

/-!
# Outcomes depend on inputs only

What a generation does is the same in two trees that differ only in old outputs, or in
whether the directory of the outputs is there yet: it gives the same list and writes the
same files, or it fails alike.  So it can be done again, with the same outcome.
-/

namespace Stencil

namespace Generation

open Act (Between Paired)
open Files (AgreesOff Avoids Made NoFurtherApart Plain SameFile Site Tree)
open Files.Site (Twins)
open Outcome

variable {site : Site} {left right : Tree} {modules : List Registry.Module}
  {settings : Settings} {session : Session} {world other after : World}

/-! ## Preparations -/

/-- The directory of the outputs is provided where its path fits. -/
theorem provideFolder_of_fits (world : World) (fits : site.Fits world.files) :
    ∃ made, provideFolder site.path world = .ok ⟨⟩ { world with files := made } ∧
      Made site.base site.names world.files made := by
  obtain ⟨made, ⟨known, rfl⟩ | ⟨known, making⟩, isMade⟩ := fits.provides
  · exact ⟨world.files, provideFolder_of_has known, isMade⟩
  · refine ⟨made, ?_, isMade⟩
    rw [provideFolder_of_not_has known]
    exact Act.naming_eq_ok_iff.mpr (Act.onFiles_eq_ok_iff.mpr ⟨made, making, rfl⟩)

/-- Settings that put outputs where a site is, and otherwise look at nothing that it covers. -/
structure Suits (site : Site) (settings : Settings) (files : Tree) : Prop where
  outputFolder : settings.outputFolder = site.path
  templates : site.Clear files settings.templateFolder
  data : site.ClearOfWalks files settings.dataFolder

/-- What is prepared when the directories are there looks at the descriptors only. -/
theorem blind_engage (same : ∀ project ∈ session.projects,
    Files.SameAt left right project.descriptor) : Act.Blind left right (do
      let readers ← Registry.build modules settings.extensions
      let engine ← Engine.setUp settings.templateFolder settings.engineVersion
        ⟨settings.interpolationStart.toList, settings.interpolationEnd.toList⟩
      Act.detail ("Generating from " ++ settings.dataFolder.text ++ " with templates in " ++
        settings.templateFolder.text ++ " into " ++ settings.outputFolder.text)
      setUp engine session readers settings.templateFolder settings.outputFolder
        settings.fileMode) :=
  .bind (Registry.blind_extend _ _ _) fun _ => .bind (Engine.blind_setUp _ _ _) fun _ =>
    .bind (.detail _) fun _ => blind_setUp same _ _ _ _ _

/-- Preparations go the same way, and provide the directory of the outputs in both trees. -/
theorem prepare_alike (twins : site.Twins left right)
    (own : Registry.ResolvesOwn modules settings.extensions)
    (suits : Suits site settings left)
    (descriptors : ∀ project ∈ session.projects,
      Avoids left site.Covers project.descriptor)
    (recent : 0 ≤ session.lastModified left)
    (between : Between left right world other) :
    Matches (fun generation after later =>
        generation.Detached site left settings.dataFolder ∧
          Paired (site.Abreast left right []) after later)
      (FailAbreast left right)
      (prepare modules settings session world)
      (prepare modules settings session other) := by
  have sound := twins.fits.sound
  have sameAt {path : Path} (avoids : Avoids left site.Covers path) :
      Files.SameAt left right path :=
    AgreesOff.sameAt sound (.refl sound) twins.agrees avoids
  have prepares : Matches (fun _ => Paired (site.Abreast left right [])) (FailAbreast left right)
      (prepare modules settings session world) (prepare modules settings session other) := by
    unfold prepare
    refine ((blind_requireFolder (sameAt suits.templates.self) "template" world other between).mono
      (fun _ _ _ _ => id) fun _ _ _ _ _ => .of_together).bind fun _ world other between => ?_
    refine ((blind_requireFolder (sameAt suits.data.self) "data" world other between).mono
      (fun _ _ _ _ => id) fun _ _ _ _ _ => .of_together).bind fun _ world other between => ?_
    obtain ⟨rfl, rfl⟩ := between
    obtain ⟨made, provides, isMade⟩ := provideFolder_of_fits world twins.fits
    obtain ⟨madeAlso, providesAlso, isMadeAlso⟩ :=
      provideFolder_of_fits { world with files := right } twins.fitsAlso
    rw [← suits.outputFolder] at provides providesAlso
    rw [bind_apply_of_ok provides, bind_apply_of_ok providesAlso]
    have abreast := twins.abreast isMade isMadeAlso
    have blind := @blind_engage made madeAlso modules settings session fun project member =>
      abreast.sameAt sound (descriptors project member)
    have started : Paired (site.Abreast world.files right []) { world with files := made }
        { world with files := madeAlso } := ⟨abreast, rfl, rfl⟩
    exact (blind.paired started).mono (fun _ _ _ _ => And.right) fun _ _ _ _ _ => .of_same
  refine prepares.mono (fun generation after later ended paired => ⟨?_, paired⟩)
    fun _ _ _ _ _ => id
  have prepared := prepare_ok ended
  have times : session.lastModified after.files = session.lastModified left :=
    Session.lastModified_eq fun project member =>
      AgreesOff.sameAt sound (.refl sound) paired.1.holds.agrees (descriptors project member)
  exact {
    readers := prepared.isOwn own
    outputFolder := prepared.outputFolder.trans suits.outputFolder
    directory := prepared.directory.trans prepared.templateFolder.symm
    templates := prepared.templateFolder ▸ suits.templates
    data := suits.data
    recent := by rw [prepared.timestamp, times]; exact recent }

/-! ## Runs -/

/-- The outputs of a walk lie directly in the directory of the outputs. -/
theorem child_name_of_walk {generation : Generation} {data : Path} {outputs : List Path}
    (readers : generation.readers.IsOwn)
    (sound : world.files.Sound)
    (walked : generation.walk data world = .ok outputs after) :
    ∀ output ∈ outputs, generation.outputFolder.child output.name = output := by
  obtain ⟨steps, runs, rfl⟩ := walk_ok walked
  intro output member
  obtain ⟨step, among, given⟩ := List.mem_flatMap.mp member
  rcases runs.outputs_of_mem readers sound among with none | ⟨task, template, -, one⟩
  · rw [none] at given
    cases given
  · rw [one, List.mem_singleton] at given
    rw [given, Naming.name_outputPath, Naming.outputPath]

/-- Runs give the same outputs, or fail alike. -/
theorem run_alike (twins : site.Twins left right)
    (own : Registry.ResolvesOwn modules settings.extensions)
    (suits : Suits site settings left)
    (descriptors : ∀ project ∈ session.projects,
      Avoids left site.Covers project.descriptor)
    (recent : 0 ≤ session.lastModified left)
    (between : Between left right world other) :
    Matches (fun outputs after later =>
        (∀ output ∈ outputs, site.path.child output.name = output) ∧
          Paired (site.Abreast left right (outputs.map Path.name)) after later)
      (FailAbreast left right)
      (run modules settings session world) (run modules settings session other) := by
  refine (prepare_alike twins own suits descriptors recent between).bind ?_
  rintro generation ready readyAlso ⟨detached, paired⟩
  refine (walk_alike twins detached paired).mono (fun outputs _ _ walked written => ?_)
    fun _ _ _ _ _ => id
  have inside := child_name_of_walk detached.readers paired.1.holds.agrees.sound walked
  rw [detached.outputFolder] at inside
  exact ⟨inside, written⟩

/-! ## From the descriptor of a project on -/

/-- Load settings and the session at a root directory, and generate; gives the outputs. -/
def generateProject
    (modules : List Registry.Module)
    (environment : List (String × String))
    (root : Path)
    (overrides : Settings.Given) : Act (List Path) := do
  let settings ← Settings.load environment root overrides
  let session ← Session.load root
  run modules settings session

variable {environment : List (String × String)} {root : Path} {overrides : Settings.Given}

/--
Another tree differs from that of a world only in old outputs, or in whether their directory
is there, and a generation looks at neither.
-/
structure StaleOutputs
    (environment : List (String × String))
    (root : Path)
    (overrides : Settings.Given)
    (world : World)
    (other : Tree)
    (site : Site) : Prop where
  twins : site.Twins world.files other
  descriptors : ∀ descriptor ∈ Session.descriptors world.files root,
    Avoids world.files site.Covers descriptor
  recent : 0 ≤ world.files.lastModified (Project.descriptorOf root)
  suits : ∀ settings after, Settings.load environment root overrides world = .ok settings after →
    Suits site settings world.files

/-- A tree differs in nothing from itself. -/
theorem StaleOutputs.self {other : Tree}
    (stale : StaleOutputs environment root overrides world other site) :
    StaleOutputs environment root overrides world world.files site :=
  { stale with twins := stale.twins.fits.twins }

/-- The readers of a generation are the library's own. -/
def UsesOwn
    (modules : List Registry.Module)
    (environment : List (String × String))
    (root : Path)
    (overrides : Settings.Given)
    (world : World) : Prop :=
  ∀ settings after, Settings.load environment root overrides world = .ok settings after →
    Registry.ResolvesOwn modules settings.extensions

/-- Generations give the same outputs, or fail alike. -/
theorem generateProject_alike {other : Tree}
    (own : UsesOwn modules environment root overrides world)
    (stale : StaleOutputs environment root overrides world other site) :
    Matches (fun outputs after later =>
        (∀ output ∈ outputs, site.path.child output.name = output) ∧
          Paired (site.Abreast world.files other (outputs.map Path.name)) after later)
      (FailAbreast world.files other)
      (generateProject modules environment root overrides world)
      (generateProject modules environment root overrides { world with files := other }) := by
  have sound := stale.twins.fits.sound
  have same (descriptor : Path) (member : descriptor ∈ Session.descriptors world.files root) :
      Files.SameAt world.files other descriptor :=
    AgreesOff.sameAt sound (.refl sound) stale.twins.agrees (stale.descriptors descriptor member)
  have loads := Settings.blind_load (same _ (List.mem_cons_self ..)) environment overrides world
    { world with files := other } ⟨rfl, rfl⟩
  refine (loads.mono (fun _ _ _ => And.intro) fun _ _ _ _ _ => .of_together).bind ?_
  rintro settings loaded loadedAlso ⟨loading, between⟩
  refine ((Session.blind_load same loaded loadedAlso between).mono (fun _ _ _ => And.intro)
    fun _ _ _ _ _ => .of_together).bind ?_
  rintro session opened openedAlso ⟨opening, onward⟩
  have known := Session.read_of_load opening
  rw [between.files] at known
  exact run_alike stale.twins (own settings loaded loading) (stale.suits settings loaded loading)
    (fun project member =>
      stale.descriptors _ (Session.mem_descriptors_of_read known member))
    (stale.recent.trans (Session.le_lastModified known world.files)) onward

/-! ## The same files -/

/-- Outputs are regular files with the same bytes and the same mode in two trees. -/
def SameOutputs (outputs : List Path) (first second : Tree) : Prop :=
  ∀ output ∈ outputs, ∃ place content other,
    (∀ follow, first.walk follow output = .ok ⟨place, some (.file content)⟩) ∧
    (∀ follow, second.walk follow output = .ok ⟨place, some (.file other)⟩) ∧
    content.bytes = other.bytes ∧ content.mode = other.mode

/-- Outputs that have been written to two trees are the same in both. -/
theorem sameOutputs_of_abreast {first second : Tree} {outputs : List Path}
    (inside : ∀ output ∈ outputs, site.path.child output.name = output)
    (abreast : site.Abreast left right (outputs.map Path.name) first second) :
    SameOutputs outputs first second := by
  intro output member
  obtain ⟨content, other, there, thereAlso, bytes, mode⟩ :=
    abreast.written output.name (List.mem_map_of_mem member)
  have isName := abreast.holds.agrees.sound.named _ _ _ there
  have walks {tree : Tree} {file : Files.FileContent} (holds : site.Holds left tree)
      (there : tree.at? (site.place ++ [output.name]) = some (.file file)) (follow : Bool) :
      tree.walk follow output = .ok ⟨site.place ++ [output.name], some (.file file)⟩ := by
    obtain ⟨trail, leads, -⟩ := holds.leads
    have child := leads.child follow isName fun target link => by
      rw [there] at link
      cases link
    rw [inside output member, there] at child
    exact child.walk_eq
  exact ⟨_, content, other, walks abreast.holds there, walks abreast.holdsAlso thereAlso, bytes,
    mode⟩

/-- The outputs of a generation are regular files. -/
theorem sameOutputs_of_generateProject {outputs : List Path} (sound : world.files.Sound)
    (own : UsesOwn modules environment root overrides world)
    (ended : generateProject modules environment root overrides world = .ok outputs after) :
    SameOutputs outputs after.files after.files := by
  obtain ⟨settings, loaded, loading, afterSettings⟩ := bind_eq_ok_iff.mp ended
  obtain ⟨session, opened, opening, ran⟩ := bind_eq_ok_iff.mp afterSettings
  obtain ⟨generation, ready, preparing, walked⟩ := bind_eq_ok_iff.mp ran
  have files : opened.files = world.files := ((Session.sameFiles_load root).of_ok opening).trans
    ((Settings.sameFiles_load _ _ _).of_ok loading)
  have prepared := prepare_ok preparing
  have readers := prepared.isOwn (own settings loaded loading)
  have grown := grown_provideFolder (files ▸ sound) settings.outputFolder
  rw [← prepared.files_eq] at grown
  have inside := child_name_of_walk readers grown.sound walked
  obtain ⟨steps, runs, rfl⟩ := walk_ok walked
  intro output member
  obtain ⟨front, task, template, before, written, back, -, -, stands⟩ :=
    runs.leaves readers grown.sound (fun step among output given =>
      inside output (List.mem_flatMap.mpr ⟨step, among, given⟩)) member
  obtain ⟨bytes, place, content, -, walks, -, -⟩ := stands
  exact ⟨place, content, content, walks, walks, rfl, rfl⟩

/-! ## Generating again -/

/-- A generation that has been done can be done again, and puts the same files in place. -/
theorem generateProject_again {outputs : List Path}
    (own : UsesOwn modules environment root overrides world)
    (stale : StaleOutputs environment root overrides world world.files site)
    (ended : generateProject modules environment root overrides world = .ok outputs after)
    (vacant : ∀ output ∈ outputs, Plain (world.files.at? (site.place ++ [output.name]))) :
    ∃ again,
      generateProject modules environment root overrides { world with files := after.files } =
        .ok outputs again ∧
      ∀ place, again.files.at? place = after.files.at? place ∨
        SameFile (after.files.at? place) (again.files.at? place) := by
  have alone := generateProject_alike own stale
  rw [ended] at alone
  cases alone with
  | ok related =>
    obtain ⟨-, abreast, -⟩ := related
    have twins := abreast.twins stale.twins.fits fun name member => by
      obtain ⟨output, among, rfl⟩ := List.mem_map.mp member
      exact vacant output among
    have repeated := generateProject_alike own { stale with twins }
    rw [ended] at repeated
    generalize ran : generateProject modules environment root overrides
      { world with files := after.files } = result at repeated
    cases repeated with
    | @ok _ _ again related =>
      obtain ⟨-, both, -⟩ := related
      refine ⟨again, rfl, fun place => ?_⟩
      rcases both.noFurtherApart place with same | same | ⟨-, same⟩
      · exact .inl same.symm
      · exact .inr same
      · exact .inl same

/--
The outcome of a generation does not depend on old outputs: in two trees that differ in
nothing else it gives the same list and leaves the same outputs, or it fails alike, and
nothing else comes to differ.  So it can be done again, and puts the same files in place.
-/
theorem generateProject_inputsOnly {other : Tree}
    (sound : world.files.Sound)
    (own : UsesOwn modules environment root overrides world)
    (alike : other = world.files ∨
      ∃ site, StaleOutputs environment root overrides world other site) :
    Matches (fun outputs after later => SameOutputs outputs after.files later.files ∧
        Paired (NoFurtherApart world.files other) after later)
      (FailAbreast world.files other)
      (generateProject modules environment root overrides world)
      (generateProject modules environment root overrides { world with files := other }) ∧
    ∀ site outputs after,
      StaleOutputs environment root overrides world world.files site →
      generateProject modules environment root overrides world = .ok outputs after →
      (∀ output ∈ outputs, Plain (world.files.at? (site.place ++ [output.name]))) →
      ∃ again,
        generateProject modules environment root overrides { world with files := after.files } =
          .ok outputs again ∧
        ∀ place, again.files.at? place = after.files.at? place ∨
          SameFile (after.files.at? place) (again.files.at? place) := by
  refine ⟨?_, fun site outputs after stale ended vacant =>
    generateProject_again own stale ended vacant⟩
  rcases alike with rfl | ⟨site, stale⟩
  · cases ended : generateProject modules environment root overrides world with
    | ok outputs after =>
      exact .ok ⟨sameOutputs_of_generateProject sound own ended, .same _ _ _, rfl, rfl⟩
    | error failure after => exact .error ⟨.same failure, .same _ _ _, rfl, rfl⟩
  · refine (generateProject_alike own stale).mono (fun outputs after later _ related => ?_)
      fun _ _ _ _ _ => id
    obtain ⟨inside, paired⟩ := related
    exact ⟨sameOutputs_of_abreast inside paired.1, paired.mono fun _ _ =>
      Files.Site.Abreast.noFurtherApart⟩

/-! ## Generations on trees with few entries -/

/-- A tree with a data file and a template where they are looked for, and other entries. -/
def filesWith (others : List (Files.Place × Files.Entry)) : Tree where
  entries := [
    (["codegen"], .directory),
    (["codegen", "data"], .directory),
    (["codegen", "data", "Oak.json"], .file ⟨ByteArray.empty, 0o644, 0, 0⟩),
    (["codegen", "templates"], .directory),
    (["codegen", "templates", "Bean"], .file ⟨"class".toUTF8, 0o644, 0, 0⟩),
    (["pyproject.toml"], .file ⟨ByteArray.empty, 0o644, 0, 0⟩)] ++ others
  here := []

/-- A tree without outputs, and without the directories around them. -/
def freshFiles : Tree := filesWith []

/-- A tree with an old output, and one that nothing is generated for any more. -/
def staleFiles : Tree := filesWith [
  (["build"], .directory),
  (["build", "generated"], .directory),
  (["build", "generated", "Elm.jsonBean.java"], .file ⟨"elm".toUTF8, 0o600, 7, 0⟩),
  (["build", "generated", "Oak.jsonBean.java"], .file ⟨"oak".toUTF8, 0o600, 7, 0⟩)]

theorem sound_freshFiles : freshFiles.Sound :=
  .of_entries (by decide +kernel) (by decide +kernel) rfl fun _ => Files.marked_spareMark

theorem sound_staleFiles : staleFiles.Sound :=
  .of_entries (by decide +kernel) (by decide +kernel) rfl fun _ => Files.marked_spareMark

private theorem noLinks_freshFiles (place : Files.Place) (target : String) :
    freshFiles.at? place ≠ some (.link target) :=
  Tree.at?_ne_link (by decide +kernel) place target

private theorem noLinks_staleFiles (place : Files.Place) (target : String) :
    staleFiles.at? place ≠ some (.link target) :=
  Tree.at?_ne_link (by decide +kernel) place target

/-- The site of outputs where settings say nothing else. -/
def usualSite : Site := ⟨.none, [], [], ["build", "generated"]⟩

/-- The output of the data file and the template. -/
def usualOutput : Path := .ofString "build/generated/Oak.jsonBean.java"

private theorem fits_usualSite {files : Tree} (sound : files.Sound)
    (here : files.here = [])
    (marks : files.marks = fun _ => [Files.spareMark])
    (endings : ∀ known ∈ files.entries, ∀ name ∈ known.1.getLast?,
      name.toList.getLast? ≠ some '>')
    (levels : ∀ front ∈ usualSite.names.inits,
      files.at? front = some .directory ∨ files.at? front = none) : usualSite.Fits files where
  sound := sound
  straight := List.not_mem_nil
  isNames := by decide
  leads := by
    refine ⟨[], ?_, fun _ member => nomatch member⟩
    show Files.Leads files true Tree.linkLimit files.here [] [] _
    rw [here]
    exact .done
  levels := by
    rintro _ ⟨front, -, short, rfl⟩
    exact levels _ ((List.mem_inits _ _).mpr short)
  spares := Site.spares_of_entries marks endings

theorem twins_freshFiles : usualSite.Twins freshFiles staleFiles where
  fits := fits_usualSite sound_freshFiles rfl rfl (by decide +kernel) (by decide +kernel)
  fitsAlso := fits_usualSite sound_staleFiles rfl rfl (by decide +kernel) (by decide +kernel)
  agrees := .of_entries sound_staleFiles rfl (by decide +kernel) (by decide +kernel)
  children := fun name => .inr ⟨Files.plain_of_entries (by decide +kernel) name,
    Files.plain_of_entries (by decide +kernel) name⟩

private theorem avoids_usualSite (name : String) (rest : List String)
    (straight : ".." ∉ rest) (isName : Files.IsName name) (beside : name ≠ "build") :
    Avoids freshFiles usualSite.Covers ⟨.none, name :: rest⟩ :=
  Site.avoids_of_beside noLinks_freshFiles (by simp [straight, isName.notAround.symm]) rfl rfl
    isName rfl beside

private theorem descriptors_freshFiles :
    Session.descriptors freshFiles .here = [⟨.none, ["pyproject.toml"]⟩] := by
  decide +kernel

/-- What is loaded can be computed. -/
private theorem load_eq {known : Settings}
    (computed : value? (Settings.load environment root overrides world) = some known) :
    Settings.load environment root overrides world = .ok known world := by
  obtain ⟨after, loading⟩ := exists_of_value?_eq_some computed
  rw [loading, Settings.world_of_load loading]

/-- Old outputs are all that the trees differ in for settings that keep to their directories. -/
private theorem stale_freshFiles {machine : Template.Machine} {overrides : Settings.Given}
    {settings : Settings}
    (loading : Settings.load [] .here overrides { files := freshFiles, machine } =
      .ok settings { files := freshFiles, machine })
    (templates : settings.templateFolder = ⟨.none, ["codegen", "templates"]⟩)
    (data : settings.dataFolder = ⟨.none, ["codegen", "data"]⟩)
    (outputs : settings.outputFolder = ⟨.none, ["build", "generated"]⟩) :
    StaleOutputs [] .here overrides { files := freshFiles, machine } staleFiles usualSite where
  twins := twins_freshFiles
  descriptors := by
    intro descriptor member
    obtain rfl := List.mem_singleton.mp (descriptors_freshFiles ▸ member)
    exact avoids_usualSite _ _ (by decide) (by decide) (by decide)
  recent := show 0 ≤ freshFiles.lastModified _ by decide +kernel
  suits := by
    intro given after again
    rw [loading] at again
    cases again
    refine ⟨outputs, fun names straight => ?_, fun names straight _ => ?_⟩
    · rw [templates]
      exact avoids_usualSite "codegen" ("templates" :: names) (by simpa using straight)
        (by decide) (by decide)
    · rw [data]
      exact avoids_usualSite "codegen" ("data" :: names) (by simpa using straight) (by decide)
        (by decide)

theorem generateProject_inputsOnly_freshFiles :
    freshFiles.Sound ∧
      UsesOwn Registry.ownModules [] .here [] { files := freshFiles } ∧
      StaleOutputs [] .here [] { files := freshFiles } staleFiles usualSite ∧
      ∃ after later again,
        generateProject Registry.ownModules [] .here [] { files := freshFiles } =
          .ok [usualOutput] after ∧
        generateProject Registry.ownModules [] .here [] { files := staleFiles } =
          .ok [usualOutput] later ∧
        SameOutputs [usualOutput] after.files later.files ∧
        Paired (NoFurtherApart freshFiles staleFiles) after later ∧
        generateProject Registry.ownModules [] .here [] { files := after.files } =
          .ok [usualOutput] again ∧
        ∀ place, again.files.at? place = after.files.at? place ∨
          SameFile (after.files.at? place) (again.files.at? place) := by
  have own : UsesOwn Registry.ownModules [] .here [] { files := freshFiles } :=
    fun _ _ _ => Registry.resolvesOwn_ownModules _
  have stale : StaleOutputs [] .here [] { files := freshFiles } staleFiles usualSite :=
    stale_freshFiles (load_eq (by decide +kernel : _ = some {})) rfl rfl rfl
  obtain ⟨alike, repeatable⟩ :=
    generateProject_inputsOnly (by exact sound_freshFiles) own (.inr ⟨_, stale⟩)
  obtain ⟨after, ended⟩ := exists_of_value?_eq_some (by decide +kernel :
    value? (generateProject Registry.ownModules [] .here [] { files := freshFiles }) =
      some [usualOutput])
  obtain ⟨again, endedAgain, same⟩ := repeatable _ _ _ stale.self ended (by decide +kernel)
  rw [ended] at alike
  generalize ran : generateProject Registry.ownModules [] .here [] { files := staleFiles } =
    result at alike
  cases alike with
  | @ok _ _ later related =>
    exact ⟨sound_freshFiles, own, stale, after, later, again, ended, rfl, related.1, related.2,
      endedAgain, same⟩

/-! ## What else an outcome could depend on -/

/-- No path that a generation looks at goes through a directory. -/
structure Outside (files : Tree) (root : Path) (settings : Settings) (folder : Files.Place) :
    Prop where
  descriptors : ∀ descriptor ∈ Session.descriptors files root,
    Avoids files (folder <+: ·) descriptor
  templates : ∀ names, ".." ∉ names →
    Avoids files (folder <+: ·) (pathBelow settings.templateFolder names)
  data : ∀ names, ".." ∉ names →
    Avoids files (folder <+: ·) (pathBelow settings.dataFolder names)

/-- Settings that name the directory of the data by a way through the one around the outputs. -/
def detourSettings : Settings where
  dataFolder := .ofString "build/../codegen/data"

/-- What has to be given for these settings. -/
def detourOverrides : Settings.Given := [("data_dir", .path detourSettings.dataFolder)]

/-- A reader that refuses a data file when there is an output. -/
def peekingReader : Reader := .plugin {
  name := "Peek"
  contribute := fun path draft => do
    if ← Act.askFiles fun files => files.has usualOutput then
      throw (.uninterpretable path .noMapping)
    return draft }

/-- The modules of the library, and one that holds the reader. -/
def peekingModules : List Registry.Module :=
  Registry.ownModules ++ [⟨"peeking", false, [("Peek", .reader peekingReader)]⟩]

/-- Settings with a reference to the reader. -/
def peekingSettings : Settings where
  extensions := [(".json", "peeking:Peek")]

/-- What has to be given for these settings. -/
def peekingOverrides : Settings.Given := [("extensions", .dict 0)]

/-- The machine that the overriding reference is held on. -/
def peekingMachine : Template.Machine where
  heap := ⟨#[.dict [(Value.ofString ".json", Value.ofString "peeking:Peek")]]⟩

/-- The settings are loaded from both trees. -/
private theorem loads_settings :
    (value? (Settings.load [] .here detourOverrides { files := freshFiles }) =
        some detourSettings ∧
      value? (Settings.load [] .here detourOverrides { files := staleFiles }) =
        some detourSettings) ∧
    value? (Settings.load [] .here peekingOverrides
      { files := freshFiles, machine := peekingMachine }) = some peekingSettings ∧
    value? (Settings.load [] .here peekingOverrides
      { files := staleFiles, machine := peekingMachine }) = some peekingSettings := by
  decide +kernel

private theorem not_prefix_of_first {onward : Files.Place → List String → List Files.Place}
    {files : Tree} {name : String} {rest : List String} {visited : Files.Place}
    (noLinks : ∀ place target, files.at? place ≠ some (.link target))
    (straight : ".." ∉ rest)
    (isName : Files.IsName name)
    (beside : name ≠ "build")
    (member : visited ∈ Files.visitNames files onward [] (name :: rest)) :
    ¬usualSite.place <+: visited := by
  obtain ⟨tail, rfl⟩ := Files.first_prefix_of_mem_visitNames noLinks straight isName member
  rintro inside
  have heads := (List.cons_prefix_cons.mp inside).1
  exact beside heads.symm

private theorem visits_relative {files : Tree} (here : files.here = []) (names : List String) :
    files.visits ⟨.none, names⟩ =
      Files.visitNames files (Files.visitFrom files 39) [] names := by
  show Files.visitNames files (Files.visitFrom files 39) files.here names = _
  rw [here]

private theorem outside_detour {files : Tree}
    (noLinks : ∀ place target, files.at? place ≠ some (.link target))
    (here : files.here = [])
    (known : Session.descriptors files .here = [⟨.none, ["pyproject.toml"]⟩])
    (around : files.at? ["build"] = none ∨ files.at? ["build"] = some .directory) :
    Outside files .here detourSettings usualSite.place where
  descriptors := by
    intro descriptor member visited visits
    obtain rfl := List.mem_singleton.mp (known ▸ member)
    rw [visits_relative here] at visits
    exact not_prefix_of_first noLinks (by decide) (by decide) (by decide) visits
  templates := by
    intro names straight visited visits
    change visited ∈ files.visits ⟨.none, "codegen" :: "templates" :: names⟩ at visits
    rw [visits_relative here] at visits
    exact not_prefix_of_first noLinks (by simpa using straight) (by decide) (by decide) visits
  data := by
    intro names straight visited visits
    have isName : Files.IsName "build" := by decide
    have isData : Files.IsName "codegen" := by decide
    change visited ∈ files.visits ⟨.none, "build" :: ".." :: "codegen" :: "data" :: names⟩
      at visits
    rw [visits_relative here, Files.visitNames_of_isName isName, List.mem_cons] at visits
    rcases visits with rfl | later
    · decide
    · rcases around with absent | directory
      · rw [List.nil_append, absent] at later
        cases later
      · rw [List.nil_append, directory] at later
        dsimp only at later
        rw [Files.visitNames_of_up] at later
        exact not_prefix_of_first noLinks (by simpa using straight) isData (by decide) later

/--
That no path goes through the directory of the outputs is not enough: a path may go through
a directory around it that is missing, and a reader may look at outputs by itself.
-/
theorem not_inputsOnly_freshFiles :
    freshFiles.Sound ∧ staleFiles.Sound ∧ usualSite.Twins freshFiles staleFiles ∧
      0 ≤ freshFiles.lastModified (Project.descriptorOf .here) ∧
      ((∃ after, Settings.load [] .here detourOverrides { files := freshFiles } =
          .ok detourSettings after) ∧
        UsesOwn Registry.ownModules [] .here detourOverrides { files := freshFiles } ∧
        detourSettings.outputFolder = usualSite.path ∧
        Outside freshFiles .here detourSettings usualSite.place ∧
        Outside staleFiles .here detourSettings usualSite.place ∧
        (∃ failure after,
          generateProject Registry.ownModules [] .here detourOverrides { files := freshFiles } =
            .error failure after) ∧
        ∃ after,
          generateProject Registry.ownModules [] .here detourOverrides { files := staleFiles } =
            .ok [usualOutput] after) ∧
      (StaleOutputs [] .here peekingOverrides
          { files := freshFiles, machine := peekingMachine } staleFiles usualSite ∧
        (∃ after,
          generateProject peekingModules [] .here peekingOverrides
            { files := freshFiles, machine := peekingMachine } = .ok [usualOutput] after) ∧
        ∃ failure after,
          generateProject peekingModules [] .here peekingOverrides
            { files := staleFiles, machine := peekingMachine } = .error failure after) := by
  obtain ⟨⟨detour, detourAlso⟩, peeking, peekingAlso⟩ := loads_settings
  refine ⟨sound_freshFiles, sound_staleFiles, twins_freshFiles, by decide +kernel,
    ⟨⟨_, load_eq detour⟩, fun _ _ _ => Registry.resolvesOwn_ownModules _, rfl, ?_, ?_, ?_, ?_⟩,
    stale_freshFiles (load_eq peeking) rfl rfl rfl, ?_, ?_⟩
  · exact outside_detour noLinks_freshFiles rfl descriptors_freshFiles (by decide +kernel)
  · exact outside_detour noLinks_staleFiles rfl (by decide +kernel) (by decide +kernel)
  · rw [generateProject, bind_apply_of_ok (load_eq detour)]
    exact exists_of_value?_eq_none (by decide +kernel)
  · rw [generateProject, bind_apply_of_ok (load_eq detourAlso)]
    exact exists_of_value?_eq_some (by decide +kernel)
  · rw [generateProject, bind_apply_of_ok (load_eq peeking)]
    exact exists_of_value?_eq_some (by decide +kernel)
  · rw [generateProject, bind_apply_of_ok (load_eq peekingAlso)]
    exact exists_of_value?_eq_none (by decide +kernel)

end Generation

end Stencil

import Stencil.Generation.Basic
import Stencil.Proofs.Files.Footprint
import Stencil.Proofs.Reader.Contribute
import Stencil.Settings.Load

/-!
# Before the walk

Settings and a session are loaded without any change.  A run then first checks the
directories of the templates and of the data files and makes that of the outputs.  Nothing
else is changed before the walk, and nothing at all as long as one of the checks fails.
-/

namespace Stencil

open Outcome
open Files (Change Grown LeadsInto Tree)

theorem Settings.sameFiles_load (environment : List (String × String)) (root : Path)
    (overrides : Settings.Given) :
    Moves Act.SameFiles (Settings.load environment root overrides) := by
  unfold Settings.load
  refine .bind .get fun world => .bind (Act.sameFiles_lift _) fun table =>
    .bind (Act.sameFiles_lift _) fun ⟨given, heap⟩ => ?_
  dsimp only
  split
  · exact .pure _
  · exact .throw _
  · exact .throw _

/-- To load settings leaves the whole world as it is. -/
theorem Settings.world_of_load {environment : List (String × String)} {root : Path}
    {overrides : Settings.Given} {settings : Settings} {world after : World}
    (ended : Settings.load environment root overrides world = .ok settings after) :
    after = world := by
  have lifts {α : Type} (result : Except Failure α) :
      Moves (Inherits (· = world)) (Act.lift result) := by
    cases result with
    | ok value => exact .pure value
    | error failure => exact .throw failure
  have loads : Moves (Inherits (· = world)) (Settings.load environment root overrides) := by
    unfold Settings.load
    refine .bind .get fun _ => .bind (lifts _) fun table => .bind (lifts _) fun ⟨given, heap⟩ => ?_
    dsimp only
    split
    · exact .pure _
    · exact .throw _
    · exact .throw _
  exact loads.of_ok ended rfl

theorem Session.sameFiles_load (root : Path) : Moves Act.SameFiles (Session.load root) :=
  .bind .get fun _ => .bind (Act.sameFiles_lift _) fun _ => .bind (Act.sameFiles_detail _)
    fun _ => .pure _

theorem Engine.sameFiles_setUp (directory : Path) (version : String)
    (delimiters : Template.Delimiters) :
    Moves Act.SameFiles (Engine.setUp directory version delimiters) := by
  unfold Engine.setUp
  refine .bind (Act.sameFiles_lift _) fun _ => .bind (Act.sameFiles_detail _) fun _ => ?_
  split
  · exact .bind (Act.sameFiles_fail _) fun _ => .bind (Act.sameFiles_onMachine _) fun _ =>
      .pure _
  · exact .bind (Act.sameFiles_onMachine _) fun _ => .pure _

/-- An engine renders the templates of the directory that it is set up for. -/
theorem Engine.directory_of_setUp {directory : Path} {version : String}
    {delimiters : Template.Delimiters} {engine : Template.Engine} {world after : World}
    (ended : Engine.setUp directory version delimiters world = .ok engine after) :
    engine.directory = directory := by
  obtain ⟨_, _, -, afterCheck⟩ := bind_eq_ok_iff.mp ended
  obtain ⟨_, _, -, afterNotice⟩ := bind_eq_ok_iff.mp afterCheck
  split at afterNotice
  · obtain ⟨_, _, failed, -⟩ := bind_eq_ok_iff.mp afterNotice
    cases failed
  · obtain ⟨_, _, -, given⟩ := bind_eq_ok_iff.mp afterNotice
    cases given
    rfl

namespace Generation

variable {folder : Path} {label : String} {world after : World}

/-! ## Directories that have to be there -/

theorem sameFiles_requireFolder (folder : Path) (label : String) :
    Moves Act.SameFiles (requireFolder folder label) := by
  unfold requireFolder
  apply Moves.bind (Act.sameFiles_askFiles _)
  intro isDirectory
  cases isDirectory with
  | false => exact .throw _
  | true => exact .pure _

theorem requireFolder_ok (ended : requireFolder folder label world = .ok ⟨⟩ after) :
    after = world ∧ ∃ trail place, LeadsInto world.files folder trail place := by
  unfold requireFolder at ended
  obtain ⟨isDirectory, between, asked, rest⟩ := bind_eq_ok_iff.mp ended
  obtain ⟨known, rfl⟩ := Act.askFiles_eq_ok_iff.mp asked
  cases isDirectory with
  | false => cases rest
  | true =>
    cases rest
    exact ⟨rfl, Files.isDirectory_eq_true_iff.mp known⟩

/-! ## The directory of the outputs -/

theorem provideFolder_of_has (known : world.files.has folder = .ok true) :
    provideFolder folder world = .ok ⟨⟩ world := by
  have asked : Act.askFiles (fun files => files.has folder) world = .ok true world :=
    Act.askFiles_eq_ok_iff.mpr ⟨known, rfl⟩
  exact bind_apply_of_ok asked

theorem provideFolder_of_not_has (known : world.files.has folder = .ok false) :
    provideFolder folder world =
      Act.naming (outputFailure folder) (Act.onFiles (Change.makeDirectory folder)) world := by
  have asked : Act.askFiles (fun files => files.has folder) world = .ok false world :=
    Act.askFiles_eq_ok_iff.mpr ⟨known, rfl⟩
  exact bind_apply_of_ok asked

private theorem provideFolder_of_error {fault : Fault}
    (known : world.files.has folder = .error fault) :
    provideFolder folder world = .error (.unforeseen fault) world := by
  unfold provideFolder
  refine bind_apply_of_error ?_
  rw [Act.askFiles_apply, known]

/-- Whatever comes of it, making the directory of the outputs only adds directories. -/
theorem grown_provideFolder (sound : world.files.Sound) (folder : Path) :
    Grown folder world.files (left (provideFolder folder world)).files := by
  cases known : world.files.has folder with
  | error fault =>
    rw [provideFolder_of_error known]
    exact .refl sound
  | ok isThere =>
    cases isThere with
    | true =>
      rw [provideFolder_of_has known]
      exact .refl sound
    | false =>
      rw [provideFolder_of_not_has known, Act.naming_apply, Act.onFiles_apply]
      have grown := Change.makeDirectory_grows folder world.files sound
      cases made : Change.makeDirectory folder world.files with
      | ok _ files =>
        rw [made] at grown
        exact grown
      | error fault files =>
        rw [made] at grown
        exact grown

/-- Either something has been there, or now there is a directory. -/
theorem provideFolder_ok (sound : world.files.Sound)
    (ended : provideFolder folder world = .ok ⟨⟩ after) :
    (world.files.has folder = .ok true ∧ after = world) ∨
      ∃ trail place, LeadsInto after.files folder trail place := by
  cases known : world.files.has folder with
  | error fault =>
    rw [provideFolder_of_error known] at ended
    cases ended
  | ok isThere =>
    cases isThere with
    | true =>
      rw [provideFolder_of_has known] at ended
      cases ended
      exact .inl ⟨rfl, rfl⟩
    | false =>
      rw [provideFolder_of_not_has known] at ended
      obtain ⟨files, made, rfl⟩ := Act.onFiles_eq_ok_iff.mp (Act.naming_eq_ok_iff.mp ended)
      exact .inr (Change.makeDirectory_ok sound made)

/-! ## All preparations -/

theorem sameFiles_setUp (engine : Template.Engine) (session : Session)
    (readers : Registry.Table) (templateFolder outputFolder : Path) (fileMode : Int) :
    Moves Act.SameFiles
      (setUp engine session readers templateFolder outputFolder fileMode) :=
  .bind (Act.sameFiles_onMachine _) fun _ => .bind .get fun _ =>
    .bind Act.sameFiles_machine fun _ => .pure _

variable {modules : List Registry.Module} {settings : Settings} {session : Session}

/--
Preparations change nothing unless the directories of templates and data files are there,
and then only make the directory of the outputs.
-/
theorem grown_prepare (sound : world.files.Sound) :
    (left (prepare modules settings session world)).files = world.files ∨
      ((∃ trail place, LeadsInto world.files settings.templateFolder trail place) ∧
        (∃ trail place, LeadsInto world.files settings.dataFolder trail place) ∧
        Grown settings.outputFolder world.files
          (left (prepare modules settings session world)).files) := by
  unfold prepare
  rcases Act.files_bind_cases (sameFiles_requireFolder settings.templateFolder "template") _ world
    with same | ⟨_, middle, first, -, goesOn⟩
  · exact .inl same
  rw [goesOn]
  obtain ⟨rfl, templates⟩ := requireFolder_ok first
  rcases Act.files_bind_cases (sameFiles_requireFolder settings.dataFolder "data") _ middle
    with same | ⟨_, between, second, -, goesOn⟩
  · exact .inl same
  rw [goesOn]
  obtain ⟨rfl, data⟩ := requireFolder_ok second
  refine .inr ⟨templates, data, ?_⟩
  have grown := grown_provideFolder sound settings.outputFolder
  cases third : provideFolder settings.outputFolder between with
  | error failure after =>
    rw [bind_apply_of_error third]
    rwa [third] at grown
  | ok _ provided =>
    rw [bind_apply_of_ok third]
    rw [third] at grown
    have same {act : Act Generation} (moves : Moves Act.SameFiles act) :
        Grown settings.outputFolder between.files (left (act provided)).files := by
      have files : (left (act provided)).files = provided.files := moves provided
      rw [files]
      exact grown
    exact same (.bind (Registry.sameFiles_build _ _) fun readers =>
      .bind (Engine.sameFiles_setUp _ _ _) fun engine =>
      .bind (Act.sameFiles_detail _) fun _ => sameFiles_setUp _ _ _ _ _ _)

/-- What a generation is prepared with. -/
structure Prepared (modules : List Registry.Module) (settings : Settings) (session : Session)
    (world : World) (generation : Generation) (ready : World) : Prop where
  templates : ∃ trail place, LeadsInto world.files settings.templateFolder trail place
  data : ∃ trail place, LeadsInto world.files settings.dataFolder trail place
  provided : ∃ made, provideFolder settings.outputFolder world = .ok ⟨⟩ made ∧
    ready.files = made.files
  readers : ∃ start finish, Registry.build modules settings.extensions start =
    .ok generation.readers finish
  templateFolder : generation.templateFolder = settings.templateFolder
  directory : generation.engine.directory = settings.templateFolder
  outputFolder : generation.outputFolder = settings.outputFolder
  fileMode : generation.fileMode = settings.fileMode
  timestamp : generation.timestamp = session.lastModified ready.files

theorem prepare_ok {generation : Generation} {ready : World}
    (ended : prepare modules settings session world = .ok generation ready) :
    Prepared modules settings session world generation ready := by
  unfold prepare at ended
  obtain ⟨_, middle, first, afterFirst⟩ := bind_eq_ok_iff.mp ended
  obtain ⟨rfl, templates⟩ := requireFolder_ok first
  obtain ⟨_, between, second, afterSecond⟩ := bind_eq_ok_iff.mp afterFirst
  obtain ⟨rfl, data⟩ := requireFolder_ok second
  obtain ⟨_, made, provided, afterThird⟩ := bind_eq_ok_iff.mp afterSecond
  obtain ⟨readers, built, building, afterFourth⟩ := bind_eq_ok_iff.mp afterThird
  obtain ⟨engine, engaged, engaging, afterFifth⟩ := bind_eq_ok_iff.mp afterFourth
  obtain ⟨_, noticed, noticing, settingUp⟩ := bind_eq_ok_iff.mp afterFifth
  have same : noticed.files = made.files :=
    ((Act.sameFiles_detail _).of_ok noticing).trans
      (((Engine.sameFiles_setUp _ _ _).of_ok engaging).trans
        ((Registry.sameFiles_build _ _).of_ok building))
  have files : ready.files = noticed.files := (sameFiles_setUp _ _ _ _ _ _).of_ok settingUp
  obtain ⟨properties, stored, storing, given⟩ := bind_eq_ok_iff.mp settingUp
  cases given
  exact ⟨templates, data, ⟨made, provided, files.trans same⟩, ⟨made, built, building⟩, rfl,
    Engine.directory_of_setUp engaging, rfl, rfl, rfl⟩

/-- The readers of a run are the library's own if the references of its settings are. -/
theorem Prepared.isOwn {generation : Generation} {ready : World}
    (prepared : Prepared modules settings session world generation ready)
    (own : Registry.ResolvesOwn modules settings.extensions) : generation.readers.IsOwn := by
  obtain ⟨start, finish, built⟩ := prepared.readers
  exact Registry.isOwn_build own built

/-- The files when the walk begins. -/
theorem Prepared.files_eq {generation : Generation} {ready : World}
    (prepared : Prepared modules settings session world generation ready) :
    ready.files = (left (provideFolder settings.outputFolder world)).files := by
  obtain ⟨made, provided, same⟩ := prepared.provided
  rw [provided, left_ok, same]

end Generation

end Stencil

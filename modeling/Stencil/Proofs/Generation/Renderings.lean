import Stencil.Proofs.Files.Replacing
import Stencil.Proofs.Generation.Walks

/-!
# Walks with different renderings

Two renderings that do the same in every world that the walk with one of them renders in make
the same walk.  A rendering that never changes a file there does the same as its quiet
counterpart, and an engine with a host the same as the engine alone where no template asks for
anything outside.
-/

namespace Stencil

open Outcome
open Files (Change)

/-! ## One output -/

namespace Task

/-- The world in which a template that has been loaded is rendered for an output. -/
def Readies (task : Task) (engine : Template.Engine) (template output : Path) (world : World)
    (place : Nat) (ready : World) : Prop :=
  ∃ loaded spare opened,
    task.isFresh template output world = .ok false world ∧
    Engine.load engine template.name world = .ok place loaded ∧
    task.checkFolder loaded = .ok ⟨⟩ loaded ∧
    Change.startFile output loaded.files = .ok spare opened ∧
    ready = { loaded with
      files := opened
      machine := { loaded.machine with storesOutput := true } }

variable {other : Rendering} [rendering : Rendering] {task : Task} {engine : Template.Engine}
  {template output : Path} {place : Nat} {world : World}

theorem content_congr
    (alike : other.render engine place task.model
        { world with machine := { world.machine with storesOutput := true } } =
      rendering.render engine place task.model
        { world with machine := { world.machine with storesOutput := true } }) :
    @content other task engine place world = task.content engine place world := by
  refine bind_apply_congr rfl fun _ told noted => ?_
  cases noted
  exact bind_apply_congr alike fun _ _ _ => rfl

theorem write_congr
    (alike : ∀ spare opened, Change.startFile output world.files = .ok spare opened →
      @content other task engine place { world with files := opened } =
        task.content engine place { world with files := opened }) :
    @write other task engine place output world = task.write engine place output world := by
  refine bind_apply_congr rfl fun spare begun starting => ?_
  obtain ⟨opened, started, rfl⟩ := Act.onFiles_eq_ok_iff.mp starting
  refine bind_apply_congr ?_ fun _ _ _ => rfl
  unfold postponed
  rw [alike spare opened started]

/-- Only the world in which the template is rendered makes a difference. -/
theorem generateOne_congr
    (alike : ∀ place ready, task.Readies engine template output world place ready →
      other.render engine place task.model ready =
        rendering.render engine place task.model ready) :
    @generateOne other task engine template output world =
      task.generateOne engine template output world := by
  refine bind_apply_congr rfl fun fresh between checked => ?_
  obtain ⟨rfl, -⟩ := isFresh_ok checked
  cases fresh with
  | true => rfl
  | false =>
    refine bind_apply_congr rfl fun start _ taken => ?_
    cases taken
    refine bind_apply_congr rfl fun place loaded loading => ?_
    refine bind_apply_congr rfl fun _ last folder => ?_
    obtain rfl := checkFolder_ok folder
    refine bind_apply_congr ?_ fun _ _ _ => rfl
    rw [Act.naming_apply, Act.naming_apply]
    rw [write_congr fun spare opened started => content_congr (alike place _
      ⟨last, spare, opened, checked, Act.naming_eq_ok_iff.mp loading, folder, started, rfl⟩)]

/-- An output whose rendering fails is not written. -/
theorem Readies.generateOne_eq_error {ready finish : World} {fault : Fault}
    (readies : task.Readies engine template output world place ready)
    (failed : rendering.render engine place task.model ready =
      .error (.unforeseen fault) finish) :
    ∃ after, task.generateOne engine template output world =
      .error (.render task.source fault) after := by
  obtain ⟨loaded, spare, opened, fresh, loading, folder, started, rfl⟩ := readies
  have given : task.content engine place { loaded with files := opened } =
      .error (.unforeseen fault) finish :=
    (bind_apply_of_ok rfl).trans (bind_apply_of_error failed)
  have putOff : postponed (task.content engine place) { loaded with files := opened } =
      .ok (.error fault) finish :=
    postponed_eq_ok_iff.mpr (.inr ⟨fault, rfl, given⟩)
  have written : task.write engine place output loaded =
      .error (.unforeseen fault)
        { finish with files := finish.files.remove spare.place } := by
    refine (bind_apply_of_ok (Act.onFiles_eq_ok_iff.mpr ⟨opened, started, rfl⟩)).trans ?_
    refine (bind_apply_of_ok putOff).trans ?_
    rw [Act.onFiles_apply, Change.finishFile_of_fault]
  refine ⟨{ finish with files := finish.files.remove spare.place }, ?_⟩
  refine (bind_apply_of_ok fresh).trans ?_
  refine (bind_apply_of_ok rfl : (Act.machine >>= _) world = _).trans ?_
  refine (bind_apply_of_ok (Act.naming_eq_ok_iff.mpr loading)).trans ?_
  refine (bind_apply_of_ok folder).trans (bind_apply_of_error ?_)
  rw [Act.naming_apply, written]

end Task

namespace Generation

variable {generation : Generation} {root : Path} {world : World}

/-! ## Runs -/

/-- A walk comes to the rendering of a template for a task. -/
def ComesTo [Rendering] (generation : Generation) (root : Path) (world : World) (task : Task)
    (place : Nat) (ready : World) : Prop :=
  ∃ steps before template output rest,
    Runs generation world [.folder root] steps before (.pair task template output :: rest) ∧
    task.Readies generation.engine template output before place ready

/-- Another rendering does the same wherever a walk renders. -/
def RendersAlike (other : Rendering) [rendering : Rendering] (generation : Generation)
    (root : Path) (world : World) : Prop :=
  ∀ task place ready, generation.ComesTo root world task place ready →
    other.render generation.engine place task.model ready =
      rendering.render generation.engine place task.model ready

namespace RendersAlike

variable {other : Rendering} [rendering : Rendering]

/-- Every job that a walk comes to is performed alike. -/
theorem perform_eq {steps : List Step} {before : World} {job : Job} {rest : List Job}
    (alike : RendersAlike other generation root world)
    (runs : Runs generation world [.folder root] steps before (job :: rest)) :
    @perform other generation job before = generation.perform job before := by
  cases job with
  | folder path => rfl
  | file path => rfl
  | pair task template output =>
    refine bind_apply_congr (Task.generateOne_congr fun place ready readies => ?_) fun _ _ _ => rfl
    exact alike task place ready ⟨steps, before, template, output, rest, runs, readies⟩

/-- Walks that render alike have the same runs. -/
theorem runs_iff {steps : List Step} {finish : World} {jobs : List Job}
    (alike : RendersAlike other generation root world) :
    @Runs other generation world [.folder root] steps finish jobs ↔
      Runs generation world [.folder root] steps finish jobs := by
  -- Along either run, what has been run so far has been run with both renderings.
  constructor
  · intro runs
    refine @Runs.keeps _ _ _ _ _ _ [] other (Runs generation world [.folder root])
      (fun sofar performed => ?_) runs .stop
    rw [alike.perform_eq sofar] at performed
    exact sofar.concat performed
  · intro runs
    refine (@Runs.keeps _ _ _ _ _ _ [] _
      (fun done middle jobs => Runs generation world [.folder root] done middle jobs ∧
        @Runs other generation world [.folder root] done middle jobs)
      (fun ⟨sofar, also⟩ performed => ⟨sofar.concat performed, ?_⟩) runs
      ⟨.stop, @Runs.stop other _ _ _⟩).2
    rw [← alike.perform_eq sofar] at performed
    exact @Runs.concat other _ _ _ _ _ _ _ _ _ _ also performed

/-- Walks that render alike come to the same renderings. -/
theorem comesTo_iff {task : Task} {place : Nat} {ready : World}
    (alike : RendersAlike other generation root world) :
    @ComesTo other generation root world task place ready ↔
      generation.ComesTo root world task place ready := by
  unfold ComesTo
  simp only [alike.runs_iff]

theorem symm (alike : RendersAlike other generation root world) :
    @RendersAlike rendering other generation root world := fun task place ready comes =>
  (alike task place ready (alike.comesTo_iff.mp comes)).symm

/-- Walks that render alike end alike, if one of the renderings never changes a file. -/
theorem walk_eq [rendering.IsQuiet] (readers : generation.readers.IsOwn)
    (sound : world.files.Sound) (alike : RendersAlike other generation root world) :
    @walk other generation root world = generation.walk root world := by
  cases walked : @walk other generation root world with
  | ok outputs after =>
    obtain ⟨steps, runs, rfl⟩ := @walk_ok _ _ _ _ other _ walked
    exact ((alike.runs_iff.mp runs).walk_eq readers sound).symm
  | error failure after =>
    obtain ⟨steps, before, job, rest, runs, reason⟩ := @walk_fails _ _ _ other _ _ walked
    have runs := alike.runs_iff.mp runs
    rcases reason with failed | ⟨path, rfl, deep⟩
    · rw [alike.perform_eq runs] at failed
      exact (runs.walk_eq_error readers sound failed).symm
    · exact absurd (runs.depth_lt readers sound) (Nat.not_lt.mpr deep)

end RendersAlike

/-! ## Quiet walks -/

/-- No rendering that a walk comes to changes a file. -/
def WalksQuietly [rendering : Rendering] (generation : Generation) (root : Path)
    (world : World) : Prop :=
  ∀ task place ready, generation.ComesTo root world task place ready →
    (left (rendering.render generation.engine place task.model ready)).files = ready.files

/-- What a quiet walk does, it does with the quiet counterpart of its rendering too. -/
theorem WalksQuietly.alike [rendering : Rendering]
    (quiet : generation.WalksQuietly root world) :
    RendersAlike rendering.quieted generation root world :=
  fun task place ready comes => rendering.quieted_render (quiet task place ready comes)

/-- A quiet walk ends as the one with the quiet counterpart of its rendering does. -/
theorem WalksQuietly.walk_eq [rendering : Rendering]
    (quiet : generation.WalksQuietly root world) (readers : generation.readers.IsOwn)
    (sound : world.files.Sound) :
    @walk rendering.quieted generation root world = generation.walk root world :=
  (@RendersAlike.walk_eq _ _ _ rendering rendering.quieted _ readers sound quiet.alike.symm).symm

/-- What renders as a rendering does that never changes a file, is quiet. -/
theorem RendersAlike.walksQuietly {other : Rendering} [rendering : Rendering]
    [rendering.IsQuiet] (alike : RendersAlike other generation root world) :
    @WalksQuietly other generation root world := fun task place ready comes => by
  rw [alike task place ready (alike.comesTo_iff.mp comes)]
  exact Rendering.IsQuiet.sameFiles generation.engine place task.model ready

/-! ## Walks with a host -/

/-- The engine alone does not stop at what a template asks for. -/
def AsksNothing (generation : Generation) (root : Path) (world : World) : Prop :=
  ∀ dataFile names after,
    generation.walk root world ≠ .error (.render dataFile (.asks names)) after

/-- Where no template asks for anything, it does not matter which host there is. -/
theorem AsksNothing.alike {host : Template.Host}
    (asksNothing : generation.AsksNothing root world) (readers : generation.readers.IsOwn)
    (sound : world.files.Sound) : RendersAlike (.among host) generation root world := by
  rintro task place ready ⟨steps, before, template, output, rest, runs, readies⟩
  apply Engine.renderAmong_of_not_asks
  by_contra asked
  obtain ⟨names, finish, failed⟩ := Engine.asks_iff.mp (Bool.not_eq_false _ ▸ asked)
  obtain ⟨after, failed⟩ := readies.generateOne_eq_error failed
  exact asksNothing _ _ _ (runs.walk_eq_error readers sound (bind_apply_of_error failed))

theorem AsksNothing.walk_among_eq {host : Template.Host}
    (asksNothing : generation.AsksNothing root world) (readers : generation.readers.IsOwn)
    (sound : world.files.Sound) :
    @walk (.among host) generation root world = generation.walk root world :=
  (asksNothing.alike readers sound).walk_eq readers sound

end Generation

end Stencil

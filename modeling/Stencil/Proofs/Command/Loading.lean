import Stencil.Command.Run
import Stencil.Proofs.Generation.Prepare
import Stencil.Proofs.Generation.Renderings

/-!
# How a command gets to its run

A command that asks for a generation loads the settings and a session, does a run with them,
and reports how the run has ended.  It changes nothing besides.  Whoever the host is, it does
the same unless the engine alone would stop at what a template asks for.
-/

namespace Stencil

open Outcome

namespace Generation

variable {modules : List Registry.Module} {settings : Settings} {session : Session}
  {world : World}

/-- On its run the engine alone does not stop at what a template asks for. -/
def RunAsksNothing (modules : List Registry.Module) (settings : Settings) (session : Session)
    (world : World) : Prop :=
  ∀ dataFile names after,
    run modules settings session world ≠ .error (.render dataFile (.asks names)) after

theorem RunAsksNothing.walk {generation : Generation} {ready : World}
    (asksNothing : RunAsksNothing modules settings session world)
    (prepared : prepare modules settings session world = .ok generation ready) :
    generation.AsksNothing settings.dataFolder ready := by
  intro dataFile names after failed
  exact asksNothing dataFile names after ((bind_apply_of_ok prepared).trans failed)

theorem sound_of_prepare {generation : Generation} {ready : World} (sound : world.files.Sound)
    (prepared : prepare modules settings session world = .ok generation ready) :
    ready.files.Sound := by
  have files := (prepare_ok prepared).files_eq
  exact files ▸ (grown_provideFolder sound settings.outputFolder).sound

theorem RunAsksNothing.run_among_eq {host : Template.Host}
    (asksNothing : RunAsksNothing modules settings session world) (sound : world.files.Sound)
    (own : Registry.ResolvesOwn modules settings.extensions) :
    @run (.among host) modules settings session world = run modules settings session world :=
  bind_apply_congr rfl fun _ _ prepared =>
    (asksNothing.walk prepared).walk_among_eq ((prepare_ok prepared).isOwn own)
      (sound_of_prepare sound prepared)

/-- On the walk of a run no template changes a file. -/
def RunsQuietly [Rendering] (modules : List Registry.Module) (settings : Settings)
    (session : Session) (world : World) : Prop :=
  ∀ generation ready, prepare modules settings session world = .ok generation ready →
    generation.WalksQuietly settings.dataFolder ready

/-- What asks for nothing is quiet with any host. -/
theorem RunAsksNothing.runsQuietly {host : Template.Host}
    (asksNothing : RunAsksNothing modules settings session world) (sound : world.files.Sound)
    (own : Registry.ResolvesOwn modules settings.extensions) :
    @RunsQuietly (.among host) modules settings session world := by
  intro generation ready prepared
  have alike : RendersAlike (.among host) generation settings.dataFolder ready :=
    (asksNothing.walk prepared).alike ((prepare_ok prepared).isOwn own)
      (sound_of_prepare sound prepared)
  exact alike.walksQuietly

end Generation

namespace Command

variable {surroundings : Surroundings} {commandLine : List String} {world : World}
  {settings : Settings} {session : Session} {loaded : World}

/-! ## Loading -/

/-- A command line asks for a generation with settings and a session that can be loaded. -/
def Loads (surroundings : Surroundings) (commandLine : List String) (world : World)
    (settings : Settings) (session : Session) (loaded : World) : Prop :=
  ∃ request root arguments begun given overridden configured,
    readCommandLine commandLine = .ok (some request) ∧
    Act.detail "Starting templategen" world = .ok ⟨⟩ begun ∧
    world.files.settled (givenRoot request) = .ok root ∧
    Arguments.ofRequest request = .ok arguments ∧
    overrides request arguments begun = .ok given overridden ∧
    Settings.load surroundings.environment root given overridden = .ok settings configured ∧
    Session.load root configured = .ok session loaded

theorem sameFiles_overrides (request : Request) (arguments : Arguments) :
    Moves Act.SameFiles (overrides request arguments) :=
  .bind (Act.sameFiles_onMachine _) fun _ => .pure _

theorem Loads.files_eq
    (loads : Loads surroundings commandLine world settings session loaded) :
    loaded.files = world.files := by
  obtain ⟨request, root, arguments, begun, given, overridden, configured, -, noticing, -, -,
    overriding, loading, opening⟩ := loads
  exact ((Session.sameFiles_load root).of_ok opening).trans
    (((Settings.sameFiles_load _ _ _).of_ok loading).trans
      (((sameFiles_overrides request arguments).of_ok overriding).trans
        ((Act.sameFiles_detail _).of_ok noticing)))

/-! ## Reporting -/

theorem reporting_apply (act : Act Unit) (world : World) :
    reporting act world =
      match act world with
      | .ok _ after => .ok .done after
      | .error failure after =>
        if failure.isNamed then
          .ok .failed { after with notices := .failure failure :: after.notices }
        else .error failure after := by
  unfold reporting
  cases ended : act world with
  | ok _ after =>
    have done : (do act; return Outcome.done : Act Outcome) world = .ok .done after :=
      bind_apply_of_ok ended
    exact tryCatch_apply_of_ok done
  | error failure after =>
    have failed : (do act; return Outcome.done : Act Outcome) world = .error failure after :=
      bind_apply_of_error ended
    refine (tryCatch_apply_of_error failed).trans ?_
    cases failure <;> rfl

/-- Reporting a failure changes no file. -/
theorem files_reporting (act : Act Unit) (world : World) :
    (left (reporting act world)).files = (left (act world)).files := by
  rw [reporting_apply]
  cases act world with
  | ok _ after => rfl
  | error failure after => cases failure <;> rfl

/-! ## Runs -/

section WithRendering

variable [rendering : Rendering]

/-- With settings and a session that can be loaded a command ends as its run does. -/
theorem run_of_loads (loads : Loads surroundings commandLine world settings session loaded) :
    run surroundings commandLine world =
      match Generation.run surroundings.modules settings session loaded with
      | .ok outputs after =>
        (.done, { after with notices := .report ("Generated " ++ toString outputs.length ++
          " file(s) in " ++ settings.outputFolder.text) :: after.notices })
      | .error failure after =>
        if failure.isNamed then
          (.failed, { after with notices := .failure failure :: after.notices })
        else (.crashed failure, after) := by
  obtain ⟨request, root, arguments, begun, given, overridden, configured, reading, noticing,
    settling, checked, overriding, loading, opening⟩ := loads
  have files : begun.files = world.files := (Act.sameFiles_detail _).of_ok noticing
  have performed : perform surroundings request world =
      reporting (generate surroundings root request arguments) begun := by
    unfold perform
    rw [bind_apply_of_ok noticing,
      bind_apply_of_ok (Act.askFiles_eq_ok_iff.mpr ⟨files ▸ settling, rfl⟩), checked]
  unfold run
  rw [reading]
  dsimp only
  rw [performed, reporting_apply]
  unfold generate
  rw [bind_apply_of_ok overriding, bind_apply_of_ok loading, bind_apply_of_ok opening]
  cases ran : Generation.run surroundings.modules settings session loaded with
  | ok outputs after =>
    rw [bind_apply_of_ok ran]
    rfl
  | error failure after =>
    rw [bind_apply_of_error ran]
    cases failure <;> rfl

/-- A command that loads leaves the files as its run does. -/
theorem files_of_loads (loads : Loads surroundings commandLine world settings session loaded) :
    (run surroundings commandLine world).2.files =
      (left (Generation.run surroundings.modules settings session loaded)).files := by
  rw [run_of_loads loads]
  cases Generation.run surroundings.modules settings session loaded with
  | ok outputs after => rfl
  | error failure after => cases failure <;> rfl

/-- A generation changes nothing unless everything can be loaded. -/
theorem files_generate (root : Path) (request : Request) (arguments : Arguments) :
    (left (generate surroundings root request arguments world)).files = world.files ∨
      ∃ given overridden settings configured session loaded,
        overrides request arguments world = .ok given overridden ∧
        Settings.load surroundings.environment root given overridden =
          .ok settings configured ∧
        Session.load root configured = .ok session loaded := by
  unfold generate
  rcases Act.files_bind_cases (sameFiles_overrides request arguments) _ world with same |
    ⟨given, overridden, overriding, first, goesOn⟩
  · exact .inl same
  rw [goesOn]
  rcases Act.files_bind_cases (Settings.sameFiles_load surroundings.environment root given) _
    overridden with same | ⟨settings, configured, loading, second, goesOn⟩
  · exact .inl (same.trans first)
  rw [goesOn]
  rcases Act.files_bind_cases (Session.sameFiles_load root) _ configured with same |
    ⟨session, loaded, opening, -, -⟩
  · exact .inl (same.trans (second.trans first))
  exact .inr ⟨given, overridden, settings, configured, session, loaded, overriding, loading,
    opening⟩

/-- Carrying out a request changes nothing unless everything can be loaded. -/
theorem files_perform {request : Request}
    (reading : readCommandLine commandLine = .ok (some request)) :
    (left (perform surroundings request world)).files = world.files ∨
      ∃ settings session loaded,
        Loads surroundings commandLine world settings session loaded := by
  unfold perform
  obtain ⟨begun, noticing⟩ : ∃ begun, Act.detail "Starting templategen" world =
    .ok ⟨⟩ begun := ⟨_, rfl⟩
  have files : begun.files = world.files := (Act.sameFiles_detail _).of_ok noticing
  rw [bind_apply_of_ok noticing]
  cases settling : begun.files.settled (givenRoot request) with
  | error fault =>
    rw [bind_apply_of_error (by rw [Act.askFiles_apply, settling])]
    exact .inl files
  | ok root =>
    rw [bind_apply_of_ok (Act.askFiles_eq_ok_iff.mpr ⟨settling, rfl⟩)]
    cases checked : Arguments.ofRequest request with
    | error fault => exact .inl files
    | ok arguments =>
      dsimp only
      rw [files_reporting]
      rcases files_generate root request arguments with same | ⟨given, overridden, settings,
        configured, session, loaded, overriding, loading, opening⟩
      · exact .inl (same.trans files)
      · rw [files] at settling
        exact .inr ⟨settings, session, loaded, request, root, arguments, begun, given,
          overridden, configured, reading, noticing, settling, checked, overriding, loading,
          opening⟩

/-- A command changes nothing unless everything can be loaded. -/
theorem files_run :
    (run surroundings commandLine world).2.files = world.files ∨
      ∃ settings session loaded,
        Loads surroundings commandLine world settings session loaded := by
  unfold run
  cases reading : readCommandLine commandLine with
  | error fault => exact .inl rfl
  | ok asked =>
    cases asked with
    | none => exact .inl rfl
    | some request =>
      rcases files_perform reading with same | loads
      · refine .inl (Eq.trans ?_ same)
        dsimp only
        cases perform surroundings request world <;> rfl
      · exact .inr loads

end WithRendering

/-! ## Hosts -/

/-- Only the run of a command depends on how templates are rendered. -/
theorem run_congr {other : Rendering} [rendering : Rendering]
    (same : ∀ settings session loaded,
      Loads surroundings commandLine world settings session loaded →
        @Generation.run other surroundings.modules settings session loaded =
          Generation.run surroundings.modules settings session loaded) :
    @run other surroundings commandLine world = run surroundings commandLine world := by
  unfold run
  cases reading : readCommandLine commandLine with
  | error fault => rfl
  | ok asked =>
    cases asked with
    | none => rfl
    | some request =>
      have performed : @perform other surroundings request world =
          perform surroundings request world := by
        refine bind_apply_congr rfl fun _ begun noticing => ?_
        refine bind_apply_congr rfl fun root settled settling => ?_
        obtain ⟨settling, rfl⟩ := Act.askFiles_eq_ok_iff.mp settling
        rw [(Act.sameFiles_detail _).of_ok noticing] at settling
        cases checked : Arguments.ofRequest request with
        | error fault => rfl
        | ok arguments =>
          have generated : @generate other surroundings root request arguments settled =
              generate surroundings root request arguments settled :=
            bind_apply_congr rfl fun given overridden overriding =>
              bind_apply_congr rfl fun settings configured loading =>
                bind_apply_congr rfl fun session loaded opening =>
                  bind_apply_congr
                    (same settings session loaded ⟨request, root, arguments, settled, given,
                      overridden, configured, reading, noticing, settling, checked, overriding,
                      loading, opening⟩)
                    fun _ _ _ => rfl
          dsimp only
          rw [reporting_apply, reporting_apply, generated]
      dsimp only
      rw [performed]

/-- The engine alone does not stop at what a template asks for. -/
def AsksNothing (surroundings : Surroundings) (commandLine : List String) (world : World) :
    Prop :=
  ∀ dataFile names, (run surroundings commandLine world).2.notices.head? ≠
    some (.failure (.render dataFile (.asks names)))

theorem AsksNothing.of_loads (asksNothing : AsksNothing surroundings commandLine world)
    (loads : Loads surroundings commandLine world settings session loaded) :
    Generation.RunAsksNothing surroundings.modules settings session loaded := by
  intro dataFile names after failed
  apply asksNothing dataFile names
  rw [run_of_loads loads, failed]
  rfl

/-- Whoever the host is, a command that asks for nothing does the same. -/
theorem AsksNothing.run_among_eq {host : Template.Host}
    (asksNothing : AsksNothing surroundings commandLine world) (sound : world.files.Sound)
    (own : ∀ settings session loaded,
      Loads surroundings commandLine world settings session loaded →
        Registry.ResolvesOwn surroundings.modules settings.extensions) :
    @run (.among host) surroundings commandLine world = run surroundings commandLine world :=
  run_congr fun settings session loaded loads =>
    (asksNothing.of_loads loads).run_among_eq (loads.files_eq ▸ sound)
      (own settings session loaded loads)

end Command

end Stencil

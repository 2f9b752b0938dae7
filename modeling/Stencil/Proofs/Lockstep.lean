import Stencil.Proofs.Act

/-!
# Acts in two trees

An act is blind to the difference between two trees when it goes the same way in both and
leaves them as they are; then it cannot pass anything on of what the trees differ in.
-/

namespace Stencil

namespace Act

open Outcome (Matches bind_apply_of_ok bind_eq_ok_iff)

/-! ## Acts that are blind to a difference -/

variable {left right : Files.Tree} {α β : Type}

/-- Worlds that differ in their trees only, which are these two. -/
structure Between (left right : Files.Tree) (world other : World) : Prop where
  files : world.files = left
  other_eq : other = { world with files := right }

/-- The failures are the same, and the worlds still differ in their trees only. -/
def FailTogether (left right : Files.Tree) (failure : Failure) (world : World)
    (another : Failure) (other : World) : Prop :=
  failure = another ∧ Between left right world other

/-- An act goes the same way in two trees, and leaves both as they are. -/
def Blind (left right : Files.Tree) (act : Act α) : Prop :=
  ∀ world other, Between left right world other →
    Matches (fun _ => Between left right) (FailTogether left right) (act world) (act other)

namespace Blind

theorem pure (value : α) : Blind left right (Pure.pure value : Act α) :=
  fun _ _ between => .ok between

theorem throw (failure : Failure) :
    Blind left right (MonadExcept.throw failure : Act α) :=
  fun _ _ between => .error ⟨rfl, between⟩

theorem bind {act : Act α} {next : α → Act β} (first : Blind left right act)
    (second : ∀ value, Blind left right (next value)) : Blind left right (act >>= next) :=
  fun world other between => (first world other between).bind fun value => second value

/-- What is read from the world may be anything that the trees agree on. -/
theorem get_bind {body : World → Act α}
    (same : ∀ world, world.files = left → body { world with files := right } = body world)
    (each : ∀ world, Blind left right (body world)) : Blind left right (get >>= body) := by
  rintro world other ⟨files, rfl⟩
  show Matches _ _ (body world world) (body { world with files := right } _)
  rw [same world files]
  exact each world world _ ⟨files, rfl⟩

theorem ite {condition : Prop} [Decidable condition] {act other : Act α}
    (first : Blind left right act) (second : Blind left right other) :
    Blind left right (if condition then act else other) := by
  split
  · exact first
  · exact second

theorem onMachine (run : Template.Run α) : Blind left right (Act.onMachine run) := by
  rintro world other ⟨files, rfl⟩
  unfold Act.onMachine
  dsimp only
  cases run.run world.machine with
  | ok value machine => exact .ok ⟨files, rfl⟩
  | error fault machine => exact .error ⟨rfl, files, rfl⟩

theorem lift (result : Except Failure α) : Blind left right (Act.lift result) := by
  cases result with
  | ok value => exact .pure value
  | error failure => exact .throw failure

/-- What follows a result that is already there only has to be blind for this result. -/
theorem lift_bind {result : Except Failure α} {next : α → Act β}
    (second : ∀ value, result = .ok value → Blind left right (next value)) :
    Blind left right (Act.lift result >>= next) := by
  cases result with
  | ok value => exact fun world other between => second value rfl world other between
  | error failure => exact fun _ _ between => .error ⟨rfl, between⟩

theorem fail (fault : Fault) : Blind left right (Act.fail fault : Act α) := .throw _

theorem detail (text : String) : Blind left right (Act.detail text) := by
  rintro world other ⟨files, rfl⟩
  exact .ok ⟨files, rfl⟩

theorem machine : Blind left right Act.machine :=
  .get_bind (fun _ _ => rfl) fun _ => .pure _

theorem heap : Blind left right Act.heap :=
  .get_bind (fun _ _ => rfl) fun _ => .pure _

/-- A question that has the same answer in both trees. -/
theorem askFiles {question : Files.Tree → Except Fault α}
    (same : question right = question left) : Blind left right (Act.askFiles question) := by
  rintro world other ⟨files, rfl⟩
  rw [askFiles_apply, askFiles_apply, files]
  dsimp only
  rw [same]
  cases question left with
  | ok answer => exact .ok ⟨files, rfl⟩
  | error fault => exact .error ⟨rfl, files, rfl⟩

theorem naming {act : Act α} (blind : Blind left right act) (name : Fault → Failure) :
    Blind left right (Act.naming name act) := by
  intro world other between
  have ended := blind world other between
  rw [naming_apply, naming_apply]
  generalize act world = result at ended
  generalize act other = twin at ended
  cases ended with
  | ok related => exact .ok related
  | @error failure another state twin alike =>
    obtain ⟨rfl, related⟩ := alike
    cases failure <;> exact .error ⟨rfl, related⟩

end Blind

/-! ## Acts that pay no heed to notices -/

/-- What an act does is the same whatever notices have been given before. -/
def Heedless (act : Act α) : Prop :=
  ∀ world notices value after, act world = .ok value after →
    ∃ news, act { world with notices } = .ok value { after with notices := news }

namespace Heedless

theorem pure (value : α) : Heedless (Pure.pure value : Act α) := by
  rintro world notices _ _ ⟨⟩
  exact ⟨notices, rfl⟩

theorem throw (failure : Failure) : Heedless (MonadExcept.throw failure : Act α) :=
  fun _ _ _ _ impossible => nomatch impossible

theorem fail (fault : Fault) : Heedless (Act.fail fault : Act α) := .throw _

theorem bind {act : Act α} {next : α → Act β} (first : Heedless act)
    (second : ∀ value, Heedless (next value)) : Heedless (act >>= next) := by
  intro world notices result finish ended
  obtain ⟨value, middle, begun, more⟩ := bind_eq_ok_iff.mp ended
  obtain ⟨news, again⟩ := first world notices value middle begun
  obtain ⟨later, onward⟩ := second value middle news result finish more
  exact ⟨later, (bind_apply_of_ok again).trans onward⟩

theorem get_bind {body : World → Act α}
    (same : ∀ world notices, body { world with notices } = body world)
    (each : ∀ world, Heedless (body world)) : Heedless (get >>= body) := by
  intro world notices value after ended
  obtain ⟨news, again⟩ := each world world notices value after ended
  refine ⟨news, ?_⟩
  show body { world with notices } _ = _
  rw [same, again]

theorem onMachine (run : Template.Run α) : Heedless (Act.onMachine run) := by
  intro world notices value after ended
  obtain ⟨machine, ran, rfl⟩ := onMachine_eq_ok_iff.mp ended
  exact ⟨notices, onMachine_eq_ok_iff.mpr ⟨machine, ran, rfl⟩⟩

theorem askFiles (question : Files.Tree → Except Fault α) : Heedless (Act.askFiles question) := by
  intro world notices value after ended
  obtain ⟨answer, rfl⟩ := askFiles_eq_ok_iff.mp ended
  exact ⟨notices, askFiles_eq_ok_iff.mpr ⟨answer, rfl⟩⟩

theorem lift (result : Except Failure α) : Heedless (Act.lift result) := by
  cases result with
  | ok value => exact .pure value
  | error failure => exact .throw failure

/-- What follows a result that is already there only has to be heedless for this result. -/
theorem lift_bind {result : Except Failure α} {next : α → Act β}
    (second : ∀ value, result = .ok value → Heedless (next value)) :
    Heedless (Act.lift result >>= next) := by
  cases result with
  | ok value => exact second value rfl
  | error failure => exact .throw failure

theorem detail (text : String) : Heedless (Act.detail text) := by
  rintro world notices _ _ ⟨⟩
  exact ⟨.detail text :: notices, rfl⟩

theorem heap : Heedless Act.heap :=
  .get_bind (fun _ _ => rfl) fun _ => .pure _

end Heedless

/-- What is blind to the difference of two trees does the same on the same machine. -/
theorem Blind.same_machine {act : Act α} {world other after later : World} {value another : α}
    (blind : Blind world.files other.files act) (heedless : Heedless act)
    (machine : other.machine = world.machine)
    (ended : act world = .ok value after) (endedAlso : act other = .ok another later) :
    another = value ∧ later.machine = after.machine := by
  obtain ⟨news, again⟩ := heedless other world.notices another later endedAlso
  have alike := blind world { other with notices := world.notices } ⟨rfl, by rw [← machine]⟩
  rw [ended, again] at alike
  cases alike with
  | ok between =>
    have machines := congrArg World.machine between.other_eq
    exact ⟨rfl, machines⟩

/-! ## Changes of two trees -/

variable {first second : Files.Tree} {world other : World}

/-- Two faults that come under a name. -/
def AlikeUnder (name : Fault → Failure) (alike : Fault → World → Fault → World → Prop)
    (failure : Failure) (world : World) (another : Failure) (other : World) : Prop :=
  ∃ fault also, failure = name fault ∧ another = name also ∧ alike fault world also other

/-- Worlds whose trees belong together and that are otherwise the same. -/
def Paired (relation : Files.Tree → Files.Tree → Prop) (world other : World) : Prop :=
  relation world.files other.files ∧ Between world.files other.files world other

theorem Paired.mono {relation onward : Files.Tree → Files.Tree → Prop}
    (paired : Paired relation world other)
    (implies : ∀ first second, relation first second → onward first second) :
    Paired onward world other :=
  ⟨implies _ _ paired.1, paired.2⟩

/-- What is blind to the difference of two trees leaves them belonging together. -/
theorem Blind.paired {relation : Files.Tree → Files.Tree → Prop} {act : Act α}
    (blind : Blind world.files other.files act) (paired : Paired relation world other) :
    Matches (fun value after later => act world = .ok value after ∧
        Paired relation after later)
      (fun failure after another later => failure = another ∧ Paired relation after later)
      (act world) (act other) := by
  have still {after later : World} (between : Between world.files other.files after later) :
      Paired relation after later := by
    obtain ⟨files, rfl⟩ := between
    exact ⟨files ▸ paired.1, rfl, rfl⟩
  exact (blind world other paired.2).mono
    (fun _ _ _ ended between => ⟨ended, still between⟩)
    fun _ _ _ _ _ together => ⟨together.1, still together.2⟩

/-- Changes that end alike make acts that do. -/
theorem matches_onFiles {relation : α → Files.Tree → Files.Tree → Prop}
    {alike : Fault → Files.Tree → Fault → Files.Tree → Prop}
    {change changeAlso : Files.Change α}
    (between : Between first second world other)
    (ended : Matches relation alike (change first) (changeAlso second)) :
    Matches (fun value => Paired (relation value))
      (AlikeUnder .unforeseen fun fault world also other =>
        Paired (fun left right => alike fault left also right) world other)
      (onFiles change world) (onFiles changeAlso other) := by
  obtain ⟨rfl, rfl⟩ := between
  rw [onFiles_apply, onFiles_apply]
  dsimp only
  generalize change world.files = result at ended
  generalize changeAlso second = twin at ended
  cases ended with
  | ok related => exact .ok ⟨related, rfl, rfl⟩
  | error alike => exact .error ⟨_, _, rfl, rfl, alike, rfl, rfl⟩

/-- Naming faults keeps them alike. -/
theorem matches_naming {relation : α → World → World → Prop}
    {alike : Fault → World → Fault → World → Prop} {act : Act α} (name : Fault → Failure)
    (ended : Matches relation (AlikeUnder .unforeseen alike) (act world) (act other)) :
    Matches relation (AlikeUnder name alike) (naming name act world)
      (naming name act other) := by
  rw [naming_apply, naming_apply]
  generalize act world = result at ended
  generalize act other = twin at ended
  cases ended with
  | ok related => exact .ok related
  | error unforeseen =>
    obtain ⟨fault, also, rfl, rfl, alike⟩ := unforeseen
    exact .error ⟨fault, also, rfl, rfl, alike⟩

end Act

end Stencil

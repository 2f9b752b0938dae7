import Mathlib.Data.List.Forall2
import Mathlib.Order.Defs.Unbundled
import Stencil.World

/-!
# Outcomes of stateful computations

A stateful computation ends with a result or a fault, and leaves a state either way.
Here computations are taken apart: a sequence succeeds when both parts do, and fails
where the first failing part does.  `Moves` says that the states before and after a
computation stand in a relation whatever its outcome, and `Matches` compares two outcomes:
both have the same result, in states that belong together, or both have failed.
-/

namespace Stencil.Outcome

variable {ε σ α β : Type}

/-! ## Taking computations apart -/

/-- A sequence without a state succeeds when both parts do. -/
theorem except_bind_eq_ok_iff {result : Except ε α} {next : α → Except ε β} {value : β} :
    (result >>= next) = .ok value ↔ ∃ first, result = .ok first ∧ next first = .ok value := by
  cases result <;> simp [bind, Except.bind]

/-- Computations in a row succeed when each of them does. -/
theorem except_mapM_eq_ok_iff {form : α → Except ε β} {items : List α} {results : List β} :
    items.mapM form = .ok results ↔
      List.Forall₂ (fun item result => form item = .ok result) items results := by
  induction items generalizing results with
  | nil =>
    rw [List.forall₂_nil_left_iff, List.mapM_nil]
    exact ⟨fun same => by cases same; rfl, fun same => by rw [same]; rfl⟩
  | cons item rest ih =>
    rw [List.mapM_cons, except_bind_eq_ok_iff, List.forall₂_cons_left_iff]
    constructor
    · rintro ⟨first, here, mapped⟩
      obtain ⟨others, further, same⟩ := except_bind_eq_ok_iff.mp mapped
      cases same
      exact ⟨first, others, here, ih.mp further, rfl⟩
    · rintro ⟨first, others, here, further, rfl⟩
      exact ⟨first, here, except_bind_eq_ok_iff.mpr ⟨others, ih.mpr further, rfl⟩⟩

theorem except_exists_mapM_iff {form : α → Except ε β} {items : List α} :
    (∃ results, items.mapM form = .ok results) ↔
      ∀ item ∈ items, ∃ result, form item = .ok result := by
  induction items with
  | nil => exact ⟨fun _ _ member => (nomatch member), fun _ => ⟨[], rfl⟩⟩
  | cons item rest ih =>
    rw [List.forall_mem_cons, ← ih, List.mapM_cons]
    constructor
    · rintro ⟨results, mapped⟩
      obtain ⟨first, here, mapped⟩ := except_bind_eq_ok_iff.mp mapped
      obtain ⟨others, further, -⟩ := except_bind_eq_ok_iff.mp mapped
      exact ⟨⟨first, here⟩, others, further⟩
    · rintro ⟨⟨first, here⟩, others, further⟩
      rw [here, further]
      exact ⟨first :: others, rfl⟩

/-- What is computed in a row is computed from one of the items. -/
theorem except_mem_mapM {form : α → Except ε β} {items : List α} {results : List β} {result : β}
    (mapped : items.mapM form = .ok results) (member : result ∈ results) :
    ∃ item ∈ items, form item = .ok result := by
  have each := except_mapM_eq_ok_iff.mp mapped
  clear mapped
  induction each with
  | nil => cases member
  | @cons item _ rest _ here _ ih =>
    rcases List.mem_cons.mp member with rfl | later
    · exact ⟨item, List.mem_cons_self .., here⟩
    · obtain ⟨other, among, further⟩ := ih later
      exact ⟨other, List.mem_cons_of_mem item among, further⟩

theorem except_mapM_congr {form other : α → Except ε β} {items : List α}
    (same : ∀ item ∈ items, form item = other item) : items.mapM form = items.mapM other := by
  induction items with
  | nil => rfl
  | cons item rest ih =>
    obtain ⟨here, further⟩ := List.forall_mem_cons.mp same
    rw [List.mapM_cons, List.mapM_cons, here, ih further]

theorem except_eq_ok_of_toOption {result : Except ε α} {value : α}
    (known : result.toOption = some value) : result = .ok value := by
  cases result with
  | ok given =>
    cases known
    rfl
  | error fault => cases known

/-- Only what follows on a result makes a difference. -/
theorem except_bind_congr {first : Except ε α} {next other : α → Except ε β}
    (same : ∀ value, first = .ok value → next value = other value) :
    (first >>= next) = first >>= other := by
  cases first with
  | ok value => exact same value rfl
  | error failure => rfl

theorem ofFault_eq_ok_iff {result : Except Fault α} {value : α} :
    Failure.ofFault result = .ok value ↔ result = .ok value := by
  cases result <;> simp [Failure.ofFault]

@[simp]
theorem throw_apply (fault : ε) (start : σ) :
    (throw fault : EStateM ε σ α) start = .error fault start := rfl

@[simp]
theorem get_apply (start : σ) : (get : EStateM ε σ σ) start = .ok start start := rfl

@[simp]
theorem set_apply (next start : σ) :
    (set next : EStateM ε σ PUnit) start = .ok ⟨⟩ next := rfl

@[simp]
theorem modify_apply (change : σ → σ) (start : σ) :
    (modify change : EStateM ε σ PUnit) start = .ok ⟨⟩ (change start) := rfl

theorem bind_apply_of_ok
    {run : EStateM ε σ α} {next : α → EStateM ε σ β} {start middle : σ} {value : α}
    (first : run start = .ok value middle) : (run >>= next) start = next value middle := by
  show EStateM.bind run next start = _
  simp [EStateM.bind, first]

theorem bind_apply_of_error
    {run : EStateM ε σ α} {next : α → EStateM ε σ β} {start left : σ} {fault : ε}
    (first : run start = .error fault left) :
    (run >>= next) start = .error fault left := by
  show EStateM.bind run next start = _
  simp [EStateM.bind, first]

/-- Computations that begin alike are the same if they go on alike. -/
theorem bind_apply_congr
    {run twin : EStateM ε σ α} {next other : α → EStateM ε σ β} {start : σ}
    (first : run start = twin start)
    (second : ∀ value middle, twin start = .ok value middle →
      next value middle = other value middle) :
    (run >>= next) start = (twin >>= other) start := by
  cases ended : twin start with
  | ok value middle =>
    rw [bind_apply_of_ok (first.trans ended), bind_apply_of_ok ended]
    exact second value middle ended
  | error fault middle =>
    rw [bind_apply_of_error (first.trans ended), bind_apply_of_error ended]

/-- A sequence succeeds when both parts do. -/
theorem bind_eq_ok_iff
    {run : EStateM ε σ α} {next : α → EStateM ε σ β} {start left : σ} {result : β} :
    (run >>= next) start = .ok result left ↔
      ∃ value middle, run start = .ok value middle ∧ next value middle = .ok result left := by
  cases first : run start with
  | ok value middle =>
    rw [bind_apply_of_ok first]
    constructor
    · exact fun second => ⟨value, middle, rfl, second⟩
    · rintro ⟨_, _, same, second⟩
      cases same
      exact second
  | error fault middle =>
    rw [bind_apply_of_error first]
    constructor
    · intro impossible
      cases impossible
    · rintro ⟨_, _, impossible, -⟩
      cases impossible

/-- A sequence fails where its first failing part does. -/
theorem bind_eq_error_iff
    {run : EStateM ε σ α} {next : α → EStateM ε σ β} {start left : σ} {fault : ε} :
    (run >>= next) start = .error fault left ↔
      run start = .error fault left ∨
        ∃ value middle, run start = .ok value middle ∧
          next value middle = .error fault left := by
  cases first : run start with
  | ok value middle =>
    rw [bind_apply_of_ok first]
    constructor
    · exact fun second => .inr ⟨value, middle, rfl, second⟩
    · rintro (impossible | ⟨_, _, same, second⟩)
      · cases impossible
      · cases same
        exact second
  | error fault middle =>
    rw [bind_apply_of_error first]
    constructor
    · intro same
      cases same
      exact .inl rfl
    · rintro (same | ⟨_, _, impossible, -⟩)
      · cases same
        rfl
      · cases impossible

/-- Computations in a row that each leave the state alone give their results in a row. -/
theorem mapM_apply_of_ok
    {form : α → EStateM ε σ β} {change : α → β} {items : List α} {state : σ}
    (each : ∀ item ∈ items, form item state = .ok (change item) state) :
    items.mapM form state = .ok (items.map change) state := by
  induction items with
  | nil => rfl
  | cons item rest ih =>
    obtain ⟨here, further⟩ := List.forall_mem_cons.mp each
    rw [List.mapM_cons]
    exact (bind_apply_of_ok here).trans ((bind_apply_of_ok (ih further)).trans rfl)

theorem tryCatch_apply_of_ok
    {run : EStateM ε σ α} {handle : ε → EStateM ε σ α} {start left : σ} {value : α}
    (first : run start = .ok value left) :
    (tryCatch run handle) start = .ok value left := by
  show EStateM.tryCatch run handle start = _
  delta EStateM.tryCatch
  simp only [first]

theorem tryCatch_apply_of_error
    {run : EStateM ε σ α} {handle : ε → EStateM ε σ α} {start left : σ} {fault : ε}
    (first : run start = .error fault left) :
    (tryCatch run handle) start = handle fault left := by
  show EStateM.tryCatch run handle start = _
  delta EStateM.tryCatch
  simp only [first]
  rfl

/-! ## The state that is left -/

/-- The state that is left, whatever the outcome. -/
def left : EStateM.Result ε σ α → σ
  | .ok _ state => state
  | .error _ state => state

@[simp]
theorem left_ok (value : α) (state : σ) :
    left (.ok value state : EStateM.Result ε σ α) = state := rfl

@[simp]
theorem left_error (fault : ε) (state : σ) :
    left (.error fault state : EStateM.Result ε σ α) = state := rfl

/-- What a computation has given, if it has succeeded. -/
def value? : EStateM.Result ε σ α → Option α
  | .ok value _ => some value
  | .error .. => none

theorem exists_of_value?_eq_some {result : EStateM.Result ε σ α} {value : α}
    (known : value? result = some value) : ∃ state, result = .ok value state := by
  cases result with
  | ok given state =>
    cases known
    exact ⟨state, rfl⟩
  | error fault state => cases known

theorem exists_of_value?_eq_none {result : EStateM.Result ε σ α}
    (known : value? result = none) : ∃ fault state, result = .error fault state := by
  cases result with
  | ok value state => cases known
  | error fault state => exact ⟨fault, state, rfl⟩

/-- The fault that has stopped a computation, if it has failed. -/
def fault? : EStateM.Result ε σ α → Option ε
  | .ok .. => none
  | .error fault _ => some fault

theorem exists_of_fault?_eq_some {result : EStateM.Result ε σ α} {fault : ε}
    (known : fault? result = some fault) : ∃ state, result = .error fault state := by
  cases result with
  | ok value state => cases known
  | error given state =>
    cases known
    exact ⟨state, rfl⟩

/-- The states before and after a computation stand in a relation. -/
def Moves (relation : σ → σ → Prop) (run : EStateM ε σ α) : Prop :=
  ∀ start, relation start (left (run start))

namespace Moves

variable {relation : σ → σ → Prop}

theorem of_ok {run : EStateM ε σ α} (moves : Moves relation run) {start finish : σ} {value : α}
    (ended : run start = .ok value finish) : relation start finish := by
  simpa [ended] using moves start

theorem of_error {run : EStateM ε σ α} (moves : Moves relation run) {start finish : σ}
    {fault : ε} (ended : run start = .error fault finish) : relation start finish := by
  simpa [ended] using moves start

variable [IsPreorder σ relation]

theorem pure (value : α) : Moves relation (Pure.pure value : EStateM ε σ α) :=
  fun start => refl_of relation start

theorem throw (fault : ε) : Moves relation (MonadExcept.throw fault : EStateM ε σ α) :=
  fun start => refl_of relation start

theorem get : Moves relation (MonadState.get : EStateM ε σ σ) :=
  fun start => refl_of relation start

/-- The second part only has to be looked at for values that the first part can give. -/
theorem bindReached {run : EStateM ε σ α} {next : α → EStateM ε σ β}
    (first : Moves relation run)
    (second : ∀ value, (∃ start middle, run start = .ok value middle) →
      Moves relation (next value)) :
    Moves relation (run >>= next) := by
  intro start
  cases ended : run start with
  | ok value middle =>
    rw [bind_apply_of_ok ended]
    exact trans_of relation (first.of_ok ended) (second value ⟨start, middle, ended⟩ middle)
  | error fault middle =>
    rw [bind_apply_of_error ended]
    exact first.of_error ended

theorem bind {run : EStateM ε σ α} {next : α → EStateM ε σ β}
    (first : Moves relation run) (second : ∀ value, Moves relation (next value)) :
    Moves relation (run >>= next) :=
  first.bindReached fun value _ => second value

theorem tryCatch {run : EStateM ε σ α} {handle : ε → EStateM ε σ α}
    (first : Moves relation run) (second : ∀ fault, Moves relation (handle fault)) :
    Moves relation (MonadExcept.tryCatch run handle) := by
  intro start
  cases ended : run start with
  | ok value middle =>
    rw [tryCatch_apply_of_ok ended]
    exact first.of_ok ended
  | error fault middle =>
    rw [tryCatch_apply_of_error ended]
    exact trans_of relation (first.of_error ended) (second fault middle)

end Moves

/-! ## Invariants -/

/-- One state satisfies an invariant if another one does. -/
def Inherits (invariant : σ → Prop) (before after : σ) : Prop :=
  invariant before → invariant after

instance (invariant : σ → Prop) : IsPreorder σ (Inherits invariant) where
  refl := fun _ holds => holds
  trans := fun _ _ _ first second holds => second (first holds)

/--
From states with an invariant, a computation either gives a wanted result and keeps the
invariant, or fails with a fault of a kind.
-/
def Yields (invariant : σ → Prop) (kind : ε → Prop) (wanted : α → Prop)
    (run : EStateM ε σ α) : Prop :=
  ∀ start, invariant start →
    match run start with
    | .ok value after => invariant after ∧ wanted value
    | .error fault _ => kind fault

namespace Yields

variable {invariant : σ → Prop} {kind : ε → Prop} {wanted : α → Prop} {last : β → Prop}

theorem of_ok {run : EStateM ε σ α} (yields : Yields invariant kind wanted run)
    {start after : σ} {value : α} (ended : run start = .ok value after)
    (holds : invariant start) : invariant after ∧ wanted value := by
  simpa [ended] using yields start holds

theorem of_error {run : EStateM ε σ α} (yields : Yields invariant kind wanted run)
    {start after : σ} {fault : ε} (ended : run start = .error fault after)
    (holds : invariant start) : kind fault := by
  simpa [ended] using yields start holds

theorem pure {value : α} (isWanted : wanted value) :
    Yields invariant kind wanted (Pure.pure value) :=
  fun _ holds => ⟨holds, isWanted⟩

theorem throw {fault : ε} (isKind : kind fault) :
    Yields invariant kind wanted (MonadExcept.throw fault) :=
  fun _ _ => isKind

theorem get : Yields invariant kind invariant MonadState.get :=
  fun _ holds => ⟨holds, holds⟩

theorem set {next : σ} (holds : invariant next) :
    Yields invariant kind (fun _ => True) (MonadStateOf.set next) :=
  fun _ _ => ⟨holds, trivial⟩

theorem modify {change : σ → σ} (kept : ∀ state, invariant state → invariant (change state)) :
    Yields invariant kind (fun _ => True) (modify change : EStateM ε σ PUnit) :=
  fun start holds => ⟨kept start holds, trivial⟩

theorem bind {run : EStateM ε σ α} {next : α → EStateM ε σ β}
    (first : Yields invariant kind wanted run)
    (second : ∀ value, wanted value → Yields invariant kind last (next value)) :
    Yields invariant kind last (run >>= next) := by
  intro start holds
  cases ended : run start with
  | ok value middle =>
    rw [bind_apply_of_ok ended]
    rcases first.of_ok ended holds with ⟨still, isWanted⟩
    exact second value isWanted middle still
  | error fault middle =>
    rw [bind_apply_of_error ended]
    exact first.of_error ended holds

theorem mono {run : EStateM ε σ α} {looser : α → Prop}
    (yields : Yields invariant kind wanted run) (follows : ∀ value, wanted value → looser value) :
    Yields invariant kind looser run := by
  intro start holds
  cases ended : run start with
  | ok value after =>
    rcases yields.of_ok ended holds with ⟨still, isWanted⟩
    exact ⟨still, follows value isWanted⟩
  | error fault after => exact yields.of_error ended holds

theorem mapM {run : α → EStateM ε σ β} (each : ∀ item, Yields invariant kind last (run item))
    (items : List α) : Yields invariant kind (fun _ => True) (items.mapM run) := by
  induction items with
  | nil => exact .pure trivial
  | cons item rest ih =>
    rw [List.mapM_cons]
    exact .bind (each item) fun _ _ => .bind ih fun _ _ => .pure trivial

theorem forIn {run : α → β → EStateM ε σ (ForInStep β)}
    (each : ∀ item accumulated, Yields invariant kind (fun _ => True) (run item accumulated))
    (items : List α) (start : β) :
    Yields invariant kind (fun _ => True) (ForIn.forIn items start run) := by
  induction items generalizing start with
  | nil => exact .pure trivial
  | cons item rest ih =>
    rw [List.forIn_cons]
    refine .bind (each item start) fun step _ => ?_
    cases step with
    | done result => exact .pure trivial
    | yield next => exact ih next

theorem findM? {test : α → EStateM ε σ Bool}
    (each : ∀ item, Yields invariant kind (fun _ => True) (test item)) (items : List α) :
    Yields invariant kind (fun _ => True) (items.findM? test) := by
  induction items with
  | nil => exact .pure trivial
  | cons item rest ih =>
    unfold List.findM?
    refine .bind (each item) fun found _ => ?_
    cases found with
    | true => exact .pure trivial
    | false => exact ih

end Yields

/-! ## Computations that end alike -/

/--
Two computations have given the same result and left states that belong together, or they
have failed alike.
-/
inductive Matches (relation : α → σ → σ → Prop) (failed : ε → σ → ε → σ → Prop) :
    EStateM.Result ε σ α → EStateM.Result ε σ α → Prop
  | ok {value : α} {state other : σ} (related : relation value state other) :
      Matches relation failed (.ok value state) (.ok value other)
  | error {fault another : ε} {state other : σ} (alike : failed fault state another other) :
      Matches relation failed (.error fault state) (.error another other)

namespace Matches

variable {relation : β → σ → σ → Prop} {middle onward : α → σ → σ → Prop}
  {failed weaker : ε → σ → ε → σ → Prop}

/-- Computations in a row end alike when their parts do. -/
theorem bind {run runAlso : EStateM ε σ α} {next nextAlso : α → EStateM ε σ β}
    {start other : σ}
    (first : Matches middle failed (run start) (runAlso other))
    (second : ∀ value state another, middle value state another →
      Matches relation failed (next value state) (nextAlso value another)) :
    Matches relation failed ((run >>= next) start) ((runAlso >>= nextAlso) other) := by
  generalize ended : run start = result at first
  generalize also : runAlso other = twin at first
  cases first with
  | ok related =>
    rw [bind_apply_of_ok ended, bind_apply_of_ok also]
    exact second _ _ _ related
  | error alike =>
    rw [bind_apply_of_error ended, bind_apply_of_error also]
    exact .error alike

theorem mono {result twin : EStateM.Result ε σ α}
    (ended : Matches middle failed result twin)
    (states : ∀ value state other, result = .ok value state → middle value state other →
      onward value state other)
    (failures : ∀ fault state another other, result = .error fault state →
      failed fault state another other → weaker fault state another other) :
    Matches onward weaker result twin := by
  cases ended with
  | ok related => exact .ok (states _ _ _ rfl related)
  | error alike => exact .error (failures _ _ _ _ rfl alike)

end Matches

end Stencil.Outcome

namespace Stencil

/-! ## Faults without a state -/

/-- All faults of a computation are of a kind. -/
def FailsOnly {α : Type} (kind : Fault → Prop) (result : Except Fault α) : Prop :=
  ∀ fault, result = .error fault → kind fault

namespace FailsOnly

variable {α β : Type} {kind : Fault → Prop}

theorem ok (value : α) : FailsOnly kind (.ok value) :=
  fun _ failed => nomatch failed

theorem error {fault : Fault} (isKind : kind fault) :
    FailsOnly kind (.error fault : Except Fault α) := by
  intro _ failed
  cases failed
  exact isKind

theorem bind {first : Except Fault α} {next : α → Except Fault β} (here : FailsOnly kind first)
    (there : ∀ value, FailsOnly kind (next value)) : FailsOnly kind (first >>= next) := by
  cases first with
  | ok value => exact there value
  | error fault => exact .error (here fault rfl)

theorem mapM {form : α → Except Fault β} {items : List α}
    (each : ∀ item ∈ items, FailsOnly kind (form item)) : FailsOnly kind (items.mapM form) := by
  induction items with
  | nil => exact .ok []
  | cons item rest ih =>
    obtain ⟨here, others⟩ := List.forall_mem_cons.mp each
    rw [List.mapM_cons]
    exact .bind here fun first => .bind (ih others) fun others => .ok (first :: others)

theorem ite {condition : Prop} [Decidable condition] {first second : Except Fault α}
    (here : FailsOnly kind first) (there : FailsOnly kind second) :
    FailsOnly kind (if condition then first else second) := by
  split
  · exact here
  · exact there

/-- A condition is checked before all else. -/
theorem checked {condition : Prop} [Decidable condition] {check : Except Fault PUnit}
    {next : PUnit → Except Fault α} (here : FailsOnly kind check)
    (there : ∀ done, FailsOnly kind (next done)) :
    FailsOnly kind (if condition then check >>= next else next ⟨⟩) :=
  .ite (.bind here there) (there _)

end FailsOnly

end Stencil

import Stencil.Proofs.Act
import Stencil.Proofs.Settings.Definitions
import Stencil.Proofs.Validation
import Stencil.Proofs.Value.Equality

/-!
# Loading settings, taken apart

What is loaded has been checked: values that are given for a run over those of the
descriptor of the project, and these over those of the environment.  All but the references
to readers are taken as a whole, from the first source that has them.
-/

namespace Stencil.Settings

open Data (Item Table storeEntries)
open Heap (Keeps)
open Outcome
open Validation (Checked)

variable {environment : List (String × String)} {root : Path} {overrides : Given}
  {table : Table} {settings : Settings} {world after : World}

/-! ## References of a descriptor -/

/-- The references to readers in a descriptor; what is no table has none. -/
def tableReferences (table : Table) : Table :=
  match table.lookup "extensions" with
  | some (.table entries) => entries
  | _ => []

theorem eq_tableReferences {table entries : Table}
    (configured : configuredExtensions table = .ok entries) : entries = tableReferences table := by
  unfold configuredExtensions at configured
  unfold tableReferences
  cases found : table.lookup "extensions" with
  | none =>
    rw [found] at configured
    cases configured
    rfl
  | some item =>
    rw [found] at configured
    cases item with
    | table inner =>
      cases configured
      rfl
    | _ =>
      dsimp only at configured
      split at configured <;> cases configured
      rfl

/-- References that are given for the run are put over those of a descriptor, if there are any. -/
theorem withExtensions_cases {heap later : Heap} {given base : Given} {override : Option Value}
    (extended : withExtensions heap given table override = .ok (base, later)) :
    ∃ entries merged,
      overridingEntries (storeEntries heap (tableReferences table)).2 override = .ok entries ∧
      (storeEntries heap (tableReferences table)).2.insertAll
          (storeEntries heap (tableReferences table)).1 entries = .ok merged ∧
      Keeps (storeEntries heap (tableReferences table)).2 later ∧
      (merged = [] ∧ base = given ∨
        ∃ ref, base = Entries.put "extensions" (.dict ref) given ∧ ref < later.cells.size ∧
          later.get ref = .dict merged) := by
  unfold withExtensions at extended
  rcases except_bind_eq_ok_iff.mp extended with ⟨configured, isConfigured, extended⟩
  cases eq_tableReferences isConfigured
  rcases except_bind_eq_ok_iff.mp extended with ⟨entries, overriding, extended⟩
  rcases except_bind_eq_ok_iff.mp extended with ⟨merged, merging, extended⟩
  refine ⟨entries, merged, ofFault_eq_ok_iff.mp overriding, ofFault_eq_ok_iff.mp merging, ?_⟩
  cases merged with
  | nil =>
    cases extended
    exact ⟨.refl _, .inl ⟨rfl, rfl⟩⟩
  | cons first rest =>
    cases extended
    refine ⟨(Keeps.refl _).allocate _, .inr ⟨_, put_eq _ _ _, ?_, Heap.get_allocate _ _⟩⟩
    show _ < (Array.push _ _).size
    rw [Array.size_push]
    exact Nat.lt_succ_self _

/-! ## Loading taken apart -/

/-- Values that are given for a run, but for the references to readers. -/
def others (overrides : Given) : Given :=
  overrides.filter fun (name, value) => name != "extensions" && isGiven value

/-- What settings are made of: values over those of the environment. -/
structure Loads (environment : List (String × String)) (overrides : Given) (table : Table)
    (start : Heap) (base : Given) (heap : Heap) (lower : Given) (between : Heap) (all : Given)
    (final : Heap) : Prop where
  extended :
    withExtensions (storeTable start table).2 (storeTable start table).1 table
      (overrides.lookup "extensions") = .ok (base, heap)
  surrounding : ofEnvironment heap environment = .ok (lower, between)
  overlaid :
    overlay between lower (settleNames (ofSettings (Entries.putAll base (others overrides)))) =
      .ok (all, final)

/-- Failures to put the references to readers together. -/
inductive Unmerged : Failure → Prop
  | noTable : Unmerged (.config .extensionsNoTable)
  | noPairs : Unmerged (.unforeseen .wrongValue)
  | unreadable : Unmerged (.unforeseen (variableFault "extensions"))
  | incomparable {fault : Fault} (compares : fault.Compares) : Unmerged (.unforeseen fault)

/-- What is checked is what loading gives, unless references cannot be put together. -/
inductive Loaded (root : Path) (final : Heap) (all : Given) (world : World) :
    EStateM.Result Failure World Settings → Prop
  | accepted {made : Settings} (checked : check final all = .ok made) :
      Loaded root final all world (.ok (made.anchor root) world)
  | refused {complaints : List Complaint} (checked : check final all = .error complaints) :
      Loaded root final all world (.error (.config (.invalidSettings complaints)) world)

theorem membersOf_faults (heap : Heap) (value : Value) :
    FailsOnly Fault.Compares (value.membersOf heap) := by
  cases value <;> first | exact .ok _ | exact .error .wrongType

/-- Faults of references that are given for a run. -/
theorem overridingEntries_faults (heap : Heap) (override : Option Value) :
    FailsOnly (fun fault => fault = .wrongValue ∨ fault.Compares)
      (overridingEntries heap override) := by
  have members : ∀ value : Value,
      FailsOnly (fun fault => fault = .wrongValue ∨ fault.Compares) (value.membersOf heap) :=
    fun value fault failed => .inr (membersOf_faults heap value fault failed)
  have pairs : ∀ item : Value,
      FailsOnly (fun fault => fault = .wrongValue ∨ fault.Compares) (pairOf heap item) := by
    intro item
    refine .bind (members item) fun parts => ?_
    split
    · next key value =>
      refine .bind (fun fault failed => ?_) fun _ => .ok (key, value)
      exact .inr (Value.failsOnly_checkKey key fault failed)
    · exact .error (.inl rfl)
  cases override with
  | none => exact .ok []
  | some value =>
    unfold overridingEntries
    dsimp only
    split
    · unfold entriesOf
      split
      · exact .ok _
      · exact .bind (members value) fun items => .mapM fun item _ => pairs item
    · exact .ok []

theorem configuredExtensions_faults {failure : Failure}
    (refused : configuredExtensions table = .error failure) :
    failure = .config .extensionsNoTable := by
  unfold configuredExtensions at refused
  split at refused
  · cases refused
  · cases refused
  · split at refused
    · cases refused
      rfl
    · cases refused

/-- Faults of putting the references to readers together. -/
theorem withExtensions_faults {heap : Heap} {given : Given} {override : Option Value}
    {failure : Failure} (failed : withExtensions heap given table override = .error failure) :
    failure = .config .extensionsNoTable ∨
      ∃ fault, failure = .unforeseen fault ∧ (fault = .wrongValue ∨ fault.Compares) := by
  unfold withExtensions at failed
  cases configured : configuredExtensions table with
  | error problem =>
    rw [configured] at failed
    cases failed
    exact .inl (configuredExtensions_faults configured)
  | ok references =>
    rw [configured] at failed
    cases overriding : overridingEntries (storeEntries heap references).2 override with
    | error fault =>
      simp only [Failure.ofFault, overriding, bind, Except.bind] at failed
      cases failed
      exact .inr ⟨fault, rfl, overridingEntries_faults _ _ fault overriding⟩
    | ok entries =>
      cases merging : (storeEntries heap references).2.insertAll (storeEntries heap references).1
          entries with
      | error fault =>
        simp only [Failure.ofFault, overriding, merging, bind, Except.bind] at failed
        cases failed
        exact .inr ⟨fault, rfl, .inr (Heap.failsOnly_insertAll _ _ _ fault merging)⟩
      | ok merged =>
        simp only [Failure.ofFault, overriding, merging, bind, Except.bind] at failed
        split at failed <;> cases failed

theorem unmerged_of_withExtensions {heap : Heap} {given : Given} {override : Option Value}
    {failure : Failure} (failed : withExtensions heap given table override = .error failure) :
    Unmerged failure := by
  rcases withExtensions_faults failed with rfl | ⟨fault, rfl, rfl | compares⟩
  · exact .noTable
  · exact .noPairs
  · exact .incomparable compares

theorem ofEnvironment_faults (heap : Heap) (environment : List (String × String)) :
    FailsOnly (· = variableFault "extensions") (ofEnvironment heap environment) := by
  unfold ofEnvironment
  dsimp only
  split
  · exact .ok _
  · split
    · exact .error rfl
    · exact .ok _
    · exact .ok _

theorem overlay_faults (heap : Heap) (lower upper : Given) :
    FailsOnly Fault.Compares (overlay heap lower upper) := by
  unfold overlay
  split
  · exact .bind (Heap.failsOnly_insertAll _ _ _) fun entries => .ok _
  · exact .ok _

/-- Settings are made of what is checked, unless references cannot be put together. -/
theorem make_cases (heap : Heap) (environment : List (String × String)) (given : Given) :
    (∃ fault, Unmerged (.unforeseen fault) ∧ make heap environment given = .error fault) ∨
      ∃ lower between all final,
        ofEnvironment heap environment = .ok (lower, between) ∧
        overlay between lower (settleNames (ofSettings given)) = .ok (all, final) ∧
        make heap environment given = (check final all).mapError .invalid := by
  unfold make
  by_cases self : (given.any fun (name, _) => name == selfName) = true
  · rw [if_pos self]
    exact .inl ⟨_, .incomparable .wrongType, rfl⟩
  rw [if_neg self]
  cases surrounding : ofEnvironment heap environment with
  | error fault =>
    cases ofEnvironment_faults heap environment fault surrounding
    exact .inl ⟨_, .unreadable, rfl⟩
  | ok found =>
    rcases found with ⟨lower, between⟩
    cases overlaid : overlay between lower (settleNames (ofSettings given)) with
    | error fault =>
      refine .inl ⟨fault, .incomparable (overlay_faults _ _ _ fault overlaid), ?_⟩
      simp only [bind, Except.bind, overlaid]
    | ok laid =>
      rcases laid with ⟨all, final⟩
      refine .inr ⟨lower, between, all, final, rfl, overlaid, ?_⟩
      simp only [bind, Except.bind, overlaid]
      cases check final all <;> rfl

/-- What is made of settings, with the failure that complaints about them become. -/
def madeOf (root : Path) (world : World) (made : Except Fault Settings) :
    EStateM.Result Failure World Settings :=
  match made with
  | .ok settings => .ok (settings.anchor root) world
  | .error (.invalid complaints) => .error (.config (.invalidSettings complaints)) world
  | .error fault => .error (.unforeseen fault) world

/-- References that cannot be put together end loading. -/
theorem load_of_unmerged {failure : Failure}
    (tabled : Project.settingsTable world.files root = .ok table)
    (failed : withExtensions (storeTable world.machine.heap table).2
      (storeTable world.machine.heap table).1 table (overrides.lookup "extensions") =
        .error failure) :
    load environment root overrides world = .error failure world := by
  have read : Act.lift (Project.settingsTable world.files root) world = .ok table world :=
    Act.lift_eq_ok_iff.mpr ⟨tabled, rfl⟩
  unfold load
  rw [bind_apply_of_ok (get_apply world), bind_apply_of_ok read]
  dsimp only
  rw [failed]
  exact bind_apply_of_error rfl

/-- Otherwise loading gives what is made of the values of the descriptor and of the run. -/
theorem load_of_extended {base : Given} {heap : Heap}
    (tabled : Project.settingsTable world.files root = .ok table)
    (extended : withExtensions (storeTable world.machine.heap table).2
      (storeTable world.machine.heap table).1 table (overrides.lookup "extensions") =
        .ok (base, heap)) :
    load environment root overrides world =
      madeOf root world (make heap environment (Entries.putAll base (others overrides))) := by
  have read : Act.lift (Project.settingsTable world.files root) world = .ok table world :=
    Act.lift_eq_ok_iff.mpr ⟨tabled, rfl⟩
  have folded := foldl_put (others overrides) base
  unfold others at folded
  unfold load
  rw [bind_apply_of_ok (get_apply world), bind_apply_of_ok read]
  dsimp only
  rw [bind_apply_of_ok (Act.lift_eq_ok_iff.mpr ⟨extended, rfl⟩)]
  dsimp only
  rw [folded]
  unfold others
  cases make heap environment (Entries.putAll base _) with
  | ok settings => rfl
  | error fault => cases fault <;> rfl

theorem load_cases (tabled : Project.settingsTable world.files root = .ok table) :
    (∃ failure, Unmerged failure ∧
        load environment root overrides world = .error failure world) ∨
      ∃ base heap lower between all final,
        Loads environment overrides table world.machine.heap base heap lower between all final ∧
          Loaded root final all world (load environment root overrides world) := by
  cases extended : withExtensions (storeTable world.machine.heap table).2
      (storeTable world.machine.heap table).1 table (overrides.lookup "extensions") with
  | error failure =>
    exact .inl ⟨failure, unmerged_of_withExtensions extended, load_of_unmerged tabled extended⟩
  | ok found =>
    rcases found with ⟨base, heap⟩
    rw [load_of_extended tabled extended]
    rcases make_cases heap environment (Entries.putAll base (others overrides)) with
      ⟨fault, unmerged, failed⟩ | ⟨lower, between, all, final, surrounding, overlaid, made⟩
    · rw [failed]
      refine .inl ⟨.unforeseen fault, unmerged, ?_⟩
      cases fault with
      | invalid complaints =>
        cases unmerged with
        | incomparable compares => cases compares
      | _ => rfl
    · refine .inr ⟨base, heap, lower, between, all, final, ⟨extended, surrounding, overlaid⟩, ?_⟩
      rw [made]
      cases checked : check final all with
      | ok made => exact .accepted checked
      | error complaints => exact .refused checked

theorem mem_names_of_checkNames {given : Given} (checked : checkNames given = .ok ()) :
    ∀ key ∈ given.map Prod.fst, key ∈ names := by
  intro key member
  unfold checkNames at checked
  split at checked
  · next none_ =>
    rcases List.mem_map.mp member with ⟨entry, inside, rfl⟩
    by_contra other
    have unknown : entry ∈ given.filter fun (name, _) => !names.contains name := by
      apply List.mem_filter.mpr
      exact ⟨inside, by simpa using other⟩
    rw [List.map_eq_nil_iff.mp none_] at unknown
    cases unknown
  · cases checked

section Loads

variable {start heap between final : Heap} {base lower all : Given} {name : String}
  (loads : Loads environment overrides table start base heap lower between all final)

include loads

theorem Loads.settles (named : checkNames all = .ok ()) :
    Settles (ofSettings (Entries.putAll base (others overrides))) := by
  apply settles_of_keys
  intro key member
  apply mem_names_of_checkNames named
  exact mem_keys_overlay loads.overlaid member

/-- Only the references to readers are not those of the descriptor itself. -/
theorem Loads.base_cases :
    base = (storeTable start table).1 ∨
      ∃ ref, base = Entries.put "extensions" (.dict ref) (storeTable start table).1 := by
  rcases withExtensions_cases loads.extended with ⟨_, _, -, -, -, outcome⟩
  rcases outcome with ⟨-, same⟩ | ⟨ref, same, -⟩
  · exact .inl same
  · exact .inr ⟨ref, same⟩

theorem Loads.base_names (known : ∀ entry ∈ table, entry.1 ∈ names) :
    ∀ entry ∈ base, entry.1 ∈ names := by
  have ofTable : ∀ key ∈ (storeTable start table).1.map Prod.fst, key ∈ names := by
    intro key member
    rw [keys_storeTable] at member
    rcases List.mem_map.mp member with ⟨entry, inside, rfl⟩
    exact known entry inside
  intro entry member
  have key : entry.1 ∈ base.map Prod.fst := List.mem_map_of_mem member
  rcases loads.base_cases with same | ⟨ref, same⟩
  · exact ofTable _ (same ▸ key)
  · rw [same] at key
    rcases Entries.mem_keys_put.mp key with isExtensions | old
    · rw [isExtensions]
      decide
    · exact ofTable _ old

/-- Nothing in a descriptor with settings only is passed over. -/
theorem Loads.ofSettings_putAll (known : ∀ entry ∈ table, entry.1 ∈ names) :
    ofSettings (Entries.putAll base (others overrides)) =
      Entries.putAll base (ofSettings (others overrides)) := by
  rw [Settings.ofSettings_putAll, ofSettings_eq_self (loads.base_names known)]

theorem Loads.base_nodup (distinct : table.Distinct) :
    (base.map Prod.fst).Nodup := by
  have ofTable : ((storeTable start table).1.map Prod.fst).Nodup := by
    rw [keys_storeTable]
    exact distinct.nodup
  rcases loads.base_cases with same | ⟨ref, same⟩
  · rw [same]
    exact ofTable
  · rw [same]
    exact Entries.nodup_put ofTable _ _

theorem Loads.base_lookup (other : name ≠ "extensions") :
    base.lookup name = (storeTable start table).1.lookup name := by
  rcases loads.base_cases with same | ⟨ref, same⟩
  · rw [same]
  · rw [same, Entries.lookup_put, if_neg other]

end Loads

/-! ## Settings that are taken as a whole -/

/-- What a setting is defined as: for the run, in the descriptor, or in the environment. -/
def definition? (overrides : Given) (table : Table) (environment : List (String × String))
    (name : String) : Option Value :=
  (given? name (overrides.filter fun entry => isGiven entry.2)).or
    (((table.lookup name).map itemValue).or
      ((variableText? environment name).map Value.ofString))

/-- What comes of a setting: its definition, as it is checked, or else its default. -/
def standing {α : Type} (definition : Option Value) (name : String) (default : α)
    (check : String → Value → Checked α) : Checked α :=
  match definition with
  | some value => check name value
  | none => .ok default

theorem given?_others {name : String} (other : name ≠ "extensions") (overrides : Given) :
    given? name (others overrides) =
      given? name (overrides.filter fun entry => isGiven entry.2) := by
  have same : ((others overrides).filter fun entry => lowerCase entry.1 = name) =
      ((overrides.filter fun entry => isGiven entry.2).filter fun entry =>
        lowerCase entry.1 = name) := by
    rw [others, List.filter_filter, List.filter_filter]
    apply List.filter_congr
    intro entry _
    by_cases spelled : lowerCase entry.1 = name
    · have differs : entry.1 ≠ "extensions" := by
        intro isExtensions
        rw [isExtensions, lowerCase_of_mem_names (by decide)] at spelled
        exact other spelled.symm
      simp [spelled, differs]
    · simp [spelled]
  rw [given?, same, given?]

section Standing

variable {start heap between final : Heap} {base lower all : Given} {name : String}

/-- All that is checked of a setting is its first definition. -/
theorem Loads.part_eq {α : Type} {default : α} {check : String → Value → Checked α}
    (loads : Loads environment overrides table start base heap lower between all final)
    (named : checkNames all = .ok ())
    (distinct : table.Distinct) (known : ∀ entry ∈ table, entry.1 ∈ names)
    (apart : (overrides.map Prod.fst).Nodup) (isName : name ∈ names.dropLast)
    (regardless : Regardless (check name)) :
    part all name default check =
      standing (definition? overrides table environment name) name default check := by
  have other : name ≠ "extensions" := by
    rintro rfl
    exact absurd isName (by decide)
  have apartToo : ((ofSettings (others overrides)).map Prod.fst).Nodup :=
    apart.sublist ((List.filter_sublist.trans List.filter_sublist).map Prod.fst)
  have settles := loads.settles named
  rw [loads.ofSettings_putAll known] at settles
  have lookup : all.lookup name =
      ((given? name (overrides.filter fun entry => isGiven entry.2)).or
        ((storeTable start table).1.lookup name)).or
          ((variableText? environment name).map Value.ofString) := by
    rw [lookup_overlay loads.overlaid other (nodup_settleNames _),
      loads.ofSettings_putAll known, lookup_settleNames settles,
      given?_putAll settles (loads.base_names known) (loads.base_nodup distinct) apartToo,
      given?_ofSettings ((List.dropLast_sublist names).subset isName), given?_others other,
      loads.base_lookup other, lookup_ofEnvironment loads.surrounding isName]
  show standing (all.lookup name) name default check = _
  rw [lookup, Option.or_assoc, definition?]
  cases given? name (overrides.filter fun entry => isGiven entry.2) with
  | some value => rfl
  | none =>
    rw [Option.none_or, Option.none_or]
    rcases lookup_storeTable start table name with
      ⟨absent, none_⟩ | ⟨item, later, found, stored, -⟩
    · rw [none_, absent]
      rfl
    · rw [stored, found]
      exact regardless item later

end Standing

end Stencil.Settings

import Stencil.Proofs.Project.Reading
import Stencil.Proofs.Settings.Extensions

/-!
# Which failures of loading settings are reported

Settings that are wrong are refused as such, and so is a name in a descriptor that is none
of a setting.  Three faults come up before the values are checked and are reported by
nobody: a variable of the environment for the references to readers that is no JSON, a value
under the name by which settings are known to themselves, and references for a run that are
no mapping from texts.
-/

namespace Stencil

open Outcome
open Heap (Keeps)

/-! ## Mappings from texts -/

namespace Value

/-- What stands for a name is a text, safe or not, or bytes. -/
theorem name?_cases {key : Value} (named : key.name?.isSome) :
    (∃ content, key = .text content) ∨ (∃ content, key = .markup content) ∨
      ∃ content, key = .bytes content := by
  cases key with
  | text content => exact .inl ⟨content, rfl⟩
  | markup content => exact .inr (.inl ⟨content, rfl⟩)
  | bytes content => exact .inr (.inr ⟨content, rfl⟩)
  | _ => cases named

/-- What stands for names can be compared. -/
theorem exists_equalMember (heap : Heap) {known key : Value} (isKnown : known.name?.isSome)
    (named : key.name?.isSome) : ∃ same, equalMember heap known key = .ok same := by
  rcases name?_cases isKnown with ⟨left, rfl⟩ | ⟨left, rfl⟩ | ⟨left, rfl⟩ <;>
    rcases name?_cases named with ⟨right, rfl⟩ | ⟨right, rfl⟩ | ⟨right, rfl⟩ <;>
      exact ⟨_, rfl⟩

theorem checkKey_of_name? {key : Value} (named : key.name?.isSome) : checkKey key = .ok () := by
  rcases name?_cases named with ⟨content, rfl⟩ | ⟨content, rfl⟩ | ⟨content, rfl⟩ <;> rfl

end Value

namespace Heap

variable {heap : Heap} {key value : Value} {entries more : List (Value × Value)}

theorem exists_insertEntry (heap : Heap) (named : key.name?.isSome) (others : Named entries)
    (value : Value) :
    ∃ all, heap.insertEntry key value entries = .ok all ∧ Named all := by
  induction entries with
  | nil => exact ⟨_, rfl, by simpa [Named] using named⟩
  | cons first rest ih =>
    rcases first with ⟨known, old⟩
    rcases List.forall_mem_cons.mp others with ⟨isKnown, others⟩
    rcases ih others with ⟨behind, inserted, isNamed⟩
    rcases Value.exists_equalMember heap isKnown named with ⟨same, compared⟩
    unfold insertEntry
    rw [compared, inserted]
    cases same with
    | true => exact ⟨_, rfl, List.forall_mem_cons.mpr ⟨isKnown, others⟩⟩
    | false => exact ⟨_, rfl, List.forall_mem_cons.mpr ⟨isKnown, isNamed⟩⟩

/-- Entries under names can be put over entries under names. -/
theorem exists_insertAll (heap : Heap) (below : Named entries) (above : Named more) :
    ∃ all, heap.insertAll entries more = .ok all ∧ Named all := by
  induction more generalizing entries with
  | nil => exact ⟨entries, rfl, below⟩
  | cons first rest ih =>
    rcases first with ⟨key, value⟩
    rcases List.forall_mem_cons.mp above with ⟨named, others⟩
    rcases exists_insertEntry heap named below value with ⟨between, inserted, isNamed⟩
    rcases ih isNamed others with ⟨all, further, allNamed⟩
    refine ⟨all, ?_, allNamed⟩
    unfold insertAll insert
    rw [Value.checkKey_of_name? named]
    show heap.insertEntry key value entries >>= _ = _
    rw [inserted]
    exact further

end Heap

namespace Settings

open Data (Item Table storeEntries)
open Validation (Checked)

theorem named_storeEntries (heap : Heap) (entries : Table) :
    Named (storeEntries heap entries).1 := by
  induction entries generalizing heap with
  | nil => exact fun _ member => nomatch member
  | cons first rest ih =>
    rcases first with ⟨name, item⟩
    have named : (Value.ofString name).name?.isSome := by
      rw [name?_ofString]
      rfl
    exact List.forall_mem_cons.mpr ⟨named, ih (item.store heap).2⟩

/-- A value that is kept as a mapping, if it is one, is a mapping from names. -/
def MapsNames (heap : Heap) (value : Value) : Prop :=
  ∀ ref, value = .dict ref → ref < heap.cells.size ∧ Named (heap.entries ref)

namespace MapsNames

variable {heap later : Heap} {value : Value}

theorem keep (maps : MapsNames heap value) (keeps : Keeps heap later) : MapsNames later value := by
  intro ref isDict
  rcases maps ref isDict with ⟨inside, named⟩
  refine ⟨Nat.lt_of_lt_of_le inside keeps.size_le, ?_⟩
  rwa [Heap.entries, keeps.get_eq ref inside]

theorem of_none : MapsNames heap .none :=
  fun _ isDict => nomatch isDict

theorem store (heap : Heap) (item : Item) : MapsNames (item.store heap).2 (item.store heap).1 := by
  intro ref isDict
  rcases Item.exists_table_of_store isDict with ⟨entries, rfl⟩
  rcases Item.store_table heap entries with ⟨place, isPlace, inside, cell⟩
  cases isPlace.symm.trans isDict
  refine ⟨inside, ?_⟩
  rw [Heap.entries, cell]
  exact named_storeEntries heap entries

theorem allocate (heap : Heap) {entries : List (Value × Value)} (named : Named entries) :
    MapsNames (heap.allocate (.dict entries)).2 (.dict (heap.allocate (.dict entries)).1) := by
  rintro _ ⟨⟩
  constructor
  · show _ < (Array.push _ _).size
    rw [Array.size_push]
    exact Nat.lt_succ_self _
  · rw [Heap.entries, Heap.get_allocate]
    exact named

end MapsNames

variable {environment : List (String × String)} {root : Path} {overrides given base lower : Given}
  {table : Table} {world : World} {start heap later : Heap}

/-! ## References for a run -/

/-- References for a run, whatever the case of their name, are none or a mapping from names. -/
def GivesMapping (heap : Heap) (overrides : Given) : Prop :=
  ∀ entry ∈ overrides, lowerCase entry.1 = "extensions" →
    entry.2 = .none ∨ (∃ ref, entry.2 = .dict ref) ∧ MapsNames heap entry.2

theorem GivesMapping.mapsNames (mapping : GivesMapping heap overrides) {entry : String × Value}
    (member : entry ∈ overrides) (spelled : lowerCase entry.1 = "extensions") :
    MapsNames heap entry.2 := by
  rcases mapping entry member spelled with isNone | ⟨-, maps⟩
  · rw [isNone]
    exact .of_none
  · exact maps

theorem exists_overridingEntries (mapping : GivesMapping start overrides)
    (keeps : Keeps start heap) :
    ∃ entries, overridingEntries heap (overrides.lookup "extensions") = .ok entries ∧
      Named entries := by
  have nothing : Named [] := fun _ member => nomatch member
  cases found : overrides.lookup "extensions" with
  | none => exact ⟨[], rfl, nothing⟩
  | some value =>
    rcases List.lookup_eq_some_iff.mp found with ⟨front, back, rfl, -⟩
    have member : ("extensions", value) ∈ front ++ ("extensions", value) :: back := by simp
    have spelled : lowerCase "extensions" = "extensions" := lowerCase_of_mem_names (by decide)
    unfold overridingEntries
    dsimp only
    split
    · rcases mapping _ member spelled with isNone | ⟨⟨ref, isDict⟩, maps⟩
      · next isTrue =>
        cases isNone
        cases isTrue
      · cases isDict
        exact ⟨_, rfl, (maps.keep keeps ref rfl).2⟩
    · exact ⟨[], rfl, nothing⟩

/-- What is put over the values of a descriptor for the references is a mapping from names. -/
theorem exists_withExtensions (given : Given) {references : Table}
    (mapping : GivesMapping start overrides)
    (keeps : Keeps start heap) (configured : configuredExtensions table = .ok references) :
    ∃ base later,
      withExtensions heap given table (overrides.lookup "extensions") = .ok (base, later) ∧
        Keeps heap later ∧
        (base = given ∨
          ∃ value, base = Entries.put "extensions" value given ∧ MapsNames later value) := by
  have stored : Keeps heap (storeEntries heap references).2 :=
    Data.keeps_storeEntries (.refl heap) references
  rcases exists_overridingEntries mapping (keeps.trans stored) with ⟨entries, overriding, named⟩
  rcases Heap.exists_insertAll (storeEntries heap references).2
    (named_storeEntries heap references) named with ⟨merged, merging, allNamed⟩
  unfold withExtensions
  rw [configured]
  simp only [bind, Except.bind, overriding, merging, Failure.ofFault]
  cases merged with
  | nil => exact ⟨_, _, rfl, stored, .inl rfl⟩
  | cons first rest =>
    exact ⟨_, _, rfl, stored.allocate _, .inr ⟨_, put_eq _ _ _, .allocate _ allNamed⟩⟩

theorem mapsNames_of_mem_storeTable {entry : String × Value}
    (member : entry ∈ (storeTable heap table).1) :
    MapsNames (storeTable heap table).2 entry.2 := by
  induction table generalizing heap with
  | nil => cases member
  | cons first rest ih =>
    rcases List.mem_cons.mp member with same | further
    · rw [same]
      exact (MapsNames.store heap first.2).keep (keeps_storeTable (.refl _) rest)
    · exact ih further

/-! ## The environment -/

/-- The variable for the references to readers is no JSON. -/
def Unreadable (environment : List (String × String)) : Prop :=
  ∃ content, variableText? environment "extensions" = some content ∧
    Json.read? content.toList = none

theorem ofEnvironment_of_unreadable (unreadable : Unreadable environment) (heap : Heap) :
    ofEnvironment heap environment = .error (variableFault "extensions") := by
  rcases unreadable with ⟨content, found, noJson⟩
  simp only [ofEnvironment, found, noJson]
  rfl

theorem exists_ofEnvironment (readable : ¬Unreadable environment) (heap : Heap) :
    ∃ lower later, ofEnvironment heap environment = .ok (lower, later) := by
  unfold ofEnvironment
  dsimp only
  split
  · exact ⟨_, _, rfl⟩
  · next content found =>
    split
    · next noJson => exact absurd ⟨content, found, noJson⟩ readable
    · exact ⟨_, _, rfl⟩
    · exact ⟨_, _, rfl⟩

theorem mapsNames_of_ofEnvironment {value : Value}
    (surrounding : ofEnvironment heap environment = .ok (lower, later))
    (found : lower.lookup "extensions" = some value) : MapsNames later value := by
  have texts := lookup_filterMap names.dropLast (variableText? environment) Value.ofString
    "extensions"
  rw [if_neg (by decide)] at texts
  unfold ofEnvironment at surrounding
  dsimp only at surrounding
  split at surrounding
  · cases surrounding
    cases texts.symm.trans found
  · split at surrounding
    · cases surrounding
    · cases surrounding
      cases texts.symm.trans found
    · next item _ _ =>
      cases surrounding
      rw [List.lookup_append, texts, Option.none_or, List.lookup_cons_self] at found
      cases found
      exact .store heap item

/-! ## Making settings -/

theorem exists_of_lookup_settleNames {name : String} {value : Value} (isName : name ∈ names)
    (found : (settleNames given).lookup name = some value) :
    ∃ entry ∈ given, lowerCase entry.1 = name ∧ entry.2 = value := by
  rw [settleNames_eq, Entries.lookup_putAll_nil] at found
  rcases List.mem_map.mp (Entries.mem_of_last? found) with ⟨entry, member, same⟩
  cases same
  exact ⟨entry, member, (settledName_eq isName).symm, rfl⟩

theorem exists_overlay (upper : Given)
    (low : ∀ value, lower.lookup "extensions" = some value → MapsNames heap value)
    (high : ∀ value, upper.lookup "extensions" = some value → MapsNames heap value) :
    ∃ all final, overlay heap lower upper = .ok (all, final) := by
  unfold overlay
  split
  · next left right isLow isHigh =>
    rcases Heap.exists_insertAll heap (low _ isLow left rfl).2
      (high _ isHigh right rfl).2 with ⟨entries, inserted, -⟩
    rw [inserted]
    exact ⟨_, _, rfl⟩
  · exact ⟨_, _, rfl⟩

theorem any_selfName_iff :
    (given.any fun (name, _) => name == selfName) = true ↔ selfName ∈ given.map Prod.fst := by
  rw [List.any_eq_true, List.mem_map]
  simp only [beq_iff_eq]

theorem make_of_self (self : selfName ∈ given.map Prod.fst) :
    make heap environment given = .error .wrongType := by
  unfold make
  rw [if_pos (any_selfName_iff.mpr self)]
  rfl

theorem make_of_unreadable (noSelf : selfName ∉ given.map Prod.fst)
    (unreadable : Unreadable environment) :
    make heap environment given = .error (variableFault "extensions") := by
  unfold make
  rw [if_neg (mt any_selfName_iff.mp noSelf), ofEnvironment_of_unreadable unreadable]
  rfl

/-- With nothing else in the way, settings are made of what is checked. -/
theorem make_of_readable (noSelf : selfName ∉ given.map Prod.fst)
    (readable : ¬Unreadable environment)
    (maps : ∀ entry ∈ given, lowerCase entry.1 = "extensions" → MapsNames heap entry.2) :
    ∃ final all, make heap environment given = (check final all).mapError .invalid := by
  rcases exists_ofEnvironment readable heap with ⟨lower, between, surrounding⟩
  have keeps := (extensions_ofEnvironment surrounding).1
  rcases exists_overlay (settleNames (ofSettings given))
    (fun value found => mapsNames_of_ofEnvironment surrounding found) (by
      intro value found
      rcases exists_of_lookup_settleNames (by decide) found with ⟨entry, member, spelled, rfl⟩
      exact (maps entry (List.mem_of_mem_filter member) spelled).keep keeps) with
    ⟨all, final, overlaid⟩
  refine ⟨final, all, ?_⟩
  unfold make
  rw [if_neg (mt any_selfName_iff.mp noSelf), surrounding]
  simp only [bind, Except.bind, pure, Except.pure, overlaid]
  cases check final all <;> rfl

/-- Faults of making settings, with nothing else in the way. -/
theorem make_faults {fault : Fault} (noSelf : selfName ∉ given.map Prod.fst)
    (readable : ¬Unreadable environment) (failed : make heap environment given = .error fault) :
    (∃ complaints, fault = .invalid complaints) ∨ fault.Compares := by
  rcases exists_ofEnvironment readable heap with ⟨lower, between, surrounding⟩
  unfold make at failed
  rw [if_neg (mt any_selfName_iff.mp noSelf), surrounding] at failed
  cases overlaid : overlay between lower (settleNames (ofSettings given)) with
  | error other =>
    simp only [bind, Except.bind, overlaid] at failed
    cases failed
    exact .inr (overlay_faults _ _ _ fault overlaid)
  | ok laid =>
    simp only [bind, Except.bind, overlaid] at failed
    split at failed
    · cases failed
    · cases failed
      exact .inl ⟨_, rfl⟩

/-! ## Loading settings -/

/-- The name by which settings are known to themselves is given. -/
def GivesSelf (overrides : Given) (table : Table) : Prop :=
  selfName ∈ table.map Prod.fst ∨ selfName ∈ (others overrides).map Prod.fst

/-- Why a fault is let out, although something is wrong with the settings. -/
inductive Slips (environment : List (String × String)) (overrides : Given) (table : Table)
    (heap : Heap) : Fault → Prop
  | unreadable (unreadable : Unreadable environment) :
      Slips environment overrides table heap (variableFault "extensions")
  | self (given : GivesSelf overrides table) : Slips environment overrides table heap .wrongType
  | references {fault : Fault} (odd : ¬GivesMapping heap overrides)
      (kind : fault = .wrongValue ∨ fault.Compares) :
      Slips environment overrides table heap fault

section Extended

variable {override : Option Value}
  (extended : withExtensions start given table override = .ok (base, heap))

include extended

/-- Only the references are put over the values of a descriptor. -/
theorem base_cases_of_withExtensions :
    base = given ∨ ∃ value, base = Entries.put "extensions" value given := by
  rcases withExtensions_cases extended with ⟨_, _, -, -, -, ⟨-, same⟩ | ⟨ref, same, -⟩⟩
  · exact .inl same
  · exact .inr ⟨_, same⟩

theorem mem_keys_base_iff {name : String} (other : name ≠ "extensions") :
    name ∈ base.map Prod.fst ↔ name ∈ given.map Prod.fst := by
  rcases base_cases_of_withExtensions extended with same | ⟨value, same⟩
  · rw [same]
  · rw [same, Entries.mem_keys_put, or_iff_right other]

end Extended

theorem givesSelf_iff {override : Option Value}
    (extended : withExtensions start (storeTable world.machine.heap table).1 table override =
      .ok (base, heap)) :
    selfName ∈ (Entries.putAll base (others overrides)).map Prod.fst ↔
      GivesSelf overrides table := by
  rw [Entries.mem_keys_putAll, mem_keys_base_iff extended (by decide), keys_storeTable, GivesSelf]

/-- References for a run that are a mapping are put over those of a descriptor. -/
theorem extended_of_mapping {references : Table}
    (mapping : GivesMapping world.machine.heap overrides)
    (configured : configuredExtensions table = .ok references) :
    ∃ base heap,
      withExtensions (storeTable world.machine.heap table).2
          (storeTable world.machine.heap table).1 table (overrides.lookup "extensions") =
        .ok (base, heap) ∧
      ∀ entry ∈ Entries.putAll base (others overrides),
        lowerCase entry.1 = "extensions" → MapsNames heap entry.2 := by
  have stored : Keeps world.machine.heap (storeTable world.machine.heap table).2 :=
    keeps_storeTable (.refl _) table
  rcases exists_withExtensions (storeTable world.machine.heap table).1 mapping stored
    configured with ⟨base, heap, extended, keeps, outcome⟩
  refine ⟨base, heap, extended, fun entry member spelled => ?_⟩
  rcases Entries.mem_of_mem_putAll member with inside | inside
  · have ofTable : ∀ entry ∈ (storeTable world.machine.heap table).1, MapsNames heap entry.2 :=
      fun entry member => (mapsNames_of_mem_storeTable member).keep keeps
    rcases outcome with rfl | ⟨value, rfl, maps⟩
    · exact ofTable entry inside
    · rcases Entries.mem_of_mem_put inside with rfl | inside
      · exact maps
      · exact ofTable entry inside
  · have given := mapping.mapsNames (List.mem_of_mem_filter inside) spelled
    exact given.keep (stored.trans keeps)

theorem configured_of_withExtensions {override : Option Value}
    (extended : withExtensions start given table override = .ok (base, heap)) :
    ∃ references, configuredExtensions table = .ok references :=
  (except_bind_eq_ok_iff.mp extended).imp fun _ found => found.1

/-- What becomes of loading settings from a descriptor. -/
structure Reports (environment : List (String × String)) (root : Path) (overrides : Given)
    (table : Table) (world : World) : Prop where
  /-- Nothing but wrong settings ends loading, unless there is a reason to let a fault out. -/
  failures : ∀ failure after, load environment root overrides world = .error failure after →
    after = world ∧ ((∃ reason, failure = .config reason) ∨
      ∃ fault, failure = .unforeseen fault ∧
        Slips environment overrides table world.machine.heap fault)
  /-- These reasons are met once the references are looked at. -/
  slips_iff : GivesMapping world.machine.heap overrides → ∀ fault,
    load environment root overrides world = .error (.unforeseen fault) world ↔
      (∃ references, configuredExtensions table = .ok references) ∧
        (GivesSelf overrides table ∧ fault = .wrongType ∨
          ¬GivesSelf overrides table ∧ Unreadable environment ∧
            fault = variableFault "extensions")
  /-- Where settings are returned, every name of the descriptor is one of a setting. -/
  known : ∀ settings after, load environment root overrides world = .ok settings after →
    ∀ name ∈ table.map Prod.fst, lowerCase name ∈ names ∧
      (name = lowerCase name ∨ lowerCase name ∉ table.map Prod.fst)

section Tabled

variable (tabled : Project.settingsTable world.files root = .ok table)

include tabled

theorem load_of_unconfigured {failure : Failure}
    (refused : configuredExtensions table = .error failure) :
    load environment root overrides world = .error (.config .extensionsNoTable) world := by
  cases configuredExtensions_faults refused
  apply load_of_unmerged tabled
  rw [withExtensions, refused]
  rfl

section Extended

variable (extended : withExtensions (storeTable world.machine.heap table).2
  (storeTable world.machine.heap table).1 table (overrides.lookup "extensions") =
    .ok (base, heap))

include extended

theorem load_of_self (self : GivesSelf overrides table) :
    load environment root overrides world = .error (.unforeseen .wrongType) world := by
  rw [load_of_extended tabled extended, make_of_self ((givesSelf_iff extended).mpr self)]
  rfl

theorem load_of_unreadable (noSelf : ¬GivesSelf overrides table)
    (unreadable : Unreadable environment) :
    load environment root overrides world =
      .error (.unforeseen (variableFault "extensions")) world := by
  rw [load_of_extended tabled extended,
    make_of_unreadable (mt (givesSelf_iff extended).mp noSelf) unreadable]
  rfl

/-- With nothing in the way, settings are returned or refused. -/
theorem load_of_readable (noSelf : ¬GivesSelf overrides table)
    (readable : ¬Unreadable environment)
    (mapping : GivesMapping world.machine.heap overrides) :
    (∃ settings, load environment root overrides world = .ok settings world) ∨
      ∃ reason, load environment root overrides world = .error (.config reason) world := by
  rcases configured_of_withExtensions extended with ⟨references, configured⟩
  rcases extended_of_mapping mapping configured with ⟨_, _, also, maps⟩
  cases also.symm.trans extended
  rcases make_of_readable (mt (givesSelf_iff extended).mp noSelf) readable maps with
    ⟨final, all, made⟩
  rw [load_of_extended tabled extended, made]
  cases check final all with
  | ok settings => exact .inl ⟨_, rfl⟩
  | error complaints => exact .inr ⟨_, rfl⟩

end Extended

theorem load_failures {failure : Failure} {after : World}
    (failed : load environment root overrides world = .error failure after) :
    after = world ∧ ((∃ reason, failure = .config reason) ∨
      ∃ fault, failure = .unforeseen fault ∧
        Slips environment overrides table world.machine.heap fault) := by
  cases extended : withExtensions (storeTable world.machine.heap table).2
      (storeTable world.machine.heap table).1 table (overrides.lookup "extensions") with
  | error problem =>
    rw [load_of_unmerged tabled extended] at failed
    cases failed
    rcases withExtensions_faults extended with rfl | ⟨fault, rfl, kind⟩
    · exact ⟨rfl, .inl ⟨_, rfl⟩⟩
    · refine ⟨rfl, .inr ⟨fault, rfl, .references (fun mapping => ?_) kind⟩⟩
      cases configured : configuredExtensions table with
      | error problem =>
        rw [withExtensions, configured] at extended
        cases configuredExtensions_faults configured
        cases extended
      | ok references =>
        rcases extended_of_mapping mapping configured with ⟨base, heap, succeeded, -⟩
        cases succeeded.symm.trans extended
  | ok found =>
    rcases found with ⟨base, heap⟩
    by_cases self : GivesSelf overrides table
    · rw [load_of_self tabled extended self] at failed
      cases failed
      exact ⟨rfl, .inr ⟨_, rfl, .self self⟩⟩
    by_cases unreadable : Unreadable environment
    · rw [load_of_unreadable tabled extended self unreadable] at failed
      cases failed
      exact ⟨rfl, .inr ⟨_, rfl, .unreadable unreadable⟩⟩
    cases made : make heap environment (Entries.putAll base (others overrides)) with
    | ok settings =>
      rw [load_of_extended tabled extended, made] at failed
      cases failed
    | error fault =>
      rcases make_faults (mt (givesSelf_iff extended).mp self) unreadable made with
        ⟨complaints, rfl⟩ | compares
      · rw [load_of_extended tabled extended, made] at failed
        cases failed
        exact ⟨rfl, .inl ⟨_, rfl⟩⟩
      · have let_out : load environment root overrides world =
            .error (.unforeseen fault) world := by
          rw [load_of_extended tabled extended, made]
          cases compares <;> rfl
        -- Names can always be compared.
        have odd : ¬GivesMapping world.machine.heap overrides := by
          intro mapping
          rcases load_of_readable tabled extended self unreadable mapping with
            ⟨settings, loaded⟩ | ⟨reason, refused⟩
          · cases loaded.symm.trans let_out
          · cases refused.symm.trans let_out
        rw [let_out] at failed
        cases failed
        exact ⟨rfl, .inr ⟨fault, rfl, .references odd (.inr compares)⟩⟩

theorem load_slips_iff (mapping : GivesMapping world.machine.heap overrides) (fault : Fault) :
    load environment root overrides world = .error (.unforeseen fault) world ↔
      (∃ references, configuredExtensions table = .ok references) ∧
        (GivesSelf overrides table ∧ fault = .wrongType ∨
          ¬GivesSelf overrides table ∧ Unreadable environment ∧
            fault = variableFault "extensions") := by
  cases configured : configuredExtensions table with
  | error failure =>
    rw [load_of_unconfigured tabled configured]
    refine iff_of_false (fun same => nomatch same) ?_
    rintro ⟨⟨_, same⟩, -⟩
    cases same
  | ok references =>
    rcases extended_of_mapping mapping configured with ⟨base, heap, extended, -⟩
    by_cases self : GivesSelf overrides table
    · rw [load_of_self tabled extended self]
      simp [self, eq_comm]
    by_cases unreadable : Unreadable environment
    · rw [load_of_unreadable tabled extended self unreadable]
      simp [self, unreadable, eq_comm]
    rcases load_of_readable tabled extended self unreadable mapping with
      ⟨settings, loaded⟩ | ⟨reason, refused⟩
    · rw [loaded]
      simp [self, unreadable]
    · rw [refused]
      simp [self, unreadable]

/-- Names of a descriptor that are none of settings are refused. -/
theorem load_known (plain : ∀ name ∈ table.map Prod.fst, name ∉ optionNames)
    {settings : Settings} {after : World}
    (loaded : load environment root overrides world = .ok settings after) :
    ∀ name ∈ table.map Prod.fst, lowerCase name ∈ names ∧
      (name = lowerCase name ∨ lowerCase name ∉ table.map Prod.fst) := by
  rcases @load_cases environment root overrides table world tabled with
    ⟨failure, -, failed⟩ | ⟨base, heap, lower, between, all, final, loads, outcome⟩
  · rw [failed] at loaded
    cases loaded
  rw [loaded] at outcome
  cases outcome with
  | accepted checked =>
    rcases Validation.map_eq_ok_iff.mp checked with ⟨accepted, parts, -⟩
    have settles := loads.settles (Validation.both_eq_ok_iff.mp parts).1
    -- A name of the descriptor is among those that are settled.
    have settled : ∀ name ∈ table.map Prod.fst,
        name ∈ (ofSettings (Entries.putAll base (others overrides))).map Prod.fst := by
      intro name member
      have ofBase : name ∈ base.map Prod.fst := by
        rcases loads.base_cases with same | ⟨ref, same⟩
        · rw [same, keys_storeTable]
          exact member
        · rw [same, Entries.mem_keys_put, keys_storeTable]
          exact .inr member
      rcases List.mem_map.mp (Entries.mem_keys_putAll.mpr (.inl ofBase)) with
        ⟨entry, inside, same⟩
      refine List.mem_map.mpr ⟨entry, List.mem_filter.mpr ⟨inside, ?_⟩, same⟩
      simpa [same] using plain name member
    intro name member
    rcases List.mem_map.mp (settled name member) with ⟨entry, inside, same⟩
    have isName := settles entry inside
    rw [same] at isName
    refine ⟨settledName_eq isName ▸ isName, ?_⟩
    by_cases there : lowerCase name ∈ table.map Prod.fst
    · exact .inl (eq_of_settledName isName rfl (settled _ there))
    · exact .inr there

end Tabled

theorem load_of_untabled {failure : Failure}
    (untabled : Project.settingsTable world.files root = .error failure) :
    load environment root overrides world = .error failure world := by
  unfold load
  rw [bind_apply_of_ok (get_apply world), untabled]
  exact bind_apply_of_error rfl

/-- A descriptor that can be read has a table of settings, or is refused. -/
theorem settingsTable_cases {files : Files.Tree} {document : Table}
    (parsed : Project.readDescriptor files (Project.descriptorOf root) = .ok document) :
    (∃ table, Project.settingsTable files root = .ok table) ∨
      ∃ reason, Project.settingsTable files root = .error (.config reason) := by
  cases tabled : Project.settingsTable files root with
  | ok table => exact .inl ⟨table, rfl⟩
  | error failure =>
    rcases (Project.letsOut_settingsTable files root).foreseen failure tabled with
      ⟨fault, rfl⟩ | ⟨reason, rfl⟩
    · have unread := ((Project.letsOut_settingsTable files root).out_iff fault).mp tabled
      have failed := ((Project.letsOut_readDescriptor files _).out_iff fault).mpr unread
      cases parsed.symm.trans failed
    · exact .inr ⟨reason, rfl⟩

/--
Where a descriptor can be read, its settings are returned or refused as wrong, unless a
fault is let out for one of three reasons; and a name that is none of a setting is never
ignored.  Names that the library takes for itself are out of consideration.
-/
theorem load_reports {document : Table}
    (parsed : Project.readDescriptor world.files (Project.descriptorOf root) = .ok document) :
    (∃ reason, Project.settingsTable world.files root = .error (.config reason) ∧
        load environment root overrides world = .error (.config reason) world) ∨
      ∃ table, Project.settingsTable world.files root = .ok table ∧
        ((∀ name ∈ table.map Prod.fst ++ overrides.map Prod.fst, name ∉ optionNames) →
          Reports environment root overrides table world) := by
  rcases settingsTable_cases parsed with ⟨table, tabled⟩ | ⟨reason, refused⟩
  · refine .inr ⟨table, tabled, fun plain => ⟨?_, load_slips_iff tabled, ?_⟩⟩
    · exact fun failure after failed => load_failures tabled failed
    · exact fun settings after =>
        load_known tabled fun name member => plain name (List.mem_append_left _ member)
  · exact .inl ⟨reason, refused, load_of_untabled refused⟩

/-- A descriptor with a name that is none of a setting. -/
def misspelledFiles : Files.Tree where
  entries := [(["pyproject.toml"], .file ⟨"[tool.templategen]\ntypo = 1\n".toUTF8, 0o644, 1, 0⟩)]
  here := []

theorem load_reports_misspelledFiles :
    ∃ document table,
      Project.readDescriptor misspelledFiles (Project.descriptorOf .here) = .ok document ∧
        Project.settingsTable misspelledFiles .here = .ok table ∧
        table.map Prod.fst = ["typo"] ∧
        Reports [] .here [] table { files := misspelledFiles } := by
  have isDescriptor : ((Project.readDescriptor misspelledFiles
      (Project.descriptorOf .here)).toOption.map fun table => table.map Prod.fst) =
        some ["tool"] := by
    decide +kernel
  have keys : ((Project.settingsTable misspelledFiles .here).toOption.map
      fun table => table.map Prod.fst) = some ["typo"] := by
    decide +kernel
  rcases Option.map_eq_some_iff.mp isDescriptor with ⟨document, isDocument, -⟩
  rcases Option.map_eq_some_iff.mp keys with ⟨table, isTable, isKeys⟩
  have parsed := except_eq_ok_of_toOption isDocument
  have tabled := except_eq_ok_of_toOption isTable
  rcases @load_reports [] .here [] { files := misspelledFiles } document parsed with
    ⟨reason, refused, -⟩ | ⟨_, also, reports⟩
  · cases tabled.symm.trans refused
  · cases tabled.symm.trans also
    refine ⟨document, table, parsed, tabled, isKeys, reports fun name member => ?_⟩
    rw [isKeys] at member
    revert name
    decide

/-- A descriptor with a name that the library takes for itself. -/
def optionFiles : Files.Tree where
  entries := [(["pyproject.toml"],
    .file ⟨"[tool.templategen]\n_env_file = \"x\"\n".toUTF8, 0o644, 1, 0⟩)]
  here := []

/-- A variable that is no JSON is no wrong setting, and what the library takes is ignored. -/
theorem not_reports_optionFiles :
    (∃ after, load [("TEMPLATEGEN_EXTENSIONS", "\x7b")] .here [] { files := misspelledFiles } =
        .error (.unforeseen (variableFault "extensions")) after) ∧
      ∃ after, load [] .here [] { files := optionFiles } = .ok {} after := by
  constructor
  · apply exists_of_fault?_eq_some
    decide +kernel
  · apply exists_of_value?_eq_some
    decide +kernel

end Settings

end Stencil

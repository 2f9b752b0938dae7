import Stencil.Proofs.Json.Reader
import Stencil.Proofs.Project.Descriptor
import Stencil.Proofs.Settings.Loading
import Stencil.Proofs.Settings.References

/-!
# References to readers from several sources

References that are given for a run are put over those of the descriptor, and these over
those of the environment.  Under each name it is the first of these sources with an entry
of this name that counts.
-/

namespace Stencil.Settings

open Data (Item Table storeEntries)
open Heap (Keeps)
open Outcome
open Validation (Checked)

/-! ## References of the single sources -/

/-- The references to readers in the environment; what is no table has none. -/
def variableReferences (environment : List (String × String)) : Table :=
  match (variableText? environment "extensions").bind fun content =>
    Json.read? content.toList with
  | some (.table entries) => entries
  | _ => []

theorem nodup_tableReferences {table : Table} (distinct : table.Distinct) :
    ((tableReferences table).map Prod.fst).Nodup := by
  unfold tableReferences
  split
  · next entries found => exact (distinct.of_lookup found).of_table.nodup
  · exact List.nodup_nil

theorem nodup_variableReferences (environment : List (String × String)) :
    ((variableReferences environment).map Prod.fst).Nodup := by
  unfold variableReferences
  split
  · next entries found =>
    rcases Option.bind_eq_some_iff.mp found with ⟨content, -, read⟩
    exact (Json.distinct_of_read? read).of_table.nodup
  · exact List.nodup_nil

theorem name?_ofString (name : String) : (Value.ofString name).name? = some name := by
  rw [Value.name?, Value.ofString, Value.spelling?, Option.map_some, Text.string_ofString]

/-- Stored entries have a name at most once, under its text. -/
theorem called_storeEntries {entries : Table} (heap : Heap)
    (nodup : (entries.map Prod.fst).Nodup) (name : String) :
    (name ∉ entries.map Prod.fst ∧ called name (storeEntries heap entries).1 = []) ∨
      ∃ item later, (name, item) ∈ entries ∧
        called name (storeEntries heap entries).1 =
          [(Value.ofString name, (item.store later).1)] := by
  induction entries generalizing heap with
  | nil => exact .inl ⟨List.not_mem_nil, rfl⟩
  | cons first rest ih =>
    rcases first with ⟨known, item⟩
    rcases List.nodup_cons.mp nodup with ⟨new, others⟩
    have stored : (storeEntries heap ((known, item) :: rest)).1 =
        (Value.ofString known, (item.store heap).1) ::
          (storeEntries (item.store heap).2 rest).1 := rfl
    rw [stored]
    by_cases same : known = name
    · subst same
      rw [called_cons_of_name (name?_ofString known)]
      rcases ih (item.store heap).2 others with ⟨-, none_⟩ | ⟨later, _, member, -⟩
      · rw [none_]
        exact .inr ⟨item, heap, List.mem_cons_self .., rfl⟩
      · exact absurd (List.mem_map_of_mem member) new
    · have other : (Value.ofString known).name? ≠ some name := by
        rw [name?_ofString]
        simpa using same
      rw [called_cons_of_other other]
      rcases ih (item.store heap).2 others with ⟨absent, none_⟩ | ⟨later, at_, member, one⟩
      · refine .inl ⟨fun inside => ?_, none_⟩
        rcases List.mem_cons.mp inside with here | there
        · exact same here.symm
        · exact absent there
      · exact .inr ⟨later, at_, List.mem_cons_of_mem _ member, one⟩

theorem few_storeEntries {entries : Table} (heap : Heap)
    (nodup : (entries.map Prod.fst).Nodup) (name : String) :
    Few name (called name (storeEntries heap entries).1) := by
  rcases called_storeEntries heap nodup name with ⟨-, none_⟩ | ⟨item, later, -, one⟩
  · exact .inl none_
  · exact .inr ⟨_, one⟩

/-- The entries of what is given for the references; what is no mapping has none. -/
def givenEntries (heap : Heap) : Option Value → List (Value × Value)
  | some (.dict ref) => heap.entries ref
  | _ => []

theorem givenEntries_of_ne_dict {heap : Heap} {value : Value} (noDict : ∀ ref, value ≠ .dict ref) :
    givenEntries heap (some value) = [] := by
  cases value with
  | dict ref => exact absurd rfl (noDict ref)
  | _ => rfl

theorem givenEntries_store (heap : Heap) (item : Item) :
    givenEntries (item.store heap).2 (some (item.store heap).1) =
      match item with
      | .table entries => (storeEntries heap entries).1
      | _ => [] := by
  split
  · next entries =>
    rcases Item.store_table heap entries with ⟨ref, isDict, -, cell⟩
    rw [isDict, givenEntries, Heap.entries, cell]
  · next noTable =>
    refine givenEntries_of_ne_dict fun ref same => ?_
    rcases Item.exists_table_of_store same with ⟨entries, isTable⟩
    exact noTable entries isTable

/-- What the environment gives for the references has their entries. -/
theorem extensions_ofEnvironment {environment : List (String × String)} {heap later : Heap}
    {lower : Given} (given : ofEnvironment heap environment = .ok (lower, later)) :
    Keeps heap later ∧ givenEntries later (lower.lookup "extensions") =
      (storeEntries heap (variableReferences environment)).1 := by
  have texts := lookup_filterMap names.dropLast (variableText? environment) Value.ofString
    "extensions"
  rw [if_neg (by decide)] at texts
  unfold ofEnvironment at given
  unfold variableReferences
  dsimp only at given
  split at given
  · next none_ =>
    cases given
    rw [none_, texts]
    exact ⟨.refl _, rfl⟩
  · next content found =>
    rw [found, Option.bind_some]
    split at given
    · cases given
    · next read =>
      cases given
      rw [read, texts]
      exact ⟨.refl _, rfl⟩
    · next item _ read =>
      cases given
      rw [read, List.lookup_append, texts, Option.none_or, List.lookup_cons_self,
        givenEntries_store]
      refine ⟨Item.keeps_store (.refl _) item, ?_⟩
      cases item <;> rfl

/-! ## References over those of a descriptor -/

/-- References that are given for a run under another spelling of their name. -/
def respelledEntries (heap : Heap) (overrides : Given) : List (Value × Value) :=
  match given? "extensions" (others overrides) with
  | some (.dict ref) => heap.entries ref
  | _ => []

/-- The references that are given for a run, as the containers of a run are kept. -/
def OverridingReferences (start : Heap) (overrides : Given) (above : List (Value × Value)) :
    Prop :=
  ∃ heap later entries, start.Keeps heap ∧ start.Keeps later ∧
    overridingEntries heap (overrides.lookup "extensions") = .ok entries ∧
    above = entries ++ respelledEntries later overrides

/-- Nothing comes of entries only where there are none. -/
theorem insertAll_eq_nil {heap : Heap} {entries more : List (Value × Value)}
    (inserted : heap.insertAll entries more = .ok []) : entries = [] ∧ more = [] := by
  have none_ : entries = [] := by
    cases entries with
    | nil => rfl
    | cons first rest =>
      have inside := Heap.mem_keys_insertAll inserted (List.mem_cons_self ..)
      cases inside
  refine ⟨none_, ?_⟩
  subst none_
  cases more with
  | nil => rfl
  | cons first rest =>
    rcases first with ⟨key, value⟩
    unfold Heap.insertAll Heap.insert Heap.insertEntry at inserted
    rcases except_bind_eq_ok_iff.mp inserted with ⟨between, insertion, inserted⟩
    rcases except_bind_eq_ok_iff.mp insertion with ⟨_, -, same⟩
    cases same
    have inside := Heap.mem_keys_insertAll inserted (List.mem_cons_self ..)
    cases inside

theorem upon_nil (entries : List (Value × Value)) : Upon [] (entries.map Prod.snd) entries := by
  cases entries with
  | nil => exact .nothing rfl
  | cons first rest =>
    exact .replaced (List.cons_ne_nil _ _) fun entry member => List.mem_map_of_mem member

section References

variable {environment : List (String × String)} {overrides : Given} {table : Table}
  {start heap between final : Heap} {base lower all : Given}

/-- Where the references have their name, they are given under no other spelling of it. -/
theorem respelled_eq_none
    (settles : Settles (Entries.putAll base (ofSettings (others overrides))))
    (there : "extensions" ∈ base.map Prod.fst) : given? "extensions" (others overrides) = none := by
  rw [← given?_ofSettings (by decide), given?, Option.map_eq_none_iff,
    List.getLast?_eq_none_iff, List.filter_eq_nil_iff]
  intro entry member spelled
  have inside : entry.1 ∈
      (Entries.putAll base (ofSettings (others overrides))).map Prod.fst :=
    Entries.mem_keys_putAll.mpr (.inr (List.mem_map_of_mem member))
  rcases List.mem_map.mp inside with ⟨known, isKnown, same⟩
  have isName : entry.1 = "extensions" :=
    eq_of_settledName (same ▸ settles known isKnown) (of_decide_eq_true spelled)
      (Entries.mem_keys_putAll.mpr (.inl there))
  rcases entry with ⟨name, given⟩
  cases isName
  cases (List.mem_filter.mp (List.mem_filter.mp member).1).2

/-- The references over those of the environment, unless they are none at all. -/
structure Referred (table : Table) (start : Heap) (overrides : Given) (between : Heap)
    (value : Option Value) (above upper : List (Value × Value)) : Prop where
  given : OverridingReferences start overrides above
  stands : value = none ∧ upper = [] ∨ ∃ ref, value = some (.dict ref) ∧ between.entries ref = upper
  named : Named upper → Named above
  upon : Named upper → ∀ name,
    Upon (called name (storeEntries (storeTable start table).2 (tableReferences table)).1)
      ((called name above).map Prod.snd) (called name upper)

/-- Without any references of the descriptor, those that are given for the run stand alone. -/
theorem referred_of_nil {value : Option Value} {above : List (Value × Value)}
    (none_ : (storeEntries (storeTable start table).2 (tableReferences table)).1 = [])
    (given : OverridingReferences start overrides above)
    (isMapping : ∀ found, value = some found → ∃ ref, found = .dict ref)
    (has : givenEntries between value = above) :
    Referred table start overrides between value above above where
  given := given
  stands := by
    subst has
    cases value with
    | none => exact .inl ⟨rfl, rfl⟩
    | some found =>
      rcases isMapping found rfl with ⟨ref, rfl⟩
      exact .inr ⟨ref, rfl, rfl⟩
  named := id
  upon := by
    intro _ name
    rw [none_]
    exact upon_nil _

/-- What a descriptor without references keeps for them has no entries. -/
theorem givenEntries_of_tableReferences (kept : Keeps (storeTable start table).2 between)
    (none_ : tableReferences table = []) :
    givenEntries between ((storeTable start table).1.lookup "extensions") = [] := by
  rcases lookup_storeTable start table "extensions" with
    ⟨-, absent⟩ | ⟨item, later, found, isStored, keeps⟩
  · rw [absent]
    rfl
  · rw [isStored]
    rw [tableReferences, found] at none_
    cases item with
    | table entries =>
      subst none_
      rcases Item.store_table later [] with ⟨ref, isDict, inside, cell⟩
      rw [isDict, givenEntries, Heap.entries, (keeps.trans kept).get_eq _ inside, cell]
      rfl
    | _ =>
      refine givenEntries_of_ne_dict fun ref same => ?_
      rcases Item.exists_table_of_store same with ⟨_, isTable⟩
      cases isTable

theorem storeEntries_eq_nil {heap : Heap} {entries : Table}
    (none_ : (storeEntries heap entries).1 = []) : entries = [] := by
  cases entries with
  | nil => rfl
  | cons first rest => cases none_

theorem Loads.referred (distinct : table.Distinct) (known : ∀ entry ∈ table, entry.1 ∈ names)
    (apart : (overrides.map Prod.fst).Nodup)
    (loads : Loads environment overrides table start base heap lower between all final)
    (isNames : checkNames all = .ok ())
    (isMapping : ∀ found,
      (settleNames (ofSettings (Entries.putAll base (others overrides)))).lookup "extensions" =
        some found → ∃ ref, found = .dict ref) :
    ∃ above upper, Referred table start overrides between
      ((settleNames (ofSettings (Entries.putAll base (others overrides)))).lookup "extensions")
      above upper := by
  have apartToo : ((ofSettings (others overrides)).map Prod.fst).Nodup :=
    apart.sublist ((List.filter_sublist.trans List.filter_sublist).map Prod.fst)
  have settles := loads.settles isNames
  rw [loads.ofSettings_putAll known] at settles isMapping ⊢
  have value : (settleNames (Entries.putAll base (ofSettings (others overrides)))).lookup
      "extensions" =
      (given? "extensions" (others overrides)).or (base.lookup "extensions") := by
    rw [lookup_settleNames settles,
      given?_putAll settles (loads.base_names known) (loads.base_nodup distinct) apartToo,
      given?_ofSettings (by decide)]
  have keeps : Keeps start (storeEntries (storeTable start table).2 (tableReferences table)).2 :=
    Data.keeps_storeEntries (keeps_storeTable (.refl _) table) _
  have few := few_storeEntries (storeTable start table).2 (nodup_tableReferences distinct)
  rcases withExtensions_cases loads.extended with ⟨entries, merged, given, merging, later, outcome⟩
  have kept := later.trans (extensions_ofEnvironment loads.surrounding).1
  rw [value] at isMapping ⊢
  rcases outcome with ⟨rfl, rfl⟩ | ⟨ref, rfl, inside, cell⟩
  · -- There is nothing to put together, so the run's own mapping stands as it is.
    rcases insertAll_eq_nil merging with ⟨noStored, rfl⟩
    have overriding : OverridingReferences start overrides (respelledEntries between overrides) :=
      ⟨_, between, [], keeps, keeps.trans kept, given, rfl⟩
    refine ⟨_, _, referred_of_nil noStored overriding isMapping ?_⟩
    cases respelled : given? "extensions" (others overrides) with
    | some found =>
      rw [Option.some_or, respelledEntries, respelled]
      rfl
    | none =>
      have onward := Data.keeps_storeEntries (.refl (storeTable start table).2)
        (tableReferences table)
      rw [Option.none_or, respelledEntries, respelled]
      exact givenEntries_of_tableReferences (onward.trans kept) (storeEntries_eq_nil noStored)
  · have there : "extensions" ∈ (Entries.put "extensions" (Value.dict ref)
        (storeTable start table).1).map Prod.fst :=
      Entries.mem_keys_put.mpr (.inl rfl)
    have respelled := respelled_eq_none settles there
    have noneOver : respelledEntries between overrides = [] := by
      rw [respelledEntries, respelled]
    rw [respelled, Option.none_or, Entries.lookup_put, if_pos rfl]
    refine ⟨entries, merged, ?_, .inr ⟨ref, rfl, ?_⟩, ?_, ?_⟩
    · refine ⟨_, between, entries, keeps, keeps.trans kept, given, ?_⟩
      rw [noneOver, List.append_nil]
    · rw [Heap.entries, (extensions_ofEnvironment loads.surrounding).1.get_eq ref inside, cell]
    · intro named
      exact named_of_insertAll named merging
    · intro named name
      exact upon_insertAll (few name).length_le (insertAll_called named merging)

theorem Referred.givenEntries_eq {value : Option Value} {above upper : List (Value × Value)}
    (referred : Referred table start overrides between value above upper) :
    givenEntries between value = upper := by
  rcases referred.stands with ⟨rfl, rfl⟩ | ⟨ref, rfl, entries⟩
  · rfl
  · exact entries

/-- What comes of the references when values are put over those of the environment. -/
theorem overlay_extensions {upper : Given} (laid : overlay between lower upper = .ok (all, final))
    (nodup : (upper.map Prod.fst).Nodup) :
    (∃ low high ref, lower.lookup "extensions" = some (.dict low) ∧
        upper.lookup "extensions" = some (.dict high) ∧
        all.lookup "extensions" = some (.dict ref) ∧
        between.insertAll (between.entries low) (between.entries high) =
          .ok (final.entries ref)) ∨
      (¬∃ low high, lower.lookup "extensions" = some (.dict low) ∧
          upper.lookup "extensions" = some (.dict high)) ∧
        final = between ∧
        all.lookup "extensions" = (upper.lookup "extensions").or (lower.lookup "extensions") := by
  unfold overlay at laid
  split at laid
  · next low high isLow isHigh =>
    rcases except_bind_eq_ok_iff.mp laid with ⟨entries, inserted, same⟩
    cases same
    refine .inl ⟨low, high, (between.allocate (.dict entries)).1, isLow, isHigh, ?_, ?_⟩
    · rw [put_eq, Entries.lookup_put, if_pos rfl]
      rfl
    · rw [inserted]
      show _ = Except.ok ((between.allocate (.dict entries)).2.entries _)
      rw [Heap.entries, Heap.get_allocate]
  · next others =>
    cases laid
    refine .inr ⟨?_, rfl, ?_⟩
    · rintro ⟨low, high, isLow, isHigh⟩
      exact others low high isLow isHigh
    · rw [foldl_put, Entries.lookup_putAll, Entries.last?_of_nodup nodup]

/-- What is accepted as references is a mapping, if it is given at all. -/
theorem refers_of_part {references : List (String × String)} {value : Value}
    (accepted : part all "extensions" [] (checkExtensions final) = .ok references)
    (found : all.lookup "extensions" = some value) :
    ∃ ref, value = .dict ref ∧ Refers (final.entries ref) references := by
  rw [part, found] at accepted
  exact refers_of_checkExtensions accepted

/-- Accepted references are those of the upper mapping over those of the lower one. -/
theorem refers_of_overlay {upper : Given} {references : List (String × String)}
    (laid : overlay between lower upper = .ok (all, final)) (nodup : (upper.map Prod.fst).Nodup)
    (accepted : part all "extensions" [] (checkExtensions final) = .ok references) :
    (∀ value, upper.lookup "extensions" = some value → ∃ ref, value = .dict ref) ∧
      Named (givenEntries between (upper.lookup "extensions")) ∧
      ∃ entries, Refers entries references ∧ ∀ name,
        Covers between (called name (givenEntries between (lower.lookup "extensions")))
          (called name (givenEntries between (upper.lookup "extensions")))
          (called name entries) := by
  rcases overlay_extensions laid nodup with
    ⟨low, high, ref, isLow, isHigh, isAll, inserted⟩ | ⟨notBoth, rfl, whole⟩
  · rcases refers_of_part accepted isAll with ⟨_, isDict, refers⟩
    cases isDict
    rw [isLow, isHigh]
    refine ⟨fun value same => ⟨high, (Option.some.inj same).symm⟩,
      named_of_insertAll refers.named inserted, _, refers, fun name => ?_⟩
    exact .inl (insertAll_called refers.named inserted)
  · cases isHigh : upper.lookup "extensions" with
    | some value =>
      rw [isHigh, Option.some_or] at whole
      rcases refers_of_part accepted whole with ⟨high, rfl, refers⟩
      have noLow : givenEntries final (lower.lookup "extensions") = [] := by
        unfold givenEntries
        split
        · next low isLow => exact absurd ⟨low, high, isLow, isHigh⟩ notBoth
        · rfl
      rw [noLow]
      exact ⟨fun value same => ⟨high, (Option.some.inj same).symm⟩, refers.named, _, refers,
        fun name => .inr ⟨rfl, rfl⟩⟩
    | none =>
      have isNamed : Named [] := fun _ member => nomatch member
      refine ⟨nofun, isNamed, ?_⟩
      rw [isHigh, Option.none_or] at whole
      cases isLow : lower.lookup "extensions" with
      | none =>
        rw [part, whole, isLow] at accepted
        cases accepted
        exact ⟨_, refers_nil, fun name => .inl rfl⟩
      | some value =>
        rcases refers_of_part accepted (whole.trans isLow) with ⟨low, rfl, refers⟩
        exact ⟨_, refers, fun name => .inl rfl⟩

/-- The references of the environment, those of the descriptor and those of the run. -/
theorem Loads.refers {references : List (String × String)}
    (distinct : table.Distinct) (known : ∀ entry ∈ table, entry.1 ∈ names)
    (apart : (overrides.map Prod.fst).Nodup)
    (loads : Loads environment overrides table start base heap lower between all final)
    (isNames : checkNames all = .ok ())
    (accepted : part all "extensions" [] (checkExtensions final) = .ok references) :
    ∃ above upper entries value,
      Referred table start overrides between value above upper ∧ Named upper ∧
        Refers entries references ∧ ∀ name,
          Covers between (called name (storeEntries heap (variableReferences environment)).1)
            (called name upper) (called name entries) := by
  rcases refers_of_overlay loads.overlaid (nodup_settleNames _) accepted with
    ⟨isMapping, named, entries, refers, covers⟩
  rcases loads.referred distinct known apart isNames isMapping with ⟨above, upper, referred⟩
  rw [referred.givenEntries_eq] at named
  rw [referred.givenEntries_eq, (extensions_ofEnvironment loads.surrounding).2] at covers
  exact ⟨above, upper, entries, _, referred, named, refers, covers⟩

end References

end Stencil.Settings

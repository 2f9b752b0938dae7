import Stencil.Proofs.Settings.Extensions

/-!
# Which source of the settings counts

A setting is what it is given as for a run, or else in the descriptor of the project, or
else in the environment, or else its default.  The first of these is taken as a whole, so
what comes after it does not matter, not even where it makes no sense.  Only the references
to readers are put together, and each extension counts for itself.
-/

namespace Stencil.Settings

open Data (Item Table storeEntries)
open Outcome
open Validation (Checked refusals)

/-! ## What is stated -/

/-- The value that the first source with a name has for it. -/
inductive Wins (name : String) (value : Value) : List (List (String × Value)) → Prop
  | here {source : List (String × Value)} {rest : List (List (String × Value))}
      (member : (name, value) ∈ source) : Wins name value (source :: rest)
  | beneath {source : List (String × Value)} {rest : List (List (String × Value))}
      (absent : name ∉ source.map Prod.fst) (wins : Wins name value rest) :
      Wins name value (source :: rest)

/-- Each name that some source has is there once, with what the first of these has for it. -/
structure Merges (sources : List (List (String × Value))) (references : List (String × String)) :
    Prop where
  nodup : (references.map Prod.fst).Nodup
  known : ∀ name, (∃ source ∈ sources, name ∈ source.map Prod.fst) →
    ∃ value reference, Wins name value sources ∧
      checkText "extensions" value = .ok reference ∧ references.lookup name = some reference
  unknown : ∀ name, (∀ source ∈ sources, name ∉ source.map Prod.fst) →
    references.lookup name = none

/-- Entries under the names that their keys stand for. -/
def byName (entries : List (Value × Value)) : List (String × Value) :=
  entries.filterMap fun (key, value) => key.name?.map fun name => (name, value)

/-- Items under their names, as values. -/
def itemValues (table : Table) : List (String × Value) :=
  table.map fun (name, item) => (name, itemValue item)

/-- A folder that is defined, as seen from the root directory of the project. -/
def Locates (root : Path) (defined : Checked Path) (folder : Path) : Prop :=
  ∃ given, defined = .ok given ∧ folder = if given.isAbsolute then given else root.join given

/-- Every setting is what its first definition is checked as, and references are merged. -/
structure Precedence (environment : List (String × String)) (root : Path) (overrides : Given)
    (table : Table) (above : List (Value × Value)) (settings : Settings) : Prop where
  engineVersion :
    standing (definition? overrides table environment "engine_version") "engine_version"
      ({} : Settings).engineVersion checkText = .ok settings.engineVersion
  templateFolder :
    Locates root
      (standing (definition? overrides table environment "template_dir") "template_dir"
        ({} : Settings).templateFolder Validation.path)
      settings.templateFolder
  dataFolder :
    Locates root
      (standing (definition? overrides table environment "data_dir") "data_dir"
        ({} : Settings).dataFolder Validation.path)
      settings.dataFolder
  outputFolder :
    Locates root
      (standing (definition? overrides table environment "output_dir") "output_dir"
        ({} : Settings).outputFolder Validation.path)
      settings.outputFolder
  fileMode :
    standing (definition? overrides table environment "file_mode") "file_mode"
      ({} : Settings).fileMode checkMode = .ok settings.fileMode
  interpolationStart :
    standing (definition? overrides table environment "variable_start") "variable_start"
      ({} : Settings).interpolationStart checkText = .ok settings.interpolationStart
  interpolationEnd :
    standing (definition? overrides table environment "variable_end") "variable_end"
      ({} : Settings).interpolationEnd checkText = .ok settings.interpolationEnd
  extensions :
    Merges
      [byName above, itemValues (tableReferences table),
        itemValues (variableReferences environment)]
      settings.extensions

/-- What is complained about in the first definitions of the settings, one after the other. -/
def definitionComplaints (definition : String → Option Value) : List Complaint :=
  let defaults : Settings := {}
  refusals (standing (definition "engine_version") "engine_version" defaults.engineVersion
      checkText) ++
    refusals (standing (definition "template_dir") "template_dir" defaults.templateFolder
      Validation.path) ++
    refusals (standing (definition "data_dir") "data_dir" defaults.dataFolder
      Validation.path) ++
    refusals (standing (definition "output_dir") "output_dir" defaults.outputFolder
      Validation.path) ++
    refusals (standing (definition "file_mode") "file_mode" defaults.fileMode checkMode) ++
    refusals (standing (definition "variable_start") "variable_start"
      defaults.interpolationStart checkText) ++
    refusals (standing (definition "variable_end") "variable_end" defaults.interpolationEnd
      checkText)

/-- Why settings are refused: a definition that another one comes before is no reason. -/
inductive Refuses (environment : List (String × String)) (overrides : Given) (table : Table) :
    Failure → Prop
  | unmerged {failure : Failure} (isUnmerged : Unmerged failure) :
      Refuses environment overrides table failure
  | unknownName {complaints : List Complaint} {complaint : Complaint}
      (member : complaint ∈ complaints) (unknown : complaint.kind = "extra_forbidden") :
      Refuses environment overrides table (.config (.invalidSettings complaints))
  | malformed {references : List Complaint}
      (about : ∀ complaint ∈ references, ∃ heap value,
        complaint ∈ refusals (checkExtensions heap "extensions" value)) :
      Refuses environment overrides table
        (.config (.invalidSettings
          (definitionComplaints (definition? overrides table environment) ++ references)))

/-! ## Sources of references -/

theorem mem_byName {name : String} {value : Value} {entries : List (Value × Value)} :
    (name, value) ∈ byName entries ↔ value ∈ (called name entries).map Prod.snd := by
  constructor
  · intro member
    rcases List.mem_filterMap.mp member with ⟨⟨key, own⟩, inside, same⟩
    rcases Option.map_eq_some_iff.mp same with ⟨known, isName, equal⟩
    cases equal
    apply List.mem_map.mpr
    exact ⟨(key, value), List.mem_filter.mpr ⟨inside, by simpa using isName⟩, rfl⟩
  · intro member
    rcases List.mem_map.mp member with ⟨⟨key, own⟩, inside, rfl⟩
    rcases List.mem_filter.mp inside with ⟨inside, isName⟩
    apply List.mem_filterMap.mpr
    refine ⟨(key, own), inside, ?_⟩
    exact Option.map_eq_some_iff.mpr ⟨name, of_decide_eq_true isName, rfl⟩

theorem mem_keys_byName {name : String} {entries : List (Value × Value)} :
    name ∈ (byName entries).map Prod.fst ↔ called name entries ≠ [] := by
  constructor
  · intro member
    rcases List.mem_map.mp member with ⟨⟨_, value⟩, inside, rfl⟩
    rcases List.mem_map.mp (mem_byName.mp inside) with ⟨entry, isCalled, -⟩
    exact List.ne_nil_of_mem isCalled
  · intro some_
    rcases List.exists_mem_of_ne_nil _ some_ with ⟨entry, isCalled⟩
    apply List.mem_map.mpr
    exact ⟨(name, entry.2), mem_byName.mpr (List.mem_map_of_mem isCalled), rfl⟩

theorem keys_itemValues (table : Table) :
    (itemValues table).map Prod.fst = table.map Prod.fst := by
  rw [itemValues, List.map_map]
  rfl

theorem name?_store (item : Item) (heap : Heap) :
    (item.store heap).1.name? = (itemValue item).name? := by
  cases item <;> rfl

variable {environment : List (String × String)} {root : Path} {overrides : Given}
  {table : Table} {heap later between : Heap} {above upper entries : List (Value × Value)}
  {references : List (String × String)}

/-- The first source with a name has the value that its last entry has. -/
theorem wins_of_covers {lower middle : Table} {name : String}
    (nodupLower : (lower.map Prod.fst).Nodup) (nodupMiddle : (middle.map Prod.fst).Nodup)
    (upon : Upon (called name (storeEntries later middle).1) ((called name above).map Prod.snd)
      (called name upper))
    (covers : Covers between (called name (storeEntries heap lower).1) (called name upper)
      (called name entries)) :
    (∃ value, Wins name value [byName above, itemValues middle, itemValues lower] ∧
        ∃ entry, (called name entries).getLast? = some entry ∧
          entry.2.name? = value.name?) ∨
      (∀ source ∈ [byName above, itemValues middle, itemValues lower],
          name ∉ source.map Prod.fst) ∧
        called name entries = [] := by
  have fewLow := few_storeEntries heap nodupLower name
  have fewMiddle := few_storeEntries later nodupMiddle name
  have atItem : ∀ {source : Table} {item : Item}, (name, item) ∈ source →
      (name, itemValue item) ∈ itemValues source :=
    fun member => List.mem_map_of_mem member
  by_cases given : called name above = []
  · have absent : name ∉ (byName above).map Prod.fst :=
      fun inside => mem_keys_byName.mp inside given
    rw [given] at upon
    have whole := eq_of_three fewLow fewMiddle upon covers
    rcases called_storeEntries later nodupMiddle name with
      ⟨noMiddle, none_⟩ | ⟨item, stored, member, one⟩
    · rw [if_pos none_] at whole
      rw [← keys_itemValues] at noMiddle
      rcases called_storeEntries heap nodupLower name with
        ⟨noLower, alsoNone⟩ | ⟨item, stored, member, one⟩
      · rw [← keys_itemValues] at noLower
        refine .inr ⟨fun source isSource => ?_, whole.trans alsoNone⟩
        simp only [List.mem_cons, List.not_mem_nil, or_false] at isSource
        rcases isSource with rfl | rfl | rfl
        · exact absent
        · exact noMiddle
        · exact noLower
      · refine .inl ⟨itemValue item, .beneath absent (.beneath noMiddle (.here (atItem member))),
          (Value.ofString name, (item.store stored).1), ?_, name?_store item stored⟩
        rw [whole, one]
        rfl
    · refine .inl ⟨itemValue item, .beneath absent (.here (atItem member)),
        (Value.ofString name, (item.store stored).1), ?_, name?_store item stored⟩
      rw [whole, if_neg (by rw [one]; exact List.cons_ne_nil _ _), one]
      rfl
  · rcases exists_last_of_three fewLow fewMiddle upon covers given with ⟨value, inside, last⟩
    rcases Option.map_eq_some_iff.mp last with ⟨entry, isLast, rfl⟩
    exact .inl ⟨entry.2, .here (mem_byName.mpr inside), entry, isLast, rfl⟩

theorem merges_of_covers {lower middle : Table}
    (nodupLower : (lower.map Prod.fst).Nodup) (nodupMiddle : (middle.map Prod.fst).Nodup)
    (refers : Refers entries references)
    (upon : ∀ name, Upon (called name (storeEntries later middle).1)
      ((called name above).map Prod.snd) (called name upper))
    (covers : ∀ name, Covers between (called name (storeEntries heap lower).1)
      (called name upper) (called name entries)) :
    Merges [byName above, itemValues middle, itemValues lower] references where
  nodup := refers.nodup
  known := by
    rintro name ⟨source, isSource, inside⟩
    rcases wins_of_covers nodupLower nodupMiddle (upon name) (covers name) with
      ⟨value, wins, entry, last, same⟩ | ⟨absent, -⟩
    · have member := List.mem_of_mem_filter (List.mem_of_getLast? last)
      rcases refers.valued entry member with ⟨reference, isReference⟩
      refine ⟨value, reference, wins, checkText_eq_ok_iff.mpr (same ▸ isReference), ?_⟩
      rw [refers.lookup, last]
      exact isReference
    · exact absurd inside (absent source isSource)
  unknown := by
    intro name absent
    rcases wins_of_covers nodupLower nodupMiddle (upon name) (covers name) with
      ⟨value, wins, -⟩ | ⟨-, none_⟩
    · have nowhere : ∀ {sources : List (List (String × Value))}, Wins name value sources →
          ¬∀ source ∈ sources, name ∉ source.map Prod.fst := by
        intro sources wins
        induction wins with
        | here member =>
          intro absent
          exact absent _ (List.mem_cons_self ..) (List.mem_map_of_mem member)
        | beneath _ _ ih =>
          intro absent
          exact ih fun source isSource => absent source (List.mem_cons_of_mem _ isSource)
      exact absurd absent (nowhere wins)
    · rw [refers.lookup, none_]
      rfl

/-! ## Loading settings -/

section Loading

variable {start final : Heap} {base lower all : Given} {made : Settings}

theorem locates_join {defined : Checked Path} {folder : Path} (isFolder : defined = .ok folder) :
    Locates root defined (root.join folder) := by
  refine ⟨folder, isFolder, ?_⟩
  unfold Path.join
  split <;> rfl

theorem Loads.precedence (distinct : table.Distinct) (known : ∀ entry ∈ table, entry.1 ∈ names)
    (apart : (overrides.map Prod.fst).Nodup)
    (loads : Loads environment overrides table start base heap lower between all final)
    (checked : check final all = .ok made) :
    ∃ above, OverridingReferences start overrides above ∧ Named above ∧
      Precedence environment root overrides table above (made.anchor root) := by
  rcases Validation.map_eq_ok_iff.mp checked with ⟨accepted, parts, rfl⟩
  rcases Validation.both_eq_ok_iff.mp parts with ⟨isNames, parts⟩
  rcases Validation.both_eq_ok_iff.mp parts with ⟨engineVersion, parts⟩
  rcases Validation.both_eq_ok_iff.mp parts with ⟨templateFolder, parts⟩
  rcases Validation.both_eq_ok_iff.mp parts with ⟨dataFolder, parts⟩
  rcases Validation.both_eq_ok_iff.mp parts with ⟨outputFolder, parts⟩
  rcases Validation.both_eq_ok_iff.mp parts with ⟨fileMode, parts⟩
  rcases Validation.both_eq_ok_iff.mp parts with ⟨interpolationStart, parts⟩
  rcases Validation.both_eq_ok_iff.mp parts with ⟨interpolationEnd, extensions⟩
  rw [loads.part_eq isNames distinct known apart (by decide) (regardless_checkText _)]
    at engineVersion interpolationStart interpolationEnd
  rw [loads.part_eq isNames distinct known apart (by decide) (regardless_path _)]
    at templateFolder dataFolder outputFolder
  rw [loads.part_eq isNames distinct known apart (by decide) (regardless_checkMode _)] at fileMode
  rcases loads.refers distinct known apart isNames extensions with
    ⟨above, upper, entries, value, referred, named, refers, covers⟩
  refine ⟨above, referred.given, referred.named named, engineVersion,
    locates_join templateFolder, locates_join dataFolder, locates_join outputFolder, fileMode,
    interpolationStart, interpolationEnd, ?_⟩
  exact merges_of_covers (nodup_variableReferences environment) (nodup_tableReferences distinct)
    refers (referred.upon named) covers

theorem unknown_of_checkNames {given : Given} (refused : checkNames given ≠ .ok ()) :
    ∃ complaint ∈ refusals (checkNames given), complaint.kind = "extra_forbidden" := by
  unfold checkNames at refused ⊢
  split at refused
  · exact absurd rfl refused
  · next unknown some_ =>
    rcases List.exists_mem_of_ne_nil _ some_ with ⟨name, member⟩
    exact ⟨_, List.mem_map_of_mem member, rfl⟩

theorem Loads.refuses (distinct : table.Distinct) (known : ∀ entry ∈ table, entry.1 ∈ names)
    (apart : (overrides.map Prod.fst).Nodup)
    (loads : Loads environment overrides table start base heap lower between all final)
    {complaints : List Complaint} (checked : check final all = .error complaints) :
    Refuses environment overrides table (.config (.invalidSettings complaints)) := by
  have whole : refusals (check final all) = complaints := by
    rw [checked]
    rfl
  unfold check at whole
  simp only [Validation.refusals_map, Validation.refusals_both] at whole
  by_cases isNames : checkNames all = .ok ()
  · rw [isNames,
      loads.part_eq isNames distinct known apart (by decide)
        (regardless_checkText "engine_version"),
      loads.part_eq isNames distinct known apart (by decide) (regardless_path "template_dir"),
      loads.part_eq isNames distinct known apart (by decide) (regardless_path "data_dir"),
      loads.part_eq isNames distinct known apart (by decide) (regardless_path "output_dir"),
      loads.part_eq isNames distinct known apart (by decide) (regardless_checkMode "file_mode"),
      loads.part_eq isNames distinct known apart (by decide)
        (regardless_checkText "variable_start"),
      loads.part_eq isNames distinct known apart (by decide) (regardless_checkText "variable_end")]
      at whole
    have about : ∀ complaint ∈ refusals (part all "extensions" [] (checkExtensions final)),
        ∃ heap value, complaint ∈ refusals (checkExtensions heap "extensions" value) := by
      intro complaint member
      unfold part at member
      split at member
      · exact ⟨final, _, member⟩
      · cases member
    have malformed : Refuses environment overrides table (.config (.invalidSettings
        (definitionComplaints (definition? overrides table environment) ++
          refusals (part all "extensions" [] (checkExtensions final))))) := .malformed about
    rw [← whole]
    simpa [definitionComplaints, refusals] using malformed
  · rcases unknown_of_checkNames isNames with ⟨complaint, member, unknown⟩
    apply Refuses.unknownName _ unknown
    rw [← whole]
    exact List.mem_append_left _ member

end Loading

/--
Loading settings gives what the first definition of each setting stands for, and otherwise
complains about first definitions only.
-/
theorem load_precedence {world : World}
    (tabled : Project.settingsTable world.files root = .ok table)
    (known : ∀ entry ∈ table, entry.1 ∈ names) (apart : (overrides.map Prod.fst).Nodup) :
    (∃ settings above, load environment root overrides world = .ok settings world ∧
        OverridingReferences world.machine.heap overrides above ∧ Named above ∧
        Precedence environment root overrides table above settings) ∨
      ∃ failure, load environment root overrides world = .error failure world ∧
        Refuses environment overrides table failure := by
  have distinct := Project.distinct_settingsTable tabled
  rcases load_cases tabled with ⟨failure, unmerged, failed⟩ |
    ⟨base, heap, lower, between, all, final, loads, loaded⟩
  · exact .inr ⟨failure, failed, .unmerged unmerged⟩
  · generalize outcome : load environment root overrides world = result at loaded
    cases loaded with
    | accepted checked =>
      rcases loads.precedence distinct known apart checked with ⟨above, given, named, precedence⟩
      exact .inl ⟨_, above, rfl, given, named, precedence⟩
    | refused checked => exact .inr ⟨_, rfl, loads.refuses distinct known apart checked⟩

/-- A descriptor with a file mode that is none, and with references to two readers. -/
def layeredFiles : Files.Tree where
  entries := [(["pyproject.toml"], .file ⟨(
    "[tool.templategen]\nfile_mode = \"9\"\n" ++
    "[tool.templategen.extensions]\n\".a\" = \"m:T\"\n\".b\" = \"m:T\"\n").toUTF8, 0o644, 1, 0⟩)]
  here := []

/-- Where a reference for one of the extensions is kept to be given for a run. -/
def layeredWorld : World where
  files := layeredFiles
  machine := { heap := { cells := #[.dict [(.ofString ".a", .ofString "m:O")]] } }

/-- An environment with another file mode that is none, and with references of its own. -/
def layeredEnvironment : List (String × String) :=
  [("TEMPLATEGEN_FILE_MODE", "x"),
    ("TEMPLATEGEN_EXTENSIONS", "\x7b\".b\": \"m:E\", \".c\": \"m:E\"\x7d")]

def layeredOverrides : Given := [("extensions", .dict 0), ("file_mode", .int 0o600)]

theorem load_precedence_layeredFiles :
    ∃ table settings above,
      Project.settingsTable layeredFiles .here = .ok table ∧
        table.map Prod.fst = ["file_mode", "extensions"] ∧
        load layeredEnvironment .here layeredOverrides layeredWorld =
          .ok settings layeredWorld ∧
        OverridingReferences layeredWorld.machine.heap layeredOverrides above ∧
        Precedence layeredEnvironment .here layeredOverrides table above settings ∧
        settings.fileMode = 0o600 ∧
        settings.extensions = [(".b", "m:T"), (".c", "m:E"), (".a", "m:O")] := by
  have keys : ((Project.settingsTable layeredFiles .here).toOption.map
      fun table => table.map Prod.fst) = some ["file_mode", "extensions"] := by
    decide +kernel
  have shown : (value? (load layeredEnvironment .here layeredOverrides layeredWorld)).map
      (fun settings => (settings.fileMode, settings.extensions)) =
        some (0o600, [(".b", "m:T"), (".c", "m:E"), (".a", "m:O")]) := by
    decide +kernel
  rcases Option.map_eq_some_iff.mp keys with ⟨table, isTable, isKeys⟩
  have tabled : Project.settingsTable layeredFiles .here = .ok table := by
    revert isTable
    generalize Project.settingsTable layeredFiles .here = result
    intro isTable
    cases result with
    | ok known =>
      cases isTable
      rfl
    | error failure => cases isTable
  have known : ∀ entry ∈ table, entry.1 ∈ names := by
    intro entry member
    have key : entry.1 ∈ table.map Prod.fst := List.mem_map_of_mem member
    rw [isKeys] at key
    revert key
    generalize entry.1 = name
    revert name
    decide
  rcases Option.map_eq_some_iff.mp shown with ⟨settings, hasValue, whole⟩
  rcases exists_of_value?_eq_some hasValue with ⟨after, loaded⟩
  have apart : (layeredOverrides.map Prod.fst).Nodup := by decide
  have outcome := @load_precedence layeredEnvironment .here layeredOverrides table
    layeredWorld tabled known apart
  rcases outcome with ⟨made, above, ended, given, -, precedence⟩ | ⟨failure, ended, -⟩
  · have same : settings = made := by
      injection loaded.symm.trans ended
    subst same
    exact ⟨table, settings, above, tabled, isKeys, ended, given, precedence,
      congrArg Prod.fst whole, congrArg Prod.snd whole⟩
  · cases loaded.symm.trans ended

end Stencil.Settings

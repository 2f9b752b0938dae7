import Stencil.Proofs.Data.Distinct
import Stencil.Proofs.Data.Store
import Stencil.Proofs.Entries
import Stencil.Proofs.Outcome
import Stencil.Proofs.Text.Case
import Stencil.Settings.Load

/-!
# What defines a setting

A setting may be given for a run, in the descriptor of the project, and in the environment.
Names that are given for a run count whatever the case of their letters, but only where the
name itself is given nowhere: otherwise the settings are refused.
-/

namespace Stencil.Settings

open Data (Item Table)
open Heap (Keeps)
open Outcome
open Validation (Checked)

/-! ## Putting values -/

theorem put_eq (name : String) (value : Value) (given : Given) :
    put name value given = Entries.put name value given := by
  induction given with
  | nil => rfl
  | cons first rest ih => rw [put, Entries.put, ih]

theorem foldl_put (upper lower : Given) :
    upper.foldl (fun given (name, value) => put name value given) lower =
      Entries.putAll lower upper := by
  induction upper generalizing lower with
  | nil => rfl
  | cons first rest ih =>
    rcases first with ⟨name, value⟩
    rw [List.foldl_cons, ih, Entries.putAll]
    show Entries.putAll (put name value lower) rest = _
    rw [put_eq]

/-! ## Names -/

/-- The names of settings and those of what the library takes for itself are in lower case. -/
theorem lowerCase_of_mem {name : String} (known : name ∈ names ++ optionNames) :
    lowerCase name = name := by
  have small : ∀ name ∈ names ++ optionNames, ∀ point ∈ Text.ofString name,
      90 < point.number ∧ point.number ≤ 122 := by
    decide +kernel
  rw [lowerCase, Text.lower_eq_self (small name known), Text.string_ofString]

theorem lowerCase_of_mem_names {name : String} (isName : name ∈ names) : lowerCase name = name :=
  lowerCase_of_mem (List.mem_append_left _ isName)

variable {given lower upper overrides : Given} {name : String}

/-- A name that is taken for that of a setting is this name but for the case of its letters. -/
theorem settledName_eq (isName : settledName given name ∈ names) :
    settledName given name = lowerCase name := by
  by_cases settles :
      (names.contains (lowerCase name) &&
        !(given.any fun (known, _) => known == lowerCase name)) = true
  · rw [settledName, if_pos settles]
  · rw [settledName, if_neg settles] at isName ⊢
    exact (lowerCase_of_mem_names isName).symm

/-- Where the name of a setting itself is given, no other spelling of it is taken. -/
theorem eq_of_settledName {other : String} (isName : settledName given other ∈ names)
    (same : lowerCase other = name) (there : name ∈ given.map Prod.fst) : other = name := by
  have stays : settledName given other = other := by
    have known : (given.any fun (known, _) => known == lowerCase other) = true := by
      rw [same]
      rcases List.mem_map.mp there with ⟨entry, member, rfl⟩
      exact List.any_eq_true.mpr ⟨entry, member, beq_self_eq_true _⟩
    rw [settledName, known, Bool.not_true, Bool.and_false, if_neg Bool.false_ne_true]
  rw [← stays, settledName_eq isName, same]

/-- The value that is given last under a name, whatever the case of its letters. -/
def given? (name : String) (given : Given) : Option Value :=
  (given.filter fun entry => lowerCase entry.1 = name).getLast?.map Prod.snd

theorem last?_lowerCase (name : String) (given : Given) :
    Entries.last? name (given.map fun (known, value) => (lowerCase known, value)) =
      given? name given := by
  induction given with
  | nil => rfl
  | cons first rest ih =>
    rcases first with ⟨known, value⟩
    rw [List.map_cons, Entries.last?, ih, given?, given?]
    by_cases same : lowerCase known = name
    · rw [List.filter_cons_of_pos (by simpa using same), List.getLast?_cons, if_pos same]
      cases (rest.filter fun entry => lowerCase entry.1 = name).getLast? <;> rfl
    · rw [List.filter_cons_of_neg (by simpa using same), if_neg same, Option.or_none]

/-- All names are taken for those of settings. -/
def Settles (given : Given) : Prop :=
  ∀ entry ∈ given, settledName given entry.1 ∈ names

theorem settleNames_eq (given : Given) :
    settleNames given =
      Entries.putAll [] (given.map fun (known, value) => (settledName given known, value)) := by
  rw [← foldl_put, List.foldl_map]
  rfl

/-- Settled names are checked instead of the ones that are given. -/
theorem settles_of_keys (isNames : ∀ key ∈ (settleNames given).map Prod.fst, key ∈ names) :
    Settles given := by
  intro entry member
  apply isNames
  rw [settleNames_eq]
  apply Entries.mem_keys_putAll.mpr
  right
  exact List.mem_map.mpr ⟨_, List.mem_map_of_mem member, rfl⟩

theorem lookup_settleNames (settles : Settles given) (name : String) :
    (settleNames given).lookup name = given? name given := by
  have settled : given.map (fun (known, value) => (settledName given known, value)) =
      given.map (fun (known, value) => (lowerCase known, value)) := by
    apply List.map_congr_left
    intro entry member
    rcases entry with ⟨known, value⟩
    exact congrArg (·, value) (settledName_eq (settles (known, value) member))
  rw [settleNames_eq, settled, Entries.lookup_putAll_nil, last?_lowerCase]

theorem nodup_settleNames (given : Given) : ((settleNames given).map Prod.fst).Nodup := by
  rw [settleNames_eq]
  exact Entries.nodup_putAll_nil _

/-! ## Values that are no settings -/

theorem ofSettings_eq_self (exact_ : ∀ entry ∈ given, entry.1 ∈ names) :
    ofSettings given = given := by
  have apart : ∀ name ∈ names, name ∉ optionNames := by decide
  rw [ofSettings, List.filter_eq_self]
  intro entry member
  simpa using apart entry.1 (exact_ entry member)

theorem ofSettings_putAll (lower upper : Given) :
    ofSettings (Entries.putAll lower upper) =
      Entries.putAll (ofSettings lower) (ofSettings upper) :=
  Entries.filter_putAll (fun name => !optionNames.contains name) lower upper

/-- What is no setting is given under no spelling of the name of one. -/
theorem given?_ofSettings (isName : name ∈ names) (given : Given) :
    given? name (ofSettings given) = given? name given := by
  have apart : ∀ option ∈ optionNames, option ∉ names := by decide
  rw [given?, given?, ofSettings, List.filter_filter]
  congr 2
  apply List.filter_congr
  intro entry _
  by_cases spelled : lowerCase entry.1 = name
  · have setting : entry.1 ∉ optionNames := by
      intro option
      rw [lowerCase_of_mem (List.mem_append_right _ option)] at spelled
      exact apart entry.1 option (spelled ▸ isName)
    simp [spelled, setting]
  · simp [spelled]

/-! ## Values over those of a descriptor -/

theorem given?_eq_lookup (exact_ : ∀ entry ∈ given, entry.1 ∈ names)
    (nodup : (given.map Prod.fst).Nodup) (name : String) :
    given? name given = given.lookup name := by
  have same : given.map (fun (known, value) => (lowerCase known, value)) = given := by
    conv_rhs => rw [← List.map_id given]
    apply List.map_congr_left
    intro entry member
    rcases entry with ⟨known, value⟩
    exact congrArg (·, value) (lowerCase_of_mem_names (exact_ (known, value) member))
  rw [← last?_lowerCase, same, Entries.last?_of_nodup nodup]

/-- What is given for a run counts, and otherwise what is in the descriptor. -/
theorem given?_putAll (settles : Settles (Entries.putAll lower upper))
    (exact_ : ∀ entry ∈ lower, entry.1 ∈ names) (nodupLower : (lower.map Prod.fst).Nodup)
    (nodupUpper : (upper.map Prod.fst).Nodup) (name : String) :
    given? name (Entries.putAll lower upper) = (given? name upper).or (lower.lookup name) := by
  let spells (known : String) : Bool := lowerCase known = name
  have parts := Entries.filter_putAll spells lower upper
  have nodupFew : ((lower.filter fun entry => spells entry.1).map Prod.fst).Nodup :=
    nodupLower.sublist (List.filter_sublist.map Prod.fst)
  have nodupMore : ((upper.filter fun entry => spells entry.1).map Prod.fst).Nodup :=
    nodupUpper.sublist (List.filter_sublist.map Prod.fst)
  have fewKeys : ∀ entry ∈ lower.filter (fun entry => spells entry.1), entry.1 = name := by
    intro entry member
    rcases List.mem_filter.mp member with ⟨inside, spelled⟩
    rw [← lowerCase_of_mem_names (exact_ entry inside)]
    exact of_decide_eq_true spelled
  rw [← given?_eq_lookup exact_ nodupLower name]
  show ((Entries.putAll lower upper).filter fun entry => spells entry.1).getLast?.map Prod.snd =
    Option.or ((upper.filter fun entry => spells entry.1).getLast?.map Prod.snd)
      ((lower.filter fun entry => spells entry.1).getLast?.map Prod.snd)
  rw [parts]
  by_cases there : name ∈ (Entries.putAll lower upper).map Prod.fst
  · have moreKeys : ∀ entry ∈ upper.filter (fun entry => spells entry.1), entry.1 = name := by
      intro entry member
      rcases List.mem_filter.mp member with ⟨inside, spelled⟩
      have key : entry.1 ∈ (Entries.putAll lower upper).map Prod.fst :=
        Entries.mem_keys_putAll.mpr (.inr (List.mem_map_of_mem inside))
      rcases List.mem_map.mp key with ⟨known, isKnown, same⟩
      exact eq_of_settledName (same ▸ settles known isKnown) (of_decide_eq_true spelled) there
    rcases Entries.eq_of_keys_eq nodupMore moreKeys with none_ | ⟨value, one⟩
    · rw [none_]
      rfl
    · rcases Entries.eq_of_keys_eq nodupFew fewKeys with none_ | ⟨old, before⟩
      · rw [one, none_]
        rfl
      · rw [one, before]
        simp [Entries.putAll, Entries.put]
  · have none_ : lower.filter (fun entry => spells entry.1) = [] := by
      rcases Entries.eq_of_keys_eq nodupFew fewKeys with none_ | ⟨old, one⟩
      · exact none_
      · have inside := List.mem_of_mem_filter (one ▸ List.mem_singleton_self (name, old))
        exact absurd (Entries.mem_keys_putAll.mpr (.inl (List.mem_map_of_mem inside))) there
    rw [none_, Entries.putAll_of_nodup (by simpa using nodupMore), List.nil_append]
    simp

/-! ## Items of a descriptor -/

/-- The value of an item on its own. -/
def itemValue (item : Item) : Value :=
  (item.store {}).1

/-- A check that takes no list and no table does not depend on where these are stored. -/
def Regardless {α : Type} (check : Value → Checked α) : Prop :=
  ∀ (item : Item) (heap : Heap), check (item.store heap).1 = check (itemValue item)

theorem regardless_checkText (place : String) : Regardless (checkText place) := by
  intro item heap
  cases item <;> rfl

theorem regardless_path (place : String) : Regardless (Validation.path place) := by
  intro item heap
  cases item <;> rfl

theorem regardless_checkMode (place : String) : Regardless (checkMode place) := by
  intro item heap
  cases item <;> rfl

theorem keys_storeTable (heap : Heap) (table : Table) :
    (storeTable heap table).1.map Prod.fst = table.map Prod.fst := by
  induction table generalizing heap with
  | nil => rfl
  | cons first rest ih => exact congrArg (first.1 :: ·) (ih _)

theorem keeps_storeTable {known heap : Heap} (keeps : Keeps known heap) (table : Table) :
    Keeps known (storeTable heap table).2 := by
  induction table generalizing heap with
  | nil => exact keeps
  | cons first rest ih => exact ih (Item.keeps_store keeps first.2)

theorem lookup_storeTable (heap : Heap) (table : Table) (name : String) :
    (table.lookup name = none ∧ (storeTable heap table).1.lookup name = none) ∨
      ∃ item later, table.lookup name = some item ∧
        (storeTable heap table).1.lookup name = some (item.store later).1 ∧
        Keeps (item.store later).2 (storeTable heap table).2 := by
  induction table generalizing heap with
  | nil => exact .inl ⟨rfl, rfl⟩
  | cons first rest ih =>
    rcases first with ⟨known, item⟩
    have stored : (storeTable heap ((known, item) :: rest)).1 =
        (known, (item.store heap).1) :: (storeTable (item.store heap).2 rest).1 := rfl
    rw [stored, List.lookup_cons, List.lookup_cons]
    by_cases same : name = known
    · subst same
      simp only [beq_self_eq_true]
      exact .inr ⟨item, heap, rfl, rfl, keeps_storeTable (.refl _) rest⟩
    · rw [beq_eq_false_iff_ne.mpr same]
      exact ih _

/-! ## Variables of the environment -/

theorem lookup_filterMap {β γ : Type} (names : List String) (value? : String → Option β)
    (form : β → γ) (name : String) :
    (names.filterMap fun known => (value? known).map fun found => (known, form found)).lookup
        name =
      if name ∈ names then (value? name).map form else none := by
  induction names with
  | nil => rfl
  | cons known rest ih =>
    cases found : value? known with
    | none =>
      rw [List.filterMap_cons_none (by rw [found]; rfl), ih]
      by_cases same : name = known
      · simp [same, found]
      · simp [same]
    | some value =>
      rw [List.filterMap_cons_some (by rw [found]; rfl), List.lookup_cons]
      by_cases same : name = known
      · simp [same, found]
      · rw [beq_eq_false_iff_ne.mpr same, ih]
        simp [same]

variable {environment : List (String × String)} {heap later : Heap}

/-- Variables of the environment give settings but for the references to readers as texts. -/
theorem lookup_ofEnvironment (given : ofEnvironment heap environment = .ok (lower, later))
    (isName : name ∈ names.dropLast) :
    lower.lookup name = (variableText? environment name).map Value.ofString := by
  have notLast : name ≠ "extensions" := by
    rintro rfl
    exact absurd isName (by decide)
  have texts := lookup_filterMap names.dropLast (variableText? environment) Value.ofString name
  rw [if_pos isName] at texts
  unfold ofEnvironment at given
  dsimp only at given
  split at given
  · cases given
    exact texts
  · split at given
    · cases given
    · cases given
      exact texts
    · cases given
      rw [List.lookup_append, texts, List.lookup_cons, beq_eq_false_iff_ne.mpr notLast,
        List.lookup_nil, Option.or_none]

/-! ## Values over those of the environment -/

theorem lookup_overlay {all : Given} (laid : overlay heap lower upper = .ok (all, later))
    (other : name ≠ "extensions") (nodup : (upper.map Prod.fst).Nodup) :
    all.lookup name = (upper.lookup name).or (lower.lookup name) := by
  have above : (upper.foldl (fun given (name, value) => put name value given) lower).lookup name =
      (upper.lookup name).or (lower.lookup name) := by
    rw [foldl_put, Entries.lookup_putAll, Entries.last?_of_nodup nodup]
  unfold overlay at laid
  split at laid
  · rcases except_bind_eq_ok_iff.mp laid with ⟨entries, -, same⟩
    cases same
    rw [put_eq, Entries.lookup_put, if_neg other, above]
  · cases laid
    exact above

theorem mem_keys_overlay {all : Given} (laid : overlay heap lower upper = .ok (all, later))
    (there : name ∈ upper.map Prod.fst) : name ∈ all.map Prod.fst := by
  have above : name ∈
      (upper.foldl (fun given (name, value) => put name value given) lower).map Prod.fst := by
    rw [foldl_put]
    exact Entries.mem_keys_putAll.mpr (.inr there)
  unfold overlay at laid
  split at laid
  · rcases except_bind_eq_ok_iff.mp laid with ⟨entries, -, same⟩
    cases same
    rw [put_eq]
    exact Entries.mem_keys_put.mpr (.inr above)
  · cases laid
    exact above

end Stencil.Settings

import Stencil.Proofs.Generation.Dispatch

/-!
# Which references can be registered

A table of readers is built from references, one after the other, and the first one that
cannot be registered ends it.  Most of these are wrong settings.  Two kinds of references
are let through to the import and to the use of a member and fail there with a fault that
is named by nobody: a module whose name starts with a dot, and a member that needs more
than it is given.
-/

namespace Stencil

open Outcome

namespace Registry

variable {modules : List Module}

/-! ## Importing a module -/

theorem failsOnly_importFrom (within : Module) (parts : List String) :
    FailsOnly (fun fault => isMissingModule fault = true)
      (importFrom modules within parts) := by
  induction parts generalizing within with
  | nil => exact .ok within
  | cons part parts ih =>
    unfold importFrom
    simp only
    split
    · exact ih _
    · exact .error rfl

/-- What stands before the first dot of a name is empty if the name starts with it. -/
theorem splitString_dot (rest : List Char) :
    ∃ parts, Text.splitString '.' (String.ofList ('.' :: rest)) = "" :: parts := by
  simp [Text.splitString, Text.pieces]

theorem splitString_of_ne {first : Char} (other : first ≠ '.') (rest : List Char) :
    ∃ part parts,
      Text.splitString '.' (String.ofList (first :: rest)) = part :: parts ∧
        part.isEmpty = false := by
  unfold Text.splitString
  rw [String.toList_ofList, Text.pieces, if_neg other]
  split
  · exact ⟨_, _, rfl, by simp⟩
  · exact ⟨_, _, rfl, by simp⟩

theorem importModule_dot (modules : List Module) (rest : List Char) :
    importModule modules (String.ofList ('.' :: rest)) = .error .wrongType := by
  rcases splitString_dot rest with ⟨parts, split⟩
  unfold importModule
  rw [split]
  rfl

/-- A name that starts with something else is that of a module, or of a missing one. -/
theorem failsOnly_importModule {first : Char} (other : first ≠ '.') (rest : List Char) :
    FailsOnly (fun fault => isMissingModule fault = true)
      (importModule modules (String.ofList (first :: rest))) := by
  rcases splitString_of_ne other rest with ⟨part, parts, split, named⟩
  unfold importModule
  simp only [split, named, Bool.false_eq_true, if_false]
  split
  · next found _ => exact failsOnly_importFrom found parts
  · exact .error rfl

/-! ## Resolving a reference -/

/-- A reference whose failure is named by nobody. -/
inductive Unforeseen (modules : List Module) (reference : String) : Prop
  /-- The name of the module starts with a dot, which leads nowhere. -/
  | nowhere {place member : List Char}
      (split : reference.toList = '.' :: place ++ ':' :: member)
      (first : ':' ∉ place) (named : member ≠ [])
  /-- The member needs more than it is given. -/
  | unusable {moduleName member : List Char} {found : Module}
      (split : reference.toList = moduleName ++ ':' :: member)
      (first : ':' ∉ moduleName) (known : moduleName ≠ []) (named : member ≠ [])
      (imported : importModule modules (String.ofList moduleName) = .ok found)
      (needs : found.members.lookup (String.ofList member) = some .unusable)

/-- What a reference with two parts leads to. -/
theorem resolve_of_split {reference : String} {moduleName member : List Char}
    (split : reference.toList = moduleName ++ ':' :: member) (first : ':' ∉ moduleName)
    (known : moduleName ≠ []) (named : member ≠ []) :
    resolve modules reference =
      match importModule modules (String.ofList moduleName) with
      | .error fault =>
        if isMissingModule fault then
          .error (.config (.noSuchModule (String.ofList moduleName) fault))
        else .error (.unforeseen fault)
      | .ok found =>
        match found.members.lookup (String.ofList member) with
        | none =>
          .error (.config (.noSuchMember (String.ofList moduleName) (String.ofList member)))
        | some (.reader reader) => .ok reader
        | some .unusable => .error (.unforeseen .wrongType)
        | some .other => .error (.config (.noReader reference)) := by
  unfold resolve
  rw [Text.cut?_eq_some_iff.mpr ⟨split, first⟩]
  exact if_neg (by simp [known, named])

theorem Unforeseen.resolve_eq {reference : String} (unforeseen : Unforeseen modules reference) :
    resolve modules reference = .error (.unforeseen .wrongType) := by
  cases unforeseen with
  | @nowhere place member split first named =>
    have absent : ':' ∉ '.' :: place := by simpa using first
    rw [resolve_of_split split absent (List.cons_ne_nil _ _) named, importModule_dot]
    simp [isMissingModule]
  | unusable split first known named imported needs =>
    rw [resolve_of_split split first known named, imported]
    simp [needs]

/-- A reference names a reader, or it is a wrong setting, or its failure is unforeseen. -/
theorem resolve_cases (modules : List Module) (reference : String) :
    (∃ reader, resolve modules reference = .ok reader) ∨
      (∃ reason, resolve modules reference = .error (.config reason)) ∨
      Unforeseen modules reference := by
  cases cut : Text.cut? [':'] reference.toList with
  | none => exact .inr (.inl ⟨_, by rw [resolve, cut]⟩)
  | some parts =>
    rcases parts with ⟨moduleName, member⟩
    rcases Text.cut?_eq_some_iff.mp cut with ⟨split, first⟩
    by_cases named : member = []
    · exact .inr (.inl ⟨.malformedReference reference, by rw [resolve, cut]; simp [named]⟩)
    cases moduleName with
    | nil => exact .inr (.inl ⟨.malformedReference reference, by rw [resolve, cut]; simp⟩)
    | cons char rest =>
      have known : char :: rest ≠ [] := List.cons_ne_nil char rest
      by_cases dotted : char = '.'
      · subst dotted
        exact .inr (.inr (.nowhere split (fun inside => first (.tail _ inside)) named))
      rw [resolve_of_split split first known named]
      cases imported : importModule modules (String.ofList (char :: rest)) with
      | error fault =>
        have missing := failsOnly_importModule dotted rest fault imported
        exact .inr (.inl ⟨_, if_pos missing⟩)
      | ok found =>
        cases looked : found.members.lookup (String.ofList member) with
        | none =>
          exact .inr (.inl ⟨.noSuchMember (String.ofList (char :: rest)) (String.ofList member),
            by simp only [looked]⟩)
        | some target =>
          cases target with
          | reader reader => exact .inl ⟨reader, by simp only [looked]⟩
          | unusable => exact .inr (.inr (.unusable split first known named imported looked))
          | other => exact .inr (.inl ⟨.noReader reference, by simp only [looked]⟩)

/-! ## Registering one entry after the other -/

/-- An extension with a reference that can be registered for it. -/
def Registers (modules : List Module) (entry : String × String) : Prop :=
  isExtension entry.1 = true ∧ ∃ reader, resolve modules entry.2 = .ok reader

/-- An extension with a reference whose failure is named by nobody. -/
def Escapes (modules : List Module) (entry : String × String) : Prop :=
  isExtension entry.1 = true ∧ Unforeseen modules entry.2

/-- The failure of registering an entry, if it has one. -/
def refusal? (modules : List Module) (entry : String × String) : Option Failure :=
  if isExtension entry.1 then
    match resolve modules entry.2 with
    | .ok _ => none
    | .error failure => some failure
  else some (.config (.malformedExtension entry.1))

theorem refusal?_eq_none_iff {entry : String × String} :
    refusal? modules entry = none ↔ Registers modules entry := by
  unfold refusal? Registers
  by_cases valid : isExtension entry.1 = true
  · cases resolve modules entry.2 <;> simp [valid]
  · simp [valid]

/-- An entry is refused as a wrong setting, or its failure is unforeseen. -/
theorem refusal?_cases (modules : List Module) (entry : String × String) :
    Registers modules entry ∨ (∃ reason, refusal? modules entry = some (.config reason)) ∨
      (Escapes modules entry ∧ refusal? modules entry = some (.unforeseen .wrongType)) := by
  unfold Registers Escapes refusal?
  by_cases valid : isExtension entry.1 = true
  · rcases resolve_cases modules entry.2 with ⟨reader, ok⟩ | ⟨reason, failed⟩ | unforeseen
    · exact .inl ⟨valid, reader, ok⟩
    · exact .inr (.inl ⟨reason, by simp [valid, failed]⟩)
    · exact .inr (.inr ⟨⟨valid, unforeseen⟩, by simp [valid, unforeseen.resolve_eq]⟩)
  · exact .inr (.inl ⟨_, if_neg valid⟩)

theorem refusal?_eq_unforeseen_iff {entry : String × String} :
    refusal? modules entry = some (.unforeseen .wrongType) ↔ Escapes modules entry := by
  rcases refusal?_cases modules entry with registers | ⟨reason, failed⟩ | ⟨escapes, failed⟩
  · have none := refusal?_eq_none_iff.mpr registers
    rcases registers with ⟨-, reader, ok⟩
    refine iff_of_false (by simp [none]) fun ⟨_, unforeseen⟩ => ?_
    rw [unforeseen.resolve_eq] at ok
    cases ok
  · refine iff_of_false (by simp [failed]) fun ⟨valid, unforeseen⟩ => ?_
    simp [refusal?, valid, unforeseen.resolve_eq] at failed
  · exact iff_of_true failed escapes

/-- An entry that can be registered is put into the table. -/
theorem extend_of_resolve {entry : String × String} {reader : Reader}
    (rest : List (String × String)) (valid : isExtension entry.1 = true)
    (resolved : resolve modules entry.2 = .ok reader) (table : Table) (world : World) :
    ∃ noted, extend modules table (entry :: rest) world =
      extend modules (put entry.1 reader table) rest noted := by
  have lifted : Act.lift (resolve modules entry.2) world = .ok reader world := by
    rw [resolved]
    rfl
  rw [extend]
  simp only [valid, Bool.not_true, Bool.false_eq_true, if_false]
  rw [bind_apply_of_ok lifted, bind_apply_of_ok (rfl : Act.detail _ world = .ok () _)]
  exact ⟨_, rfl⟩

/-- An entry that is refused ends the registration. -/
theorem extend_of_refusal {entry : String × String} {rest : List (String × String)}
    {failure : Failure} (refused : refusal? modules entry = some failure) (table : Table)
    (world : World) : extend modules table (entry :: rest) world = .error failure world := by
  unfold refusal? at refused
  unfold extend
  by_cases valid : isExtension entry.1 = true
  · rw [if_pos valid] at refused
    simp only [valid, Bool.not_true, Bool.false_eq_true, if_false]
    apply bind_apply_of_error
    cases resolved : resolve modules entry.2 with
    | ok reader => simp [resolved] at refused
    | error other =>
      rw [resolved] at refused
      cases refused
      rfl
  · rw [if_neg valid] at refused
    cases refused
    simp only [valid, Bool.not_false, if_true]
    rfl

/-- Each entry has a reader. -/
abbrev Resolved (modules : List Module) (references : List (String × String))
    (found : Table) : Prop :=
  List.Forall₂
    (fun entry known => known.1 = entry.1 ∧ isExtension entry.1 = true ∧
      resolve modules entry.2 = .ok known.2)
    references found

/-- The first entry that is refused, with the failure, among others. -/
def FirstRefused (modules : List Module) (references : List (String × String))
    (failure : Failure) : Prop :=
  ∃ front entry back, references = front ++ entry :: back ∧
    (∀ known ∈ front, Registers modules known) ∧ refusal? modules entry = some failure

/-- Entries are put into the table one after the other until one of them is refused. -/
theorem extend_cases (references : List (String × String)) (table : Table) (world : World) :
    (∃ found after, Resolved modules references found ∧
      extend modules table references world = .ok (Entries.putAll table found) after) ∨
    ∃ failure after, FirstRefused modules references failure ∧
      extend modules table references world = .error failure after := by
  induction references generalizing table world with
  | nil => exact .inl ⟨[], world, .nil, rfl⟩
  | cons entry rest ih =>
    cases refused : refusal? modules entry with
    | some failure =>
      exact .inr ⟨failure, world, ⟨[], entry, rest, rfl, by simp, refused⟩,
        extend_of_refusal refused table world⟩
    | none =>
      have registers := refusal?_eq_none_iff.mp refused
      rcases registers with ⟨valid, reader, resolved⟩
      rcases extend_of_resolve rest valid resolved table world with ⟨noted, extended⟩
      rw [extended, put_eq]
      rcases ih (Entries.put entry.1 reader table) noted with
        ⟨found, after, each, ended⟩ |
        ⟨failure, after, ⟨front, other, back, rfl, before, failed⟩, ended⟩
      · exact .inl ⟨(entry.1, reader) :: found, after, .cons ⟨rfl, valid, resolved⟩ each, ended⟩
      · refine .inr ⟨failure, after, ⟨entry :: front, other, back, rfl, ?_, failed⟩, ended⟩
        exact List.forall_mem_cons.mpr ⟨⟨valid, reader, resolved⟩, before⟩

/-! ## What the table holds -/

/-- A table holds the default readers and those of references. -/
structure Holds (modules : List Module) (references : List (String × String))
    (table : Table) : Prop where
  nodup : (table.map Prod.fst).Nodup
  keys : ∀ extension, extension ∈ table.map Prod.fst ↔
    extension = ".json" ∨ extension ∈ references.map Prod.fst
  /-- Every extension is a dot and something after it. -/
  extensions : ∀ extension ∈ table.map Prod.fst,
    extension.toList.head? = some '.' ∧ 2 ≤ extension.length
  /-- The last reference for an extension counts. -/
  given : ∀ extension reference, Entries.last? extension references = some reference →
    ∃ reader, resolve modules reference = .ok reader ∧ table.lookup extension = some reader
  /-- Nothing but a reference for it replaces the reader of entities. -/
  kept : ".json" ∉ references.map Prod.fst → table.lookup ".json" = some .entity

theorem two_le_length_of_isExtension {extension : String}
    (valid : isExtension extension = true) : 2 ≤ extension.length := by
  unfold isExtension at valid
  rw [← String.length_toList]
  split at valid
  · next split => simp [split]
  · cases valid

namespace Resolved

variable {references : List (String × String)} {found : Table}

theorem registers (resolved : Resolved modules references found) :
    ∀ entry ∈ references, Registers modules entry := by
  induction resolved with
  | nil => exact fun _ member => nomatch member
  | cons here _ ih => exact List.forall_mem_cons.mpr ⟨⟨here.2.1, _, here.2.2⟩, ih⟩

theorem keys_eq (resolved : Resolved modules references found) :
    found.map Prod.fst = references.map Prod.fst := by
  induction resolved with
  | nil => rfl
  | cons here _ ih => rw [List.map_cons, List.map_cons, here.1, ih]

/-- The last reader for an extension is that of the last reference for it. -/
theorem last?_eq (resolved : Resolved modules references found) (extension : String) :
    (∀ reference, Entries.last? extension references = some reference →
      ∃ reader, resolve modules reference = .ok reader ∧
        Entries.last? extension found = some reader) ∧
    (Entries.last? extension references = none → Entries.last? extension found = none) := by
  induction resolved with
  | nil =>
    refine ⟨?_, fun _ => rfl⟩
    rintro _ ⟨⟩
  | @cons entry known rest others here _ ih =>
    rcases here with ⟨same, -, here⟩
    simp only [Entries.last?, same]
    cases later : Entries.last? extension rest with
    | some last =>
      rcases ih.1 last later with ⟨reader, further, ends⟩
      constructor
      · rintro _ ⟨⟩
        exact ⟨reader, further, by rw [ends, Option.some_or]⟩
      · rintro ⟨⟩
    | none =>
      rw [ih.2 later, Option.none_or, Option.none_or]
      by_cases wanted : entry.1 = extension
      · rw [if_pos wanted, if_pos wanted]
        constructor
        · rintro _ ⟨⟩
          exact ⟨known.2, here, rfl⟩
        · rintro ⟨⟩
      · rw [if_neg wanted, if_neg wanted]
        refine ⟨?_, fun _ => rfl⟩
        rintro _ ⟨⟩

end Resolved

theorem Resolved.holds {references : List (String × String)} {found : Table}
    (resolved : Resolved modules references found) :
    Holds modules references (Entries.putAll defaultTable found) where
  nodup := Entries.nodup_putAll (by simp [defaultTable]) found
  keys := by
    intro extension
    rw [Entries.mem_keys_putAll, resolved.keys_eq]
    simp [defaultTable]
  extensions := by
    intro extension member
    rw [Entries.mem_keys_putAll, resolved.keys_eq] at member
    have valid : isExtension extension = true := by
      rcases member with initial | given
      · rw [List.mem_singleton.mp initial]
        decide
      · rcases List.mem_map.mp given with ⟨entry, inside, rfl⟩
        exact (resolved.registers entry inside).1
    exact ⟨head?_of_isExtension valid, two_le_length_of_isExtension valid⟩
  given := by
    intro extension reference given
    rcases (resolved.last?_eq extension).1 reference given with ⟨reader, further, last⟩
    exact ⟨reader, further, by rw [Entries.lookup_putAll, last, Option.some_or]⟩
  kept := by
    intro absent
    have none : Entries.last? ".json" found = none := by
      rw [← Entries.lookup_putAll_nil]
      apply Entries.lookup_eq_none
      rw [Entries.mem_keys_putAll, resolved.keys_eq]
      simpa using absent
    rw [Entries.lookup_putAll, none]
    rfl

/-! ## Building a table -/

variable {references : List (String × String)} {failure : Failure}

theorem FirstRefused.not_registers (refused : FirstRefused modules references failure) :
    ¬∀ entry ∈ references, Registers modules entry := by
  rcases refused with ⟨front, entry, back, rfl, -, failed⟩
  intro all
  have none := refusal?_eq_none_iff.mpr (all entry (by simp))
  rw [none] at failed
  cases failed

/-- The first entry that is refused ends the registration. -/
theorem FirstRefused.extend_eq (refused : FirstRefused modules references failure)
    (table : Table) (world : World) :
    ∃ after, extend modules table references world = .error failure after := by
  rcases refused with ⟨front, entry, back, rfl, before, failed⟩
  induction front generalizing table world with
  | nil => exact ⟨world, extend_of_refusal failed table world⟩
  | cons known front ih =>
    rcases List.forall_mem_cons.mp before with ⟨⟨valid, reader, resolved⟩, others⟩
    rcases extend_of_resolve (front ++ entry :: back) valid resolved table world with
      ⟨noted, extended⟩
    rw [List.cons_append, extended]
    exact ih (put known.1 reader table) noted others

theorem FirstRefused.failure_cases (refused : FirstRefused modules references failure) :
    (∃ reason, failure = .config reason) ∨ failure = .unforeseen .wrongType := by
  rcases refused with ⟨_, entry, _, -, -, failed⟩
  rcases refusal?_cases modules entry with registers | ⟨reason, named⟩ | ⟨-, escaped⟩
  · rw [refusal?_eq_none_iff.mpr registers] at failed
    cases failed
  · rw [named] at failed
    cases failed
    exact .inl ⟨reason, rfl⟩
  · rw [escaped] at failed
    cases failed
    exact .inr rfl

/-- A failure of building a table is that of the first entry that is refused. -/
theorem build_eq_error_iff {world : World} :
    (∃ after, build modules references world = .error failure after) ↔
      FirstRefused modules references failure := by
  constructor
  · rintro ⟨after, failed⟩
    rcases extend_cases references defaultTable world with
      ⟨_, _, _, succeeded⟩ | ⟨_, _, refused, ended⟩
    · rw [build, succeeded] at failed
      cases failed
    · rw [build, ended] at failed
      cases failed
      exact refused
  · exact fun refused => refused.extend_eq defaultTable world

theorem build_eq_ok_iff {world : World} :
    (∃ table after, build modules references world = .ok table after) ↔
      ∀ entry ∈ references, Registers modules entry := by
  rcases extend_cases references defaultTable world with
    ⟨found, left, resolved, ended⟩ | ⟨failure, left, refused, ended⟩
  · exact iff_of_true ⟨_, _, ended⟩ resolved.registers
  · refine iff_of_false ?_ refused.not_registers
    rintro ⟨_, _, succeeded⟩
    rw [build, ended] at succeeded
    cases succeeded

theorem holds_of_build {table : Table} {world after : World}
    (built : build modules references world = .ok table after) :
    Holds modules references table := by
  rcases extend_cases references defaultTable world with
    ⟨found, left, resolved, ended⟩ | ⟨failure, left, refused, ended⟩
  · rw [build, ended] at built
    cases built
    exact resolved.holds
  · rw [build, ended] at built
    cases built

/--
A table is built if and only if each entry can be registered, and it holds the default
readers and those of the references.  Otherwise there is a wrong setting, unless the first
entry that cannot be registered has a failure that escapes as it is.
-/
theorem build_law (modules : List Module) (references : List (String × String))
    (world : World) :
    (∀ table after, build modules references world = .ok table after →
      Holds modules references table) ∧
    (∀ failure after, build modules references world = .error failure after →
      (∃ reason, failure = .config reason) ∨ failure = .unforeseen .wrongType) ∧
    ((∃ table after, build modules references world = .ok table after) ↔
      ∀ entry ∈ references, Registers modules entry) ∧
    ((∃ after, build modules references world = .error (.unforeseen .wrongType) after) ↔
      ∃ front entry back, references = front ++ entry :: back ∧
        (∀ known ∈ front, Registers modules known) ∧ Escapes modules entry) := by
  refine ⟨fun _ _ => holds_of_build, fun failure after failed => ?_, build_eq_ok_iff, ?_⟩
  · exact (build_eq_error_iff.mp ⟨after, failed⟩).failure_cases
  · simp only [build_eq_error_iff, FirstRefused, refusal?_eq_unforeseen_iff]

/-- A module whose name starts with a dot is no wrong setting. -/
theorem not_config_dottedModule :
    ∃ after, build ownModules [(".x", ".rel:y")] { files := { entries := [], here := [] } } =
      .error (.unforeseen .wrongType) after := by
  apply exists_of_fault?_eq_some
  decide +kernel

end Registry

end Stencil

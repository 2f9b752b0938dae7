import Stencil.Proofs.Spelling
import Stencil.Settings.Basic

/-!
# Mappings put over one another

Entries are put over those of another mapping.  What happens under one name is what the
entries of this name do: where the upper mapping has the name, the last entry of this name
is one of the upper mapping, and where it has not, the lower entries stay as they are.
-/

namespace Stencil

open Outcome

/-! ## Entries of one name -/

/-- The name that a key stands for. -/
def Value.name? (key : Value) : Option String :=
  key.spelling?.map Text.string

theorem Value.name?_of_equalMember {heap : Heap} {known key : Value} {name : String}
    (named : known.name? = some name) (equal : equalMember heap known key = .ok true) :
    key.name? = some name := by
  rcases Option.map_eq_some_iff.mp named with ⟨content, spells, rfl⟩
  rw [name?, spelling?_of_equalMember spells equal, Option.map_some]

/-- The entries whose keys stand for a name. -/
def called (name : String) (entries : List (Value × Value)) : List (Value × Value) :=
  entries.filter fun entry => entry.1.name? = some name

/-- All keys stand for names. -/
def Named (entries : List (Value × Value)) : Prop :=
  ∀ key ∈ entries.map Prod.fst, key.name?.isSome

section Called

variable {heap : Heap} {name : String} {key value : Value}
  {entries more all : List (Value × Value)}

theorem called_cons_of_name (named : key.name? = some name) :
    called name ((key, value) :: entries) = (key, value) :: called name entries := by
  simp [called, named]

theorem called_cons_of_other (other : key.name? ≠ some name) :
    called name ((key, value) :: entries) = called name entries := by
  simp [called, other]

/-- What is put under a key of the name is put under it among the entries of the name. -/
theorem insertEntry_called (named : Named entries) (isNamed : key.name? = some name)
    (inserted : heap.insertEntry key value entries = .ok more) :
    heap.insertEntry key value (called name entries) = .ok (called name more) := by
  induction entries generalizing more with
  | nil =>
    cases inserted
    rw [called_cons_of_name isNamed]
    rfl
  | cons first rest ih =>
    rcases first with ⟨known, old⟩
    rcases List.forall_mem_cons.mp named with ⟨hasName, others⟩
    rcases Option.isSome_iff_exists.mp hasName with ⟨own, isOwn⟩
    unfold Heap.insertEntry at inserted
    rcases except_bind_eq_ok_iff.mp inserted with ⟨isSame, same, inserted⟩
    cases isSame with
    | true =>
      cases inserted
      have isKnown : known.name? = some name := by
        rw [isOwn, ← isNamed, Value.name?_of_equalMember isOwn same]
      rw [called_cons_of_name isKnown, called_cons_of_name isKnown]
      unfold Heap.insertEntry
      rw [same]
      rfl
    | false =>
      rcases except_bind_eq_ok_iff.mp inserted with ⟨remaining, later, equal⟩
      cases equal
      by_cases isKnown : known.name? = some name
      · rw [called_cons_of_name isKnown, called_cons_of_name isKnown]
        unfold Heap.insertEntry
        rw [same]
        show (heap.insertEntry key value (called name rest)) >>= _ = _
        rw [ih others later]
        rfl
      · rw [called_cons_of_other isKnown, called_cons_of_other isKnown]
        exact ih others later

/-- What is put under a key of another name leaves the entries of the name as they are. -/
theorem called_insertEntry (named : Named entries) (other : key.name? ≠ some name)
    (inserted : heap.insertEntry key value entries = .ok more) :
    called name more = called name entries := by
  rcases Heap.insertEntry_cases inserted with ⟨front, known, old, back, rfl, same, rfl⟩ | rfl
  · have hasName : known.name?.isSome := named known (by simp)
    rcases Option.isSome_iff_exists.mp hasName with ⟨own, isOwn⟩
    have isOther : known.name? ≠ some name := by
      rw [isOwn, ← Value.name?_of_equalMember isOwn same]
      exact other
    simp [called, isOther]
  · simp [called, other]

/-- Mappings are put over one another name by name. -/
theorem insertAll_called (named : Named all) (inserted : heap.insertAll entries more = .ok all) :
    heap.insertAll (called name entries) (called name more) = .ok (called name all) := by
  induction more generalizing entries with
  | nil =>
    cases inserted
    rfl
  | cons first rest ih =>
    rcases first with ⟨key, value⟩
    unfold Heap.insertAll at inserted
    rcases except_bind_eq_ok_iff.mp inserted with ⟨between, insertion, inserted⟩
    unfold Heap.insert at insertion
    rcases except_bind_eq_ok_iff.mp insertion with ⟨_, isKey, insertion⟩
    have entriesNamed : Named entries := by
      intro known member
      apply named known
      apply Heap.mem_keys_insertAll inserted
      rcases Heap.keys_of_insertEntry insertion with keys | keys
      · rwa [keys]
      · rw [keys]
        exact List.mem_append_left _ member
    by_cases isNamed : key.name? = some name
    · rw [called_cons_of_name isNamed]
      unfold Heap.insertAll Heap.insert
      rw [isKey]
      show (heap.insertEntry key value (called name entries)) >>= _ = _
      rw [insertEntry_called entriesNamed isNamed insertion]
      exact ih inserted
    · rw [called_cons_of_other isNamed, ← called_insertEntry entriesNamed isNamed insertion]
      exact ih inserted

/-- What is put over entries with names has names itself. -/
theorem named_of_insertAll (named : Named all)
    (inserted : heap.insertAll entries more = .ok all) : Named more := by
  induction more generalizing entries with
  | nil => exact fun key member => nomatch member
  | cons first rest ih =>
    rcases first with ⟨added, value⟩
    unfold Heap.insertAll at inserted
    rcases except_bind_eq_ok_iff.mp inserted with ⟨between, insertion, inserted⟩
    unfold Heap.insert at insertion
    rcases except_bind_eq_ok_iff.mp insertion with ⟨_, -, insertion⟩
    intro key member
    rcases List.mem_cons.mp member with rfl | later
    · rcases Heap.insertEntry_cases insertion with ⟨front, known, old, back, -, same, rfl⟩ | rfl
      · have hasName := named known (Heap.mem_keys_insertAll inserted (by simp))
        rcases Option.isSome_iff_exists.mp hasName with ⟨own, isOwn⟩
        rw [Value.name?_of_equalMember isOwn same]
        rfl
      · exact named key (Heap.mem_keys_insertAll inserted (by simp))
    · exact ih inserted key later

end Called

/-! ## Entries over a single one -/

/-- The values of all entries are among these. -/
def TakenFrom (values : List Value) (entries : List (Value × Value)) : Prop :=
  ∀ entry ∈ entries, entry.2 ∈ values

/--
What becomes of at most one entry when others are put over it, given the values of these:
it stays where there is no other, it is replaced, or it stands before the others.
-/
inductive Upon (lower : List (Value × Value)) (values : List Value) :
    List (Value × Value) → Prop
  | nothing (empty : values = []) : Upon lower values lower
  | replaced {entries : List (Value × Value)} (nonempty : entries ≠ [])
      (taken : TakenFrom values entries) : Upon lower values entries
  | behind {old : Value × Value} {back : List (Value × Value)} (single : lower = [old])
      (nonempty : back ≠ []) (taken : TakenFrom values back) : Upon lower values (old :: back)

section Upon

variable {heap : Heap} {key value : Value} {values : List Value}
  {lower upper entries more all : List (Value × Value)}

theorem TakenFrom.append (taken : TakenFrom values entries) (key value : Value) :
    TakenFrom (values ++ [value]) (entries ++ [(key, value)]) := by
  intro entry member
  rcases List.mem_append.mp member with old | new
  · exact List.mem_append_left _ (taken entry old)
  · rw [List.mem_singleton.mp new]
    exact List.mem_append_right _ (List.mem_singleton_self _)

theorem TakenFrom.replace {front back : List (Value × Value)}
    (before : TakenFrom values front) (after : TakenFrom values back) (key value : Value) :
    TakenFrom (values ++ [value]) (front ++ (key, value) :: back) := by
  intro entry member
  rcases List.mem_append.mp member with inFront | rest
  · exact List.mem_append_left _ (before entry inFront)
  · rcases List.mem_cons.mp rest with rfl | inBack
    · exact List.mem_append_right _ (List.mem_singleton_self _)
    · exact List.mem_append_left _ (after entry inBack)

theorem TakenFrom.nil : TakenFrom values [] :=
  fun _ member => nomatch member

theorem takenFrom_append {front : List (Value × Value)} :
    TakenFrom values (front ++ entries) ↔ TakenFrom values front ∧ TakenFrom values entries :=
  List.forall_mem_append

theorem takenFrom_cons {entry : Value × Value} :
    TakenFrom values (entry :: entries) ↔ entry.2 ∈ values ∧ TakenFrom values entries :=
  List.forall_mem_cons

theorem Upon.insertEntry (short : lower.length ≤ 1) (upon : Upon lower values entries)
    (inserted : heap.insertEntry key value entries = .ok more) :
    Upon lower (values ++ [value]) more := by
  rcases Heap.insertEntry_cases inserted with ⟨front, known, old, back, split, -, rfl⟩ | rfl
  · cases upon with
    | nothing empty =>
      rw [split, List.length_append, List.length_cons] at short
      have noFront : front = [] := List.eq_nil_of_length_eq_zero (by omega)
      have noBack : back = [] := List.eq_nil_of_length_eq_zero (by omega)
      subst noFront noBack
      exact .replaced (by simp) (TakenFrom.nil.replace .nil known value)
    | replaced nonempty taken =>
      rw [split, takenFrom_append, takenFrom_cons] at taken
      exact .replaced (by simp) (taken.1.replace taken.2.2 known value)
    | @behind _ others single nonempty taken =>
      cases front with
      | nil =>
        rcases List.cons.inj split with ⟨-, rfl⟩
        exact .replaced (by simp) (TakenFrom.nil.replace taken known value)
      | cons first front =>
        rcases List.cons.inj split with ⟨rfl, -⟩
        have same : others = front ++ (known, old) :: back := (List.cons.inj split).2
        rw [same, takenFrom_append, takenFrom_cons] at taken
        exact .behind single (by simp) (taken.1.replace taken.2.2 known value)
  · cases upon with
    | nothing empty =>
      cases lower with
      | nil => exact .replaced (by simp) (TakenFrom.nil.append key value)
      | cons first rest =>
        have alone : rest = [] := by
          apply List.eq_nil_of_length_eq_zero
          rw [List.length_cons] at short
          omega
        subst alone
        exact .behind rfl (by simp) (TakenFrom.nil.append key value)
    | replaced nonempty taken => exact .replaced (by simp) (taken.append key value)
    | behind single nonempty taken =>
      exact .behind single (by simp) (taken.append key value)

theorem Upon.insertAll (short : lower.length ≤ 1) (upon : Upon lower values entries)
    (inserted : heap.insertAll entries more = .ok all) :
    Upon lower (values ++ more.map Prod.snd) all := by
  induction more generalizing values entries with
  | nil =>
    cases inserted
    rwa [List.map_nil, List.append_nil]
  | cons first rest ih =>
    rcases first with ⟨key, value⟩
    unfold Heap.insertAll at inserted
    rcases except_bind_eq_ok_iff.mp inserted with ⟨between, insertion, inserted⟩
    unfold Heap.insert at insertion
    rcases except_bind_eq_ok_iff.mp insertion with ⟨_, -, insertion⟩
    have later := ih (upon.insertEntry short insertion) inserted
    rwa [List.append_assoc] at later

theorem upon_insertAll (short : lower.length ≤ 1)
    (inserted : heap.insertAll lower upper = .ok all) : Upon lower (upper.map Prod.snd) all := by
  have upon := (Upon.nothing rfl : Upon lower [] lower).insertAll short inserted
  rwa [List.nil_append] at upon

end Upon

/-! ## Three mappings -/

/-- The entries of a name in a mapping that has it at most once, under a text. -/
def Few (name : String) (entries : List (Value × Value)) : Prop :=
  entries = [] ∨ ∃ value, entries = [(Value.ofString name, value)]

variable {heap : Heap} {name : String} {low middle above upper final : List (Value × Value)}

theorem Few.length_le (few : Few name low) : low.length ≤ 1 := by
  rcases few with rfl | ⟨value, rfl⟩
  · exact Nat.zero_le 1
  · exact Nat.le_refl 1

/-- What is put under the text itself takes the place of the only entry. -/
theorem insertAll_few (few : Few name low) (value : Value) (back : List (Value × Value)) :
    heap.insertAll low ((Value.ofString name, value) :: back) =
      heap.insertAll [(Value.ofString name, value)] back := by
  rcases few with rfl | ⟨old, rfl⟩
  · rfl
  · have same : Value.equalMember heap (Value.ofString name) (Value.ofString name) = .ok true := by
      show Except.ok (Text.ofString name == Text.ofString name) = _
      rw [beq_self_eq_true]
    have inserted : heap.insert [(Value.ofString name, old)] (Value.ofString name) value =
        .ok [(Value.ofString name, value)] := by
      unfold Heap.insert Heap.insertEntry
      rw [same]
      rfl
    show heap.insert _ _ _ >>= (fun entries => heap.insertAll entries back) = _
    rw [inserted]
    rfl

theorem TakenFrom.exists_last {entries : List (Value × Value)} {values : List Value}
    (taken : TakenFrom values entries) (nonempty : entries ≠ []) :
    ∃ value ∈ values, entries.getLast?.map Prod.snd = some value := by
  refine ⟨_, taken _ (List.getLast_mem nonempty), ?_⟩
  rw [List.getLast?_eq_some_getLast nonempty, Option.map_some]

theorem Upon.exists_last {lower entries : List (Value × Value)} {values : List Value}
    (upon : Upon lower values entries) (nonempty : values ≠ []) :
    ∃ value ∈ values, entries.getLast?.map Prod.snd = some value := by
  cases upon with
  | nothing empty => exact absurd empty nonempty
  | replaced some_ taken => exact taken.exists_last some_
  | @behind old back _ some_ taken =>
    rcases taken.exists_last some_ with ⟨value, inside, last⟩
    rcases Option.map_eq_some_iff.mp last with ⟨entry, isLast, same⟩
    refine ⟨value, inside, ?_⟩
    rw [List.getLast?_cons, isLast]
    exact congrArg some same

/-- How entries are put over at most one entry of the name, or stand where there is none. -/
def Covers (heap : Heap) (low upper final : List (Value × Value)) : Prop :=
  heap.insertAll low upper = .ok final ∨ low = [] ∧ final = upper

theorem Covers.exists_last (covers : Covers heap low upper final) (few : Few name low)
    (nonempty : upper ≠ []) :
    ∃ value ∈ upper.map Prod.snd, final.getLast?.map Prod.snd = some value := by
  have some_ : upper.map Prod.snd ≠ [] := by simpa using nonempty
  rcases covers with put | ⟨-, rfl⟩
  · exact (upon_insertAll few.length_le put).exists_last some_
  · exact TakenFrom.exists_last (fun entry member => List.mem_map_of_mem member) nonempty

/-- The last entry of the name is one of the uppermost mapping that has the name. -/
theorem exists_last_of_three (fewLow : Few name low) (fewMiddle : Few name middle)
    (upon : Upon middle (above.map Prod.snd) upper) (covers : Covers heap low upper final)
    (nonempty : above ≠ []) :
    ∃ value ∈ above.map Prod.snd, final.getLast?.map Prod.snd = some value := by
  cases upon with
  | nothing empty => exact absurd (List.map_eq_nil_iff.mp empty) nonempty
  | replaced some_ taken =>
    rcases covers.exists_last fewLow some_ with ⟨value, inside, last⟩
    rcases List.mem_map.mp inside with ⟨entry, member, same⟩
    exact ⟨value, same ▸ taken entry member, last⟩
  | @behind old back single some_ taken =>
    rcases fewMiddle with none_ | ⟨own, isOwn⟩
    · rw [none_] at single
      cases single
    · cases (List.cons.inj (single.symm.trans isOwn)).1
      rcases covers with put | ⟨-, rfl⟩
      · rw [insertAll_few fewLow] at put
        have someBack : back.map Prod.snd ≠ [] := by simpa using some_
        have few : Few name [(Value.ofString name, own)] := .inr ⟨own, rfl⟩
        have upon := upon_insertAll few.length_le put
        rcases upon.exists_last someBack with ⟨value, inside, last⟩
        rcases List.mem_map.mp inside with ⟨entry, member, same⟩
        exact ⟨value, same ▸ taken entry member, last⟩
      · have someOver : above.map Prod.snd ≠ [] := by simpa using nonempty
        exact (Upon.behind single some_ taken).exists_last someOver

/-- Where the uppermost mapping has nothing, the next one counts. -/
theorem eq_of_three (fewLow : Few name low) (fewMiddle : Few name middle)
    (upon : Upon middle [] upper) (covers : Covers heap low upper final) :
    final = if middle = [] then low else middle := by
  have same : upper = middle := by
    cases upon with
    | nothing _ => rfl
    | replaced some_ taken =>
      rcases taken.exists_last some_ with ⟨value, inside, -⟩
      cases inside
    | behind _ some_ taken =>
      rcases taken.exists_last some_ with ⟨value, inside, -⟩
      cases inside
  subst same
  rcases fewMiddle with rfl | ⟨own, rfl⟩
  · rw [if_pos rfl]
    rcases covers with put | ⟨rfl, rfl⟩
    · cases put
      rfl
    · rfl
  · rw [if_neg (List.cons_ne_nil _ _)]
    rcases covers with put | ⟨-, rfl⟩
    · rw [insertAll_few fewLow] at put
      cases put
      rfl
    · rfl

/-! ## References that are accepted -/

namespace Settings

theorem putReference_eq (extension reference : String) (known : List (String × String)) :
    checkExtensions.putReference extension reference known =
      Entries.put extension reference known := by
  induction known with
  | nil => rfl
  | cons first rest ih => rw [checkExtensions.putReference, Entries.put, ih]

theorem checkText_eq_ok_iff {place : String} {value : Value} {content : String} :
    checkText place value = .ok content ↔ value.name? = some content := by
  rw [checkText, Validation.map_eq_ok_iff, Value.name?, Option.map_eq_some_iff]
  simp only [Value.text_eq_ok_iff]

/-- Entries whose keys and values are texts, as they are accepted. -/
private def Accepted : List (Value × Value) → List (Text × String) → Prop :=
  List.Forall₂ fun entry given =>
    entry.1.spelling? = some given.1 ∧ entry.2.name? = some given.2

private theorem accepted_of_checked {heap : Heap} {place : String}
    {given : List (Text × String)} {entries : List (Value × Value)}
    (checked : Validation.all (entries.map fun (key, value) =>
      let inner := place ++ "." ++ Validation.keyPlace heap key
      Validation.both (Validation.text (inner ++ ".[key]") key) (checkText inner value)) =
        .ok given) : Accepted entries given := by
  induction entries generalizing given with
  | nil =>
    cases checked
    exact .nil
  | cons entry rest ih =>
    rcases Validation.all_cons_eq_ok_iff.mp checked with ⟨⟨name, content⟩, more, one, others, rfl⟩
    rcases Validation.both_eq_ok_iff.mp one with ⟨named, valued⟩
    exact .cons ⟨Value.text_eq_ok_iff.mp named, checkText_eq_ok_iff.mp valued⟩ (ih others)

private theorem named_of_accepted {entries : List (Value × Value)} {given : List (Text × String)}
    (accepted : Accepted entries given) : Named entries := by
  induction accepted with
  | nil => exact fun key member => nomatch member
  | cons here _ ih =>
    intro key member
    rcases List.mem_cons.mp member with rfl | later
    · rw [Value.name?, here.1]
      rfl
    · exact ih key later

private theorem exists_content_of_accepted {entries : List (Value × Value)}
    {given : List (Text × String)} (accepted : Accepted entries given) :
    ∀ entry ∈ entries, ∃ content, entry.2.name? = some content := by
  induction accepted with
  | nil => exact fun entry member => nomatch member
  | cons here _ ih =>
    intro entry member
    rcases List.mem_cons.mp member with rfl | later
    · exact ⟨_, here.2⟩
    · exact ih entry later

private theorem last?_of_accepted {entries : List (Value × Value)} {given : List (Text × String)}
    (accepted : Accepted entries given) (name : String) :
    Entries.last? name (given.map fun (key, content) => (key.string, content)) =
      (called name entries).getLast?.bind fun entry => entry.2.name? := by
  induction accepted with
  | nil => rfl
  | @cons entry named rest others here more ih =>
    rcases entry with ⟨key, value⟩
    rcases named with ⟨spelling, content⟩
    have isNamed : key.name? = some spelling.string := by
      rw [Value.name?, here.1, Option.map_some]
    rw [List.map_cons, Entries.last?, ih]
    by_cases same : spelling.string = name
    · rw [called_cons_of_name (by rw [isNamed, same]), List.getLast?_cons, if_pos same]
      cases last : (called name rest).getLast? with
      | none => exact here.2.symm
      | some entry =>
        have member := List.mem_of_mem_filter (List.mem_of_getLast? last)
        rcases exists_content_of_accepted more entry member with ⟨found, isFound⟩
        rw [Option.bind_some, Option.getD_some, Option.bind_some, isFound]
        rfl
    · have other : key.name? ≠ some name := by
        rw [isNamed]
        simpa using same
      rw [called_cons_of_other other, if_neg same, Option.or_none]

/-- The references that entries stand for: under each name what its last entry has. -/
structure Refers (entries : List (Value × Value)) (references : List (String × String)) :
    Prop where
  named : Named entries
  valued : ∀ entry ∈ entries, ∃ content, entry.2.name? = some content
  nodup : (references.map Prod.fst).Nodup
  lookup : ∀ name, references.lookup name =
    (called name entries).getLast?.bind fun entry => entry.2.name?

theorem refers_nil : Refers [] [] where
  named := fun _ member => nomatch member
  valued := fun _ member => nomatch member
  nodup := List.nodup_nil
  lookup := fun _ => rfl

/-- Only a mapping is accepted, and the references are those that its entries stand for. -/
theorem refers_of_checkExtensions {heap : Heap} {place : String} {value : Value}
    {references : List (String × String)}
    (checked : checkExtensions heap place value = .ok references) :
    ∃ ref, value = .dict ref ∧ Refers (heap.entries ref) references := by
  rcases Validation.map_eq_ok_iff.mp checked with ⟨given, entries, same⟩
  cases value with
  | dict ref =>
    have accepted := accepted_of_checked entries
    have folded : ∀ known : List (String × String),
        given.foldl (fun known (extension, reference) =>
            checkExtensions.putReference extension.string reference known) known =
          Entries.putAll known (given.map fun (key, content) => (key.string, content)) := by
      clear same accepted entries
      induction given with
      | nil => exact fun known => rfl
      | cons first rest ih =>
        intro known
        rw [List.foldl_cons, ih, List.map_cons, Entries.putAll]
        show Entries.putAll (checkExtensions.putReference first.1.string first.2 known) _ = _
        rw [putReference_eq]
    rw [folded] at same
    subst same
    refine ⟨ref, rfl, named_of_accepted accepted, exists_content_of_accepted accepted,
      Entries.nodup_putAll_nil _, fun name => ?_⟩
    rw [Entries.lookup_putAll_nil, last?_of_accepted accepted]
  | _ => cases entries

end Settings

end Stencil

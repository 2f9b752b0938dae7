import Stencil.Proofs.Entries
import Stencil.Proofs.Heap
import Stencil.Proofs.Validation

/-!
# Keys that spell texts

Where texts are wanted as keys, bytes are taken for the text that they spell.  A mapping
keeps a text and its bytes apart, so two of its keys can spell the same.  Equal keys do, and
what is put under a key changes nothing under the other texts.
-/

namespace Stencil

open Outcome

/-! ## Entries under texts -/

/-- Entries under texts, as the entries of a mapping. -/
def textEntries (entries : List (Text × Value)) : List (Value × Value) :=
  entries.map fun (key, value) => (.text key, value)

theorem textEntries_injective : Function.Injective textEntries := by
  apply List.map_injective_iff.mpr
  rintro ⟨key, value⟩ ⟨other, old⟩ same
  cases same
  rfl

namespace Heap

theorem equalMember_text (heap : Heap) (left right : Text) :
    Value.equalMember heap (.text left) (.text right) = .ok (left == right) := by
  rfl

theorem insertEntry_textEntries (heap : Heap) (key : Text) (value : Value)
    (entries : List (Text × Value)) :
    heap.insertEntry (.text key) value (textEntries entries) =
      .ok (textEntries (Entries.put key value entries)) := by
  induction entries with
  | nil => rfl
  | cons first rest ih =>
    rcases first with ⟨known, old⟩
    show heap.insertEntry (.text key) value ((.text known, old) :: textEntries rest) = _
    unfold insertEntry
    rw [equalMember_text, ih]
    by_cases same : known = key
    · simp [Entries.put, same, textEntries, bind, Except.bind]
    · simp [Entries.put, same, textEntries, bind, Except.bind]
      rfl

theorem insertAll_textEntries (heap : Heap) (front entries : List (Text × Value)) :
    heap.insertAll (textEntries front) (textEntries entries) =
      .ok (textEntries (Entries.putAll front entries)) := by
  induction entries generalizing front with
  | nil => rfl
  | cons first rest ih =>
    rcases first with ⟨key, value⟩
    have inserted : heap.insert (textEntries front) (.text key) value =
        .ok (textEntries (Entries.put key value front)) :=
      heap.insertEntry_textEntries key value front
    show heap.insertAll (textEntries front) ((.text key, value) :: textEntries rest) = _
    unfold insertAll
    rw [inserted]
    exact ih _

end Heap

/-! ## Keys that spell texts -/

namespace Value

/-- The text that a key stands for where texts are wanted. -/
def spelling? : Value → Option Text
  | .text content => some content
  | .markup content => some content
  | .bytes content => (Text.decode? ⟨content.toArray⟩).map Text.ofChars
  | _ => Option.none

theorem text_eq_ok_iff {place : String} {key : Value} {name : Text} :
    Validation.text place key = .ok name ↔ key.spelling? = some name := by
  cases key with
  | text content => simp [Validation.text, spelling?]
  | markup content => simp [Validation.text, spelling?]
  | bytes content =>
    cases decoded : Text.decode? ⟨content.toArray⟩ with
    | some characters => simp [Validation.text, spelling?, decoded]
    | none => simp [Validation.text, spelling?, decoded, Validation.refuse]
  | _ => simp [Validation.text, spelling?, Validation.refuse]

/-- What is equal to a text is a text of the same characters. -/
private theorem text?_of_equalMember {heap : Heap} {known key : Value} {content : Text}
    (isText : known.text? = some content)
    (equal : equalMember heap known key = .ok true) : key.text? = some content := by
  have both : (known.text?.bind fun left => key.text?.map (left == ·)) = some true := by
    cases known with
    | text own =>
      cases key with
      | text other => exact congrArg some (Except.ok.inj equal)
      | markup other => exact congrArg some (Except.ok.inj equal)
      | undefined missing => rcases missing with ⟨_ | _, _⟩ <;> cases equal
      | _ => cases equal
    | markup own =>
      cases key with
      | text other => exact congrArg some (Except.ok.inj equal)
      | markup other => exact congrArg some (Except.ok.inj equal)
      | undefined missing => rcases missing with ⟨_ | _, _⟩ <;> cases equal
      | _ => cases equal
    | _ => cases isText
  rw [isText, Option.bind_some] at both
  rcases Option.map_eq_some_iff.mp both with ⟨other, same, equals⟩
  rw [same, eq_of_beq equals]

/-- What is equal to bytes is these bytes. -/
private theorem bytes_of_equalMember {heap : Heap} {content : List UInt8} {key : Value}
    (equal : equalMember heap (.bytes content) key = .ok true) : key = .bytes content := by
  cases key with
  | bytes other => rw [eq_of_beq (Except.ok.inj equal)]
  | undefined missing => rcases missing with ⟨_ | _, _⟩ <;> cases equal
  | _ => cases equal

/-- Equal keys spell the same. -/
theorem spelling?_of_equalMember {heap : Heap} {known key : Value} {name : Text}
    (spells : known.spelling? = some name)
    (equal : equalMember heap known key = .ok true) : key.spelling? = some name := by
  have ofText : ∀ {value : Value} {content : Text},
      value.text? = some content → value.spelling? = some content := by
    intro value content isText
    cases value <;> cases isText <;> rfl
  cases known with
  | text content =>
    cases spells
    exact ofText (text?_of_equalMember rfl equal)
  | markup content =>
    cases spells
    exact ofText (text?_of_equalMember rfl equal)
  | bytes content =>
    rw [bytes_of_equalMember equal]
    exact spells
  | _ => cases spells

end Value

/-- The same entries under the texts that their keys spell. -/
def Spelled : List (Value × Value) → List (Text × Value) → Prop :=
  List.Forall₂ fun entry named => entry.1.spelling? = some named.1 ∧ entry.2 = named.2

theorem spelled_textEntries (entries : List (Text × Value)) :
    Spelled (textEntries entries) entries := by
  induction entries with
  | nil => exact .nil
  | cons first rest ih => exact .cons ⟨rfl, rfl⟩ ih

theorem Spelled.unique {entries : List (Value × Value)} {given found : List (Text × Value)}
    (first : Spelled entries given) (second : Spelled entries found) : found = given := by
  induction first generalizing found with
  | nil =>
    cases second
    rfl
  | cons here _ ih =>
    rcases second with _ | ⟨there, others⟩
    have sameKey := Option.some.inj (there.1.symm.trans here.1)
    rw [ih others, Prod.ext sameKey (there.2.symm.trans here.2)]

/-- What is put under a text wins where no two keys spell the same. -/
theorem spelled_of_insertEntry {heap : Heap} {name : Text} {value : Value}
    {entries more : List (Value × Value)} {given : List (Text × Value)}
    (inserted : heap.insertEntry (.text name) value entries = .ok more)
    (spelled : Spelled more given) :
    ∃ found, Spelled entries found ∧
      ((found.map Prod.fst).Nodup → ∀ key,
        Entries.last? key given = if key = name then some value else found.lookup key) := by
  induction entries generalizing more given with
  | nil =>
    cases inserted
    cases (spelled_textEntries [(name, value)]).unique spelled
    refine ⟨[], .nil, fun _ key => ?_⟩
    simp [Entries.last?, eq_comm]
  | cons first rest ih =>
    rcases first with ⟨known, old⟩
    unfold Heap.insertEntry at inserted
    cases same : Value.equalMember heap known (.text name) with
    | error fault =>
      rw [same] at inserted
      cases inserted
    | ok isSame =>
      rw [same] at inserted
      cases isSame with
      | true =>
        -- The entry is replaced, and no later key spells the same.
        cases inserted
        rcases spelled with _ | @⟨_, named, _, others, here, spelled⟩
        rcases named with ⟨spelling, _⟩
        rcases here with ⟨spells, rfl⟩
        cases Option.some.inj (Value.spelling?_of_equalMember spells same)
        refine ⟨(spelling, old) :: others, .cons ⟨spells, rfl⟩ spelled, fun nodup key => ?_⟩
        rcases List.nodup_cons.mp nodup with ⟨new, distinct⟩
        rw [Entries.last?, Entries.last?_of_nodup distinct]
        by_cases wanted : key = spelling
        · subst wanted
          simp [Entries.lookup_eq_none new]
        · simp [wanted, Ne.symm wanted, List.lookup_cons, beq_eq_false_iff_ne.mpr wanted]
      | false =>
        cases later : heap.insertEntry (.text name) value rest with
        | error fault =>
          simp only [bind, Except.bind, later] at inserted
          cases inserted
        | ok remaining =>
          simp only [bind, Except.bind, later] at inserted
          cases inserted
          rcases spelled with _ | @⟨_, named, _, others, here, spelled⟩
          rcases named with ⟨spelling, _⟩
          rcases here with ⟨spells, rfl⟩
          rcases ih later spelled with ⟨found, rest, law⟩
          refine ⟨(spelling, old) :: found, .cons ⟨spells, rfl⟩ rest, fun nodup key => ?_⟩
          rcases List.nodup_cons.mp nodup with ⟨new, distinct⟩
          rw [Entries.last?, law distinct]
          by_cases added : key = name
          · simp [added]
          · by_cases wanted : key = spelling
            · subst wanted
              simp [added, Entries.lookup_eq_none new]
            · simp [added, Ne.symm wanted, List.lookup_cons, beq_eq_false_iff_ne.mpr wanted]

end Stencil

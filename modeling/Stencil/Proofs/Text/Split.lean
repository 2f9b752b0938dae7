import Mathlib.Data.List.TakeWhile
import Stencil.Text.Character
import Stencil.Text.Search

/-!
# Stripped and split text

Trimming takes everything unwanted from both ends of a list and stops at the first element on
either side that is wanted.  A list is cut at the first occurrence of an element, if it has
one.  What is put together from pieces with separators between them is split into the same
pieces again, as long as none of them holds a separator.
-/

namespace Stencil.Text

/-! ## Trimming -/

section Trim

variable {α : Type} {unwanted : α → Bool} {items whole : List α}

/-- A list neither starts nor ends with anything unwanted. -/
structure IsTrimmed (unwanted : α → Bool) (items : List α) : Prop where
  starts : ∀ item, items.head? = some item → unwanted item = false
  ends : ∀ item, items.getLast? = some item → unwanted item = false

theorem IsTrimmed.of_forall (wanted : ∀ item ∈ items, unwanted item = false) :
    IsTrimmed unwanted items where
  starts := fun item first => wanted item (List.mem_of_head? first)
  ends := fun item last => wanted item (List.mem_of_getLast? last)

/-- A list is another one with nothing but unwanted elements around it. -/
def Surrounds (unwanted : α → Bool) (whole items : List α) : Prop :=
  ∃ front back, (∀ item ∈ front, unwanted item = true) ∧
    (∀ item ∈ back, unwanted item = true) ∧ whole = front ++ (items ++ back)

/-- An element that is wanted is none of those around a list. -/
theorem Surrounds.mem_iff (surrounds : Surrounds unwanted whole items) {item : α}
    (wanted : unwanted item = false) : item ∈ whole ↔ item ∈ items := by
  obtain ⟨front, back, before, after, rfl⟩ := surrounds
  have notBefore : item ∉ front := fun member => by simp [before item member] at wanted
  have notAfter : item ∉ back := fun member => by simp [after item member] at wanted
  simp [notBefore, notAfter]

/-- Nothing need stand around a list. -/
theorem Surrounds.refl (unwanted : α → Bool) (items : List α) :
    Surrounds unwanted items items :=
  ⟨[], [], by simp, by simp, by simp⟩

private theorem dropWhile_of_head?
    (starts : ∀ item, items.head? = some item → unwanted item = false) :
    items.dropWhile unwanted = items := by
  cases items with
  | nil => rfl
  | cons first rest => exact List.dropWhile_cons_of_neg (by simp [starts first rfl])

/-- A trimmed list is all that trimming leaves of a list around it. -/
theorem Surrounds.trim_eq (surrounds : Surrounds unwanted whole items)
    (trimmed : IsTrimmed unwanted items) : trim unwanted whole = items := by
  obtain ⟨front, back, before, after, rfl⟩ := surrounds
  have fromStart : (front ++ (items ++ back)).dropWhile unwanted = items ++
      if items = [] then [] else back := by
    rw [List.dropWhile_append_of_pos before]
    cases items with
    | nil => exact List.dropWhile_eq_nil_iff.mpr after
    | cons first rest => exact List.dropWhile_cons_of_neg (by simp [trimmed.starts first rfl])
  have fromEnd : items.reverse.dropWhile unwanted = items.reverse :=
    dropWhile_of_head? fun item last => trimmed.ends item (by rwa [List.head?_reverse] at last)
  rw [trim, trimEnd, fromStart, List.reverse_append]
  split
  · next none => simp [none]
  · rw [List.dropWhile_append_of_pos (by simpa using after), fromEnd, List.reverse_reverse]

/-- Where everything is wanted, trimming takes nothing. -/
theorem trim_eq_self (wanted : ∀ item ∈ items, unwanted item = false) :
    trim unwanted items = items :=
  (Surrounds.refl unwanted items).trim_eq (.of_forall wanted)

/-- What trimming takes from the ends is unwanted. -/
theorem surrounds_trim (unwanted : α → Bool) (items : List α) :
    Surrounds unwanted items (trim unwanted items) := by
  refine ⟨items.takeWhile unwanted,
    ((items.dropWhile unwanted).reverse.takeWhile unwanted).reverse,
    fun item => List.mem_takeWhile_imp,
    fun item member => List.mem_takeWhile_imp (List.mem_reverse.mp member), ?_⟩
  rw [trim, trimEnd, ← List.reverse_append, List.takeWhile_append_dropWhile,
    List.reverse_reverse, List.takeWhile_append_dropWhile]

private theorem wanted_of_head?_dropWhile {item : α}
    (first : (items.dropWhile unwanted).head? = some item) : unwanted item = false := by
  have refused := List.head?_dropWhile_not unwanted items
  rwa [first] at refused

theorem isTrimmed_trim (unwanted : α → Bool) (items : List α) :
    IsTrimmed unwanted (trim unwanted items) where
  starts := by
    intro item first
    -- Trimming the end leaves an initial part, which starts with the same element.
    obtain ⟨rest, whole⟩ : trim unwanted items <+: items.dropWhile unwanted := by
      rw [← List.reverse_suffix, trim, trimEnd, List.reverse_reverse]
      exact List.dropWhile_suffix unwanted
    have same : (items.dropWhile unwanted).head? = some item := by
      rw [← whole, List.head?_append, first, Option.some_or]
    exact wanted_of_head?_dropWhile same
  ends := by
    intro item last
    rw [trim, trimEnd, List.getLast?_reverse] at last
    exact wanted_of_head?_dropWhile last

/-- Trimming leaves the one trimmed list that a list surrounds. -/
theorem trim_eq_iff :
    trim unwanted whole = items ↔
      Surrounds unwanted whole items ∧ IsTrimmed unwanted items := by
  constructor
  · rintro rfl
    exact ⟨surrounds_trim unwanted whole, isTrimmed_trim unwanted whole⟩
  · rintro ⟨surrounds, trimmed⟩
    exact surrounds.trim_eq trimmed

end Trim

/-! ## Cutting -/

section Cut

variable {α : Type} [DecidableEq α] {wanted : α} {items front back : List α}

theorem find?_append (back : List α) (absent : wanted ∉ front) :
    find? [wanted] (front ++ wanted :: back) = some front.length := by
  induction front with
  | nil => simp [find?, startsWith, afterStart?]
  | cons item front ih =>
    have other : wanted ≠ item := fun same => absent (same ▸ List.mem_cons_self ..)
    have rest : wanted ∉ front := fun inside => absent (List.mem_cons_of_mem _ inside)
    simp [find?, startsWith, afterStart?, other, ih rest]

theorem find?_eq_none (absent : wanted ∉ items) : find? [wanted] items = none := by
  induction items with
  | nil => simp [find?]
  | cons item rest ih =>
    rcases not_or.mp (mt List.mem_cons.mpr absent) with ⟨other, further⟩
    simp [find?, startsWith, afterStart?, other, ih further]

theorem cut?_append (back : List α) (absent : wanted ∉ front) :
    cut? [wanted] (front ++ wanted :: back) = some (front, back) := by
  simp [cut?, find?_append back absent]

/-- A list without the wanted element is not cut. -/
theorem cut?_eq_none_iff : cut? [wanted] items = none ↔ wanted ∉ items := by
  constructor
  · intro uncut member
    obtain ⟨before, after, rfl, absent⟩ := List.eq_append_cons_of_mem member
    rw [cut?_append after absent] at uncut
    cases uncut
  · intro absent
    rw [cut?, find?_eq_none absent]
    rfl

/-- A list is cut at the first occurrence of a member. -/
theorem cut?_eq_some_iff :
    cut? [wanted] items = some (front, back) ↔
      items = front ++ wanted :: back ∧ wanted ∉ front := by
  constructor
  · intro cut
    by_cases member : wanted ∈ items
    · obtain ⟨before, after, rfl, absent⟩ := List.eq_append_cons_of_mem member
      rw [cut?_append after absent] at cut
      cases cut
      exact ⟨rfl, absent⟩
    · rw [cut?_eq_none_iff.mpr member] at cut
      cases cut
  · rintro ⟨rfl, absent⟩
    exact cut?_append back absent

end Cut

/-! ## Splitting -/

section Pieces

variable {α : Type} [DecidableEq α] {separator : α} {items : List α}

theorem pieces_of_not_mem (without : separator ∉ items) : pieces separator items = [items] := by
  induction items with
  | nil => rfl
  | cons item items ih =>
    obtain ⟨other, others⟩ := not_or.mp (mt List.mem_cons.mpr without)
    rw [pieces, if_neg (Ne.symm other), ih others]

theorem pieces_append (without : separator ∉ items) (rest : List α) :
    pieces separator (items ++ separator :: rest) = items :: pieces separator rest := by
  induction items with
  | nil => rw [List.nil_append, pieces, if_pos rfl]
  | cons item items ih =>
    obtain ⟨other, others⟩ := not_or.mp (mt List.mem_cons.mpr without)
    rw [List.cons_append, pieces, if_neg (Ne.symm other), ih others]

/-- Pieces that are joined are there again when the whole is split. -/
theorem pieces_joinPieces {parts : List (List α)} (nonempty : parts ≠ [])
    (without : ∀ part ∈ parts, separator ∉ part) :
    pieces separator (joinPieces separator parts) = parts := by
  induction parts with
  | nil => exact absurd rfl nonempty
  | cons part parts ih =>
    obtain ⟨here, others⟩ := List.forall_mem_cons.mp without
    cases parts with
    | nil => exact pieces_of_not_mem here
    | cons next more =>
      rw [joinPieces, pieces_append here, ih (List.cons_ne_nil _ _) others]
      exact List.cons_ne_nil _ _

end Pieces

end Stencil.Text

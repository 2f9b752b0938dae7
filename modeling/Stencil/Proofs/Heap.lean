import Stencil.Proofs.Outcome
import Stencil.Value.Equality

/-!
# Containers that are left alone

New containers are added behind those that are there, so work on new containers leaves
the content of the old ones as it is.
-/

namespace Stencil.Heap

open Outcome

/-! ## What single changes leave alone -/

theorem get_allocate_of_ne (heap : Heap) (cell : Cell) {ref : Ref}
    (other : ref ≠ (heap.allocate cell).1) : (heap.allocate cell).2.get ref = heap.get ref := by
  have notLast : ref ≠ heap.cells.size := other
  simp [allocate, get, Array.getElem?_push, notLast]

/-- A change at a place changes this place, if it is there, and no other one. -/
theorem get_set (heap : Heap) (ref : Ref) (cell : Cell) (other : Ref) :
    (heap.set ref cell).get other = cell ∨ (heap.set ref cell).get other = heap.get other := by
  by_cases same : ref = other
  · subst same
    by_cases inside : ref < heap.cells.size
    · left
      simp [Heap.set, get, inside]
    · right
      simp [Heap.set, get, inside]
  · exact .inr (heap.get_set_of_ne cell same)

/-! ## Entries -/

/-- An entry takes the place of the first one with an equal key, or is added at the end. -/
theorem insertEntry_cases {heap : Heap} {key value : Value}
    {entries more : List (Value × Value)}
    (inserted : heap.insertEntry key value entries = .ok more) :
    (∃ front known old back, entries = front ++ (known, old) :: back ∧
        Value.equalMember heap known key = .ok true ∧
        more = front ++ (known, value) :: back) ∨
      more = entries ++ [(key, value)] := by
  induction entries generalizing more with
  | nil =>
    cases inserted
    exact .inr rfl
  | cons first rest ih =>
    obtain ⟨known, old⟩ := first
    unfold insertEntry at inserted
    obtain ⟨isSame, same, inserted⟩ := except_bind_eq_ok_iff.mp inserted
    cases isSame with
    | true =>
      cases inserted
      exact .inl ⟨[], known, old, rest, rfl, same, rfl⟩
    | false =>
      obtain ⟨remaining, others, equal⟩ := except_bind_eq_ok_iff.mp inserted
      cases equal
      rcases ih others with ⟨front, other, before, back, rfl, isEqual, rfl⟩ | rfl
      · exact .inl ⟨(known, old) :: front, other, before, back, rfl, isEqual, rfl⟩
      · exact .inr rfl

/-- The keys of entries stay, and only the key of a new entry is added. -/
theorem keys_of_insertEntry {heap : Heap} {key value : Value}
    {entries more : List (Value × Value)}
    (inserted : heap.insertEntry key value entries = .ok more) :
    more.map Prod.fst = entries.map Prod.fst ∨
      more.map Prod.fst = entries.map Prod.fst ++ [key] := by
  rcases insertEntry_cases inserted with ⟨front, known, old, back, rfl, -, rfl⟩ | rfl
  · exact .inl (by simp)
  · exact .inr (by simp)

/-- Entries that are put one after the other keep the keys that are there. -/
theorem mem_keys_insertAll {heap : Heap} {entries more all : List (Value × Value)}
    (inserted : heap.insertAll entries more = .ok all) {key : Value}
    (member : key ∈ entries.map Prod.fst) : key ∈ all.map Prod.fst := by
  induction more generalizing entries with
  | nil =>
    cases inserted
    exact member
  | cons first rest ih =>
    obtain ⟨added, value⟩ := first
    unfold insertAll at inserted
    obtain ⟨between, insertion, inserted⟩ := except_bind_eq_ok_iff.mp inserted
    unfold insert at insertion
    obtain ⟨_, -, insertion⟩ := except_bind_eq_ok_iff.mp insertion
    apply ih inserted
    rcases keys_of_insertEntry insertion with keys | keys
    · rwa [keys]
    · rw [keys]
      exact List.mem_append_left _ member

/-! ## Containers that are kept -/

/-- All containers of a heap are there with the same content. -/
structure Keeps (known heap : Heap) : Prop where
  size_le : known.cells.size ≤ heap.cells.size
  get_eq : ∀ ref, ref < known.cells.size → heap.get ref = known.get ref

namespace Keeps

variable {known heap : Heap}

theorem refl (heap : Heap) : Keeps heap heap := ⟨Nat.le_refl _, fun _ _ => rfl⟩

theorem trans {later : Heap} (first : Keeps known heap) (second : Keeps heap later) :
    Keeps known later :=
  ⟨Nat.le_trans first.size_le second.size_le, fun ref inside =>
    (second.get_eq ref (Nat.lt_of_lt_of_le inside first.size_le)).trans
      (first.get_eq ref inside)⟩

theorem allocate (keeps : Keeps known heap) (cell : Cell) :
    Keeps known (heap.allocate cell).2 := by
  refine ⟨Nat.le_trans keeps.size_le (by simp [Heap.allocate]), fun ref inside => ?_⟩
  rw [← keeps.get_eq ref inside]
  have before : ref < heap.cells.size := Nat.lt_of_lt_of_le inside keeps.size_le
  simp [Heap.allocate, Heap.get, Array.getElem?_push, Nat.ne_of_lt before]

/-- A new container is none of those that are kept. -/
theorem size_le_allocate (keeps : Keeps known heap) (cell : Cell) :
    known.cells.size ≤ (heap.allocate cell).1 :=
  keeps.size_le

theorem set (keeps : Keeps known heap) {ref : Ref} (isNew : known.cells.size ≤ ref)
    (cell : Cell) : Keeps known (heap.set ref cell) := by
  refine ⟨Nat.le_trans keeps.size_le (by simp [Heap.set]), fun other inside => ?_⟩
  rw [Heap.get_set_of_ne _ _ (Nat.ne_of_gt (Nat.lt_of_lt_of_le inside isNew)),
    keeps.get_eq other inside]

theorem items_eq (keeps : Keeps known heap) {ref : Ref} (inside : ref < known.cells.size) :
    heap.items ref = known.items ref := by
  rw [Heap.items, keeps.get_eq ref inside, Heap.items]

end Keeps

end Stencil.Heap

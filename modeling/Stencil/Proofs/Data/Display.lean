import Stencil.Proofs.Data.Distinct
import Stencil.Proofs.Data.Store
import Stencil.Proofs.Value.Display

/-!
# Items that can be shown

An item has a text unless an integer in it has too many digits or it is nested too deeply.
The value of an item never holds itself, since a container is stored behind all that it
holds.
-/

namespace Stencil.Data

open Heap (Keeps)
open Outcome

/-- An integer of too many digits to be shown. -/
def Item.IsLong : Item → Prop
  | .integer amount => (Value.int amount).IsLong
  | _ => False

/-- An item of so many levels holds no integer of too many digits. -/
inductive Item.ShownWithin : Nat → Item → Prop
  | single {levels : Nat} {item : Item} (isSingle : item.IsSingle) (short : ¬item.IsLong) :
      ShownWithin (levels + 1) item
  | list {levels : Nat} {items : List Item} (inner : ∀ item ∈ items, ShownWithin levels item) :
      ShownWithin (levels + 1) (.list items)
  | table {levels : Nat} {entries : Table}
      (inner : ∀ entry ∈ entries, ShownWithin levels entry.2) :
      ShownWithin (levels + 1) (.table entries)

/-- A value can be shown as a literal. -/
private def Shown (heap : Heap) (levels : Nat) (around : List Ref) (value : Value) : Prop :=
  ∃ text, Value.literalWithin heap .none levels around value = .ok text

private theorem exists_bind_pure_iff {α β : Type} {first : Except Fault α} {change : α → β} :
    (∃ result, (first >>= fun value => pure (change value)) = .ok result) ↔
      ∃ value, first = .ok value := by
  cases first <;> simp [bind, Except.bind, pure, Except.pure]

section

variable {heap : Heap} {levels : Nat} {around : List Ref}

private theorem not_shown_zero {value : Value} : ¬Shown heap 0 around value :=
  fun ⟨_, shown⟩ => nomatch shown

private theorem shown_list_iff {ref : Ref} (outside : ref ∉ around) :
    Shown heap (levels + 1) around (.list ref) ↔
      ∀ value ∈ heap.items ref, Shown heap levels (ref :: around) value := by
  have isNew : ¬around.contains ref = true := by simpa using outside
  unfold Shown
  rw [← except_exists_mapM_iff, Value.literalWithin, if_neg isNew]
  exact exists_bind_pure_iff

private theorem shown_dict_iff {ref : Ref} (outside : ref ∉ around) :
    Shown heap (levels + 1) around (.dict ref) ↔
      ∀ entry ∈ heap.entries ref, Shown heap levels (ref :: around) entry.1 ∧
        Shown heap levels (ref :: around) entry.2 := by
  have isNew : ¬around.contains ref = true := by simpa using outside
  have pair (entry : Value × Value) :
      (∃ text, (do
          let key ← Value.literalWithin heap .none levels (ref :: around) entry.1
          let value ← Value.literalWithin heap .none levels (ref :: around) entry.2
          return key ++ (": " : Text) ++ value) = .ok text) ↔
        Shown heap levels (ref :: around) entry.1 ∧
          Shown heap levels (ref :: around) entry.2 := by
    unfold Shown
    cases Value.literalWithin heap .none levels (ref :: around) entry.1 with
    | error fault => simp [bind, Except.bind]
    | ok key => exact exists_bind_pure_iff.trans (by simp)
  refine Iff.trans ?_ (forall₂_congr fun entry _ => pair entry)
  rw [← except_exists_mapM_iff, Shown, Value.literalWithin]
  dsimp only
  rw [if_neg isNew]
  exact exists_bind_pure_iff

theorem Item.shownWithin_list_iff {items : List Item} :
    (Item.list items).ShownWithin (levels + 1) ↔ ∀ item ∈ items, item.ShownWithin levels := by
  refine ⟨fun shown => ?_, .list⟩
  cases shown with
  | single isSingle => exact isSingle.elim
  | list inner => exact inner

theorem Item.shownWithin_table_iff {entries : Table} :
    (Item.table entries).ShownWithin (levels + 1) ↔
      ∀ entry ∈ entries, entry.2.ShownWithin levels := by
  refine ⟨fun shown => ?_, .table⟩
  cases shown with
  | single isSingle => exact isSingle.elim
  | table inner => exact inner

theorem Item.not_shownWithin_zero {item : Item} : ¬item.ShownWithin 0 :=
  fun shown => nomatch shown

/-- A container that is stored is none of those around it. -/
private theorem behind {start : Heap} {cell : Cell}
    (outside : ∀ ref ∈ around, (start.allocate cell).2.cells.size ≤ ref) :
    start.cells.size ∉ around ∧ ∀ ref ∈ start.cells.size :: around, start.cells.size ≤ ref := by
  have one : (start.allocate cell).2.cells.size = start.cells.size + 1 := by
    simp [Heap.allocate]
  constructor
  · intro member
    have further := outside _ member
    omega
  · intro ref member
    rcases List.mem_cons.mp member with rfl | other
    · exact Nat.le_refl _
    · have further := outside ref other
      omega

/-- A container that is stored is found again. -/
private theorem get_behind {start : Heap} {cell : Cell}
    (keeps : Keeps (start.allocate cell).2 heap) : heap.get start.cells.size = cell := by
  rw [keeps.get_eq _ (by simp [Heap.allocate])]
  exact start.get_allocate cell

mutual

private theorem Item.shown_store (item : Item) (start : Heap) (levels : Nat) (around : List Ref)
    (keeps : Keeps (item.store start).2 heap)
    (outside : ∀ ref ∈ around, (item.store start).2.cells.size ≤ ref) :
    Shown heap levels around (item.store start).1 ↔ item.ShownWithin levels := by
  cases levels with
  | zero => exact iff_of_false not_shown_zero Item.not_shownWithin_zero
  | succ levels =>
    cases item with
    | list items =>
      obtain ⟨isNew, inside⟩ := behind outside
      have inner := ((Keeps.refl (storeItems start items).2).allocate _).trans keeps
      have stored : heap.items (storeItems start items).2.cells.size =
          (storeItems start items).1 := by
        rw [Heap.items, get_behind keeps]
      rw [Item.shownWithin_list_iff, ← shown_storeItems items start levels _ inner inside,
        ← stored]
      exact shown_list_iff isNew
    | table entries =>
      obtain ⟨isNew, inside⟩ := behind outside
      have inner := ((Keeps.refl (storeEntries start entries).2).allocate _).trans keeps
      have stored : heap.entries (storeEntries start entries).2.cells.size =
          (storeEntries start entries).1 := by
        rw [Heap.entries, get_behind keeps]
      rw [Item.shownWithin_table_iff, ← shown_storeEntries entries start levels _ inner inside,
        ← stored]
      exact shown_dict_iff isNew
    | integer amount =>
      have shown : Shown heap (levels + 1) around (.int amount) ↔ ¬(Value.int amount).IsLong := by
        show (∃ text, Value.integerDisplay amount = .ok text) ↔ _
        cases displayed : Value.integerDisplay amount with
        | ok text =>
          refine iff_of_true ⟨text, rfl⟩ fun long => ?_
          rw [Value.integerDisplay_eq_error_iff.mpr ⟨long, rfl⟩] at displayed
          cases displayed
        | error fault =>
          have long := (Value.integerDisplay_eq_error_iff.mp displayed).1
          exact iff_of_false (fun ⟨_, found⟩ => nomatch found) fun short => short long
      refine shown.trans ⟨fun short => .single trivial short, fun within => ?_⟩
      cases within with
      | single _ short => exact short
    | _ => exact iff_of_true ⟨_, rfl⟩ (.single trivial id)
termination_by sizeOf item

private theorem shown_storeItems (items : List Item) (start : Heap) (levels : Nat)
    (around : List Ref) (keeps : Keeps (storeItems start items).2 heap)
    (outside : ∀ ref ∈ around, (storeItems start items).2.cells.size ≤ ref) :
    (∀ value ∈ (storeItems start items).1, Shown heap levels around value) ↔
      ∀ item ∈ items, item.ShownWithin levels := by
  cases items with
  | nil => exact iff_of_true (fun _ member => nomatch member) fun _ member => nomatch member
  | cons item items =>
    have between := keeps_storeItems (Keeps.refl (item.store start).2) items
    have here := Item.shown_store item start levels around (between.trans keeps)
      fun ref member => Nat.le_trans between.size_le (outside ref member)
    have others := shown_storeItems items (item.store start).2 levels around keeps outside
    rw [List.forall_mem_cons, ← here, ← others]
    exact List.forall_mem_cons
termination_by sizeOf items

private theorem shown_storeEntries (entries : List (String × Item)) (start : Heap)
    (levels : Nat) (around : List Ref) (keeps : Keeps (storeEntries start entries).2 heap)
    (outside : ∀ ref ∈ around, (storeEntries start entries).2.cells.size ≤ ref) :
    (∀ entry ∈ (storeEntries start entries).1,
        Shown heap levels around entry.1 ∧ Shown heap levels around entry.2) ↔
      ∀ entry ∈ entries, entry.2.ShownWithin levels := by
  match entries, keeps, outside with
  | [], _, _ => exact iff_of_true (fun _ member => nomatch member) fun _ member => nomatch member
  | (key, item) :: entries, keeps, outside =>
    have between := keeps_storeEntries (Keeps.refl (item.store start).2) entries
    have here := Item.shown_store item start levels around (between.trans keeps)
      fun ref member => Nat.le_trans between.size_le (outside ref member)
    have others := shown_storeEntries entries (item.store start).2 levels around keeps outside
    rw [List.forall_mem_cons, ← here, ← others]
    refine List.forall_mem_cons.trans (and_congr (and_iff_right_of_imp fun shown => ?_) Iff.rfl)
    cases levels with
    | zero => exact absurd shown not_shown_zero
    | succ levels => exact ⟨_, rfl⟩
termination_by sizeOf entries

end

end

theorem Item.shownWithin_of_single {item : Item} (isSingle : item.IsSingle)
    (short : ¬item.IsLong) : item.ShownWithin nestingLimit := by
  have some : nestingLimit = (nestingLimit - 1) + 1 := rfl
  rw [some]
  exact .single isSingle short

/-- An item has a text exactly if no integer in it is too long and it is not nested too deeply. -/
theorem Item.exists_plain_iff {item : Item} :
    (∃ text, item.plain = .ok text) ↔ item.ShownWithin nestingLimit := by
  have literal := Item.shown_store item {} nestingLimit [] (Keeps.refl _)
    fun _ member => nomatch member
  cases item with
  | text content => exact iff_of_true ⟨_, rfl⟩ (shownWithin_of_single trivial id)
  | date day => exact iff_of_true ⟨_, rfl⟩ (shownWithin_of_single trivial id)
  | time clock => exact iff_of_true ⟨_, rfl⟩ (shownWithin_of_single trivial id)
  | moment instant => exact iff_of_true ⟨_, rfl⟩ (shownWithin_of_single trivial id)
  | _ => exact literal

/-- An item without a text is too long or too deep. -/
theorem Item.failsOnly_plain (item : Item) : FailsOnly Fault.OfDisplay item.plain := by
  cases item with
  | text content => exact .ok _
  | date day => exact .ok _
  | time clock => exact .ok _
  | moment instant => exact .ok _
  | _ => exact Value.failsOnly_literalWithin _ _ _ _

end Stencil.Data

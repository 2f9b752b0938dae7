import Stencil.Data.Item
import Stencil.Proofs.Heap

/-!
# Items that are stored

To store an item only adds containers to a heap.  Only a table becomes a mapping.
-/

namespace Stencil.Data

open Heap (Keeps)

mutual

theorem Item.keeps_store {known heap : Heap} (keeps : Keeps known heap) (item : Item) :
    Keeps known (item.store heap).2 := by
  cases item with
  | list items => exact (keeps_storeItems keeps items).allocate _
  | table entries => exact (keeps_storeEntries keeps entries).allocate _
  | _ => exact keeps
termination_by sizeOf item

theorem keeps_storeItems {known heap : Heap} (keeps : Keeps known heap) (items : List Item) :
    Keeps known (storeItems heap items).2 := by
  cases items with
  | nil => exact keeps
  | cons item items => exact keeps_storeItems (Item.keeps_store keeps item) items
termination_by sizeOf items

theorem keeps_storeEntries {known heap : Heap} (keeps : Keeps known heap)
    (entries : List (String × Item)) : Keeps known (storeEntries heap entries).2 := by
  cases entries with
  | nil => exact keeps
  | cons entry entries =>
    rcases entry with ⟨key, item⟩
    exact keeps_storeEntries (Item.keeps_store keeps item) entries
termination_by sizeOf entries

end

/-- A table becomes a mapping of its stored entries. -/
theorem Item.store_table (heap : Heap) (entries : Table) :
    ∃ ref, ((Item.table entries).store heap).1 = .dict ref ∧
      ref < ((Item.table entries).store heap).2.cells.size ∧
      ((Item.table entries).store heap).2.get ref = .dict (storeEntries heap entries).1 := by
  refine ⟨(storeEntries heap entries).2.cells.size, rfl, ?_, ?_⟩
  · show _ < ((storeEntries heap entries).2.cells.push _).size
    rw [Array.size_push]
    exact Nat.lt_succ_self _
  · exact (storeEntries heap entries).2.get_allocate (.dict (storeEntries heap entries).1)

/-- Nothing but a table becomes a mapping. -/
theorem Item.exists_table_of_store {heap : Heap} {item : Item} {ref : Ref}
    (stored : (item.store heap).1 = .dict ref) : ∃ entries, item = .table entries := by
  cases item with
  | table entries => exact ⟨entries, rfl⟩
  | _ => cases stored

end Stencil.Data

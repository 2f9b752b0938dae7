import Mathlib.Data.List.Nodup
import Stencil.Data.Item

/-!
# Tables without repeated names

What readers of written data give has no table with a name twice, at whatever depth.
-/

namespace Stencil.Data

/-- Neither a list nor a table. -/
def Item.IsSingle : Item → Prop
  | .list _ => False
  | .table _ => False
  | _ => True

/-- No table in an item has a name twice. -/
inductive Item.Distinct : Item → Prop
  | single {item : Item} (isSingle : item.IsSingle) : item.Distinct
  | list {items : List Item} (inner : ∀ item ∈ items, item.Distinct) :
      (Item.list items).Distinct
  | table {entries : Table} (nodup : (entries.map Prod.fst).Nodup)
      (inner : ∀ entry ∈ entries, entry.2.Distinct) : (Item.table entries).Distinct

/-- Neither a table nor a table in its items has a name twice. -/
structure Table.Distinct (table : Table) : Prop where
  nodup : (table.map Prod.fst).Nodup
  inner : ∀ entry ∈ table, entry.2.Distinct

theorem Item.Distinct.of_list {items : List Item} (distinct : (Item.list items).Distinct) :
    ∀ item ∈ items, item.Distinct := by
  cases distinct with
  | single isSingle => exact isSingle.elim
  | list inner => exact inner

theorem Item.Distinct.of_table {entries : Table} (distinct : (Item.table entries).Distinct) :
    entries.Distinct := by
  cases distinct with
  | single isSingle => exact isSingle.elim
  | table nodup inner => exact ⟨nodup, inner⟩

namespace Table.Distinct

variable {table : Table} {name : String} {added : Item}

theorem item (distinct : table.Distinct) : (Item.table table).Distinct :=
  .table distinct.nodup distinct.inner

theorem nil : Table.Distinct [] :=
  ⟨List.nodup_nil, fun _ member => nomatch member⟩

theorem of_lookup (distinct : table.Distinct) (found : table.lookup name = some added) :
    added.Distinct := by
  rcases List.lookup_eq_some_iff.mp found with ⟨front, back, rfl, -⟩
  exact distinct.inner (name, added) (List.mem_append_right _ (List.mem_cons_self ..))

/-- A new name is added at the end. -/
theorem append (distinct : table.Distinct) (absent : table.lookup name = none)
    (isDistinct : added.Distinct) : Table.Distinct (table ++ [(name, added)]) where
  nodup := by
    have new : name ∉ table.map Prod.fst := by
      intro inside
      rcases List.mem_map.mp inside with ⟨entry, member, rfl⟩
      have differs := List.lookup_eq_none_iff.mp absent entry member
      simp at differs
    rw [List.map_append, List.map_singleton]
    apply List.nodup_append.mpr
    refine ⟨distinct.nodup, List.nodup_singleton _, fun known member other isNew same => ?_⟩
    rw [same, List.mem_singleton.mp isNew] at member
    exact new member
  inner := by
    intro entry member
    rcases List.mem_append.mp member with old | new
    · exact distinct.inner entry old
    · rw [List.mem_singleton.mp new]
      exact isDistinct

theorem filter (distinct : table.Distinct) (keep : String × Item → Bool) :
    Table.Distinct (table.filter keep) where
  nodup := distinct.nodup.sublist ((List.filter_sublist ..).map Prod.fst)
  inner := fun entry member => distinct.inner entry (List.mem_of_mem_filter member)

end Table.Distinct

end Stencil.Data

import Stencil.Json.Reader
import Stencil.Proofs.Data.Distinct
import Stencil.Proofs.Entries

/-!
# Names in JSON

Of two entries with one key the later one takes the place of the earlier one, so no table
that is read has a name twice.
-/

namespace Stencil.Json

open Data (Item Table)

theorem putEntry_eq (key : String) (item : Item) (table : Table) :
    putEntry key item table = Entries.put key item table := by
  induction table with
  | nil => rfl
  | cons first rest ih => rw [putEntry, Entries.put, ih]

theorem distinct_putEntry {item : Item} {table : Table} (key : String)
    (distinct : table.Distinct) (isDistinct : item.Distinct) :
    Table.Distinct (putEntry key item table) where
  nodup := by
    rw [putEntry_eq]
    exact Entries.nodup_put distinct.nodup key item
  inner := by
    have inner := distinct.inner
    clear distinct
    induction table with
    | nil =>
      intro entry member
      rw [List.mem_singleton.mp member]
      exact isDistinct
    | cons first rest ih =>
      rcases first with ⟨known, old⟩
      rcases List.forall_mem_cons.mp inner with ⟨here, others⟩
      unfold putEntry
      split
      · exact List.forall_mem_cons.mpr ⟨isDistinct, others⟩
      · exact List.forall_mem_cons.mpr ⟨here, ih others⟩

theorem isSingle_of_readWord {characters rest : List Char} {item : Item}
    (read : readWord characters = some (item, rest)) : item.IsSingle := by
  unfold readWord at read
  rcases List.exists_of_findSome?_eq_some read with ⟨⟨word, found⟩, member, after⟩
  rcases Option.map_eq_some_iff.mp after with ⟨left, -, same⟩
  cases same
  have all : ∀ entry ∈ words, entry.2.IsSingle := by
    simp [words, Item.IsSingle]
  exact all _ member

theorem isSingle_of_readNumber {characters rest : List Char} {item : Item}
    (read : readNumber characters = some (item, rest)) : item.IsSingle := by
  unfold readNumber at read
  simp only [Option.bind_eq_bind, Option.bind_eq_some_iff] at read
  rcases read with ⟨_, -, read⟩
  split at read
  · split at read <;> cases read
    trivial
  · rcases Option.bind_eq_some_iff.mp read with ⟨_, -, same⟩
    cases same
    trivial

/-- What is read with some fuel has no table with a name twice. -/
private def ReadsDistinct (fuel : Nat) : Prop :=
  (∀ characters item rest, readItem fuel characters = some (item, rest) → item.Distinct) ∧
    (∀ characters items rest, readItems fuel characters = some (items, rest) →
      ∀ item ∈ items, item.Distinct) ∧
    ∀ table characters after rest, Table.Distinct table →
      readEntries fuel table characters = some (after, rest) → Table.Distinct after

private theorem distinct_of_item {fuel : Nat} {characters rest : List Char} {item : Item}
    (within : ReadsDistinct fuel) (read : readItem (fuel + 1) characters = some (item, rest)) :
    item.Distinct := by
  rcases within with ⟨-, ofItems, ofEntries⟩
  unfold readItem at read
  split at read
  · rcases Option.bind_eq_some_iff.mp read with ⟨_, -, same⟩
    cases same
    exact .single trivial
  · split at read
    · cases read
      exact .list fun item member => nomatch member
    · rcases Option.map_eq_some_iff.mp read with ⟨⟨items, left⟩, inner, same⟩
      cases same
      exact .list (ofItems _ _ _ inner)
  · split at read
    · cases read
      exact Table.Distinct.nil.item
    · rcases Option.map_eq_some_iff.mp read with ⟨⟨entries, left⟩, inner, same⟩
      cases same
      exact (ofEntries _ _ _ _ .nil inner).item
  · cases word : readWord characters with
    | some result =>
      rw [word] at read
      cases read
      exact .single (isSingle_of_readWord word)
    | none =>
      rw [word] at read
      exact .single (isSingle_of_readNumber read)

private theorem distinct_of_items {fuel : Nat} {characters rest : List Char} {items : List Item}
    (within : ReadsDistinct fuel) (read : readItems (fuel + 1) characters = some (items, rest)) :
    ∀ item ∈ items, item.Distinct := by
  rcases within with ⟨ofItem, ofItems, -⟩
  unfold readItems at read
  rcases Option.bind_eq_some_iff.mp read with ⟨⟨first, left⟩, one, read⟩
  have isDistinct := ofItem _ _ _ one
  dsimp only at read
  split at read
  · cases read
    intro item member
    rw [List.mem_singleton.mp member]
    exact isDistinct
  · rcases Option.bind_eq_some_iff.mp read with ⟨⟨others, _⟩, more, same⟩
    cases same
    exact List.forall_mem_cons.mpr ⟨isDistinct, ofItems _ _ _ more⟩
  · cases read

private theorem distinct_of_entries {fuel : Nat} {table after : Table}
    {characters rest : List Char} (within : ReadsDistinct fuel) (distinct : table.Distinct)
    (read : readEntries (fuel + 1) table characters = some (after, rest)) :
    Table.Distinct after := by
  rcases within with ⟨ofItem, -, ofEntries⟩
  unfold readEntries at read
  split at read
  · rcases Option.bind_eq_some_iff.mp read with ⟨⟨key, left⟩, -, read⟩
    dsimp only at read
    split at read
    · rcases Option.bind_eq_some_iff.mp read with ⟨⟨item, behind⟩, one, read⟩
      have stays := distinct_putEntry key.string distinct (ofItem _ _ _ one)
      dsimp only at read
      split at read
      · cases read
        exact stays
      · exact ofEntries _ _ _ _ stays read
      · cases read
    · cases read
  · cases read

private theorem readsDistinct (fuel : Nat) : ReadsDistinct fuel := by
  induction fuel with
  | zero =>
    refine ⟨?_, ?_, ?_⟩
    · intro characters item rest read
      unfold readItem at read
      cases read
    · intro characters items rest read
      unfold readItems at read
      cases read
    · intro table characters after rest _ read
      unfold readEntries at read
      cases read
  | succ fuel ih =>
    exact ⟨fun _ _ _ => distinct_of_item ih, fun _ _ _ => distinct_of_items ih,
      fun _ _ _ _ => distinct_of_entries ih⟩

/-- A text that is read has no table with a name twice. -/
theorem distinct_of_read? {characters : List Char} {item : Item}
    (read : read? characters = some item) : item.Distinct := by
  unfold read? at read
  rcases Option.bind_eq_some_iff.mp read with ⟨⟨found, rest⟩, one, read⟩
  dsimp only at read
  split at read <;> cases read
  exact (readsDistinct _).1 _ _ _ one

end Stencil.Json

import Stencil.Proofs.Data.Distinct
import Stencil.Proofs.Outcome
import Stencil.Toml.Document

/-!
# Names in documents

A statement only adds an item under a new name, adds to a table that is there, or adds a
table to a list, so no table of a document has a name twice.
-/

namespace Stencil.Toml

open Data (Item Table)
open Outcome

/-! ## Changes of tables -/

theorem keys_replace (name : String) (item : Item) (table : Table) :
    (replace name item table).map Prod.fst = table.map Prod.fst := by
  induction table with
  | nil => rfl
  | cons first rest ih =>
    rcases first with ⟨known, old⟩
    unfold replace
    split
    · rfl
    · exact congrArg (known :: ·) ih

theorem distinct_replace {name : String} {item : Item} {table : Table}
    (distinct : table.Distinct) (isDistinct : item.Distinct) :
    Table.Distinct (replace name item table) where
  nodup := by
    rw [keys_replace]
    exact distinct.nodup
  inner := by
    have inner := distinct.inner
    clear distinct
    induction table with
    | nil => exact inner
    | cons first rest ih =>
      rcases first with ⟨known, old⟩
      rcases List.forall_mem_cons.mp inner with ⟨here, others⟩
      unfold replace
      split
      · exact List.forall_mem_cons.mpr ⟨isDistinct, others⟩
      · exact List.forall_mem_cons.mpr ⟨here, ih others⟩

/-- Tables stay without repeated names under a change. -/
def Respects (change : Table → Except Fault Table) : Prop :=
  ∀ table after, table.Distinct → change table = .ok after → after.Distinct

theorem respects_ok : Respects .ok := by
  intro table after distinct changed
  cases changed
  exact distinct

theorem respects_addNew {name : String} {item : Item} (isDistinct : item.Distinct) :
    Respects (addNew name item) := by
  intro table after distinct changed
  unfold addNew at changed
  cases found : table.lookup name with
  | some known =>
    rw [found] at changed
    cases changed
  | none =>
    rw [found] at changed
    cases changed
    exact distinct.append found isDistinct

theorem respects_addToList (name : String) : Respects (addToList name) := by
  intro table after distinct changed
  unfold addToList at changed
  have fresh : (Item.table []).Distinct := Table.Distinct.nil.item
  cases found : table.lookup name with
  | none =>
    rw [found] at changed
    cases changed
    apply distinct.append found
    apply Item.Distinct.list
    intro item member
    rw [List.mem_singleton.mp member]
    exact fresh
  | some known =>
    rw [found] at changed
    cases known with
    | list items =>
      cases changed
      apply distinct_replace distinct
      apply Item.Distinct.list
      intro item member
      rcases List.mem_append.mp member with old | new
      · exact (distinct.of_lookup found).of_list item old
      · rw [List.mem_singleton.mp new]
        exact fresh
    | _ => cases changed

/-- A change somewhere inside a table is one of the table. -/
theorem respects_within {entersLists : Bool} {change : Table → Except Fault Table}
    (respects : Respects change) (key : Key) :
    Respects (within entersLists change key) := by
  induction key with
  | nil => exact respects
  | cons name names ih =>
    intro table after distinct changed
    unfold within at changed
    cases found : table.lookup name with
    | none =>
      rw [found] at changed
      rcases except_bind_eq_ok_iff.mp changed with ⟨inner, made, same⟩
      cases same
      exact distinct.append found (ih [] inner .nil made).item
    | some known =>
      rw [found] at changed
      have knownDistinct := distinct.of_lookup found
      cases known with
      | table inner =>
        rcases except_bind_eq_ok_iff.mp changed with ⟨changedInner, made, same⟩
        cases same
        exact distinct_replace distinct (ih inner changedInner knownDistinct.of_table made).item
      | list items =>
        cases entersLists with
        | false => cases changed
        | true =>
          have each := knownDistinct.of_list
          simp only [if_true] at changed
          split at changed
          · next inner last =>
            rcases except_bind_eq_ok_iff.mp changed with ⟨changedInner, made, same⟩
            cases same
            have lastDistinct := each _ (List.mem_of_getLast? last)
            apply distinct_replace distinct
            apply Item.Distinct.list
            intro item member
            rcases List.mem_append.mp member with old | new
            · exact each item (List.dropLast_subset items old)
            · rw [List.mem_singleton.mp new]
              exact (ih inner changedInner lastDistinct.of_table made).item
          · cases changed
      | _ => cases changed

/-! ## Items that are read -/

section Scalars

variable {characters rest : List Char} {item : Item}

theorem isSingle_of_readFlag? (read : readFlag? characters = some (item, rest)) :
    item.IsSingle := by
  unfold readFlag? at read
  split at read <;> cases read <;> trivial

theorem isSingle_of_readDate? (read : readDate? characters = some (.ok (item, rest))) :
    item.IsSingle := by
  unfold readDate? at read
  simp only [Option.bind_eq_bind, Option.bind_eq_some_iff] at read
  rcases read with ⟨_, -, _, -, _, -, _, -, _, -, read⟩
  split at read
  · cases read
  · split at read <;> cases read <;> trivial

theorem isSingle_of_readNumber? (read : readNumber? characters = some (.ok (item, rest))) :
    item.IsSingle := by
  unfold readNumber? at read
  split at read
  · cases read
    trivial
  · unfold readDecimal? at read
    simp only [Option.bind_eq_bind, Option.bind_eq_some_iff] at read
    rcases read with ⟨_, -, read⟩
    split at read <;> split at read <;> cases read <;> trivial

theorem isSingle_of_readSpecial? (read : readSpecial? characters = some (item, rest)) :
    item.IsSingle := by
  unfold readSpecial? at read
  dsimp only at read
  split at read <;> cases read <;> trivial

theorem isSingle_of_readScalar (read : readScalar characters = .ok (item, rest)) :
    item.IsSingle := by
  unfold readScalar at read
  split at read
  · next reading _ =>
    cases reading with
    | error fault => cases read
    | ok result =>
      cases read
      trivial
  · split at read
    · next result flag =>
      cases read
      exact isSingle_of_readFlag? flag
    · split at read
      · next reading date =>
        rw [read] at date
        exact isSingle_of_readDate? date
      · split at read
        · cases read
          trivial
        · split at read
          · next reading number =>
            rw [read] at number
            exact isSingle_of_readNumber? number
          · split at read
            · next result special =>
              cases read
              exact isSingle_of_readSpecial? special
            · cases read

end Scalars

/-- What is read with some fuel has no table with a name twice. -/
private def ReadsDistinct (fuel : Nat) : Prop :=
  (∀ characters item rest, readItem fuel characters = .ok (item, rest) → item.Distinct) ∧
    (∀ characters items rest, readItems fuel characters = .ok (items, rest) →
      ∀ item ∈ items, item.Distinct) ∧
    ∀ closed table characters after rest, Table.Distinct table →
      readEntries fuel closed table characters = .ok (after, rest) → Table.Distinct after

private theorem distinct_of_item {fuel : Nat} {characters rest : List Char} {item : Item}
    (within : ReadsDistinct fuel) (read : readItem (fuel + 1) characters = .ok (item, rest)) :
    item.Distinct := by
  rcases within with ⟨-, ofItems, ofEntries⟩
  unfold readItem at read
  split at read
  · rcases except_bind_eq_ok_iff.mp read with ⟨between, -, read⟩
    split at read
    · cases read
      exact .list fun item member => nomatch member
    · rcases except_bind_eq_ok_iff.mp read with ⟨⟨items, left⟩, inner, read⟩
      cases read
      exact .list (ofItems _ _ _ inner)
  · split at read
    · cases read
      exact Table.Distinct.nil.item
    · next front _ _ =>
      cases inner : readEntries fuel [] [] (skipSpaces front) with
      | error fault =>
        rw [inner] at read
        cases read
      | ok result =>
        rw [inner] at read
        cases read
        exact (ofEntries _ _ _ _ _ .nil inner).item
  · exact .single (isSingle_of_readScalar read)

private theorem distinct_of_items {fuel : Nat} {characters rest : List Char} {items : List Item}
    (within : ReadsDistinct fuel) (read : readItems (fuel + 1) characters = .ok (items, rest)) :
    ∀ item ∈ items, item.Distinct := by
  rcases within with ⟨ofItem, ofItems, -⟩
  unfold readItems at read
  rcases except_bind_eq_ok_iff.mp read with ⟨⟨first, left⟩, one, read⟩
  have isDistinct := ofItem _ _ _ one
  rcases except_bind_eq_ok_iff.mp read with ⟨between, -, read⟩
  have single : ∀ item ∈ [first], item.Distinct := by
    intro item member
    rw [List.mem_singleton.mp member]
    exact isDistinct
  split at read
  · cases read
    exact single
  · rcases except_bind_eq_ok_iff.mp read with ⟨further, -, read⟩
    split at read
    · cases read
      exact single
    · rcases except_bind_eq_ok_iff.mp read with ⟨⟨others, _⟩, more, read⟩
      cases read
      exact List.forall_mem_cons.mpr ⟨isDistinct, ofItems _ _ _ more⟩
  · cases read

private theorem distinct_of_entries {fuel : Nat} {closed : List Key}
    {table after : Table} {characters rest : List Char} (within : ReadsDistinct fuel)
    (distinct : table.Distinct)
    (read : readEntries (fuel + 1) closed table characters = .ok (after, rest)) :
    Table.Distinct after := by
  rcases within with ⟨ofItem, -, ofEntries⟩
  unfold readEntries at read
  rcases except_bind_eq_ok_iff.mp read with ⟨⟨key, left⟩, -, read⟩
  dsimp only at read
  split at read
  · rcases except_bind_eq_ok_iff.mp read with ⟨⟨item, behind⟩, one, read⟩
    dsimp only at read
    split at read
    · cases read
    · rcases except_bind_eq_ok_iff.mp read with ⟨added, change, read⟩
      have stays := respects_within (respects_addNew (ofItem _ _ _ one)) key.dropLast table
        added distinct change
      split at read
      · cases read
        exact stays
      · exact ofEntries _ _ _ _ _ stays read
      · cases read
  · cases read

private theorem readsDistinct (fuel : Nat) : ReadsDistinct fuel := by
  induction fuel with
  | zero =>
    refine ⟨?_, ?_, ?_⟩
    · intro characters item rest read
      unfold readItem at read
      cases read
    · intro characters items rest read
      unfold readItems at read
      cases read
    · intro closed table characters after rest _ read
      unfold readEntries at read
      cases read
  | succ fuel ih =>
    exact ⟨fun _ _ _ => distinct_of_item ih, fun _ _ _ => distinct_of_items ih,
      fun _ _ _ _ _ => distinct_of_entries ih⟩

theorem distinct_of_readItem {fuel : Nat} {characters rest : List Char} {item : Item}
    (read : readItem fuel characters = .ok (item, rest)) : item.Distinct :=
  (readsDistinct fuel).1 characters item rest read

/-! ## Documents that are read -/

namespace Document

variable {document after : Document} {characters rest : List Char}

theorem distinct_of_addItem {key : Key} {item : Item} (distinct : document.data.Distinct)
    (isDistinct : item.Distinct) (added : document.addItem key item = .ok after) :
    after.data.Distinct := by
  unfold addItem at added
  dsimp only at added
  split at added
  · cases added
  · split at added
    · cases added
    · rcases except_bind_eq_ok_iff.mp added with ⟨data, change, same⟩
      cases same
      exact respects_within (respects_addNew isDistinct) _ _ _ distinct change

theorem distinct_of_openTable {key : Key} (distinct : document.data.Distinct)
    (opened : document.openTable key = .ok after) : after.data.Distinct := by
  unfold openTable at opened
  dsimp only at opened
  split at opened
  · cases opened
  · rcases except_bind_eq_ok_iff.mp opened with ⟨data, change, same⟩
    cases same
    exact respects_within respects_ok _ _ _ distinct change

theorem distinct_of_openListed {key : Key} (distinct : document.data.Distinct)
    (opened : document.openListed key = .ok after) : after.data.Distinct := by
  unfold openListed at opened
  dsimp only at opened
  split at opened
  · cases opened
  · rcases except_bind_eq_ok_iff.mp opened with ⟨data, change, same⟩
    cases same
    exact respects_within (respects_addToList _) _ _ _ distinct change

/-- A statement leaves a document without repeated names. -/
theorem distinct_of_readStatement (distinct : document.data.Distinct)
    (read : document.readStatement characters = .ok (after, rest)) : after.data.Distinct := by
  have ended : document.endTable.data.Distinct := distinct
  unfold readStatement at read
  split at read
  · simp only [except_bind_eq_ok_iff] at read
    rcases read with ⟨⟨key, left⟩, -, opened, opening, read⟩
    have stays := distinct_of_openListed ended opening
    split at read <;> cases read
    exact stays
  · simp only [except_bind_eq_ok_iff] at read
    rcases read with ⟨⟨key, left⟩, -, opened, opening, read⟩
    have stays := distinct_of_openTable ended opening
    split at read <;> cases read
    exact stays
  · cases read
    exact distinct
  · rcases except_bind_eq_ok_iff.mp read with ⟨⟨key, left⟩, -, read⟩
    dsimp only at read
    split at read
    · simp only [except_bind_eq_ok_iff] at read
      rcases read with ⟨⟨item, behind⟩, one, added, adding, same⟩
      cases same
      exact distinct_of_addItem distinct (distinct_of_readItem one) adding
    · cases read

theorem distinct_of_readStatements {fuel : Nat} (distinct : document.data.Distinct)
    (read : readStatements fuel document characters = .ok after) : after.data.Distinct := by
  induction fuel generalizing document characters with
  | zero => cases read
  | succ fuel ih =>
    unfold readStatements at read
    split at read
    · cases read
      exact distinct
    · exact ih distinct read
    · rcases except_bind_eq_ok_iff.mp read with ⟨⟨next, left⟩, statement, read⟩
      have stays := distinct_of_readStatement distinct statement
      rcases except_bind_eq_ok_iff.mp read with ⟨behind, -, read⟩
      split at read
      · cases read
        exact stays
      · exact ih stays read
      · cases read

end Document

/-- A document that is read has no table with a name twice. -/
theorem distinct_of_read {characters : List Char} {table : Table}
    (given : read characters = .ok table) : table.Distinct := by
  unfold read at given
  rcases except_bind_eq_ok_iff.mp given with ⟨document, statements, same⟩
  cases same
  exact Document.distinct_of_readStatements .nil statements

end Stencil.Toml

import Mathlib.Data.List.Nodup

/-!
# Entries under keys

Tables of readers, settings and data models put entries one after the other: a known key
keeps its place and is given the new value, another one is added at the end.  Where every key
stands once, it still does, and each key has the value that was put last.
-/

namespace Stencil.Entries

variable {α β : Type} {key other : α} {value : β} {entries : List (α × β)}

/-- Where every key stands once, a key has at most one entry. -/
theorem eq_of_keys_eq (nodup : (entries.map Prod.fst).Nodup)
    (same : ∀ entry ∈ entries, entry.1 = key) :
    entries = [] ∨ ∃ value, entries = [(key, value)] := by
  cases entries with
  | nil => exact .inl rfl
  | cons first rest =>
    rcases first with ⟨known, value⟩
    rcases List.forall_mem_cons.mp same with ⟨rfl, others⟩
    rcases List.nodup_cons.mp nodup with ⟨new, -⟩
    cases rest with
    | nil => exact .inr ⟨value, rfl⟩
    | cons second rest =>
      have again := others second (List.mem_cons_self ..)
      exact absurd (List.mem_map.mpr ⟨second, List.mem_cons_self .., again⟩) new

section Found

variable [BEq α] [LawfulBEq α]

theorem lookup_eq_none (absent : key ∉ entries.map Prod.fst) :
    entries.lookup key = none := by
  rw [List.lookup_eq_none_iff]
  intro entry member
  apply bne_iff_ne.mpr
  rintro rfl
  exact absent (List.mem_map_of_mem member)

/-- Where every key stands once, an entry is what is found under its key. -/
theorem lookup_of_mem (nodup : (entries.map Prod.fst).Nodup)
    (member : (key, value) ∈ entries) :
    entries.lookup key = some value := by
  induction entries with
  | nil => cases member
  | cons first rest ih =>
    rcases first with ⟨known, old⟩
    rcases List.nodup_cons.mp nodup with ⟨new, others⟩
    rcases List.mem_cons.mp member with same | later
    · cases same
      simp
    · have distinct : key ≠ known := by
        rintro rfl
        exact new (List.mem_map.mpr ⟨(key, value), later, rfl⟩)
      rw [List.lookup_cons, beq_eq_false_iff_ne.mpr distinct]
      exact ih others later

end Found

variable [DecidableEq α]

/-- Entries with a value under a key; a known key keeps its place. -/
def put (key : α) (value : β) : List (α × β) → List (α × β)
  | [] => [(key, value)]
  | (known, old) :: rest =>
    if known = key then (known, value) :: rest else (known, old) :: put key value rest

/-- Entries that are put one after the other. -/
def putAll (entries : List (α × β)) : List (α × β) → List (α × β)
  | [] => entries
  | (key, value) :: more => putAll (put key value entries) more

/-- The last value that entries give a key. -/
def last? (key : α) : List (α × β) → Option β
  | [] => none
  | (known, value) :: rest => (last? key rest).or (if known = key then some value else none)

theorem mem_of_last? (found : last? key entries = some value) : (key, value) ∈ entries := by
  induction entries with
  | nil => cases found
  | cons first rest ih =>
    rcases first with ⟨known, old⟩
    rw [last?] at found
    cases later : last? key rest with
    | some last =>
      rw [later] at found
      cases found
      exact List.mem_cons_of_mem _ (ih later)
    | none =>
      rw [later, Option.none_or] at found
      split at found
      · next same =>
        cases same
        cases found
        exact List.mem_cons_self ..
      · cases found

theorem lookup_put [BEq α] [LawfulBEq α] (key other : α) (value : β) (entries : List (α × β)) :
    (put key value entries).lookup other =
      if other = key then some value else entries.lookup other := by
  induction entries with
  | nil =>
    by_cases wanted : other = key
    · simp [put, wanted]
    · simp [put, List.lookup_cons, wanted, beq_eq_false_iff_ne.mpr wanted]
  | cons first rest ih =>
    rcases first with ⟨known, old⟩
    by_cases same : known = key
    · subst same
      by_cases wanted : other = known
      · simp [put, wanted]
      · simp [put, List.lookup_cons, wanted, beq_eq_false_iff_ne.mpr wanted]
    · by_cases found : other = known
      · subst found
        simp [put, same]
      · simp [put, same, List.lookup_cons, beq_eq_false_iff_ne.mpr found, ih]

/-- The entry that is put last wins over the ones before it. -/
theorem lookup_putAll [BEq α] [LawfulBEq α] (other : α) (entries more : List (α × β)) :
    (putAll entries more).lookup other = (last? other more).or (entries.lookup other) := by
  induction more generalizing entries with
  | nil => rfl
  | cons first rest ih =>
    rcases first with ⟨key, value⟩
    rw [putAll, ih, lookup_put, last?, Option.or_assoc]
    by_cases same : key = other
    · simp [same]
    · simp [same, Ne.symm same]

theorem mem_keys_put :
    other ∈ (put key value entries).map Prod.fst ↔
      other = key ∨ other ∈ entries.map Prod.fst := by
  induction entries with
  | nil => simp [put]
  | cons first rest ih =>
    rcases first with ⟨known, old⟩
    by_cases same : known = key
    · simp [put, same]
    · simp only [put, same, if_false, List.map_cons, List.mem_cons, ih]
      exact or_left_comm

theorem mem_keys_putAll {more : List (α × β)} :
    other ∈ (putAll entries more).map Prod.fst ↔
      other ∈ entries.map Prod.fst ∨ other ∈ more.map Prod.fst := by
  induction more generalizing entries with
  | nil => simp [putAll]
  | cons first rest ih =>
    rcases first with ⟨key, value⟩
    rw [putAll, ih, mem_keys_put, List.map_cons, List.mem_cons]
    tauto

theorem mem_of_mem_put {entry : α × β} (member : entry ∈ put key value entries) :
    entry = (key, value) ∨ entry ∈ entries := by
  induction entries with
  | nil => exact .inl (List.mem_singleton.mp member)
  | cons first rest ih =>
    rcases first with ⟨known, old⟩
    unfold put at member
    split at member
    · next same =>
      subst same
      rcases List.mem_cons.mp member with here | further
      · exact .inl here
      · exact .inr (List.mem_cons_of_mem _ further)
    · rcases List.mem_cons.mp member with here | further
      · exact .inr (List.mem_cons.mpr (.inl here))
      · exact (ih further).imp_right (List.mem_cons_of_mem _)

theorem mem_of_mem_putAll {more : List (α × β)} {entry : α × β}
    (member : entry ∈ putAll entries more) : entry ∈ entries ∨ entry ∈ more := by
  induction more generalizing entries with
  | nil => exact .inl member
  | cons first rest ih =>
    rcases ih member with inside | further
    · rcases mem_of_mem_put inside with here | below
      · exact .inr (List.mem_cons.mpr (.inl here))
      · exact .inl below
    · exact .inr (List.mem_cons_of_mem _ further)

theorem nodup_put (nodup : (entries.map Prod.fst).Nodup) (key : α) (value : β) :
    ((put key value entries).map Prod.fst).Nodup := by
  induction entries with
  | nil => simp [put]
  | cons first rest ih =>
    rcases first with ⟨known, old⟩
    rcases List.nodup_cons.mp nodup with ⟨new, others⟩
    by_cases same : known = key
    · simpa [put, same] using nodup
    · simp only [put, same, if_false, List.map_cons, List.nodup_cons]
      refine ⟨fun inside => ?_, ih others⟩
      rcases mem_keys_put.mp inside with equal | inside
      · exact same equal
      · exact new inside

theorem nodup_putAll (nodup : (entries.map Prod.fst).Nodup) (more : List (α × β)) :
    ((putAll entries more).map Prod.fst).Nodup := by
  induction more generalizing entries with
  | nil => exact nodup
  | cons first rest ih => exact ih (nodup_put nodup first.1 first.2)

theorem nodup_putAll_nil (more : List (α × β)) : ((putAll [] more).map Prod.fst).Nodup := by
  apply nodup_putAll
  exact List.nodup_nil

/-- Entries that are put one after the other give each key its last value. -/
theorem lookup_putAll_nil [BEq α] [LawfulBEq α] (key : α) (more : List (α × β)) :
    (putAll [] more).lookup key = last? key more := by
  rw [lookup_putAll, List.lookup_nil, Option.or_none]

theorem putAll_append (entries more others : List (α × β)) :
    putAll entries (more ++ others) = putAll (putAll entries more) others := by
  induction more generalizing entries with
  | nil => rfl
  | cons first rest ih => exact ih _

/-- A key that is not there is added at the end. -/
theorem put_of_absent (absent : key ∉ entries.map Prod.fst) (value : β) :
    put key value entries = entries ++ [(key, value)] := by
  induction entries with
  | nil => rfl
  | cons first rest ih =>
    rcases first with ⟨known, old⟩
    have distinct : known ≠ key := by
      rintro rfl
      exact absent (List.mem_cons_self ..)
    have others : key ∉ rest.map Prod.fst := fun inside => absent (List.mem_cons_of_mem _ inside)
    simp [put, distinct, ih others]

/-- Entries whose keys are new stay as they are. -/
theorem putAll_of_nodup {front : List (α × β)}
    (nodup : ((front ++ entries).map Prod.fst).Nodup) :
    putAll front entries = front ++ entries := by
  induction entries generalizing front with
  | nil => rw [putAll, List.append_nil]
  | cons first rest ih =>
    rcases first with ⟨key, value⟩
    have absent : key ∉ front.map Prod.fst := by
      rw [List.map_append, List.map_cons] at nodup
      intro inside
      exact (List.nodup_append.mp nodup).2.2 key inside key (List.mem_cons_self ..) rfl
    rw [putAll, put_of_absent absent, ih (by simpa using nodup), List.append_assoc]
    rfl

/-- Where every key stands once, the last value of a key is what is found under it. -/
theorem last?_of_nodup [BEq α] [LawfulBEq α] (nodup : (entries.map Prod.fst).Nodup) (key : α) :
    last? key entries = entries.lookup key := by
  have all := lookup_putAll_nil key entries
  rwa [putAll_of_nodup nodup, List.nil_append, eq_comm] at all

/-! ## The order of keys -/

/-- Items in the order in which a list first has them, each once. -/
structure FirstSeen (seen items : List α) : Prop where
  nodup : seen.Nodup
  mem_iff : ∀ item, item ∈ seen ↔ item ∈ items
  inOrder : seen.Pairwise fun first second => items.idxOf first < items.idxOf second

/-- What is seen once more at the end stays where it was; something new comes last. -/
theorem FirstSeen.append_singleton {seen items : List α} (firstSeen : FirstSeen seen items)
    (item : α) : FirstSeen (if item ∈ seen then seen else seen ++ [item]) (items ++ [item]) := by
  have same {other : α} (member : other ∈ seen) :
      (items ++ [item]).idxOf other = items.idxOf other :=
    List.idxOf_append_of_mem ((firstSeen.mem_iff other).mp member)
  have inOrder : seen.Pairwise fun first second =>
      (items ++ [item]).idxOf first < (items ++ [item]).idxOf second :=
    firstSeen.inOrder.imp_of_mem fun first second less => by rwa [same first, same second]
  by_cases member : item ∈ seen
  · rw [if_pos member]
    refine ⟨firstSeen.nodup, fun other => ?_, inOrder⟩
    rw [List.mem_append, List.mem_singleton, ← firstSeen.mem_iff]
    exact ⟨.inl, fun either => either.elim id fun equal => equal ▸ member⟩
  · rw [if_neg member]
    have absent : item ∉ items := mt (firstSeen.mem_iff item).mpr member
    refine ⟨List.nodup_append.mpr ⟨firstSeen.nodup, List.nodup_singleton _, ?_⟩, fun other => ?_,
      List.pairwise_append.mpr ⟨inOrder, List.pairwise_singleton _ _, ?_⟩⟩
    · rintro other inside _ last rfl
      exact member (List.mem_singleton.mp last ▸ inside)
    · rw [List.mem_append, List.mem_append, firstSeen.mem_iff]
    · intro other inside _ last
      rw [List.mem_singleton.mp last, same inside, List.idxOf_append_of_notMem absent,
        List.idxOf_cons_self, Nat.add_zero]
      exact List.idxOf_lt_length_iff.mpr ((firstSeen.mem_iff other).mp inside)

theorem keys_put (key : α) (value : β) (entries : List (α × β)) :
    (put key value entries).map Prod.fst =
      if key ∈ entries.map Prod.fst then entries.map Prod.fst
      else entries.map Prod.fst ++ [key] := by
  induction entries with
  | nil => simp [put]
  | cons first rest ih =>
    rcases first with ⟨known, old⟩
    by_cases same : known = key
    · simp [put, same]
    · have other : key ≠ known := Ne.symm same
      rw [put, if_neg same, List.map_cons, ih, List.map_cons]
      by_cases member : key ∈ rest.map Prod.fst
      · rw [if_pos member, if_pos (List.mem_cons_of_mem _ member)]
      · rw [if_neg member, if_neg (not_or.mpr ⟨other, member⟩ ∘ List.mem_cons.mp)]
        rfl

/-- Entries that are put one after the other have their keys in the order of first use. -/
theorem firstSeen_putAll {front : List α} (firstSeen : FirstSeen (entries.map Prod.fst) front)
    (more : List (α × β)) :
    FirstSeen ((putAll entries more).map Prod.fst) (front ++ more.map Prod.fst) := by
  induction more generalizing entries front with
  | nil => simpa [putAll] using firstSeen
  | cons first rest ih =>
    rcases first with ⟨key, value⟩
    have next := firstSeen.append_singleton key
    rw [← keys_put key value] at next
    simpa [putAll] using ih next

theorem firstSeen_putAll_nil (more : List (α × β)) :
    FirstSeen ((putAll [] more).map Prod.fst) (more.map Prod.fst) := by
  have nothing : FirstSeen (([] : List (α × β)).map Prod.fst) [] :=
    ⟨List.nodup_nil, fun _ => Iff.rfl, .nil⟩
  exact firstSeen_putAll nothing more

/-! ## Some of the entries -/

theorem filter_put (keep : α → Bool) (key : α) (value : β) (entries : List (α × β)) :
    (put key value entries).filter (fun entry => keep entry.1) =
      if keep key then put key value (entries.filter fun entry => keep entry.1)
      else entries.filter fun entry => keep entry.1 := by
  induction entries with
  | nil => by_cases kept : keep key <;> simp [put, kept]
  | cons first rest ih =>
    rcases first with ⟨known, old⟩
    by_cases same : known = key
    · subst same
      by_cases kept : keep known <;> simp [put, kept]
    · by_cases kept : keep known
      · by_cases keptKey : keep key <;> simp [put, same, kept, keptKey, ih]
      · by_cases keptKey : keep key <;> simp [put, same, kept, keptKey, ih]

theorem filter_putAll (keep : α → Bool) (entries more : List (α × β)) :
    (putAll entries more).filter (fun entry => keep entry.1) =
      putAll (entries.filter fun entry => keep entry.1)
        (more.filter fun entry => keep entry.1) := by
  induction more generalizing entries with
  | nil => rfl
  | cons first rest ih =>
    rcases first with ⟨key, value⟩
    rw [putAll, ih, filter_put]
    by_cases kept : keep key <;> simp [putAll, kept]

end Stencil.Entries

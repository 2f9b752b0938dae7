import Stencil.Validation

/-!
# Checks that succeed

Several checks in a row succeed exactly if each of them does, and give what each of them
gives.
-/

namespace Stencil.Validation

variable {α β : Type}

theorem both_eq_ok_iff {first : Checked α} {second : Checked β} {pair : α × β} :
    both first second = .ok pair ↔ first = .ok pair.1 ∧ second = .ok pair.2 := by
  rcases pair with ⟨left, right⟩
  cases first <;> cases second <;> simp [both]

theorem map_eq_ok_iff {checked : Checked α} {form : α → β} {result : β} :
    checked.map form = .ok result ↔ ∃ given, checked = .ok given ∧ form given = result := by
  cases checked <;> simp [Except.map]

theorem all_cons_eq_ok_iff {part : Checked α} {parts : List (Checked α)} {given : List α} :
    all (part :: parts) = .ok given ↔
      ∃ first rest, part = .ok first ∧ all parts = .ok rest ∧ given = first :: rest := by
  rw [all, map_eq_ok_iff]
  constructor
  · rintro ⟨⟨first, rest⟩, checked, rfl⟩
    rcases both_eq_ok_iff.mp checked with ⟨one, others⟩
    exact ⟨first, rest, one, others, rfl⟩
  · rintro ⟨first, rest, one, others, rfl⟩
    exact ⟨(first, rest), both_eq_ok_iff.mpr ⟨one, others⟩, rfl⟩

/-- The complaints about a part. -/
def refusals : Checked α → List Complaint
  | .ok _ => []
  | .error complaints => complaints

theorem refusals_both (first : Checked α) (second : Checked β) :
    refusals (both first second) = refusals first ++ refusals second := by
  cases first <;> cases second <;> simp [both, refusals]

theorem refusals_map (checked : Checked α) (form : α → β) :
    refusals (checked.map form) = refusals checked := by
  cases checked <;> rfl

/-- The entries of a mapping are accepted if each key is a text and each value is accepted. -/
theorem entries_dict (heap : Heap) (place : String) (check : String → Value → Checked α)
    (ref : Ref) :
    entries heap place check (.dict ref) =
      all ((heap.entries ref).map fun (key, value) =>
        let inner := place ++ "." ++ keyPlace heap key
        both (text (inner ++ ".[key]") key) (check inner value)) := rfl

end Stencil.Validation

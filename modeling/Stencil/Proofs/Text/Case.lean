import Stencil.Text.Case

/-!
# Texts without upper case

Between the last upper-case letter of the first table of characters and the last lower-case
one there is nothing that has another lower-case form.
-/

namespace Stencil.Text

theorem lowerImage_of_small {number : Nat} (above : 90 < number) (below : number ≤ 122) :
    lowerImage number = [number] := by
  have noExpansion : lowerExpansions.all (fun entry => 122 < entry.1) = true := by
    decide +kernel
  have noRun : lowerRuns.all (fun run => run.last ≤ 90 || 122 < run.first) = true := by
    decide +kernel
  unfold lowerImage caseImage
  have expands : lowerExpansions.find? (fun entry => entry.1 == number) = none := by
    rw [Array.find?_eq_none]
    intro entry member same
    have far := Array.all_eq_true_iff_forall_mem.mp noExpansion entry member
    simp only [decide_eq_true_eq, beq_iff_eq] at far same
    omega
  have covered : lowerRuns.find? (fun run => run.first ≤ number && number ≤ run.last &&
      (number - run.first) % run.stride == 0) = none := by
    rw [Array.find?_eq_none]
    intro run member covers
    have far := Array.all_eq_true_iff_forall_mem.mp noRun run member
    simp only [Bool.or_eq_true, Bool.and_eq_true, decide_eq_true_eq] at far covers
    omega
  rw [expands]
  dsimp only
  rw [covered]

/-- A text of such characters only is its own lower-case form. -/
theorem lower_eq_self {text : Text}
    (small : ∀ point ∈ text, 90 < point.number ∧ point.number ≤ 122) : lower text = text := by
  have after : ∀ before, lowerAfter before text = text := by
    induction text with
    | nil => exact fun before => rfl
    | cons point rest ih =>
      intro before
      rcases List.forall_mem_cons.mp small with ⟨⟨above, below⟩, others⟩
      have noSigma : (point.number == 0x3A3) = false := by
        rw [beq_eq_false_iff_ne]
        omega
      have same : CodePoint.ofNat point.number = point := by
        rw [CodePoint.ofNat, dif_pos point.bounded]
      rw [lowerAfter, noSigma, if_neg Bool.false_ne_true, lowerImage_of_small above below,
        ih others]
      simp [ofNumbers, same]
  exact after []

end Stencil.Text

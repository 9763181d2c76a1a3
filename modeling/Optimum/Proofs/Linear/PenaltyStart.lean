import Optimum.Proofs.Linear.PenaltyTableau
import Optimum.Proofs.Tableau.ObjectiveReduction

namespace Optimum
namespace Linear

open Scalar Tableau

/-!
# The elimination of the penalties

The method takes the penalties of the basic columns out of the objective row
before its first pivot.  The fold over the basis is a row operation, and it
leaves a feasible basis, whatever the penalty is.
-/

namespace Problem

variable {problem : Problem Rat} {penalty : Rat} {row : Nat}

/-- The tableau that the run starts from. -/
def penaltyStart (problem : Problem Rat) (penalty : Rat) : Tableau Rat :=
  BigM.eliminatePenalties problem.firstArtificial penalty (problem.penalized penalty)

private theorem reducesTo_foldl (first : Nat) (columns : List Nat) (offset : Nat)
    {tableau : Tableau Rat} (shaped : tableau.Shaped)
    (inside : offset + columns.length ≤ tableau.height) :
    ReducesTo tableau
      (fun j => ∑ k ∈ Finset.range columns.length,
        if first ≤ columns.getD k 0 then penalty * tableau.entry (offset + k) j else 0)
      ((columns.zipIdx offset).foldl
        (fun reduced (column, row) =>
          if first ≤ column then reduced.reduceObjective row penalty else reduced) tableau) := by
  induction columns generalizing offset tableau with
  | nil => exact .refl tableau
  | cons column columns inductionHypothesis =>
      rw [List.length_cons] at inside
      have here : offset < tableau.height := by omega
      let next := if first ≤ column then tableau.reduceObjective offset penalty else tableau
      have step : ReducesTo tableau
          (fun j => if first ≤ column then penalty * tableau.entry offset j else 0) next := by
        by_cases artificial : first ≤ column
        · simp only [next, if_pos artificial]
          exact reducesTo_reduceObjective shaped here penalty
        · simp only [next, if_neg artificial]
          exact .refl tableau
      have later := inductionHypothesis (offset + 1) (step.shaped shaped)
        (by rw [step.height_eq]; omega)
      have amounts : (fun j => ∑ k ∈ Finset.range (columns.length + 1),
          if first ≤ (column :: columns).getD k 0 then penalty * tableau.entry (offset + k) j else 0) =
          fun j => (if first ≤ column then penalty * tableau.entry offset j else 0) +
            ∑ k ∈ Finset.range columns.length,
              if first ≤ columns.getD k 0 then penalty * next.entry (offset + 1 + k) j else 0 := by
        funext j
        rw [Finset.sum_range_succ', add_comm]
        congr 1
        refine Finset.sum_congr rfl fun k member => ?_
        have below := Finset.mem_range.mp member
        rw [step.entry_eq (by omega), Nat.add_assoc, Nat.add_comm 1 k]
        rfl
      rw [List.length_cons, amounts]
      exact step.trans later

/-- The elimination takes the penalty times each row whose basic column is
artificial away from the objective row. -/
theorem reducesTo_penaltyStart (penalty : Rat) (shaped : problem.WellShaped) :
    ReducesTo (problem.penalized penalty)
      (fun j => ∑ row ∈ Finset.range problem.constraints.length,
        if problem.firstArtificial ≤ (problem.penalized penalty).basic row
        then penalty * (problem.penalized penalty).entry row j else 0)
      (problem.penaltyStart penalty) := by
  have tableau : (problem.penalized penalty).Shaped := shaped_penalized shaped
  have reduces : ReducesTo (problem.penalized penalty) _ (problem.penaltyStart penalty) :=
    reducesTo_foldl problem.firstArtificial (problem.penalized penalty).basis 0 tableau
      (by rw [tableau.length_basis, Nat.zero_add])
  simp only [tableau.length_basis, height_penalized, Nat.zero_add] at reduces
  exact reduces

theorem rowEquivalent_penaltyStart (penalty : Rat) (shaped : problem.WellShaped) :
    RowEquivalent (problem.penalized penalty) (problem.penaltyStart penalty) := by
  refine (reducesTo_penaltyStart penalty shaped).rowEquivalent (mem_rowSpace_iff.mpr ?_)
  refine ⟨fun row => if problem.firstArtificial ≤ (problem.penalized penalty).basic row
    then penalty else 0, fun j => ?_⟩
  rw [height_penalized]
  refine Finset.sum_congr rfl fun row _ => ?_
  rw [ite_mul, zero_mul]

theorem basic_penalized_lt (inside : row < problem.constraints.length) :
    (problem.penalized penalty).basic row < problem.dimension + problem.counts.total := by
  rw [basic_penalized inside]
  by_cases above : (problem.rowAt row).relation = .le
  · rw [if_pos above]
    exact (boundColumn_lt inside (by rw [above]; decide)).trans_le firstArtificial_le
  · rw [if_neg above]
    exact artificialColumn_lt inside above

theorem le_basic_penalized (inside : row < problem.constraints.length) :
    problem.dimension ≤ (problem.penalized penalty).basic row := by
  rw [basic_penalized inside]
  split
  · exact le_boundColumn
  · exact le_artificialColumn

theorem hasBasis_penaltyStart (penalty : Rat) (shaped : problem.WellShaped) :
    (problem.penaltyStart penalty).HasBasis := by
  refine (reducesTo_penaltyStart penalty shaped).hasBasis (shaped_penalized shaped) ?_ ?_ ?_
  · intro row inside
    rw [height_penalized] at inside
    rw [width_penalized shaped]
    exact basic_penalized_lt inside
  · intro row inside other otherInside
    rw [height_penalized] at inside otherInside
    exact entry_basic_penalized shaped inside otherInside
  · intro row inside
    rw [height_penalized] at inside
    rw [objective_penalized (basic_penalized_lt inside), gain_of_le (le_basic_penalized inside),
      neg_zero, zero_add, Finset.sum_eq_single_of_mem row (Finset.mem_range.mpr inside),
      entry_basic_penalized shaped inside inside, if_pos rfl, artificialWeight, mul_ite, mul_one,
      mul_zero]
    intro other member different
    rw [entry_basic_penalized shaped inside (Finset.mem_range.mp member), if_neg different, mul_zero,
      ite_self]

theorem feasible_penaltyStart (penalty : Rat) (shaped : problem.WellShaped) :
    (problem.penaltyStart penalty).Feasible := by
  intro row inside
  have reduces := reducesTo_penaltyStart penalty shaped
  rw [reduces.height_eq, height_penalized] at inside
  rw [reduces.rhs_eq (height_penalized.symm ▸ inside), rhs_penalized shaped inside]
  exact rhs_rowAt_nonneg inside

end Problem
end Linear
end Optimum

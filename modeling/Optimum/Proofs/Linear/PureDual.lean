import Optimum.Proofs.Linear.Histories
import Optimum.Proofs.Tableau.Improvement

namespace Optimum
namespace Linear

open Scalar Tableau

/-!
# The dual method on problems in standard form

The bounds of a problem in standard form are the objective of its dual, and none
of them is negative.  For either sense they stand in the objective row of the
first tableau of the dual, so no column improves there.  The pivots of the dual
ratio test keep it so.  Hence the rule never falls back on the primal one, and
the search ends with best prices, without any prices, or at its limit.
-/

variable {problem : Problem Rat}

/-- What the dual method shows if it needs no pivot of the primal rule: no
column improves at any snapshot, and every pivot repairs a row. -/
structure DualSolution.OnlyRepairs (solution : DualSolution Rat) : Prop where
  dualFeasible : ∀ snapshot ∈ solution.iterations, snapshot.tableau.DualFeasible
  isChain : solution.iterations.IsChain fun before after => ∃ row column entering leaving,
    after.event = .pivot entering leaving (before.tableau.entry row column) row column ∧
      before.tableau.RepairsTo row column after.tableau
  status_ne : solution.status ≠ .unbounded

/-- At the start the objective row has the bounds, and nothing under the slack
columns. -/
theorem dualFeasible_start (shaped : problem.WellShaped)
    (standard : problem.checkStandardForm = .ok ()) :
    (dualTableau problem.mirror).DualFeasible := by
  have slack := isSlackTableau_mirror problem
  rw [Problem.system_mirror shaped (relation_ne_eq_of_standard standard)] at slack
  have bounds := system_bound_nonneg (checkStandardForm_eq_ok_iff.mp standard)
  intro column inside
  rw [slack.width_eq] at inside
  rw [slack.height_eq]
  rcases Nat.lt_or_ge column problem.system.dual.dimension with price | added
  · rw [slack.entry_objective column price]
    exact (neg_neg (problem.system.bound column)).symm ▸ bounds column price
  · obtain ⟨row, rfl⟩ := Nat.exists_eq_add_of_le added
    have slackRow : row < problem.system.dual.size := Nat.lt_of_add_lt_add_left inside
    rw [slack.entry_slack _ (Nat.le_refl _) row slackRow, if_neg slackRow.ne']

/-- In standard form the dual method is the dual simplex method throughout, for
either sense and whatever its limit is.  At the start no column improves, since
the bounds are not negative, and repairs keep it so. -/
theorem dualSimplex_onlyRepairs (problem : Problem Rat) (limit : Nat)
    (valid : problem.validate = .ok ()) (standard : problem.checkStandardForm = .ok ()) :
    ∃ solution, dualSimplex ⟨limit, 0⟩ problem = .ok solution ∧ solution.OnlyRepairs := by
  have shaped := (Problem.validate_eq_ok_iff.mp valid).toWellShaped
  have dual := Problem.dual_eq_mirror valid (relation_ne_eq_of_standard standard)
  have based := (isSlackTableau_mirror problem).hasBasis
  have first : DualReached (dualTableau problem.mirror) (dualTableau problem.mirror) :=
    ⟨Reached.refl based, dualFeasible_start shaped standard⟩
  rcases run_dualRule based limit 1 with ⟨finished, runs, -, stops⟩
  have trail := trail_of_run runs
  rcases first.keeps trail with ⟨kept, final⟩
  simp only [dualSimplex, dual, runs, bind, Except.bind]
  refine ⟨_, rfl, ?_, first.isChain trail _, fun status => ?_⟩
  · exact List.forall_mem_cons.mpr
      ⟨first.dualFeasible, fun snapshot member => (kept snapshot member).dualFeasible⟩
  · cases found : finished.verdict with
    | none => simp [found, dualStatus] at status
    | some verdict =>
        cases verdict with
        | optimal | infeasible => simp [found, dualStatus] at status
        | unbounded => exact final.dualFeasible.not_unbounded (stops _ found)

theorem dualSimplex_onlyRepairs_twoProducts :
    twoProducts.validate = .ok () ∧ twoProducts.checkStandardForm = .ok () ∧
      ∃ solution, dualSimplex ⟨10, 0⟩ twoProducts = .ok solution ∧
        solution.iterations.length = 3 ∧ solution.OnlyRepairs := by
  have valid : twoProducts.validate = .ok () := by decide +kernel
  have standard : twoProducts.checkStandardForm = .ok () := by decide +kernel
  have counts : (dualSimplex ⟨10, 0⟩ twoProducts).map (fun solution =>
      solution.iterations.length) = .ok 3 := by decide +kernel
  rcases dualSimplex_onlyRepairs twoProducts 10 valid standard with ⟨solution, answers, repairs⟩
  rw [answers] at counts
  exact ⟨valid, standard, solution, answers, Except.ok.inj counts, repairs⟩

end Linear
end Optimum

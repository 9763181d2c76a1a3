import Optimum.Proofs.Linear.SlackStart
import Optimum.Proofs.Tableau.Tolerance

namespace Optimum
namespace Linear

open Scalar Tableau

/-!
# The simplex method answers truthfully

In standard form the first basic solution is the origin, which is feasible,
and the ratio test keeps it so.  When no column improves, the objective row
holds prices that prove the basic solution best; when no row limits a column,
its edge is a ray.  The answer is true whatever the limit of pivots was.
-/

variable {problem : Problem Rat}

/-- The meaning of an answer to a problem.  It speaks of the problem alone, and
of nothing that the method has done. -/
def Solution.Truthful (problem : Problem Rat) (solution : Solution Rat) : Prop :=
  match solution.status with
  | .optimal =>
      problem.IsOptimal solution.values ∧
        solution.objectiveValue = some (problem.evaluate solution.values)
  | .unbounded =>
      ∃ point direction, problem.Feasible point ∧ problem.ImprovingRay point direction
  | .infeasible => False
  | .iterationLimit =>
      problem.Feasible solution.values ∧
        solution.objectiveValue = some (problem.evaluate solution.values)

/-! ## Standard form -/

theorem checkStandardForm_eq_ok_iff :
    problem.checkStandardForm = .ok () ↔
      ∀ constraint ∈ problem.constraints, constraint.relation = .le ∧ 0 ≤ constraint.rhs := by
  simp only [Problem.checkStandardForm, Checks.forM_eq_ok_iff, checkStandard_eq_ok_iff, not_lt]

theorem relation_ne_eq_of_standard (standard : problem.checkStandardForm = .ok ()) :
    ∀ constraint ∈ problem.constraints, constraint.relation ≠ .eq := by
  intro constraint member
  rw [(checkStandardForm_eq_ok_iff.mp standard constraint member).1]
  decide

/-- In standard form no bound is negated, and none is negative. -/
theorem system_bound_nonneg
    (standard : ∀ constraint ∈ problem.constraints, constraint.relation = .le ∧ 0 ≤ constraint.rhs) :
    ∀ row < problem.system.size, 0 ≤ problem.system.bound row := by
  intro row inside
  have member := List.getElem_mem inside
  rw [Problem.system_bound inside, Relation.sign, (standard _ member).1, if_neg (by decide), one_mul]
  exact (standard _ member).2

/-! ## The run -/

/-- A run of the primal rule from a feasible basis ends at a feasible basis,
and stops only where the rule does. -/
theorem run_primalRule {start : Tableau Rat} (based : start.HasBasis) (feasible : start.Feasible)
    (limit index : Nat) :
    ∃ finished, run (primalRule 0) limit index start = .ok finished ∧
      Reached start finished.last ∧ finished.last.Feasible ∧
      ∀ verdict, finished.verdict = some verdict → PrimalMove 0 finished.last (.stop verdict) := by
  rcases (admissible_primalRule (le_refl 0)).run_reaches based limit index with
    ⟨finished, runs, reached, stops⟩
  have kept := (trail_of_run runs).feasible (le_refl 0) based feasible fun current _ =>
    visible_zero current
  refine ⟨finished, runs, reached, kept, fun verdict found => ?_⟩
  rw [← stops verdict found]
  exact primalRule_move

/-! ## The answer -/

theorem map_value_columnValues (last : Tableau Rat) (problem : Problem Rat) :
    (columnValues last (List.range problem.dimension)).map NamedValue.value =
      problem.tabulate last.valueOf := by
  rw [columnValues, List.map_map]
  rfl

/-- Whatever the limit of pivots is, the simplex method answers every problem in
standard form, and its answer is true.  The run keeps the basis feasible, and
where the rule stops the objective row holds the prices or the ray that show
why. -/
theorem simplex_truthful (problem : Problem Rat) (limit : Nat)
    (valid : problem.validate = .ok ()) (standard : problem.checkStandardForm = .ok ()) :
    ∃ solution, simplex ⟨limit, 0⟩ problem = .ok solution ∧ solution.Truthful problem := by
  have shaped := (Problem.validate_eq_ok_iff.mp valid).toWellShaped
  have form := checkStandardForm_eq_ok_iff.mp standard
  have above : ∀ constraint ∈ problem.constraints, constraint.relation = .le :=
    fun constraint member => (form constraint member).1
  have bounds : ∀ constraint ∈ problem.constraints, constraint.relation ≠ .eq := by
    intro constraint member
    rw [above constraint member]
    decide
  have slack := isSlackTableau_dualTableau shaped
  rw [← slackTableau_eq_dualTableau above] at slack
  rcases run_primalRule slack.hasBasis (slack.feasible (system_bound_nonneg form)) limit 1 with
    ⟨finished, runs, reached, kept, stops⟩
  have value := (Problem.evaluate_valueOf slack reached).symm
  simp only [simplex, valid, standard, runs, bind, Except.bind]
  cases found : finished.verdict with
  | none =>
      refine ⟨_, rfl, ?_⟩
      simp only [Solution.Truthful, Solution.values, map_value_columnValues, value, and_true]
      exact Problem.feasible_tabulate_valueOf slack reached shaped bounds kept
  | some verdict =>
      cases stops verdict found with
      | optimal satisfied =>
          refine ⟨_, rfl, ?_⟩
          simp only [Solution.Truthful, Solution.values, map_value_columnValues, value, and_true]
          rw [neg_zero] at satisfied
          exact Problem.isOptimal_valueOf slack reached shaped bounds kept satisfied
      | unbounded column enters blocked =>
          refine ⟨_, rfl, ?_⟩
          have improves := enters.passed
          rw [neg_zero] at improves
          exact Problem.exists_improvingRay slack reached shaped bounds kept enters.lt improves
            blocked

def twoProducts : Problem Rat where
  variableNames := ["x", "y"]
  sense := .max
  objective := [3, 2]
  constraints := [⟨"R1", [1, 1], .le, 4⟩, ⟨"R2", [1, 0], .le, 2⟩]

theorem simplex_truthful_twoProducts :
    twoProducts.validate = .ok () ∧ twoProducts.checkStandardForm = .ok () ∧
      ∃ solution, simplex ⟨10, 0⟩ twoProducts = .ok solution ∧ solution.Truthful twoProducts := by
  have valid : twoProducts.validate = .ok () := by decide +kernel
  have standard : twoProducts.checkStandardForm = .ok () := by decide +kernel
  exact ⟨valid, standard, simplex_truthful twoProducts 10 valid standard⟩

end Linear
end Optimum

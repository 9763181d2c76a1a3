import Optimum.Proofs.Linear.DualProblem
import Optimum.Proofs.Linear.SlackStart
import Optimum.Proofs.Tableau.History

namespace Optimum
namespace Linear

open Scalar Tableau

/-!
# The dual method answers truthfully

The rule of the dual method mixes steps that repair right-hand sides with
steps of the simplex method, and its start need be feasible for neither
problem.  So nothing but the basis is kept along the run; what the answer says
is read off the last tableau alone.  There the right-hand sides belong to the
dual problem, and the objective row has under the slack columns a point of the
problem itself.
-/

variable {problem : Problem Rat}

/-- The meaning of an answer of the dual method.  An optimum is one of both
problems; the other verdicts say what is wrong with each of them.  Of a search
that was cut off only the dual problem is reported. -/
def DualSolution.Truthful (problem : Problem Rat) (solution : DualSolution Rat) : Prop :=
  match solution.status with
  | .optimal =>
      solution.dual.IsOptimal (solution.prices.map Price.value) ∧
        ∃ point, problem.IsOptimal point ∧
          solution.objectiveValue = some (problem.evaluate point) ∧
          solution.dual.evaluate (solution.prices.map Price.value) = problem.evaluate point
  | .unbounded =>
      (∃ prices direction, solution.dual.Feasible prices ∧
          solution.dual.ImprovingRay prices direction) ∧
        ∀ point, ¬ problem.Feasible point
  | .infeasible =>
      (∀ prices, ¬ solution.dual.Feasible prices) ∧
        (∀ point, problem.Feasible point → ∃ direction, problem.ImprovingRay point direction) ∧
        ∀ point, ¬ problem.IsOptimal point
  | .iterationLimit => solution.objectiveValue = none

/-! ## The run -/

/-- A run of the dual rule keeps the basis, and stops only where the rule
does. -/
theorem run_dualRule {start : Tableau Rat} (based : start.HasBasis) (limit index : Nat) :
    ∃ finished, run (dualRule 0) limit index start = .ok finished ∧
      Reached start finished.last ∧
      ∀ verdict, finished.verdict = some verdict → DualMove 0 finished.last (.stop verdict) := by
  rcases (admissible_dualRule (le_refl 0)).run_reaches based limit index with
    ⟨finished, runs, reached, stops⟩
  refine ⟨finished, runs, reached, fun verdict found => ?_⟩
  rw [← stops verdict found]
  exact dualRule_move

/-! ## The last tableau -/

/-- The point of the problem that the objective row of a tableau of its dual
has under the slack columns. -/
def shadow (problem : Problem Rat) (last : Tableau Rat) (column : Nat) : Rat :=
  last.entry last.height (problem.mirror.dimension + column)

section LastTableau

variable (shaped : problem.WellShaped)
  (bounds : ∀ constraint ∈ problem.constraints, constraint.relation ≠ .eq)
  {last : Tableau Rat} (reached : Reached (dualTableau problem.mirror) last)

theorem isSlackTableau_mirror (problem : Problem Rat) :
    IsSlackTableau problem.mirror.system (dualTableau problem.mirror) :=
  isSlackTableau_dualTableau Problem.wellShaped_mirror

include shaped bounds in
theorem dual_system_mirror : problem.mirror.system.dual = problem.system := by
  rw [Problem.system_mirror shaped bounds, System.dual_dual]

include shaped bounds reached

theorem evaluate_shadow :
    problem.evaluate (problem.tabulate (shadow problem last)) =
      problem.mirror.sense.sign * last.objectiveValue := by
  have value := (objective_dual (isSlackTableau_mirror problem) reached).2
  rw [dual_system_mirror shaped bounds] at value
  have sign : (problem.mirror.sense.sign : Rat) = -problem.sense.sign :=
    Sense.sign_opposite problem.sense
  rw [Problem.evaluate_tabulate, sign, neg_mul, ← mul_neg, ← value]
  rfl

/-- When no column improves, the objective row holds a best point of the
problem. -/
theorem isOptimal_shadow (kept : last.Feasible)
    (satisfied : ∀ j < last.width, 0 ≤ last.entry last.height j) :
    problem.IsOptimal (problem.tabulate (shadow problem last)) := by
  have slack := isSlackTableau_mirror problem
  have prices := feasible_valueOf slack reached kept
  have point := feasible_dual_of_satisfied slack reached satisfied
  have pointValue := (objective_dual slack reached).2
  have pricesValue := value_valueOf slack reached
  rw [dual_system_mirror shaped bounds] at point pointValue
  rw [Problem.system_mirror shaped bounds] at prices pricesValue
  apply Problem.isOptimal_tabulate shaped bounds point prices
  rw [pricesValue]
  exact add_eq_zero_iff_eq_neg.mpr pointValue

theorem not_feasible_of_unbounded {column : Nat} (inside : column < last.width)
    (improves : last.entry last.height column < 0)
    (blocked : ∀ row < last.height, last.entry row column ≤ 0) (point : List Rat) :
    ¬ problem.Feasible point := by
  have ray := ray_edge (isSlackTableau_mirror problem) reached inside improves blocked
  intro feasible
  apply ray.not_feasible_dual
  rw [dual_system_mirror shaped bounds]
  exact ((Problem.feasible_iff shaped bounds).mp feasible).2

/-- A row that no column repairs leaves no prices, and the problem has a ray
from each of its points. -/
theorem infeasible_last {row : Nat} (inside : row < last.height) (negative : last.rhs row < 0)
    (blocked : ∀ j < last.width, 0 ≤ last.entry row j) :
    (∀ prices, ¬ problem.mirror.Feasible prices) ∧
      ∀ point, problem.Feasible point → ∃ direction, problem.ImprovingRay point direction := by
  have ray := dual_ray (isSlackTableau_mirror problem) reached inside negative blocked
  rw [dual_system_mirror shaped bounds] at ray
  constructor
  · intro prices feasible
    have affordable := ((Problem.feasible_iff Problem.wellShaped_mirror
      Problem.relation_mirror_ne_eq).mp feasible).2
    rw [Problem.system_mirror shaped bounds] at affordable
    exact ray.not_feasible_dual affordable
  · intro point feasible
    exact ⟨_, Problem.improvingRay_tabulate shaped bounds ray feasible⟩

end LastTableau

/-! ## The answer -/

theorem map_value_prices (problem : Problem Rat) (value : Nat → Rat) :
    ((problem.constraints.zip problem.mirror.variableNames).mapIdx fun index (constraint, name) =>
        (⟨name, constraint.name, value index⟩ : Price Rat)).map Price.value =
      problem.mirror.tabulate value := by
  have names : problem.mirror.variableNames.length = problem.mirror.dimension :=
    Problem.wellShaped_mirror.length_names
  apply List.ext_getElem
  · rw [List.length_map, List.length_mapIdx, List.length_zip, names, Problem.length_tabulate,
      Problem.dimension_mirror, Nat.min_self]
  · intro index inside _
    simp only [Problem.tabulate, List.getElem_map, List.getElem_mapIdx, List.getElem_range]

/-- Whatever the limit of pivots is, the dual method answers every validated
problem without equations, and its answer is true of both problems.  The
statements about the problem are read off the same last tableau as those about
its dual. -/
theorem dualSimplex_truthful (problem : Problem Rat) (limit : Nat)
    (valid : problem.validate = .ok ())
    (bounds : ∀ constraint ∈ problem.constraints, constraint.relation ≠ .eq) :
    ∃ solution, dualSimplex ⟨limit, 0⟩ problem = .ok solution ∧
      problem.dual = .ok solution.dual ∧ solution.Truthful problem := by
  have shaped := (Problem.validate_eq_ok_iff.mp valid).toWellShaped
  have dual := Problem.dual_eq_mirror valid bounds
  rcases run_dualRule (isSlackTableau_mirror problem).hasBasis limit 1 with
    ⟨finished, runs, reached, stops⟩
  simp only [dualSimplex, dual, runs, bind, Except.bind]
  refine ⟨_, rfl, rfl, ?_⟩
  cases found : finished.verdict with
  | none => simp [DualSolution.Truthful, dualStatus]
  | some verdict =>
      cases stops verdict found with
      | infeasible row leaves blocked =>
          have negative := leaves.passed
          rw [neg_zero] at negative blocked
          rcases infeasible_last shaped bounds reached leaves.lt negative blocked with ⟨empty, rays⟩
          refine ⟨empty, rays, fun point optimal => ?_⟩
          rcases rays point optimal.feasible with ⟨direction, ray⟩
          exact optimal.not_improvingRay ray
      | primal move repaired primal =>
          rw [neg_zero] at repaired
          cases primal with
          | optimal satisfied =>
              rw [neg_zero] at satisfied
              have slack := isSlackTableau_mirror problem
              have value := evaluate_shadow shaped bounds reached
              simp only [DualSolution.Truthful, dualStatus, decide_true, if_true,
                map_value_prices]
              refine ⟨?_, problem.tabulate (shadow problem finished.last), ?_, ?_, ?_⟩
              · exact Problem.isOptimal_valueOf slack reached Problem.wellShaped_mirror
                  Problem.relation_mirror_ne_eq repaired satisfied
              · exact isOptimal_shadow shaped bounds reached repaired satisfied
              · rw [value]
              · rw [value, Problem.evaluate_valueOf slack reached]
          | unbounded column enters blocked =>
              have improves := enters.passed
              rw [neg_zero] at improves
              constructor
              · exact Problem.exists_improvingRay (isSlackTableau_mirror problem) reached
                  Problem.wellShaped_mirror Problem.relation_mirror_ne_eq repaired enters.lt
                  improves blocked
              · exact not_feasible_of_unbounded shaped bounds reached enters.lt improves blocked

/-- A mixture with a bound from below and one from above. -/
def mixture : Problem Rat where
  variableNames := ["x", "y"]
  sense := .min
  objective := [2, 3]
  constraints := [⟨"R1", [1, 1], .ge, 4⟩, ⟨"R2", [1, 0], .le, 3⟩]

theorem dualSimplex_truthful_mixture :
    mixture.validate = .ok () ∧
      (∀ constraint ∈ mixture.constraints, constraint.relation ≠ .eq) ∧
      ∃ solution, dualSimplex ⟨10, 0⟩ mixture = .ok solution ∧
        mixture.dual = .ok solution.dual ∧ solution.Truthful mixture := by
  have valid : mixture.validate = .ok () := by decide +kernel
  have bounds : ∀ constraint ∈ mixture.constraints, constraint.relation ≠ .eq := by decide +kernel
  exact ⟨valid, bounds, dualSimplex_truthful mixture 10 valid bounds⟩

end Linear
end Optimum

import Optimum.Proofs.Linear.Agreement
import Optimum.Proofs.Linear.HigherLimits
import Optimum.Proofs.Linear.Refusals
import Optimum.Proofs.Tableau.Improvement

namespace Optimum
namespace Linear

open Tableau

/-!
# Runs without degenerate tableaus

The simplex method has no rule against cycling: a pivot in a row whose right-hand
side is zero changes the basis and not the point, and such pivots may come back to
where they started.  If no snapshot has such a row, they do not occur.  Then the
objective rises with every pivot, no set of basic columns comes back, and a limit
with room for every such set is never reached.
-/

variable {problem : Problem Rat}

/-- Whether every snapshot of an answer has positive right-hand sides.  It is
a condition on the run and not on the problem, since a problem does not show
it. -/
def Solution.Nondegenerate (solution : Solution Rat) : Prop :=
  ∀ snapshot ∈ solution.iterations, snapshot.tableau.Nondegenerate

instance (solution : Solution Rat) : Decidable solution.Nondegenerate :=
  inferInstanceAs (Decidable (∀ snapshot ∈ solution.iterations, snapshot.tableau.Nondegenerate))

theorem ascends_of_simplex {limit : Nat} {solution : Solution Rat}
    (answers : simplex ⟨limit, 0⟩ problem = .ok solution) (positive : solution.Nondegenerate) :
    Ascends solution.iterations ∧ solution.iterations.length ≤
      (problem.dimension + problem.constraints.length).choose problem.constraints.length := by
  rcases accepted_of_simplex answers with ⟨valid, standard⟩
  have shaped := (Problem.validate_eq_ok_iff.mp valid).toWellShaped
  have based := (isSlackTableau_slackTableau shaped standard).hasBasis
  have height : (slackTableau problem).height = problem.constraints.length := List.length_mapIdx
  rcases trail_of_simplex answers with ⟨pivots, last, recorded, trail⟩
  rw [Solution.Nondegenerate, recorded] at positive
  rw [recorded, ← width_slackTableau shaped, ← height, List.length_cons]
  exact trail.ascends based .slackBasis positive

/-- In standard form a run without degenerate snapshots raises the objective with
every pivot, returns to no set of basic columns, and needs no more pivots than
there are such sets. -/
theorem simplex_ascends (problem : Problem Rat) (limit : Nat) (valid : problem.validate = .ok ())
    (standard : problem.checkStandardForm = .ok ()) :
    ∃ solution, simplex ⟨limit, 0⟩ problem = .ok solution ∧ (solution.Nondegenerate →
      Ascends solution.iterations ∧
      ((problem.dimension + problem.constraints.length).choose problem.constraints.length ≤ limit →
        solution.status ≠ .iterationLimit)) := by
  have nonneg : 0 ≤ (⟨limit, 0⟩ : Limits Rat).tolerance := le_refl 0
  rcases simplex_recorded nonneg valid standard with ⟨solution, answers, -⟩
  refine ⟨solution, answers, fun positive => ?_⟩
  rcases ascends_of_simplex answers positive with ⟨ascends, bounded⟩
  refine ⟨ascends, fun room cut => ?_⟩
  have full := ((simplex_extendedBy 0 problem (le_refl limit)).cut solution answers cut).1
  omega

theorem simplex_ascends_twoProducts :
    twoProducts.validate = .ok () ∧ twoProducts.checkStandardForm = .ok () ∧
      ∃ solution, simplex ⟨6, 0⟩ twoProducts = .ok solution ∧ solution.Nondegenerate ∧
        solution.iterations.length = 3 ∧ Ascends solution.iterations ∧
        solution.status ≠ .iterationLimit := by
  have valid : twoProducts.validate = .ok () := by decide +kernel
  have standard : twoProducts.checkStandardForm = .ok () := by decide +kernel
  have room : (twoProducts.dimension + twoProducts.constraints.length).choose
      twoProducts.constraints.length ≤ 6 := by decide +kernel
  have positive : (simplex ⟨6, 0⟩ twoProducts).map (fun solution =>
      (decide solution.Nondegenerate, solution.iterations.length)) = .ok (true, 3) := by
    decide +kernel
  rcases simplex_ascends twoProducts 6 valid standard with ⟨solution, answers, ascends⟩
  rw [answers] at positive
  rcases Prod.mk.inj (Except.ok.inj positive) with ⟨above, count⟩
  have nondegenerate := of_decide_eq_true above
  exact ⟨valid, standard, solution, answers, nondegenerate, count, (ascends nondegenerate).1,
    (ascends nondegenerate).2 room⟩

end Linear
end Optimum

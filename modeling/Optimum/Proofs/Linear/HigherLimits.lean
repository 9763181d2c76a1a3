import Optimum.Linear.BigM
import Optimum.Linear.Dual
import Optimum.Proofs.Linear.SimplexAnswer
import Optimum.Proofs.Tableau.Limits

namespace Optimum
namespace Linear

open Tableau

/-!
# Answers with a higher limit of pivots

Every method checks its problem, follows a rule from a start that does not
depend on the limit, and reads its answer off the run.  It reports that the
limit was reached exactly if the run was cut off, so the answers extend one
another as the runs do, in any arithmetic.
-/

variable {α : Type} [Scalar α] {limit higher : Nat}

/-- Whether an answer says that the limit was reached. -/
def Solution.CutOff (solution : Solution α) : Prop :=
  solution.status = .iterationLimit

def DualSolution.CutOff (solution : DualSolution α) : Prop :=
  solution.status = .iterationLimit

theorem simplex_extendedBy (tolerance : α) (problem : Problem α) (least : limit ≤ higher) :
    ExtendedBy Solution.CutOff Solution.iterations (limit + 1)
      (simplex ⟨limit, tolerance⟩ problem) (simplex ⟨higher, tolerance⟩ problem) := by
  refine .bind _ fun _ => .bind _ fun _ => ?_
  apply ExtendedBy.read (run_extendedBy (primalRule tolerance) least 1 _)
  intro finished
  dsimp only
  cases found : finished.verdict with
  | none => exact ⟨_, rfl, iff_of_true rfl found, rfl⟩
  | some verdict =>
      have whole : ¬ finished.CutOff := fun cut => nomatch found.symm.trans cut
      cases verdict with
      | optimal | unbounded | infeasible => exact ⟨_, rfl, iff_of_false nofun whole, rfl⟩

theorem bigM_extendedBy (tolerance penalty : α) (problem : Problem α) (least : limit ≤ higher) :
    ExtendedBy Solution.CutOff Solution.iterations (limit + 1)
      (bigM ⟨⟨limit, tolerance⟩, penalty⟩ problem) (bigM ⟨⟨higher, tolerance⟩, penalty⟩ problem) := by
  refine .bind _ fun _ => ?_
  apply ExtendedBy.read (run_extendedBy (primalRule tolerance) least 1 _)
  intro finished
  dsimp only
  cases found : finished.verdict with
  | none => exact ⟨_, rfl, iff_of_true rfl found, rfl⟩
  | some verdict =>
      have whole : ¬ finished.CutOff := fun cut => nomatch found.symm.trans cut
      cases verdict with
      | unbounded => exact ⟨_, rfl, iff_of_false nofun whole, rfl⟩
      | optimal | infeasible =>
          dsimp only
          split
          · exact ⟨_, rfl, iff_of_false nofun whole, rfl⟩
          · exact ⟨_, rfl, iff_of_false nofun whole, rfl⟩

theorem dualStatus_eq_iterationLimit_iff (verdict : Option Verdict) :
    dualStatus verdict = .iterationLimit ↔ verdict = none := by
  cases verdict with
  | none => exact iff_of_true rfl rfl
  | some verdict =>
      cases verdict with
      | optimal | unbounded | infeasible => exact iff_of_false nofun nofun

theorem dualSimplex_extendedBy (tolerance : α) (problem : Problem α) (least : limit ≤ higher) :
    ExtendedBy DualSolution.CutOff DualSolution.iterations (limit + 1)
      (dualSimplex ⟨limit, tolerance⟩ problem) (dualSimplex ⟨higher, tolerance⟩ problem) := by
  refine .bind _ fun dual => ?_
  apply ExtendedBy.read (run_extendedBy (dualRule tolerance) least 1 _)
  intro finished
  exact ⟨_, rfl, dualStatus_eq_iterationLimit_iff finished.verdict, rfl⟩

/-- With a higher limit every method gives the same answer or fault, unless it
was cut off.  Then it had made all the pivots that it was allowed, and its
snapshots are the first ones of any answer with the higher limit. -/
theorem methods_extendedBy (tolerance penalty : α) (problem : Problem α)
    (least : limit ≤ higher) :
    ExtendedBy Solution.CutOff Solution.iterations (limit + 1)
        (simplex ⟨limit, tolerance⟩ problem) (simplex ⟨higher, tolerance⟩ problem) ∧
      ExtendedBy Solution.CutOff Solution.iterations (limit + 1)
        (bigM ⟨⟨limit, tolerance⟩, penalty⟩ problem)
        (bigM ⟨⟨higher, tolerance⟩, penalty⟩ problem) ∧
      ExtendedBy DualSolution.CutOff DualSolution.iterations (limit + 1)
        (dualSimplex ⟨limit, tolerance⟩ problem) (dualSimplex ⟨higher, tolerance⟩ problem) :=
  ⟨simplex_extendedBy tolerance problem least, bigM_extendedBy tolerance penalty problem least,
    dualSimplex_extendedBy tolerance problem least⟩

/-- One pivot is too few for the two products, and every answer that is cut off
there begins each answer with the limit of fifty. -/
theorem methods_extendedBy_twoProducts :
    1 ≤ 50 ∧
      (∃ short, simplex ⟨1, 0⟩ twoProducts = .ok short ∧ short.CutOff ∧
        short.iterations.length = 2 ∧ ∀ longer, simplex ⟨50, 0⟩ twoProducts = .ok longer →
          short.iterations <+: longer.iterations) ∧
      (∃ short, bigM ⟨⟨1, 0⟩, 1000⟩ twoProducts = .ok short ∧ short.CutOff ∧
        short.iterations.length = 2 ∧ ∀ longer, bigM ⟨⟨50, 0⟩, 1000⟩ twoProducts = .ok longer →
          short.iterations <+: longer.iterations) ∧
      ∃ short, dualSimplex ⟨1, 0⟩ twoProducts = .ok short ∧ short.CutOff ∧
        short.iterations.length = 2 ∧ ∀ longer, dualSimplex ⟨50, 0⟩ twoProducts = .ok longer →
          short.iterations <+: longer.iterations := by
  have least : 1 ≤ 50 := by decide
  rcases methods_extendedBy (0 : Rat) 1000 twoProducts least with ⟨primal, penalized, dual⟩
  have primalEnds : (simplex ⟨1, 0⟩ twoProducts).map Solution.status = .ok .iterationLimit := by
    decide +kernel
  have penalizedEnds : (bigM ⟨⟨1, 0⟩, 1000⟩ twoProducts).map Solution.status =
      .ok .iterationLimit := by decide +kernel
  have dualEnds : (dualSimplex ⟨1, 0⟩ twoProducts).map DualSolution.status =
      .ok .iterationLimit := by decide +kernel
  rcases Checks.map_eq_ok_iff.mp primalEnds with ⟨short, answers, cut⟩
  rcases Checks.map_eq_ok_iff.mp penalizedEnds with ⟨penalizedShort, penalizedAnswers, penalizedCut⟩
  rcases Checks.map_eq_ok_iff.mp dualEnds with ⟨dualShort, dualAnswers, dualCut⟩
  exact ⟨least, ⟨short, answers, cut, primal.cut short answers cut⟩,
    ⟨penalizedShort, penalizedAnswers, penalizedCut,
      penalized.cut penalizedShort penalizedAnswers penalizedCut⟩,
    dualShort, dualAnswers, dualCut, dual.cut dualShort dualAnswers dualCut⟩

end Linear
end Optimum

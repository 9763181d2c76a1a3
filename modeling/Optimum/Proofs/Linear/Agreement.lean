import Optimum.Proofs.Linear.Certificates
import Optimum.Proofs.Linear.DualAnswer
import Optimum.Proofs.Linear.SimplexAnswer

namespace Optimum
namespace Linear

open Scalar Tableau

/-!
# The simplex method and the dual method agree

The first walks through tableaus of the problem, the second through tableaus of
its dual, each by a rule of its own.  Both end with certificates, unless they
are cut off, and in standard form the origin is feasible, so that a dual
without feasible prices can only mean that the problem is unbounded.
-/

variable {problem : Problem Rat}

/-- A status and a value that report an outcome, in the sense of the problem
that was searched. -/
def Reports (sense : Sense) (status : Status) (objective : Option Rat) : Outcome → Prop
  | .optimal value => status = .optimal ∧ objective = some (sense.sign * value)
  | .unbounded => status = .unbounded
  | .infeasible => status = .infeasible

theorem isSlackTableau_slackTableau (shaped : problem.WellShaped)
    (standard : problem.checkStandardForm = .ok ()) :
    IsSlackTableau problem.system (slackTableau problem) := by
  rw [slackTableau_eq_dualTableau fun constraint member =>
    (checkStandardForm_eq_ok_iff.mp standard constraint member).1]
  exact isSlackTableau_dualTableau shaped

/-- The simplex method reports a certified outcome, unless it is cut off.  The
certificate is read off the last tableau. -/
theorem simplex_certified (limit : Nat) (valid : problem.validate = .ok ())
    (standard : problem.checkStandardForm = .ok ()) :
    ∃ solution, simplex ⟨limit, 0⟩ problem = .ok solution ∧
      (solution.status = .iterationLimit ∨ ∃ outcome, problem.system.Certified outcome ∧
        Reports problem.sense solution.status solution.objectiveValue outcome) := by
  have slack := isSlackTableau_slackTableau (Problem.validate_eq_ok_iff.mp valid).toWellShaped
    standard
  have feasible := slack.feasible (system_bound_nonneg (checkStandardForm_eq_ok_iff.mp standard))
  rcases run_primalRule slack.hasBasis feasible limit 1 with
    ⟨finished, runs, reached, kept, stops⟩
  simp only [simplex, valid, standard, runs, bind, Except.bind]
  cases found : finished.verdict with
  | none => exact ⟨_, rfl, .inl rfl⟩
  | some verdict =>
      have move := stops verdict found
      have certified := certified_of_primalMove slack reached kept move
      cases move with
      | optimal _ => exact ⟨_, rfl, .inr ⟨_, certified, rfl, rfl⟩⟩
      | unbounded _ _ _ => exact ⟨_, rfl, .inr ⟨_, certified, rfl⟩⟩

/-- If the problem has a feasible point, the dual method reports a certified
outcome of the dual, unless it is cut off. -/
theorem dualSimplex_certified (limit : Nat) (valid : problem.validate = .ok ())
    (bounds : ∀ constraint ∈ problem.constraints, constraint.relation ≠ .eq)
    {point : Nat → Rat} (feasible : problem.system.Feasible point) :
    ∃ solution, dualSimplex ⟨limit, 0⟩ problem = .ok solution ∧
      (solution.status = .iterationLimit ∨ ∃ outcome, problem.mirror.system.Certified outcome ∧
        Reports problem.mirror.sense solution.status solution.objectiveValue outcome) := by
  have slack := isSlackTableau_mirror problem
  have dual := Problem.dual_eq_mirror valid bounds
  rw [← dual_system_mirror (Problem.validate_eq_ok_iff.mp valid).toWellShaped bounds] at feasible
  rcases run_dualRule slack.hasBasis limit 1 with ⟨finished, runs, reached, stops⟩
  simp only [dualSimplex, dual, runs, bind, Except.bind]
  refine ⟨_, rfl, ?_⟩
  cases found : finished.verdict with
  | none => exact .inl rfl
  | some verdict =>
      refine .inr ⟨_, certified_of_dualMove slack reached feasible (stops verdict found), ?_⟩
      cases verdict with
      | optimal => exact ⟨rfl, by simp only [dualStatus, decide_true, if_true]⟩
      | unbounded => rfl
      | infeasible => rfl

/-- Both methods answer a problem in standard form, whatever their limits of
pivots are.  If neither is cut off, one finds an optimum exactly if the other
does, with the same value, and the first finds the problem unbounded exactly if
the second finds no feasible prices. -/
theorem simplex_agrees_dualSimplex (problem : Problem Rat) (limit dualLimit : Nat)
    (valid : problem.validate = .ok ()) (standard : problem.checkStandardForm = .ok ()) :
    ∃ solution dual, simplex ⟨limit, 0⟩ problem = .ok solution ∧
      dualSimplex ⟨dualLimit, 0⟩ problem = .ok dual ∧
      (solution.status ≠ .iterationLimit → dual.status ≠ .iterationLimit →
        (solution.status = .optimal ↔ dual.status = .optimal) ∧
        (solution.status = .optimal → ∃ value,
          solution.objectiveValue = some value ∧ dual.objectiveValue = some value) ∧
        (solution.status = .unbounded ↔ dual.status = .infeasible)) := by
  have shaped := (Problem.validate_eq_ok_iff.mp valid).toWellShaped
  have form := checkStandardForm_eq_ok_iff.mp standard
  have bounds : ∀ constraint ∈ problem.constraints, constraint.relation ≠ .eq := by
    intro constraint member
    rw [(form constraint member).1]
    decide
  have slack := isSlackTableau_slackTableau shaped standard
  have origin := feasible_valueOf slack (.refl slack.hasBasis)
    (slack.feasible (system_bound_nonneg form))
  rcases simplex_certified limit valid standard with ⟨solution, answers, ends⟩
  rcases dualSimplex_certified dualLimit valid bounds origin with ⟨dual, dualAnswers, dualEnds⟩
  refine ⟨solution, dual, answers, dualAnswers, fun finished dualFinished => ?_⟩
  rcases ends.resolve_left finished with ⟨outcome, certified, reports⟩
  rcases dualEnds.resolve_left dualFinished with ⟨dualOutcome, dualCertified, dualReports⟩
  rw [Problem.system_mirror shaped bounds] at dualCertified
  obtain rfl := certified.unique dualCertified.of_dual
  cases dualOutcome with
  | optimal value =>
      have same : dual.objectiveValue = some (problem.sense.sign * -value) := by
        rw [dualReports.2, show problem.mirror.sense = problem.sense.opposite from rfl,
          Sense.sign_opposite, neg_mul, mul_neg]
      rw [reports.1, dualReports.1]
      exact ⟨Iff.rfl, fun _ => ⟨_, reports.2, same⟩, by decide⟩
  | unbounded =>
      have status : solution.status = .infeasible := reports
      have dualEnded : dual.status = .unbounded := dualReports
      rw [status, dualEnded]
      exact ⟨by decide, nofun, by decide⟩
  | infeasible =>
      have status : solution.status = .unbounded := reports
      have dualEnded : dual.status = .infeasible := dualReports
      rw [status, dualEnded]
      exact ⟨by decide, nofun, by decide⟩

theorem simplex_agrees_dualSimplex_twoProducts :
    twoProducts.validate = .ok () ∧ twoProducts.checkStandardForm = .ok () ∧
      ∃ solution dual, simplex ⟨10, 0⟩ twoProducts = .ok solution ∧
        dualSimplex ⟨8, 0⟩ twoProducts = .ok dual ∧
        solution.status ≠ .iterationLimit ∧ dual.status ≠ .iterationLimit ∧
        (solution.status = .optimal ↔ dual.status = .optimal) ∧
        (solution.status = .optimal → ∃ value,
          solution.objectiveValue = some value ∧ dual.objectiveValue = some value) ∧
        (solution.status = .unbounded ↔ dual.status = .infeasible) := by
  have valid : twoProducts.validate = .ok () := by decide +kernel
  have standard : twoProducts.checkStandardForm = .ok () := by decide +kernel
  have ends : ((simplex ⟨10, 0⟩ twoProducts).map Solution.status).toOption = some .optimal := by
    decide +kernel
  have dualEnds : ((dualSimplex ⟨8, 0⟩ twoProducts).map DualSolution.status).toOption =
      some .optimal := by decide +kernel
  rcases simplex_agrees_dualSimplex twoProducts 10 8 valid standard with
    ⟨solution, dual, answers, dualAnswers, agree⟩
  rw [answers] at ends
  rw [dualAnswers] at dualEnds
  have finished : solution.status ≠ .iterationLimit := by
    rw [show solution.status = .optimal from Option.some.inj ends]
    decide
  have dualFinished : dual.status ≠ .iterationLimit := by
    rw [show dual.status = .optimal from Option.some.inj dualEnds]
    decide
  exact ⟨valid, standard, solution, dual, answers, dualAnswers, finished, dualFinished,
    agree finished dualFinished⟩

end Linear
end Optimum

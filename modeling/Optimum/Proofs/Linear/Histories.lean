import Optimum.Proofs.Linear.DualAnswer
import Optimum.Proofs.Linear.PenaltyRun

namespace Optimum
namespace Linear

open Scalar Tableau

/-!
# The histories that the methods record

The three methods differ in the tableau they start from and in the rule they
follow, and each keeps its start and the snapshots of its run.  Every start
has a basis and both rules are admissible, so every answer comes with a
history, whatever the limits are, and counts the pivots in it.
-/

variable {problem : Problem Rat} {limits : Limits Rat} {penalty : Rat}

/-- A history with the number of its pivots.  The start is a snapshot too, so
there is one snapshot more. -/
structure Recorded (iterations : List (Iteration Rat)) (count : Nat) : Prop where
  history : IsHistory iterations
  length_eq : iterations.length = count + 1

theorem recorded_of_run {rule : Tableau Rat → Move} (admissible : Admissible rule)
    {start : Tableau Rat} (based : start.HasBasis) {limit : Nat} {finished : Run Rat}
    (runs : run rule limit 1 start = .ok finished) (event : Event Rat) :
    Recorded (⟨0, start, event⟩ :: finished.iterations) finished.iterations.length :=
  ⟨admissible.isHistory based (trail_of_run runs) event, List.length_cons⟩

/-! ## The slack basis -/

theorem accepted_of_simplex {solution : Solution Rat}
    (answers : simplex limits problem = .ok solution) :
    problem.validate = .ok () ∧ problem.checkStandardForm = .ok () := by
  rcases Checks.bind_eq_ok_iff.mp answers with ⟨⟨⟩, valid, checked⟩
  rcases Checks.bind_eq_ok_iff.mp checked with ⟨⟨⟩, standard, -⟩
  exact ⟨valid, standard⟩

/-- An answer of the simplex method shows the first tableau and the pivots of the
primal rule from it. -/
theorem trail_of_simplex {solution : Solution Rat}
    (answers : simplex limits problem = .ok solution) :
    ∃ pivots last, solution.iterations = ⟨0, slackTableau problem, .slackBasis⟩ :: pivots ∧
      Trail (primalRule limits.tolerance) 1 (slackTableau problem) pivots last := by
  rcases Checks.check_bind_eq_ok_iff.mp answers with ⟨-, checked⟩
  rcases Checks.check_bind_eq_ok_iff.mp checked with ⟨-, started⟩
  rcases Checks.bind_eq_ok_iff.mp started with ⟨finished, runs, same⟩
  refine ⟨finished.iterations, finished.last, ?_, trail_of_run runs⟩
  cases verdict : finished.verdict with
  | none =>
      rw [verdict] at same
      cases same
      rfl
  | some stopped =>
      rw [verdict] at same
      cases stopped with
      | optimal | unbounded | infeasible =>
          cases same
          rfl

/-- The simplex method answers every problem in standard form, with a
history. -/
theorem simplex_recorded (nonneg : 0 ≤ limits.tolerance) (valid : problem.validate = .ok ())
    (standard : problem.checkStandardForm = .ok ()) :
    ∃ solution, simplex limits problem = .ok solution ∧
      Recorded solution.iterations solution.iterationCount := by
  have shaped := (Problem.validate_eq_ok_iff.mp valid).toWellShaped
  have slack := isSlackTableau_dualTableau shaped
  rw [← slackTableau_eq_dualTableau fun constraint member =>
    (checkStandardForm_eq_ok_iff.mp standard constraint member).1] at slack
  have admissible := admissible_primalRule nonneg
  rcases admissible.run_reaches slack.hasBasis limits.pivots 1 with ⟨finished, runs, -⟩
  have recorded := recorded_of_run admissible slack.hasBasis runs .slackBasis
  simp only [simplex, valid, standard, runs, bind, Except.bind]
  cases finished.verdict with
  | none => exact ⟨_, rfl, recorded⟩
  | some verdict =>
      cases verdict with
      | optimal | unbounded | infeasible => exact ⟨_, rfl, recorded⟩

/-! ## The penalized basis -/

theorem validate_of_bigM {options : BigM.Options Rat} {solution : Solution Rat}
    (answers : bigM options problem = .ok solution) : problem.validate = .ok () := by
  rcases Checks.bind_eq_ok_iff.mp answers with ⟨⟨⟩, valid, -⟩
  exact valid

/-- The method of penalties answers every problem, with a history.  Its start
has a basis once the penalties are eliminated. -/
theorem bigM_recorded (penalty : Rat) (nonneg : 0 ≤ limits.tolerance)
    (valid : problem.validate = .ok ()) :
    ∃ solution, bigM ⟨limits, penalty⟩ problem = .ok solution ∧
      Recorded solution.iterations solution.iterationCount := by
  have shaped := (Problem.validate_eq_ok_iff.mp valid).toWellShaped
  have based := problem.hasBasis_penaltyStart penalty shaped
  rcases bigM_exit ⟨limits, penalty⟩ valid nonneg with ⟨solution, last, answers, ran⟩
  rcases ran.recorded with ⟨pivots, recorded, trail⟩
  refine ⟨solution, answers, ?_, ?_⟩
  · rw [recorded]
    exact (admissible_primalRule nonneg).isHistory based trail _
  · rw [Solution.iterationCount, recorded]
    rfl

/-! ## The basis of the dual -/

theorem accepted_of_dualSimplex {solution : DualSolution Rat}
    (answers : dualSimplex limits problem = .ok solution) :
    problem.validate = .ok () ∧
      ∀ constraint ∈ problem.constraints, constraint.relation ≠ .eq := by
  rcases Checks.bind_eq_ok_iff.mp answers with ⟨dual, found, -⟩
  exact Problem.accepted_of_dual found

/-- The dual method answers every problem without equations, with a history.
The history is one of the dual problem. -/
theorem dualSimplex_recorded (nonneg : 0 ≤ limits.tolerance) (valid : problem.validate = .ok ())
    (bounds : ∀ constraint ∈ problem.constraints, constraint.relation ≠ .eq) :
    ∃ solution, dualSimplex limits problem = .ok solution ∧
      Recorded solution.iterations solution.iterationCount := by
  have dual := Problem.dual_eq_mirror valid bounds
  have based := (isSlackTableau_mirror problem).hasBasis
  have admissible := admissible_dualRule nonneg
  rcases admissible.run_reaches based limits.pivots 1 with ⟨finished, runs, -⟩
  simp only [dualSimplex, dual, runs, bind, Except.bind]
  exact ⟨_, rfl, recorded_of_run admissible based runs _⟩

/-! ## All methods -/

/-- Each method answers the problems that it accepts, and every answer keeps the
history of its run and counts the pivots in it.  The three methods differ in
their start and their rule, and a history is made from these two alone. -/
theorem methods_recorded (problem : Problem Rat) (limits : Limits Rat) (penalty : Rat)
    (nonneg : 0 ≤ limits.tolerance) :
    ((problem.validate = .ok () ∧ problem.checkStandardForm = .ok () ↔
        ∃ solution, simplex limits problem = .ok solution) ∧
      ∀ solution, simplex limits problem = .ok solution →
        Recorded solution.iterations solution.iterationCount) ∧
    ((problem.validate = .ok () ↔ ∃ solution, bigM ⟨limits, penalty⟩ problem = .ok solution) ∧
      ∀ solution, bigM ⟨limits, penalty⟩ problem = .ok solution →
        Recorded solution.iterations solution.iterationCount) ∧
    ((problem.validate = .ok () ∧
          (∀ constraint ∈ problem.constraints, constraint.relation ≠ .eq) ↔
        ∃ solution, dualSimplex limits problem = .ok solution) ∧
      ∀ solution, dualSimplex limits problem = .ok solution →
        Recorded solution.iterations solution.iterationCount) := by
  refine ⟨Checks.accepted_iff_and_forall ?_ fun _ => accepted_of_simplex,
    Checks.accepted_iff_and_forall ?_ fun _ => validate_of_bigM,
    Checks.accepted_iff_and_forall ?_ fun _ => accepted_of_dualSimplex⟩
  · exact fun ⟨valid, standard⟩ => simplex_recorded nonneg valid standard
  · exact bigM_recorded penalty nonneg
  · exact fun ⟨valid, bounds⟩ => dualSimplex_recorded nonneg valid bounds

theorem methods_recorded_twoProducts :
    (0 : Rat) ≤ (Limits.standard : Limits Rat).tolerance ∧
      (∃ solution, simplex .standard twoProducts = .ok solution ∧
        Recorded solution.iterations solution.iterationCount) ∧
      (∃ solution, bigM ⟨.standard, 1000⟩ twoProducts = .ok solution ∧
        Recorded solution.iterations solution.iterationCount) ∧
      ∃ solution, dualSimplex .standard twoProducts = .ok solution ∧
        Recorded solution.iterations solution.iterationCount := by
  have nonneg : (0 : Rat) ≤ (Limits.standard : Limits Rat).tolerance := by decide +kernel
  rcases methods_recorded twoProducts .standard 1000 nonneg with ⟨primal, penalized, dual⟩
  rcases primal.1.mp (by decide +kernel) with ⟨solution, answers⟩
  rcases penalized.1.mp (by decide +kernel) with ⟨penalizedSolution, penalizedAnswers⟩
  rcases dual.1.mp (by decide +kernel) with ⟨dualSolution, dualAnswers⟩
  exact ⟨nonneg, ⟨solution, answers, primal.2 solution answers⟩,
    ⟨penalizedSolution, penalizedAnswers, penalized.2 penalizedSolution penalizedAnswers⟩,
    dualSolution, dualAnswers, dual.2 dualSolution dualAnswers⟩

end Linear
end Optimum

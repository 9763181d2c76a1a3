import Optimum.Linear.Binary
import Optimum.Proofs.Linear.Histories
import Optimum.Proofs.Linear.PlaneVertices
import Optimum.Proofs.Tableau.Lookups

namespace Optimum
namespace Linear

open Tableau

/-!
# Why the methods refuse a problem

A valid problem is refused only for what a method checks before its first step,
and for a plane region without a kept place.  The runs themselves do not fail
over the rationals, and they look up nothing beyond the edges of their
tableaus.
-/

variable {problem : Problem Rat} {limits : Limits Rat} {cause : SolveError Rat}

/-! ## The simplex method -/

/-- The simplex method fails with the fault of a constraint.  The run itself
never fails, since its pivots are never on zero. -/
theorem simplex_eq_error (nonneg : 0 ≤ limits.tolerance) (valid : problem.validate = .ok ())
    (fails : simplex limits problem = .error cause) :
    ∃ constraint ∈ problem.constraints, checkStandard constraint = .error cause := by
  rcases Checks.bind_eq_error_iff.mp fails with invalid | ⟨⟨⟩, -, rest⟩
  · rw [valid] at invalid
    cases invalid
  · rcases Checks.bind_eq_error_iff.mp rest with refused | ⟨⟨⟩, standard, -⟩
    · exact Checks.exists_of_forM_eq_error refused
    · rcases simplex_recorded nonneg valid standard with ⟨solution, answers, -⟩
      rw [fails] at answers
      cases answers

theorem head?_iterations_of_simplex {solution : Solution Rat}
    (answers : simplex limits problem = .ok solution) :
    solution.iterations.head? = some ⟨0, slackTableau problem, .slackBasis⟩ := by
  rcases trail_of_simplex answers with ⟨pivots, last, recorded, -⟩
  rw [recorded, List.head?_cons]

theorem width_slackTableau (shaped : problem.WellShaped) :
    (slackTableau problem).width = problem.dimension + problem.constraints.length := by
  rw [width, slackTableau, List.length_append, shaped.length_names, length_numbered]

theorem staysInside_of_simplex (nonneg : 0 ≤ limits.tolerance) {solution : Solution Rat}
    (answers : simplex limits problem = .ok solution) :
    StaysInside (primalRule limits.tolerance) (problem.dimension + problem.constraints.length)
      solution.iterations := by
  rcases accepted_of_simplex answers with ⟨valid, standard⟩
  have shaped := (Problem.validate_eq_ok_iff.mp valid).toWellShaped
  rcases simplex_recorded nonneg valid standard with ⟨found, same, recorded⟩
  rw [answers] at same
  cases same
  rw [← width_slackTableau shaped]
  exact recorded.history.staysInside (admissible_primalRule nonneg)
    (head?_iterations_of_simplex answers)

/-! ## The method of penalties -/

theorem staysInside_of_bigM {options : BigM.Options Rat} (nonneg : 0 ≤ options.limits.tolerance)
    {solution : Solution Rat} (answers : bigM options problem = .ok solution) :
    StaysInside (primalRule options.limits.tolerance) (problem.dimension + problem.counts.total)
      solution.iterations := by
  have valid := validate_of_bigM answers
  have shaped := (Problem.validate_eq_ok_iff.mp valid).toWellShaped
  rcases bigM_exit options valid nonneg with ⟨found, last, same, ran⟩
  rw [answers] at same
  cases same
  rcases ran.recorded with ⟨pivots, recorded, trail⟩
  have admissible := admissible_primalRule nonneg
  have based := problem.hasBasis_penaltyStart options.penalty shaped
  have columns := (Problem.rowEquivalent_penaltyStart options.penalty shaped).columns_eq
  have wide : (problem.penaltyStart options.penalty).width =
      problem.dimension + problem.counts.total := by
    rw [width, columns]
    exact Problem.width_penalized shaped
  rw [← wide, recorded]
  exact (admissible.isHistory based trail _).staysInside admissible rfl

/-! ## The dual method -/

theorem Problem.symmetricConstraint_eq_error {sense : Sense} {constraint : Constraint Rat}
    (fails : symmetricConstraint sense constraint = .error cause) :
    constraint.relation = .eq ∧
      cause = .unsupportedRelation constraint.name .eq [.le, .ge] := by
  rw [symmetricConstraint] at fails
  split at fails
  · next equation =>
      rw [equation] at fails
      cases fails
      exact ⟨equation, rfl⟩
  · cases fails

theorem dualSimplex_eq_error (nonneg : 0 ≤ limits.tolerance) (valid : problem.validate = .ok ())
    (fails : dualSimplex limits problem = .error cause) :
    ∃ constraint ∈ problem.constraints, constraint.relation = .eq ∧
      cause = .unsupportedRelation constraint.name .eq [.le, .ge] := by
  rcases Checks.bind_eq_error_iff.mp fails with refused | ⟨dual, accepted, -⟩
  · rcases Checks.bind_eq_error_iff.mp refused with invalid | ⟨⟨⟩, -, rest⟩
    · rw [valid] at invalid
      cases invalid
    · rcases Checks.bind_eq_error_iff.mp rest with unaligned | ⟨bounds, -, impossible⟩
      · rcases Checks.exists_of_mapM_eq_error unaligned with ⟨constraint, member, failed⟩
        exact ⟨constraint, member, Problem.symmetricConstraint_eq_error failed⟩
      · cases impossible
  · rcases dualSimplex_recorded nonneg valid (Problem.accepted_of_dual accepted).2 with
      ⟨solution, answers, -⟩
    rw [fails] at answers
    cases answers

/-- The dual problem that an answer shows has a price for each constraint and a
bound for each variable. -/
structure DualSolution.Mirrors (problem : Problem Rat) (solution : DualSolution Rat) : Prop where
  shaped : solution.dual.WellShaped
  dimension_eq : solution.dual.dimension = problem.constraints.length
  length_constraints : solution.dual.constraints.length = problem.dimension

theorem staysInside_of_dualSimplex (nonneg : 0 ≤ limits.tolerance) {solution : DualSolution Rat}
    (answers : dualSimplex limits problem = .ok solution) :
    solution.Mirrors problem ∧
      StaysInside (dualRule limits.tolerance) (problem.constraints.length + problem.dimension)
        solution.iterations := by
  rcases accepted_of_dualSimplex answers with ⟨valid, bounds⟩
  have shaped := (Problem.validate_eq_ok_iff.mp valid).toWellShaped
  have admissible := admissible_dualRule nonneg
  have slack := isSlackTableau_mirror problem
  rcases Checks.bind_eq_ok_iff.mp answers with ⟨dual, mirrored, started⟩
  rw [Problem.dual_eq_mirror valid bounds] at mirrored
  cases mirrored
  rcases Checks.bind_eq_ok_iff.mp started with ⟨finished, runs, same⟩
  cases same
  refine ⟨⟨Problem.wellShaped_mirror, Problem.dimension_mirror,
    Problem.length_constraints_mirror shaped⟩, ?_⟩
  have wide : (dualTableau problem.mirror).width =
      problem.constraints.length + problem.dimension := by
    rw [slack.width_eq]
    exact congrArg₂ _ Problem.dimension_mirror (Problem.length_constraints_mirror shaped)
  rw [← wide]
  exact (admissible.isHistory slack.hasBasis (trail_of_run runs) _).staysInside admissible rfl

/-! ## The methods without a tableau -/

section Searches

variable {α : Type} {cause : SolveError α}

theorem binary_eq_error_iff [Scalar α] {problem : Problem α} {options : Binary.Options α}
    (valid : problem.validate = .ok ()) :
    binary options problem = .error cause ↔ options.maxVariables < problem.dimension ∧
      cause = .tooManyBinaryVariables options.maxVariables problem.dimension := by
  unfold binary
  rw [valid]
  by_cases many : options.maxVariables < problem.dimension
  · simp [bind, Except.bind, many, eq_comm]
  · simp only [bind, Except.bind, many, if_false, false_and, iff_false]
    split <;> nofun

theorem graphical_eq_error_iff [PlaneScalar α] {problem : Problem α}
    {options : Graphical.Options α} (valid : problem.validate = .ok ()) :
    graphical options problem = .error cause ↔
      problem.dimension ≠ 2 ∧ cause = .planeDimension problem.dimension ∨
        problem.dimension = 2 ∧ Graphical.keptPlaces options problem = [] ∧
          cause = .noFeasibleVertices := by
  unfold graphical
  by_cases planar : problem.dimension = 2
  · simp only [planar, ne_eq, not_true_eq_false, if_false, false_and, false_or, true_and, valid,
      bind, Except.bind]
    cases places : Graphical.keptPlaces options problem with
    | nil =>
        rw [Graphical.keptPlaces] at places
        simp [places, eq_comm]
    | cons first others =>
        rw [Graphical.keptPlaces] at places
        simp [places, pure, Except.pure]
  · simp only [planar, ne_eq, not_false_eq_true, if_true, true_and, false_and, or_false]
    rw [Except.error.injEq, eq_comm]

end Searches

end Linear
end Optimum

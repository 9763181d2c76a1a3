import Optimum.Proofs.Linear.PenaltyRun

namespace Optimum
namespace Linear

open Scalar Tableau

/-!
# The values that the method of penalties reports

Whatever the penalty is, a basic solution that gives nothing to the artificial
columns is a feasible point, and the tableau then shows its objective.  If
moreover no column improves, then no point of the problem is better: its
slacks complete it to a solution of the rows, at which the penalty is not felt.
-/

variable {problem : Problem Rat} {penalty tolerance : Rat} {last : Tableau Rat}

namespace Problem

/-! ## The last basic solution -/

section Readings

variable (reached : Reached (problem.penalized penalty) last)

include reached

theorem solves_valueOf : (problem.penalized penalty).Solves last.valueOf :=
  reached.equivalent.solves_iff.mp reached.based.solves_valueOf

theorem value_valueOf (shaped : problem.WellShaped) :
    problem.system.value last.valueOf =
      last.objectiveValue + penalty * problem.artificialTotal last.valueOf := by
  have atLast := reached.equivalent.valueAt_eq (solves_valueOf reached)
  rw [reached.based.valueAt_valueOf, valueAt_penalized shaped] at atLast
  rw [atLast, sub_add_cancel]

/-- A tableau without artificial columns above the tolerance has none at all,
if the tolerance hides nothing. -/
theorem artificialTotal_valueOf_eq_zero (feasible : last.Feasible) (nonneg : 0 ≤ tolerance)
    (visible : Visible tolerance last) (cleared : problem.artificialsLeft tolerance last = []) :
    problem.artificialTotal last.valueOf = 0 := by
  refine Finset.sum_eq_zero fun column member => ?_
  rw [artificialWeight]
  split
  · rename_i artificial
    have small := (artificialsLeft_eq_nil_iff nonneg).mp cleared column
      (Finset.mem_range.mp member) artificial
    rw [one_mul]
    unfold valueOf at small ⊢
    cases basic : last.basicRow? column with
    | none => rfl
    | some row =>
        rw [basic] at small
        have inside := (reached.based.basicRow?_eq_some_iff.mp basic).1
        exact le_antisymm (visible.nonpos inside (Nat.le_refl _) small) (feasible row inside)
  · exact zero_mul _

section Cleared

variable (shaped : problem.WellShaped) (feasible : last.Feasible)
  (cleared : problem.artificialTotal last.valueOf = 0)

include shaped cleared

theorem evaluate_valueOf_of_cleared :
    problem.evaluate (problem.tabulate last.valueOf) =
      problem.sense.sign * last.objectiveValue := by
  rw [evaluate_tabulate, value_valueOf reached shaped, cleared, mul_zero, add_zero]

include feasible

theorem feasible_valueOf_of_cleared : problem.Feasible (problem.tabulate last.valueOf) :=
  feasible_of_solves (spread_nonneg reached.based feasible) cleared shaped (solves_valueOf reached)

/-- Without an improving column the point is the best one.  The penalised
objective and the problem's own agree where the artificial columns are zero. -/
theorem isOptimal_valueOf_of_cleared
    (satisfied : ∀ column < last.width, 0 ≤ last.entry last.height column) :
    problem.IsOptimal (problem.tabulate last.valueOf) := by
  refine ⟨feasible_valueOf_of_cleared reached shaped feasible cleared, fun other possible => ?_⟩
  have atOther := reached.equivalent.valueAt_eq (solves_extension possible shaped)
  rw [valueAt_penalized shaped, artificialTotal_extension, mul_zero, sub_zero,
    value_extension possible] at atOther
  have charged : 0 ≤ last.leftSide last.height (problem.extension other) :=
    Finset.sum_nonneg fun column member => mul_nonneg (satisfied column (Finset.mem_range.mp member))
      (extension_nonneg possible column)
  rw [Sense.better_iff, evaluate_valueOf_of_cleared reached shaped cleared, ← mul_assoc,
    problem.sense.sign_mul_sign, one_mul, ← atOther, valueAt, ← objectiveValue_eq_rhs, not_lt]
  exact sub_le_self _ charged

end Cleared

end Readings

end Problem

/-! ## The answer -/

/-- What the reported values are worth: those of an optimum are best, and
those of a run that was cut off are at least feasible if no artificial column
is left. -/
structure Solution.ReportsTruthfully (problem : Problem Rat) (solution : Solution Rat) : Prop where
  optimal : solution.status = .optimal →
    problem.IsOptimal solution.values ∧
      solution.objectiveValue = some (problem.evaluate solution.values)
  iterationLimit : solution.status = .iterationLimit → solution.artificials = [] →
    problem.Feasible solution.values ∧
      solution.objectiveValue = some (problem.evaluate solution.values)

/-- Whatever the penalty and the limit of pivots are, the method answers every
valid problem, and the values that it reports are what they are said to be.  No
size of the penalty is asked for: where the artificial columns are gone, so is
the penalty. -/
theorem bigM_reportsTruthfully (problem : Problem Rat) (penalty : Rat) (limit : Nat)
    (valid : problem.validate = .ok ()) :
    ∃ solution, bigM ⟨⟨limit, 0⟩, penalty⟩ problem = .ok solution ∧
      solution.ReportsTruthfully problem := by
  have shaped := (Problem.validate_eq_ok_iff.mp valid).toWellShaped
  rcases bigM_exit ⟨⟨limit, 0⟩, penalty⟩ valid (le_refl 0) with ⟨solution, last, answers, ran⟩
  have reached := ran.reached_last shaped (le_refl 0)
  have feasible := ran.feasible_last shaped (le_refl 0) fun current _ => visible_zero current
  have clears : problem.artificialsLeft 0 last = [] → problem.artificialTotal last.valueOf = 0 :=
    Problem.artificialTotal_valueOf_eq_zero reached feasible (le_refl 0) (visible_zero last)
  refine ⟨solution, answers, fun status => ?_, fun status empty => ?_⟩
  · cases ran.exits with
    | unbounded _ _ _ other | infeasible _ _ other | iterationLimit _ other =>
        rw [status] at other
        cases other
    | optimal satisfied cleared _ values objective =>
        simp only [neg_zero] at satisfied
        rw [values, objective, Problem.evaluate_valueOf_of_cleared reached shaped (clears cleared)]
        exact ⟨Problem.isOptimal_valueOf_of_cleared reached shaped feasible (clears cleared) satisfied,
          rfl⟩
  · cases ran.exits with
    | unbounded _ _ _ other | infeasible _ _ other | optimal _ _ other =>
        rw [status] at other
        cases other
    | iterationLimit artificials _ values objective =>
        have cleared := clears (artificials ▸ empty)
        rw [values, objective, Problem.evaluate_valueOf_of_cleared reached shaped cleared]
        exact ⟨Problem.feasible_valueOf_of_cleared reached shaped feasible cleared, rfl⟩

/-- A blend of a given size, with a bound on each part.  One of the bounds has
a negative right-hand side. -/
def blend : Problem Rat where
  variableNames := ["x", "y"]
  sense := .min
  objective := [2, 3]
  constraints := [⟨"R1", [1, 1], .eq, 10⟩, ⟨"R2", [-1, 0], .le, -4⟩, ⟨"R3", [0, 1], .ge, 2⟩]

theorem bigM_reportsTruthfully_blend :
    blend.validate = .ok () ∧
      ∃ solution, bigM ⟨⟨10, 0⟩, 1000⟩ blend = .ok solution ∧ solution.ReportsTruthfully blend := by
  have valid : blend.validate = .ok () := by decide +kernel
  exact ⟨valid, bigM_reportsTruthfully blend 1000 10 valid⟩

example : (bigM ⟨⟨10, 0⟩, 1000⟩ blend).map (fun solution => (solution.status, solution.values)) =
    .ok (.optimal, [8, 2]) := by decide +kernel

end Linear
end Optimum

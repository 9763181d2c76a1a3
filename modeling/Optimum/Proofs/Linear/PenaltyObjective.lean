import Optimum.Proofs.Linear.DualAnswer
import Optimum.Proofs.Linear.PenaltyAnswer

namespace Optimum
namespace Linear

open Scalar Tableau

/-!
# The objective that the method of penalties reports

The reported objective is read off the last tableau, and the objective row
charges every artificial column that still has a value.  So the report is the
objective of the reported point less that charge.  The charge is zero where the
artificial columns have left the basis.  Where the limit was reached before that,
or where the tolerance passes over what they keep, the report is not the
objective of any point.
-/

variable {problem : Problem Rat} {options : BigM.Options Rat} {penalty tolerance value : Rat}
  {last : Tableau Rat} {solution : Solution Rat}

/-! ## What an answer is read from -/

/-- The last tableau of a run with the values that an answer takes from it, so
that statements about reported values become statements about that tableau. -/
structure Solution.IsReadFrom (problem : Problem Rat) (tolerance : Rat) (last : Tableau Rat)
    (solution : Solution Rat) : Prop where
  getLast?_eq : (solution.iterations.map Iteration.tableau).getLast? = some last
  objectiveValue_eq : solution.objectiveValue = some (problem.sense.sign * last.objectiveValue)
  values_eq : solution.values = problem.tabulate last.valueOf
  artificials_eq : solution.artificials = problem.artificialsLeft tolerance last

theorem isReadFrom_of_bigM (answers : bigM options problem = .ok solution)
    (reported : solution.objectiveValue = some value) :
    ∃ last, solution.IsReadFrom problem options.limits.tolerance last := by
  rcases Checks.check_bind_eq_ok_iff.mp answers with ⟨-, started⟩
  rcases Checks.bind_eq_ok_iff.mp started with ⟨finished, runs, same⟩
  have ends := (trail_of_run runs).getLast_map_tableau
  have final : ((⟨0, problem.penaltyStart options.penalty, .penalized options.penalty⟩ ::
      finished.iterations).map Iteration.tableau).getLast? = some finished.last := by
    rw [List.map_cons, List.getLast?_cons]
    exact congrArg some ends
  cases verdict : finished.verdict with
  | none =>
      rw [verdict] at same
      cases same
      exact ⟨finished.last, final, rfl, map_value_columnValues finished.last problem, rfl⟩
  | some stopped =>
      rw [verdict] at same
      cases stopped with
      | unbounded =>
          cases same
          cases reported
      | optimal | infeasible =>
          dsimp only at same
          split at same
          · cases same
            exact ⟨finished.last, final, rfl, map_value_columnValues finished.last problem, rfl⟩
          · cases same
            cases reported

/-! ## The artificial columns in the report -/

namespace Problem

theorem artificialTotal_eq_sum (point : Nat → Rat) :
    problem.artificialTotal point = (((List.range problem.counts.artificial).map
      (problem.firstArtificial + ·)).map point).sum := by
  have split : problem.dimension + problem.counts.total =
      problem.firstArtificial + problem.counts.artificial := by
    rw [firstArtificial, BigM.Counts.total, ← Nat.add_assoc, ← Nat.add_assoc]
  have before : ∑ column ∈ Finset.range problem.firstArtificial,
      problem.artificialWeight column * point column = 0 := by
    refine Finset.sum_eq_zero fun column member => ?_
    rw [artificialWeight, if_neg (not_le.mpr (Finset.mem_range.mp member)), zero_mul]
  rw [artificialTotal, split, Finset.sum_range_add, before, zero_add, List.map_map]
  refine Finset.sum_congr rfl fun position _ => ?_
  rw [artificialWeight, if_pos (Nat.le_add_right _ _), one_mul]
  rfl

/-- Columns without a value may be left out of a sum of values. -/
private theorem sum_reported (nonneg : ∀ column, 0 ≤ last.valueOf column) (columns : List Nat) :
    (((columnValues last (columns.filter fun column => (last.basicRow? column).isSome)).filter
      fun entry => 0 < entry.value).map NamedValue.value).sum = (columns.map last.valueOf).sum := by
  induction columns with
  | nil => rfl
  | cons column columns inductionHypothesis =>
      rw [List.map_cons, List.sum_cons, ← inductionHypothesis]
      cases basic : last.basicRow? column with
      | none =>
          have outside : last.valueOf column = 0 := by rw [valueOf, basic]
          rw [List.filter_cons_of_neg (by simp [basic]), outside, zero_add]
      | some row =>
          rw [List.filter_cons_of_pos (by simp [basic]), columnValues, List.map_cons]
          rcases (nonneg column).lt_or_eq with positive | zero
          · rw [List.filter_cons_of_pos (by simpa using positive), List.map_cons, List.sum_cons]
            rfl
          · rw [List.filter_cons_of_neg (by simp [← zero]), ← zero, zero_add]
            rfl

/-- With exact comparisons the artificial columns that are reported are all that
have a value. -/
theorem sum_artificialsLeft (nonneg : ∀ column, 0 ≤ last.valueOf column) :
    ((problem.artificialsLeft 0 last).map NamedValue.value).sum =
      problem.artificialTotal last.valueOf := by
  rw [artificialTotal_eq_sum]
  exact sum_reported nonneg _

end Problem

/-! ## The charge -/

/-- A reported objective with what it charges for the artificial columns.  With
exact comparisons the charge can be told from the answer alone. -/
structure Solution.ChargesArtificials (problem : Problem Rat) (options : BigM.Options Rat)
    (last : Tableau Rat) (solution : Solution Rat) (value : Rat) : Prop where
  eq_sub : value = problem.evaluate solution.values -
    problem.sense.sign * (options.penalty * problem.artificialTotal last.valueOf)
  eq_evaluate_iff : value = problem.evaluate solution.values ↔
    options.penalty = 0 ∨ problem.artificialTotal last.valueOf = 0
  artificials_of_exact : options.limits.tolerance = 0 →
    (solution.artificials.map NamedValue.value).sum = problem.artificialTotal last.valueOf

/-- Every objective value that the method reports is the objective of the
reported point less the penalty for the artificial columns of the last snapshot.
So the value is that of the point only where these columns are zero. -/
theorem bigM_chargesArtificials (problem : Problem Rat) (options : BigM.Options Rat)
    (valid : problem.validate = .ok ()) (nonneg : 0 ≤ options.limits.tolerance) :
    ∃ solution last, bigM options problem = .ok solution ∧
      (solution.iterations.map Iteration.tableau).getLast? = some last ∧
      ∀ value, solution.objectiveValue = some value →
        solution.ChargesArtificials problem options last value := by
  have shaped := (Problem.validate_eq_ok_iff.mp valid).toWellShaped
  rcases bigM_exit options valid nonneg with ⟨solution, last, answers, ran⟩
  have reached := ran.reached_last shaped nonneg
  refine ⟨solution, last, answers, ran.getLast?_iterations, fun value reported => ?_⟩
  rcases isReadFrom_of_bigM answers reported with ⟨final, final_eq, objective, values, artificials⟩
  -- The tableau that the answer is read from is the one that the run has reached.
  obtain rfl := Option.some.inj (final_eq.symm.trans ran.getLast?_iterations)
  obtain rfl := Option.some.inj (reported.symm.trans objective)
  have charged : problem.sense.sign * final.objectiveValue = problem.evaluate solution.values -
      problem.sense.sign * (options.penalty * problem.artificialTotal final.valueOf) := by
    rw [values, Problem.evaluate_tabulate, Problem.value_valueOf reached shaped, mul_add,
      add_sub_cancel_right]
  refine ⟨charged, ?_, fun exact => ?_⟩
  · have sign := left_ne_zero_of_mul_eq_one problem.sense.sign_mul_sign
    rw [charged, sub_eq_self, mul_eq_zero_iff_left sign, mul_eq_zero]
  · have feasible := ran.feasible_last shaped nonneg fun current _ => by
      rw [exact]
      exact visible_zero current
    rw [artificials, exact]
    exact Problem.sum_artificialsLeft (spread_nonneg reached.based feasible)

/-- A cut off run that still needs a unit of its artificial column. -/
theorem bigM_chargesArtificials_mixture :
    mixture.validate = .ok () ∧ ∃ solution last,
      bigM ⟨⟨1, 0⟩, 1000⟩ mixture = .ok solution ∧ solution.objectiveValue = some 1006 ∧
        solution.ChargesArtificials mixture ⟨⟨1, 0⟩, 1000⟩ last 1006 := by
  have valid : mixture.validate = .ok () := by decide +kernel
  have reported : (bigM ⟨⟨1, 0⟩, 1000⟩ mixture).map Solution.objectiveValue =
      .ok (some 1006) := by decide +kernel
  rcases bigM_chargesArtificials mixture ⟨⟨1, 0⟩, 1000⟩ valid (le_refl 0) with
    ⟨solution, last, answers, -, charges⟩
  rw [answers] at reported
  have objective := Except.ok.inj reported
  exact ⟨valid, solution, last, answers, objective, charges 1006 objective⟩

/-- One variable with two values that differ by less than the standard
tolerance. -/
def twoReadings : Problem Rat where
  variableNames := ["x1"]
  sense := .max
  objective := [1]
  constraints := [⟨"R1", [1], .eq, 1⟩, ⟨"R2", [1], .eq, 32769 / 32768⟩]

/-- The report differs from the objective of the reported point for an optimum
with an artificial column within the tolerance, and for a run that was cut off. -/
theorem bigM_objectiveValue_charged :
    twoReadings.validate = .ok () ∧
      (bigM .standard twoReadings).map (fun solution =>
        (solution.status, solution.objectiveValue, solution.values)) =
          .ok (.optimal, some (-15113 / 512), [1]) ∧ twoReadings.evaluate [1] = 1 ∧
      mixture.validate = .ok () ∧
      (bigM { (BigM.Options.standard : BigM.Options Rat) with
          limits := { (BigM.Options.standard : BigM.Options Rat).limits with pivots := 1 } }
        mixture).map (fun solution =>
          (solution.status, solution.objectiveValue, solution.values)) =
            .ok (.iterationLimit, some 1000006, [3, 0]) ∧ mixture.evaluate [3, 0] = 6 := by
  decide +kernel

end Linear
end Optimum

import Optimum.Proofs.Linear.Directions
import Optimum.Proofs.Linear.PenaltyTableau

namespace Optimum
namespace Linear

open Scalar Tableau

/-!
# Points of the problem and of the tableau

A point of the tableau gives values to the added columns as well.  If it
solves the rows without negative values and without an artificial share, its
variables are a feasible point of the problem; and every feasible point comes
from one, with the slacks of its constraints in the added columns.  The value
of the tableau at a point is the gain of its variables less the penalty for
its artificial share.
-/

/-! ## Relations and slacks -/

theorem Relation.flipped_holds_iff {relation : Relation} {left right : Rat} :
    relation.flipped.Holds (-left) (-right) ↔ relation.Holds left right := by
  cases relation with
  | le | ge => exact neg_le_neg_iff
  | eq => exact neg_inj

/-- Two sides that are equal after the slack has been added are related. -/
theorem Relation.holds_of_add {relation : Relation} {left right amount : Rat} (nonneg : 0 ≤ amount)
    (equation : left + relation.slackSign * amount = right) : relation.Holds left right := by
  cases relation with
  | le =>
      rw [slackSign, one_mul] at equation
      exact equation ▸ le_add_of_nonneg_right nonneg
  | eq =>
      rw [slackSign, zero_mul, add_zero] at equation
      exact equation
  | ge =>
      rw [slackSign, neg_one_mul] at equation
      exact equation ▸ add_le_of_nonpos_right (neg_nonpos.mpr nonneg)

namespace Constraint

variable {constraint : Constraint Rat} {point : List Rat}

theorem lhs_negated (constraint : Constraint Rat) (point : List Rat) :
    constraint.negated.lhs point = -constraint.lhs point :=
  dot_map_neg constraint.coefficients point

/-- The form with a right-hand side that is not negative holds where the
constraint does. -/
theorem normalized_holds_iff :
    (BigM.normalized constraint).Holds point ↔ constraint.Holds point := by
  rw [BigM.normalized]
  split
  · rw [Holds, Holds, lhs_negated]
    exact Relation.flipped_holds_iff
  · exact Iff.rfl

theorem normalized_respects_iff :
    (BigM.normalized constraint).relation.Holds ((BigM.normalized constraint).lhs point) 0 ↔
      constraint.relation.Holds (constraint.lhs point) 0 := by
  rw [BigM.normalized]
  split
  · rw [lhs_negated, ← neg_zero (G := Rat)]
    exact Relation.flipped_holds_iff
  · exact Iff.rfl

/-- How far a point lies from the bound of a constraint, on the side where the
constraint holds; zero for an equation. -/
def slack (constraint : Constraint Rat) (point : List Rat) : Rat :=
  constraint.relation.slackSign * (constraint.rhs - constraint.lhs point)

theorem slack_nonneg (holds : constraint.Holds point) : 0 ≤ constraint.slack point := by
  rw [Holds] at holds
  rw [slack]
  cases relation : constraint.relation with
  | le =>
      rw [relation] at holds
      rw [Relation.slackSign, one_mul]
      exact sub_nonneg.mpr holds
  | eq => rw [Relation.slackSign, zero_mul]
  | ge =>
      rw [relation] at holds
      rw [Relation.slackSign, neg_one_mul, neg_sub]
      exact sub_nonneg.mpr holds

/-- With its slack added a constraint holds as an equation. -/
theorem lhs_add_slack (holds : constraint.Holds point) :
    constraint.lhs point + constraint.relation.slackSign * constraint.slack point =
      constraint.rhs := by
  rw [Holds] at holds
  rw [slack]
  cases relation : constraint.relation with
  | le => rw [Relation.slackSign, one_mul, one_mul, add_sub_cancel]
  | eq =>
      rw [relation] at holds
      rw [Relation.slackSign, zero_mul, add_zero]
      exact holds
  | ge => rw [Relation.slackSign, neg_one_mul, neg_one_mul, neg_neg, add_sub_cancel]

end Constraint

namespace Problem

variable {problem : Problem Rat} {penalty : Rat} {row : Nat} {point : Nat → Rat}

theorem rowAt_holds_iff (inside : row < problem.constraints.length) {values : List Rat} :
    (problem.rowAt row).Holds values ↔ problem.constraints[row].Holds values := by
  rw [rowAt_eq inside]
  exact Constraint.normalized_holds_iff

/-! ## Rows at a point -/

/-- The total that a point gives to the artificial columns.  It measures how far
the point is from the original problem. -/
def artificialTotal (problem : Problem Rat) (point : Nat → Rat) : Rat :=
  ∑ column ∈ Finset.range (problem.dimension + problem.counts.total),
    problem.artificialWeight column * point column

theorem artificialWeight_nonneg (column : Nat) : 0 ≤ problem.artificialWeight column := by
  rw [artificialWeight]
  split
  · exact zero_le_one
  · exact le_refl 0

theorem artificialTotal_nonneg (nonneg : ∀ column, 0 ≤ point column) :
    0 ≤ problem.artificialTotal point :=
  Finset.sum_nonneg fun column _ => mul_nonneg (artificialWeight_nonneg column) (nonneg column)

theorem lhs_tabulate (shaped : problem.WellShaped) (inside : row < problem.constraints.length)
    (point : Nat → Rat) :
    (problem.rowAt row).lhs (problem.tabulate point) =
      ∑ j ∈ Finset.range problem.dimension, (problem.rowAt row).coefficients.getD j 0 * point j := by
  rw [Constraint.lhs, dot_eq_sum_range _ (length_coefficients_rowAt shaped inside).le]
  refine Finset.sum_congr rfl fun j member => ?_
  rw [problem.getD_tabulate point (Finset.mem_range.mp member)]

private theorem sum_single {first count column : Nat} (value : Rat) (point : Nat → Rat)
    (inside : value ≠ 0 → first ≤ column ∧ column < first + count) :
    ∑ position ∈ Finset.range count,
      (if first + position = column then value else 0) * point (first + position) =
      value * point column := by
  by_cases zero : value = 0
  · simp [zero]
  · obtain ⟨position, rfl⟩ := Nat.exists_eq_add_of_le (inside zero).1
    have below : position < count := Nat.lt_of_add_lt_add_left (inside zero).2
    rw [Finset.sum_eq_single_of_mem position (Finset.mem_range.mpr below), if_pos rfl]
    intro other _ different
    rw [if_neg fun same => different (Nat.add_left_cancel same), zero_mul]

theorem leftSide_penalized (shaped : problem.WellShaped)
    (inside : row < problem.constraints.length) (point : Nat → Rat) :
    (problem.penalized penalty).leftSide row point =
      (problem.rowAt row).lhs (problem.tabulate point) +
        (problem.rowAt row).relation.slackSign * point (problem.boundColumn row) +
        (problem.rowAt row).relation.artificialShare * point (problem.artificialColumn row) := by
  have bound : (problem.rowAt row).relation.slackSign ≠ 0 →
      problem.dimension ≤ problem.boundColumn row ∧
        problem.boundColumn row < problem.dimension + problem.counts.total := by
    intro present
    have relation : (problem.rowAt row).relation ≠ .eq := by
      intro equation
      rw [equation] at present
      exact present rfl
    exact ⟨le_boundColumn, (boundColumn_lt inside relation).trans_le firstArtificial_le⟩
  have artificial : (problem.rowAt row).relation.artificialShare ≠ 0 →
      problem.dimension ≤ problem.artificialColumn row ∧
        problem.artificialColumn row < problem.dimension + problem.counts.total := by
    intro present
    have relation : (problem.rowAt row).relation ≠ .le := by
      intro above
      rw [above] at present
      exact present rfl
    exact ⟨le_artificialColumn, artificialColumn_lt inside relation⟩
  rw [Tableau.leftSide, width_penalized shaped, Finset.sum_range_add, lhs_tabulate shaped inside,
    ← sum_single _ point bound, ← sum_single _ point artificial, add_assoc,
    ← Finset.sum_add_distrib]
  congr 1
  · refine Finset.sum_congr rfl fun j member => ?_
    rw [entry_penalized_unknown shaped inside (Finset.mem_range.mp member)]
  · refine Finset.sum_congr rfl fun position member => ?_
    rw [entry_penalized_added shaped inside (Nat.le_add_right _ _)
      (Nat.add_lt_add_left (Finset.mem_range.mp member) _), add_mul]

/-! ## The objective at a point -/

theorem leftSide_objective_penalized (shaped : problem.WellShaped) (point : Nat → Rat) :
    (problem.penalized penalty).leftSide (problem.penalized penalty).height point =
      penalty * problem.artificialTotal point - problem.system.value point := by
  have gain : ∑ column ∈ Finset.range (problem.dimension + problem.counts.total),
      problem.system.gain column * point column = problem.system.value point := by
    rw [Finset.sum_range_add, System.value]
    refine add_eq_left.mpr (Finset.sum_eq_zero fun position _ => ?_)
    rw [gain_of_le (Nat.le_add_right _ _), zero_mul]
  rw [Tableau.leftSide, width_penalized shaped, ← gain, artificialTotal, Finset.mul_sum,
    ← Finset.sum_sub_distrib]
  refine Finset.sum_congr rfl fun column member => ?_
  rw [objective_penalized (Finset.mem_range.mp member)]
  ring

theorem valueAt_penalized (shaped : problem.WellShaped) (point : Nat → Rat) :
    (problem.penalized penalty).valueAt point =
      problem.system.value point - penalty * problem.artificialTotal point := by
  rw [valueAt, rhs_objective_penalized shaped, leftSide_objective_penalized shaped, zero_sub, neg_sub]

/-! ## Points without an artificial share -/

theorem nonneg_tabulate (nonneg : ∀ column, 0 ≤ point column) :
    ∀ value ∈ problem.tabulate point, 0 ≤ value := by
  intro value member
  rcases List.mem_map.mp member with ⟨column, -, rfl⟩
  exact nonneg column

section Cleared

variable (nonneg : ∀ column, 0 ≤ point column) (cleared : problem.artificialTotal point = 0)

include nonneg cleared

theorem eq_zero_of_cleared {column : Nat} (artificial : problem.firstArtificial ≤ column)
    (inside : column < problem.dimension + problem.counts.total) : point column = 0 := by
  have zero := (Finset.sum_eq_zero_iff_of_nonneg fun other _ =>
    mul_nonneg (artificialWeight_nonneg other) (nonneg other)).mp cleared column
      (Finset.mem_range.mpr inside)
  rwa [artificialWeight, if_pos artificial, one_mul] at zero

theorem artificialShare_mul_eq_zero (inside : row < problem.constraints.length) :
    (problem.rowAt row).relation.artificialShare * point (problem.artificialColumn row) = 0 := by
  by_cases above : (problem.rowAt row).relation = .le
  · rw [above, Relation.artificialShare, zero_mul]
  · rw [eq_zero_of_cleared nonneg cleared firstArtificial_le_artificialColumn
      (artificialColumn_lt inside above), mul_zero]

/-- A solution of the rows without artificial share is feasible.  The slack
columns take up what the relations leave open. -/
theorem feasible_of_solves (shaped : problem.WellShaped)
    (solves : (problem.penalized penalty).Solves point) :
    problem.Feasible (problem.tabulate point) := by
  refine ⟨problem.length_tabulate point, nonneg_tabulate nonneg, fun constraint member => ?_⟩
  rcases List.mem_iff_getElem.mp member with ⟨row, inside, rfl⟩
  have equation := solves row (height_penalized.symm ▸ inside)
  rw [leftSide_penalized shaped inside, rhs_penalized shaped inside,
    artificialShare_mul_eq_zero nonneg cleared inside, add_zero] at equation
  exact (rowAt_holds_iff inside).mp (Relation.holds_of_add (nonneg _) equation)

/-- A direction that leaves the rows balanced without artificial share is
limited by no constraint. -/
theorem recedes_of_balanced (shaped : problem.WellShaped)
    (balanced : ∀ row < (problem.penalized penalty).height,
      (problem.penalized penalty).leftSide row point = 0) :
    problem.Recedes (problem.tabulate point) := by
  refine ⟨problem.length_tabulate point, nonneg_tabulate nonneg, fun constraint member => ?_⟩
  rcases List.mem_iff_getElem.mp member with ⟨row, inside, rfl⟩
  have equation := balanced row (height_penalized.symm ▸ inside)
  rw [leftSide_penalized shaped inside, artificialShare_mul_eq_zero nonneg cleared inside,
    add_zero] at equation
  rw [← Constraint.normalized_respects_iff, ← rowAt_eq inside]
  exact Relation.holds_of_add (nonneg _) equation

end Cleared

/-! ## Feasible points with their slacks -/

/-- A point of the problem with the slacks of its constraints, and nothing in
the artificial columns. -/
def extension (problem : Problem Rat) (values : List Rat) (column : Nat) : Rat :=
  if column < problem.dimension then values.getD column 0
  else ∑ row ∈ Finset.range problem.constraints.length,
    if problem.boundColumn row = column then (problem.rowAt row).slack values else 0

section Extension

variable {values : List Rat} (feasible : problem.Feasible values)

theorem slack_eq_zero_of_equation {values : List Rat} (equation : (problem.rowAt row).relation = .eq) :
    (problem.rowAt row).slack values = 0 := by
  rw [Constraint.slack, equation, Relation.slackSign, zero_mul]

theorem extension_boundColumn (inside : row < problem.constraints.length)
    (bound : (problem.rowAt row).relation ≠ .eq) (values : List Rat) :
    problem.extension values (problem.boundColumn row) = (problem.rowAt row).slack values := by
  rw [extension, if_neg (not_lt.mpr le_boundColumn),
    Finset.sum_eq_single_of_mem row (Finset.mem_range.mpr inside), if_pos rfl]
  intro other member different
  have otherInside := Finset.mem_range.mp member
  by_cases otherBound : (problem.rowAt other).relation = .eq
  · rw [slack_eq_zero_of_equation otherBound, ite_self]
  · exact if_neg fun shared =>
      different (boundColumn_injective otherInside inside otherBound bound shared)

theorem extension_artificial {column : Nat} (artificial : problem.firstArtificial ≤ column)
    (values : List Rat) : problem.extension values column = 0 := by
  have added : problem.dimension ≤ column := by
    rw [firstArtificial] at artificial
    omega
  rw [extension, if_neg (not_lt.mpr added)]
  refine Finset.sum_eq_zero fun row member => ?_
  by_cases bound : (problem.rowAt row).relation = .eq
  · rw [slack_eq_zero_of_equation bound, ite_self]
  · have below := boundColumn_lt (Finset.mem_range.mp member) bound
    exact if_neg (below.trans_le artificial).ne

theorem artificialTotal_extension (values : List Rat) :
    problem.artificialTotal (problem.extension values) = 0 := by
  refine Finset.sum_eq_zero fun column _ => ?_
  rw [artificialWeight]
  split
  · rename_i artificial
    rw [extension_artificial artificial, mul_zero]
  · exact zero_mul _

include feasible

theorem tabulate_extension : problem.tabulate (problem.extension values) = values := by
  apply List.ext_getElem
  · rw [length_tabulate, feasible.length_eq]
  · intro column inside bounded
    rw [length_tabulate] at inside
    simp only [tabulate, List.getElem_map, List.getElem_range, extension, if_pos inside]
    exact List.getD_eq_getElem _ _ bounded

theorem extension_nonneg (column : Nat) : 0 ≤ problem.extension values column := by
  rw [extension]
  split
  · rename_i unknown
    rw [List.getD_eq_getElem _ _ (feasible.length_eq.symm ▸ unknown)]
    exact feasible.nonneg _ (List.getElem_mem _)
  · refine Finset.sum_nonneg fun row member => ?_
    have inside := Finset.mem_range.mp member
    split
    · exact Constraint.slack_nonneg ((rowAt_holds_iff inside).mpr
        (feasible.holds _ (List.getElem_mem inside)))
    · exact le_refl 0

/-- Every feasible point comes from a solution of the rows.  So what is best
among the solutions is best among the points. -/
theorem solves_extension (shaped : problem.WellShaped) :
    (problem.penalized penalty).Solves (problem.extension values) := by
  intro row inside
  rw [height_penalized] at inside
  have holds := (rowAt_holds_iff inside).mpr (feasible.holds _ (List.getElem_mem inside))
  have slack : (problem.rowAt row).relation.slackSign *
      problem.extension values (problem.boundColumn row) =
      (problem.rowAt row).relation.slackSign * (problem.rowAt row).slack values := by
    by_cases bound : (problem.rowAt row).relation = .eq
    · rw [bound, Relation.slackSign, zero_mul, zero_mul]
    · rw [extension_boundColumn inside bound]
  rw [leftSide_penalized shaped inside, rhs_penalized shaped inside, tabulate_extension feasible,
    slack, extension_artificial firstArtificial_le_artificialColumn, mul_zero, add_zero]
  exact Constraint.lhs_add_slack holds

theorem value_extension :
    problem.system.value (problem.extension values) =
      problem.sense.sign * problem.evaluate values := by
  have evaluated := problem.evaluate_tabulate (problem.extension values)
  rw [tabulate_extension feasible] at evaluated
  rw [evaluated, ← mul_assoc, problem.sense.sign_mul_sign, one_mul]

end Extension

end Problem
end Linear
end Optimum

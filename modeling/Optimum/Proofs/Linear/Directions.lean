import Optimum.Proofs.Linear.Feasibility

namespace Optimum
namespace Linear

open Scalar

/-!
# Directions that no constraint limits

Along a direction whose left sides stay on the right side of zero every
feasible point can go on for ever, whatever mixture of relations the problem
has.  If the objective improves along it, every limit is passed.
-/

theorem dot_along (values : List Rat) {point direction : List Rat} (amount : Rat)
    (same : direction.length = point.length) :
    dot values (along point direction amount) = dot values point + amount * dot values direction := by
  simp only [dot_eq_sum_range _ (Nat.le_refl values.length), getD_along amount same,
    Finset.mul_sum, ← Finset.sum_add_distrib]
  exact Finset.sum_congr rfl fun j _ => by ring

/-- Going on in a direction keeps a relation that the direction respects. -/
theorem Relation.Holds.add_mul {relation : Relation} {left right change amount : Rat}
    (holds : relation.Holds left right) (respects : relation.Holds change 0) (nonneg : 0 ≤ amount) :
    relation.Holds (left + amount * change) right := by
  cases relation with
  | le => exact (add_le_of_nonpos_right (mul_nonpos_of_nonneg_of_nonpos nonneg respects)).trans holds
  | eq =>
      have unchanged : change = 0 := respects
      change left + amount * change = right
      rw [unchanged, mul_zero, add_zero]
      exact holds
  | ge => exact holds.trans (le_add_of_nonneg_right (mul_nonneg nonneg respects))

namespace Problem

variable {problem : Problem Rat} {point direction : List Rat}

structure Recedes (problem : Problem Rat) (direction : List Rat) : Prop where
  length_eq : direction.length = problem.dimension
  nonneg : ∀ value ∈ direction, 0 ≤ value
  respects : ∀ constraint ∈ problem.constraints,
    constraint.relation.Holds (constraint.lhs direction) 0

/-- A problem with feasible points and no limit to its objective.  A ray shows
it at once, but the statement does not speak of rays. -/
def Unbounded (problem : Problem Rat) : Prop :=
  (∃ point, problem.Feasible point) ∧
    ∀ limit, ∃ point, problem.Feasible point ∧ problem.sense.Better (problem.evaluate point) limit

theorem Recedes.feasible_along (recedes : problem.Recedes direction)
    (feasible : problem.Feasible point) {amount : Rat} (nonneg : 0 ≤ amount) :
    problem.Feasible (along point direction amount) := by
  have same : direction.length = point.length := by rw [recedes.length_eq, feasible.length_eq]
  refine ⟨by rw [length_along amount same, feasible.length_eq], fun value member => ?_,
    fun constraint member => ?_⟩
  · rw [along, List.mem_iff_getElem] at member
    rcases member with ⟨j, inside, rfl⟩
    rw [List.getElem_zipWith]
    exact add_nonneg (feasible.nonneg _ (List.getElem_mem _))
      (mul_nonneg nonneg (recedes.nonneg _ (List.getElem_mem _)))
  · rw [Constraint.Holds, Constraint.lhs, dot_along _ amount same]
    exact (feasible.holds constraint member).add_mul (recedes.respects constraint member) nonneg

theorem Recedes.improvingRay (recedes : problem.Recedes direction)
    (improves : problem.sense.Better (problem.evaluate direction) 0)
    (feasible : problem.Feasible point) : problem.ImprovingRay point direction := by
  have same : direction.length = point.length := by rw [recedes.length_eq, feasible.length_eq]
  refine ⟨recedes.length_eq, recedes.nonneg, fun _ nonneg => recedes.feasible_along feasible nonneg,
    fun limit => ?_⟩
  rw [Sense.better_iff, mul_zero] at improves
  -- Far enough to make up for the distance of the limit, and one step more.
  refine ⟨(|problem.sense.sign * (limit - problem.evaluate point)| + 1) /
    (problem.sense.sign * problem.evaluate direction), div_nonneg (by positivity) improves.le,
    Sense.better_iff.mpr ?_⟩
  have reached := le_abs_self (problem.sense.sign * (limit - problem.evaluate point))
  rw [evaluate, dot_along _ _ same, mul_add, mul_left_comm]
  change _ < problem.sense.sign * problem.evaluate point +
    _ * (problem.sense.sign * problem.evaluate direction)
  rw [div_mul_cancel₀ _ improves.ne']
  have distance := mul_sub problem.sense.sign limit (problem.evaluate point)
  linarith

theorem ImprovingRay.unbounded (ray : problem.ImprovingRay point direction)
    (feasible : problem.Feasible point) : problem.Unbounded := by
  refine ⟨⟨point, feasible⟩, fun limit => ?_⟩
  rcases ray.improves limit with ⟨amount, nonneg, better⟩
  exact ⟨_, ray.feasible amount nonneg, better⟩

end Problem
end Linear
end Optimum

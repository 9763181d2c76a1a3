import Optimum.Proofs.Checks
import Optimum.Proofs.Rational
import Optimum.Linear.Simplex

namespace Optimum
namespace Linear

open Scalar

/-!
# What it means to solve a problem

Feasible points, best points and rays of a linear problem over the rationals.
Here a constraint holds exactly, without the tolerance of
`Constraint.isSatisfied`; in particular an equation holds if both sides are
equal.
-/

/-- How two exact values are compared.  There is no tolerance here: statements
about problems are exact, whatever a method allows itself. -/
def Relation.Holds : Relation → Rat → Rat → Prop
  | .le, left, right => left ≤ right
  | .eq, left, right => left = right
  | .ge, left, right => right ≤ left

instance (relation : Relation) (left right : Rat) : Decidable (relation.Holds left right) :=
  match relation with
  | .le => inferInstanceAs (Decidable (left ≤ right))
  | .eq => inferInstanceAs (Decidable (left = right))
  | .ge => inferInstanceAs (Decidable (right ≤ left))

/-- Whether the first value is strictly preferred. -/
def Sense.Better : Sense → Rat → Rat → Prop
  | .max, first, second => second < first
  | .min, first, second => first < second

theorem Sense.better_iff {sense : Sense} {first second : Rat} :
    sense.Better first second ↔ sense.sign * second < sense.sign * first := by
  cases sense with
  | max => simp [Better, sign]
  | min => simp [Better, sign]

theorem Sense.sign_mul_sign (sense : Sense) : (sense.sign : Rat) * sense.sign = 1 := by
  cases sense with
  | max => exact one_mul 1
  | min => simp [sign]

/-- Whether a constraint holds exactly at a point. -/
def Constraint.Holds (constraint : Constraint Rat) (point : List Rat) : Prop :=
  constraint.relation.Holds (constraint.lhs point) constraint.rhs

instance (constraint : Constraint Rat) (point : List Rat) : Decidable (constraint.Holds point) :=
  inferInstanceAs (Decidable (constraint.relation.Holds (constraint.lhs point) constraint.rhs))

/-- The point that lies some way along a direction. -/
def along (point direction : List Rat) (amount : Rat) : List Rat :=
  List.zipWith (fun x d => x + amount * d) point direction

theorem length_along {point direction : List Rat} (amount : Rat)
    (same : direction.length = point.length) : (along point direction amount).length = point.length := by
  rw [along, List.length_zipWith, same, Nat.min_self]

theorem getD_along {point direction : List Rat} (amount : Rat)
    (same : direction.length = point.length) (j : Nat) :
    (along point direction amount).getD j 0 = point.getD j 0 + amount * direction.getD j 0 := by
  simp only [along, List.getD_eq_getElem?_getD, List.getElem?_zipWith]
  by_cases inside : j < point.length
  · rw [List.getElem?_eq_getElem inside, List.getElem?_eq_getElem (same.symm ▸ inside)]
    rfl
  · rw [List.getElem?_eq_none (not_lt.mp inside),
      List.getElem?_eq_none (same.symm ▸ not_lt.mp inside)]
    simp

namespace Problem

variable {problem : Problem Rat}

/-- The points among which the best is sought: as many values as there are
variables, none of them negative, all constraints met. -/
structure Feasible (problem : Problem Rat) (point : List Rat) : Prop where
  length_eq : point.length = problem.dimension
  nonneg : ∀ value ∈ point, 0 ≤ value
  holds : ∀ constraint ∈ problem.constraints, constraint.Holds point

instance (problem : Problem Rat) (point : List Rat) : Decidable (problem.Feasible point) :=
  decidable_of_iff
    (point.length = problem.dimension ∧ (∀ value ∈ point, 0 ≤ value) ∧
      ∀ constraint ∈ problem.constraints, constraint.Holds point)
    ⟨fun ⟨length_eq, nonneg, holds⟩ => ⟨length_eq, nonneg, holds⟩,
      fun feasible => ⟨feasible.length_eq, feasible.nonneg, feasible.holds⟩⟩

/-- A feasible point that no feasible point is better than.  Another one may be
as good. -/
structure IsOptimal (problem : Problem Rat) (point : List Rat) : Prop where
  feasible : problem.Feasible point
  best : ∀ other, problem.Feasible other →
    ¬ problem.sense.Better (problem.evaluate other) (problem.evaluate point)

/-- A direction in which a point can go on for ever, past any value of the
objective.  It stays feasible at every distance, so nothing is said of a limit
that is only approached. -/
structure ImprovingRay (problem : Problem Rat) (point direction : List Rat) : Prop where
  length_eq : direction.length = problem.dimension
  nonneg : ∀ value ∈ direction, 0 ≤ value
  feasible : ∀ amount, 0 ≤ amount → problem.Feasible (along point direction amount)
  improves : ∀ limit, ∃ amount, 0 ≤ amount ∧
    problem.sense.Better (problem.evaluate (along point direction amount)) limit

theorem IsOptimal.not_improvingRay {point direction : List Rat} (optimal : problem.IsOptimal point) :
    ¬ problem.ImprovingRay point direction := by
  intro ray
  rcases ray.improves (problem.evaluate point) with ⟨amount, nonneg, better⟩
  exact optimal.best _ (ray.feasible amount nonneg) better

/-! ## What validation establishes -/

/-- The numbers of names and coefficients agree with the dimension.  Nothing is
said about the values. -/
structure WellShaped {α : Type} (problem : Problem α) : Prop where
  length_names : problem.variableNames.length = problem.dimension
  length_coefficients : ∀ constraint ∈ problem.constraints,
    constraint.coefficients.length = problem.dimension

structure Valid (problem : Problem Rat) : Prop extends WellShaped problem where
  dimension_ne_zero : problem.dimension ≠ 0
  not_reserved : ∀ name ∈ problem.variableNames, isReserved name = false

/-- The conditions of validation, over any numbers.  The finiteness of the
values is among them. -/
structure Accepted {α : Type} [Scalar α] (problem : Problem α) : Prop
    extends WellShaped problem where
  dimension_ne_zero : problem.dimension ≠ 0
  not_reserved : ∀ name ∈ problem.variableNames, isReserved name = false
  finite_objective : ∀ coefficient ∈ problem.objective, isFinite coefficient = true
  finite_rhs : ∀ constraint ∈ problem.constraints, isFinite constraint.rhs = true
  finite_coefficients : ∀ constraint ∈ problem.constraints,
    ∀ coefficient ∈ constraint.coefficients, isFinite coefficient = true

section Accepted

variable {α : Type} [Scalar α] {problem : Problem α}

theorem checkConstraint_eq_ok_iff {dimension : Nat} {constraint : Constraint α} :
    checkConstraint dimension constraint = .ok () ↔
      constraint.coefficients.length = dimension ∧ isFinite constraint.rhs = true ∧
        ∀ coefficient ∈ constraint.coefficients, isFinite coefficient = true := by
  unfold checkConstraint
  by_cases same : constraint.coefficients.length = dimension
  · rw [if_neg (not_not.mpr same)]
    by_cases finite : isFinite constraint.rhs = true ∧ constraint.coefficients.all isFinite = true
    · simp only [finite.1, finite.2, Bool.not_true, Bool.or_self, Bool.false_eq_true, if_false,
        same, true_and, true_iff]
      exact List.all_eq_true.mp finite.2
    · rw [if_pos (by simpa [imp_iff_not_or] using finite)]
      exact iff_of_false nofun fun passed => finite ⟨passed.2.1, List.all_eq_true.mpr passed.2.2⟩
  · rw [if_pos same]
    exact iff_of_false nofun fun passed => same passed.1

theorem validate_eq_ok_iff_accepted : problem.validate = .ok () ↔ problem.Accepted := by
  unfold validate
  by_cases empty : problem.dimension = 0
  · rw [if_pos empty]
    exact iff_of_false nofun fun accepted => accepted.dimension_ne_zero empty
  rw [if_neg empty]
  by_cases named : problem.variableNames.length = problem.dimension
  swap
  · rw [if_pos named]
    exact iff_of_false nofun fun accepted => named accepted.length_names
  rw [if_neg (not_not.mpr named)]
  cases search : problem.variableNames.find? isReserved with
  | some name =>
      refine iff_of_false nofun fun accepted => ?_
      have reserved := List.find?_some search
      rw [accepted.not_reserved name (List.mem_of_find?_eq_some search)] at reserved
      cases reserved
  | none =>
      have free : ∀ name ∈ problem.variableNames, isReserved name = false :=
        fun name member => Bool.not_eq_true _ ▸ List.find?_eq_none.mp search name member
      by_cases finite : problem.objective.all isFinite = true
      · simp only [finite, Bool.not_true, Bool.false_eq_true, if_false, Checks.forM_eq_ok_iff,
          checkConstraint_eq_ok_iff]
        constructor
        · intro passed
          exact ⟨⟨named, fun constraint member => (passed constraint member).1⟩, empty, free,
            List.all_eq_true.mp finite, fun constraint member => (passed constraint member).2.1,
            fun constraint member => (passed constraint member).2.2⟩
        · intro accepted constraint member
          exact ⟨accepted.length_coefficients constraint member,
            accepted.finite_rhs constraint member, accepted.finite_coefficients constraint member⟩
      · simp only [Bool.eq_false_iff.mpr finite, Bool.not_false, if_true]
        exact iff_of_false nofun fun accepted =>
          finite (List.all_eq_true.mpr accepted.finite_objective)

end Accepted

/-- Every rational is finite, so validation is about names and shapes. -/
theorem validate_eq_ok_iff : problem.validate = .ok () ↔ problem.Valid := by
  rw [validate_eq_ok_iff_accepted]
  constructor
  · intro accepted
    exact ⟨accepted.toWellShaped, accepted.dimension_ne_zero, accepted.not_reserved⟩
  · intro valid
    exact ⟨valid.toWellShaped, valid.dimension_ne_zero, valid.not_reserved, fun _ _ => rfl,
      fun _ _ => rfl, fun _ _ _ _ => rfl⟩

end Problem

/-- The constraints that the simplex method accepts, over any numbers.  A
right-hand side that compares with nothing is not negative. -/
theorem checkStandard_eq_ok_iff {α : Type} [Scalar α] {constraint : Constraint α} :
    checkStandard constraint = .ok () ↔ constraint.relation = .le ∧ ¬ constraint.rhs < 0 := by
  rw [checkStandard]
  split
  · next other => exact iff_of_false nofun fun standard => other standard.1
  · next above =>
      split
      · next negative => exact iff_of_false nofun fun standard => standard.2 negative
      · next notNegative => exact iff_of_true rfl ⟨not_not.mp above, notNegative⟩

end Linear
end Optimum

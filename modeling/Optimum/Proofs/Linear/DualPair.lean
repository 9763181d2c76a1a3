import Optimum.Proofs.Double
import Optimum.Proofs.Linear.DualProblem

namespace Optimum
namespace Linear

open Scalar

/-!
# A problem and its dual

Two facts about the construction of the dual problem, apart from any method
that solves it.

Weak duality is a matter of exact numbers: no point does better than what any
prices allow.  It is read off the systems of the two problems, where the
negated rows and the two senses have become signs that cancel.

Taking the dual twice is a matter of moving entries, so it is stated over any
numbers, the doubles among them.  All that the second validation asks of them
is that the negative of a finite number is finite.
-/

/-! ## Weak duality -/

/-- Over exact numbers, no point that holds the constraints of a problem is
better than any prices that hold the constraints of its dual.  Neither has to be
optimal, and no method is involved. -/
theorem dual_bounds_problem {problem dual : Problem Rat} (found : problem.dual = .ok dual)
    {point prices : List Rat} (pointNonneg : ∀ value ∈ point, 0 ≤ value)
    (pointHolds : ∀ constraint ∈ problem.constraints, constraint.Holds point)
    (pricesNonneg : ∀ value ∈ prices, 0 ≤ value)
    (pricesHold : ∀ constraint ∈ dual.constraints, constraint.Holds prices) :
    (problem.sense = .max → problem.evaluate point ≤ dual.evaluate prices) ∧
      (problem.sense = .min → dual.evaluate prices ≤ problem.evaluate point) := by
  rcases Problem.accepted_of_dual found with ⟨valid, bounds⟩
  obtain rfl : problem.mirror = dual :=
    Except.ok.inj ((Problem.dual_eq_mirror valid bounds).symm.trans found)
  have shaped := (Problem.validate_eq_ok_iff.mp valid).toWellShaped
  have feasible := Problem.system_feasible shaped bounds pointNonneg pointHolds
  have affordable := Problem.system_feasible Problem.wellShaped_mirror
    Problem.relation_mirror_ne_eq pricesNonneg pricesHold
  rw [Problem.system_mirror shaped bounds] at affordable
  have bound := System.weak_duality feasible affordable
  rw [← Problem.system_mirror shaped bounds, Problem.system_value, Problem.system_value] at bound
  constructor
  · intro sense
    simp only [Problem.mirror, sense, Sense.opposite, Sense.sign] at bound ⊢
    linarith
  · intro sense
    simp only [Problem.mirror, sense, Sense.opposite, Sense.sign] at bound ⊢
    linarith

/-- A product whose output is bounded from above, and of which some must be
made. -/
def rations : Problem Rat where
  variableNames := ["x", "y"]
  sense := .max
  objective := [2, 1]
  constraints := [⟨"cap", [1, 1], .le, 4⟩, ⟨"floor", [1, 0], .ge, 1⟩]

theorem dual_bounds_problem_rations :
    rations.dual = .ok rations.mirror ∧ (∀ value ∈ ([3, 1] : List Rat), 0 ≤ value) ∧
      (∀ constraint ∈ rations.constraints, constraint.Holds [3, 1]) ∧
      (∀ value ∈ ([2, 0] : List Rat), 0 ≤ value) ∧
      (∀ constraint ∈ rations.mirror.constraints, constraint.Holds [2, 0]) ∧
      rations.sense = .max ∧ rations.evaluate [3, 1] ≤ rations.mirror.evaluate [2, 0] := by
  have found : rations.dual = .ok rations.mirror := by decide +kernel
  have pointNonneg : ∀ value ∈ ([3, 1] : List Rat), 0 ≤ value := by decide +kernel
  have pointHolds : ∀ constraint ∈ rations.constraints, constraint.Holds [3, 1] := by
    decide +kernel
  have pricesNonneg : ∀ value ∈ ([2, 0] : List Rat), 0 ≤ value := by decide +kernel
  have pricesHold : ∀ constraint ∈ rations.mirror.constraints, constraint.Holds [2, 0] := by
    decide +kernel
  have bound := dual_bounds_problem found pointNonneg pointHolds pricesNonneg pricesHold
  exact ⟨found, pointNonneg, pointHolds, pricesNonneg, pricesHold, rfl, bound.1 rfl⟩

/-! ## The dual of the dual -/

theorem isReserved_numbered (count : Nat) :
    ∀ name ∈ numbered "y" count, isReserved name = false := by
  intro name member
  rcases List.mem_map.mp member with ⟨index, -, rfl⟩
  simp only [isReserved, String.toList_append]
  rfl

variable {α : Type} [Scalar α]

attribute [ext] Constraint

namespace Constraint

variable {constraint : Constraint α}

theorem length_coefficients_aligned (sense : Sense) :
    (constraint.aligned sense).coefficients.length = constraint.coefficients.length := by
  unfold aligned
  split
  · rfl
  · exact List.length_map _

theorem relation_aligned (sense : Sense) (bound : constraint.relation ≠ .eq) :
    (constraint.aligned sense).relation = sense.boundary := by
  unfold aligned
  split
  · assumption
  · next opposed =>
      rw [negated]
      cases relation : constraint.relation <;> cases sense <;>
        simp_all [Sense.boundary, Relation.flipped]

theorem aligned_eq_self {sense : Sense} (agrees : constraint.relation = sense.boundary) :
    constraint.aligned sense = constraint :=
  if_pos agrees

section Finite

variable (finite_neg : ∀ x : α, isFinite x = true → isFinite (-x) = true)

include finite_neg

theorem finite_rhs_aligned (sense : Sense) (finite : isFinite constraint.rhs = true) :
    isFinite (constraint.aligned sense).rhs = true := by
  unfold aligned
  split
  · exact finite
  · exact finite_neg _ finite

theorem finite_coefficients_aligned (sense : Sense)
    (finite : ∀ coefficient ∈ constraint.coefficients, isFinite coefficient = true) :
    ∀ coefficient ∈ (constraint.aligned sense).coefficients, isFinite coefficient = true := by
  unfold aligned
  split
  · exact finite
  · intro coefficient member
    rcases List.mem_map.mp member with ⟨original, listed, rfl⟩
    exact finite_neg _ (finite original listed)

end Finite
end Constraint

namespace Problem

variable {problem : Problem α}

/-- A problem with all bounds turned to agree with its sense, its variables and
constraints named by their numbers. -/
def symmetricForm (problem : Problem α) : Problem α where
  variableNames := numbered "y" problem.dimension
  sense := problem.sense
  objective := problem.objective
  constraints := problem.constraints.mapIdx fun index constraint =>
    { constraint.aligned problem.sense with name := "y" ++ toString (index + 1) }

theorem map_name_mirror (shaped : problem.WellShaped) :
    problem.mirror.constraints.map Constraint.name = problem.variableNames := by
  apply List.ext_getElem
  · rw [List.length_map, length_constraints_mirror shaped, shaped.length_names]
  · intro row inside bounded
    simp only [mirror, List.getElem_map, List.getElem_mapIdx, List.getElem_zip]

theorem map_rhs_mirror (shaped : problem.WellShaped) :
    problem.mirror.constraints.map Constraint.rhs = problem.objective := by
  apply List.ext_getElem
  · rw [List.length_map, length_constraints_mirror shaped]
    rfl
  · intro row inside bounded
    simp only [mirror, List.getElem_map, List.getElem_mapIdx, List.getElem_zip]

theorem aligned_mirror : ∀ constraint ∈ problem.mirror.constraints,
    constraint.aligned problem.mirror.sense = constraint := by
  intro constraint member
  rcases List.mem_mapIdx.mp member with ⟨row, inside, rfl⟩
  exact Constraint.aligned_eq_self rfl

/-- A dual with at least one price is itself accepted.  It needs that, because
the dual of the dual is built by the same checks. -/
theorem accepted_mirror (finite_neg : ∀ x : α, isFinite x = true → isFinite (-x) = true)
    (accepted : problem.Accepted) (constrained : problem.constraints ≠ []) :
    problem.mirror.Accepted where
  toWellShaped := wellShaped_mirror
  dimension_ne_zero := by
    rw [dimension_mirror]
    exact fun none => constrained (List.length_eq_zero_iff.mp none)
  not_reserved := isReserved_numbered problem.constraints.length
  finite_objective := by
    intro coefficient member
    rcases List.mem_map.mp member with ⟨constraint, listed, rfl⟩
    exact Constraint.finite_rhs_aligned finite_neg _ (accepted.finite_rhs constraint listed)
  finite_rhs := by
    intro constraint member
    have listed := List.mem_map_of_mem (f := Constraint.rhs) member
    rw [map_rhs_mirror accepted.toWellShaped] at listed
    exact accepted.finite_objective _ listed
  finite_coefficients := by
    intro constraint member coefficient listed
    rcases List.mem_iff_getElem.mp member with ⟨row, inside, rfl⟩
    have bounded : row < problem.dimension := by
      rwa [← length_constraints_mirror accepted.toWellShaped]
    rw [(getElem_constraints_mirror inside bounded).2.2] at listed
    rcases List.mem_map.mp listed with ⟨original, given, rfl⟩
    apply Constraint.finite_coefficients_aligned finite_neg problem.sense
      (accepted.finite_coefficients original given)
    have covered : row < (original.aligned problem.sense).coefficients.length := by
      rwa [Constraint.length_coefficients_aligned, accepted.length_coefficients original given]
    rw [List.getD_eq_getElem _ _ covered]
    exact List.getElem_mem covered

/-- A row of the second dual has the entries that one column of the first had,
and so those of a row of the problem. -/
theorem coefficients_mirror_mirror (shaped : problem.WellShaped) {row : Nat}
    (inside : row < problem.constraints.length) :
    (problem.mirror.constraints.map fun constraint =>
        (constraint.aligned problem.mirror.sense).coefficients.getD row 0) =
      (problem.constraints[row].aligned problem.sense).coefficients := by
  have width : (problem.constraints[row].aligned problem.sense).coefficients.length =
      problem.dimension := by
    rw [Constraint.length_coefficients_aligned]
    exact shaped.length_coefficients _ (List.getElem_mem inside)
  apply List.ext_getElem
  · rw [List.length_map, length_constraints_mirror shaped, width]
  · intro column bounded covered
    rw [List.length_map] at bounded
    have known : column < problem.dimension := lt_of_lt_of_eq covered width
    rw [List.getElem_map, aligned_mirror _ (List.getElem_mem bounded),
      (getElem_constraints_mirror bounded known).2.2, List.getD_eq_getElem?_getD,
      List.getElem?_map, List.getElem?_eq_getElem inside, Option.map_some, Option.getD_some,
      List.getD_eq_getElem _ _ covered]

theorem mirror_mirror (shaped : problem.WellShaped)
    (bounds : ∀ constraint ∈ problem.constraints, constraint.relation ≠ .eq) :
    problem.mirror.mirror = problem.symmetricForm := by
  have opposite : problem.mirror.sense.opposite = problem.sense := by
    rw [mirror]
    cases problem.sense <;> rfl
  have names : problem.mirror.mirror.variableNames = problem.symmetricForm.variableNames :=
    congrArg (numbered "y") (length_constraints_mirror shaped)
  have objective : problem.mirror.mirror.objective = problem.symmetricForm.objective := by
    rw [symmetricForm, ← map_rhs_mirror shaped]
    exact List.map_congr_left fun constraint member =>
      congrArg Constraint.rhs (aligned_mirror constraint member)
  have constraints : problem.mirror.mirror.constraints = problem.symmetricForm.constraints := by
    have count : problem.mirror.mirror.constraints.length = problem.constraints.length := by
      rw [length_constraints_mirror wellShaped_mirror, dimension_mirror]
    apply List.ext_getElem
    · rw [count, symmetricForm, List.length_mapIdx]
    · intro row inside _
      have bounded : row < problem.constraints.length := lt_of_lt_of_eq inside count
      have known : row < problem.mirror.dimension := by rwa [dimension_mirror]
      rcases getElem_constraints_mirror inside known with ⟨relation, rhs, coefficients⟩
      have name : problem.mirror.mirror.constraints[row].name = "y" ++ toString (row + 1) := by
        have names : problem.mirror.mirror.constraints.map Constraint.name =
            problem.mirror.variableNames := map_name_mirror wellShaped_mirror
        have listed := List.getElem_of_eq names (by rwa [List.length_map])
        rw [List.getElem_map] at listed
        rw [listed]
        simp only [mirror, numbered, List.getElem_map, List.getElem_range]
      have turned : problem.symmetricForm.constraints[row] =
          { problem.constraints[row].aligned problem.sense with name := "y" ++ toString (row + 1) } := by
        simp only [symmetricForm, List.getElem_mapIdx]
      rw [turned]
      apply Constraint.ext
      · exact name
      · rw [coefficients]
        exact coefficients_mirror_mirror shaped bounded
      · rw [relation, opposite,
          Constraint.relation_aligned _ (bounds _ (List.getElem_mem bounded))]
      · rw [rhs, mirror, List.getD_eq_getElem?_getD, List.getElem?_map,
          List.getElem?_eq_getElem bounded]
        rfl
  rw [mk.injEq]
  exact ⟨names, opposite, objective, constraints⟩

end Problem

/-- The dual of the dual of a problem is the problem itself, its bounds turned
to agree with its sense and its variables and constraints renamed.  The only law
of arithmetic that this needs is that the negative of a finite number is finite,
so it holds of doubles. -/
theorem dual_dual_eq_symmetricForm
    (finite_neg : ∀ x : α, isFinite x = true → isFinite (-x) = true) (problem : Problem α)
    (valid : problem.validate = .ok ()) (constrained : problem.constraints ≠ [])
    (bounds : ∀ constraint ∈ problem.constraints, constraint.relation ≠ .eq) :
    ∃ dual, problem.dual = .ok dual ∧ dual.dual = .ok problem.symmetricForm := by
  have accepted := Problem.validate_eq_ok_iff_accepted.mp valid
  have validMirror : problem.mirror.validate = .ok () :=
    Problem.validate_eq_ok_iff_accepted.mpr (Problem.accepted_mirror finite_neg accepted constrained)
  refine ⟨problem.mirror, Problem.dual_eq_mirror valid bounds, ?_⟩
  rw [Problem.dual_eq_mirror validMirror Problem.relation_mirror_ne_eq,
    Problem.mirror_mirror accepted.toWellShaped bounds]

/-- A tariff in doubles, with a bound against its sense. -/
def tariff : Problem Float where
  variableNames := ["day", "night"]
  sense := .min
  objective := [2.5, 0.1]
  constraints := [⟨"demand", [1, 1], .ge, 4⟩, ⟨"grid", [0.5, 0], .le, 3⟩]

theorem dual_dual_eq_symmetricForm_tariff :
    (∀ x : Float, isFinite x = true → isFinite (-x) = true) ∧ tariff.validate = .ok () ∧
      tariff.constraints ≠ [] ∧ (∀ constraint ∈ tariff.constraints, constraint.relation ≠ .eq) ∧
      tariff.symmetricForm =
        ⟨["y1", "y2"], .min, [2.5, 0.1],
          [⟨"y1", [1, 1], .ge, 4⟩, ⟨"y2", [-0.5, -0], .ge, -3⟩]⟩ ∧
      ∃ dual, tariff.dual = .ok dual ∧ dual.dual = .ok tariff.symmetricForm := by
  have valid : tariff.validate = .ok () := by decide +kernel
  have constrained : tariff.constraints ≠ [] := by decide +kernel
  have bounds : ∀ constraint ∈ tariff.constraints, constraint.relation ≠ .eq := by decide +kernel
  exact ⟨isFinite_neg_float, valid, constrained, bounds, by decide +kernel,
    dual_dual_eq_symmetricForm isFinite_neg_float tariff valid constrained bounds⟩

end Linear
end Optimum

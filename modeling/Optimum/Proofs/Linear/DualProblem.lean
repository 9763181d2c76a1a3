import Optimum.Proofs.Linear.Bounds

namespace Optimum
namespace Linear

/-!
# The dual problem as a system

A validated problem without equations has a dual problem, and the system of
the dual problem is the dual of the problem's system.  The senses, the
relations and the negated rows only decide where the signs stand: on the side
of systems they cancel, for both senses alike.
-/

variable {problem : Problem Rat}

theorem Relation.sign_boundary_opposite (sense : Sense) :
    sense.opposite.boundary.sign = -(sense.sign : Rat) := by
  cases sense with
  | max => rfl
  | min => exact (neg_neg 1).symm

theorem Sense.sign_opposite (sense : Sense) : (sense.opposite.sign : Rat) = -sense.sign := by
  cases sense with
  | max => rfl
  | min => exact (neg_neg 1).symm

/-! ## Bounds that agree with the sense -/

namespace Constraint

/-- A bound in the direction that agrees with a sense.  An equation agrees with
neither and is turned as well, but no dual is made of it. -/
def aligned {α : Type} [Scalar α] (constraint : Constraint α) (sense : Sense) : Constraint α :=
  if constraint.relation = sense.boundary then constraint else constraint.negated

/-- The sign that an aligned bound has changed by. -/
theorem sign_mul_sign_relation {constraint : Constraint Rat} {sense : Sense}
    (bound : constraint.relation ≠ .eq) :
    sense.sign * constraint.relation.sign =
      if constraint.relation = sense.boundary then (1 : Rat) else -1 := by
  cases relation : constraint.relation with
  | le =>
      cases sense with
      | max => simp [Sense.sign, Sense.boundary, Relation.sign]
      | min => simp [Sense.sign, Sense.boundary, Relation.sign]
  | eq => exact absurd relation bound
  | ge =>
      cases sense with
      | max => simp [Sense.sign, Sense.boundary, Relation.sign]
      | min => simp [Sense.sign, Sense.boundary, Relation.sign]

theorem rhs_aligned {constraint : Constraint Rat} (sense : Sense)
    (bound : constraint.relation ≠ .eq) :
    (constraint.aligned sense).rhs = sense.sign * (constraint.relation.sign * constraint.rhs) := by
  rw [← mul_assoc, sign_mul_sign_relation bound, aligned]
  by_cases agrees : constraint.relation = sense.boundary
  · rw [if_pos agrees, if_pos agrees, one_mul]
  · rw [if_neg agrees, if_neg agrees, neg_one_mul]
    rfl

theorem getD_aligned {constraint : Constraint Rat} (sense : Sense)
    (bound : constraint.relation ≠ .eq) (column : Nat) :
    (constraint.aligned sense).coefficients.getD column 0 =
      sense.sign * (constraint.relation.sign * constraint.coefficients.getD column 0) := by
  rw [← mul_assoc, sign_mul_sign_relation bound, aligned]
  by_cases agrees : constraint.relation = sense.boundary
  · rw [if_pos agrees, if_pos agrees, one_mul]
  · rw [if_neg agrees, if_neg agrees, neg_one_mul, negated]
    simp only [List.getD_eq_getElem?_getD, List.getElem?_map]
    cases constraint.coefficients[column]? with
    | none => exact neg_zero.symm
    | some coefficient => rfl

end Constraint

namespace Problem

/-- The dual of a problem without equations.  It is the same problem that the
checked construction gives, without the checks. -/
def mirror {α : Type} [Scalar α] (problem : Problem α) : Problem α where
  variableNames := numbered "y" problem.constraints.length
  sense := problem.sense.opposite
  objective := problem.constraints.map fun constraint => (constraint.aligned problem.sense).rhs
  constraints := (problem.variableNames.zip problem.objective).mapIdx
    fun index (name, coefficient) =>
      { name := name
        coefficients := problem.constraints.map fun constraint =>
          (constraint.aligned problem.sense).coefficients.getD index 0
        relation := problem.sense.opposite.boundary
        rhs := coefficient }

section Shape

variable {α : Type} [Scalar α] {problem : Problem α}

theorem dual_eq_mirror (valid : problem.validate = .ok ())
    (bounds : ∀ constraint ∈ problem.constraints, constraint.relation ≠ .eq) :
    problem.dual = .ok problem.mirror := by
  have aligned : problem.constraints.mapM (symmetricConstraint problem.sense) =
      .ok (problem.constraints.map fun constraint => constraint.aligned problem.sense) := by
    apply Checks.mapM_eq_ok_iff.mpr
    apply List.forall₂_map_right_iff.mpr
    apply List.forall₂_same.mpr
    intro constraint member
    rw [symmetricConstraint, if_neg (bounds constraint member)]
    rfl
  simp only [dual, valid, aligned, bind, Except.bind, pure, Except.pure, mirror,
    List.length_map, List.map_map]
  rfl

/-- Only validated problems without equations have a dual.  Others are refused
with the fault of the first constraint that has one. -/
theorem accepted_of_dual {other : Problem α} (found : problem.dual = .ok other) :
    problem.validate = .ok () ∧
      ∀ constraint ∈ problem.constraints, constraint.relation ≠ .eq := by
  rcases Checks.bind_eq_ok_iff.mp found with ⟨⟨⟩, valid, oriented⟩
  rcases Checks.bind_eq_ok_iff.mp oriented with ⟨bounds, aligned, -⟩
  refine ⟨valid, fun constraint member equation => ?_⟩
  rcases List.getElem?_of_mem member with ⟨index, listed⟩
  rcases Checks.exists_getElem? (Checks.mapM_eq_ok_iff.mp aligned) listed with ⟨bound, -, passed⟩
  rw [symmetricConstraint, if_pos equation] at passed
  cases passed

/-! ## The shape of the dual -/

theorem dimension_mirror : problem.mirror.dimension = problem.constraints.length :=
  List.length_map _

theorem length_constraints_mirror (shaped : problem.WellShaped) :
    problem.mirror.constraints.length = problem.dimension := by
  rw [mirror, List.length_mapIdx, List.length_zip, shaped.length_names]
  exact Nat.min_self _

theorem getElem_constraints_mirror {row : Nat} (inside : row < problem.mirror.constraints.length)
    (bounded : row < problem.dimension) :
    problem.mirror.constraints[row].relation = problem.sense.opposite.boundary ∧
      problem.mirror.constraints[row].rhs = problem.objective.getD row 0 ∧
      problem.mirror.constraints[row].coefficients = problem.constraints.map fun constraint =>
        (constraint.aligned problem.sense).coefficients.getD row 0 := by
  change row < problem.objective.length at bounded
  rw [List.getD_eq_getElem _ _ bounded]
  simp only [mirror, List.getElem_mapIdx, List.getElem_zip, and_self]

theorem wellShaped_mirror : problem.mirror.WellShaped where
  length_names := by
    rw [dimension_mirror, mirror, numbered, List.length_map, List.length_range]
  length_coefficients := by
    intro constraint member
    rcases List.mem_mapIdx.mp member with ⟨row, inside, rfl⟩
    rw [dimension_mirror, List.length_map]

theorem relation_mirror_ne_eq :
    ∀ constraint ∈ problem.mirror.constraints, constraint.relation ≠ .eq := by
  intro constraint member
  rcases List.mem_mapIdx.mp member with ⟨row, inside, rfl⟩
  cases sense : problem.sense with
  | max => simp [Sense.opposite, Sense.boundary]
  | min => simp [Sense.opposite, Sense.boundary]

end Shape

/-! ## The system of the dual -/

section Matrix

variable (shaped : problem.WellShaped)
  (bounds : ∀ constraint ∈ problem.constraints, constraint.relation ≠ .eq)

include bounds in
theorem gain_mirror (column : Nat) :
    problem.mirror.system.gain column = -problem.system.bound column := by
  simp only [system, mirror, Sense.sign_opposite, List.getD_eq_getElem?_getD, List.getElem?_map]
  cases found : problem.constraints[column]? with
  | none => simp
  | some constraint =>
      have bound := bounds constraint (List.mem_of_getElem? found)
      simp only [Option.map_some, Option.getD_some, constraint.rhs_aligned problem.sense bound]
      rw [neg_mul, ← mul_assoc, problem.sense.sign_mul_sign, one_mul]

include shaped

theorem bound_mirror (row : Nat) :
    problem.mirror.system.bound row = -problem.system.gain row := by
  by_cases inside : row < problem.dimension
  · have bounded : row < problem.mirror.constraints.length := by
      rwa [length_constraints_mirror shaped]
    rcases getElem_constraints_mirror bounded inside with ⟨relation, side, -⟩
    rw [system_bound bounded, relation, side, Relation.sign_boundary_opposite, neg_mul]
    rfl
  · have outside : problem.mirror.constraints.length ≤ row := by
      rw [length_constraints_mirror shaped]
      exact not_lt.mp inside
    have beyond : problem.objective[row]? = none := List.getElem?_eq_none (not_lt.mp inside)
    simp [system, List.getElem?_eq_none outside, beyond]

include bounds

theorem matrix_mirror (row column : Nat) :
    problem.mirror.system.matrix row column = -problem.system.matrix column row := by
  by_cases inside : row < problem.dimension
  · have bounded : row < problem.mirror.constraints.length := by
      rwa [length_constraints_mirror shaped]
    rcases getElem_constraints_mirror bounded inside with ⟨relation, -, coefficients⟩
    rw [system_matrix bounded, relation, coefficients, Relation.sign_boundary_opposite,
      List.getD_eq_getElem?_getD, List.getElem?_map]
    cases found : problem.constraints[column]? with
    | none => simp [system, found]
    | some constraint =>
        have bound := bounds constraint (List.mem_of_getElem? found)
        simp only [system, found, Option.map_some, Option.getD_some,
          constraint.getD_aligned problem.sense bound]
        rw [neg_mul, ← mul_assoc, problem.sense.sign_mul_sign, one_mul]
  · have outside : problem.mirror.constraints.length ≤ row := by
      rw [length_constraints_mirror shaped]
      exact not_lt.mp inside
    simp only [system, List.getElem?_eq_none outside]
    cases found : problem.constraints[column]? with
    | none => exact neg_zero.symm
    | some constraint =>
        have length_eq := shaped.length_coefficients constraint (List.mem_of_getElem? found)
        have beyond : constraint.coefficients[row]? = none :=
          List.getElem?_eq_none (length_eq.symm ▸ not_lt.mp inside)
        simp [beyond]

/-- The system of the dual problem is the negated transpose.  So the dual of a
system is what the method works on. -/
theorem system_mirror : problem.mirror.system = problem.system.dual := by
  have matrix : problem.mirror.system.matrix = problem.system.dual.matrix := by
    funext row column
    exact matrix_mirror shaped bounds row column
  have bound : problem.mirror.system.bound = problem.system.dual.bound := by
    funext row
    exact bound_mirror shaped row
  have gain : problem.mirror.system.gain = problem.system.dual.gain := by
    funext column
    exact gain_mirror bounds column
  rw [System.mk.injEq]
  exact ⟨dimension_mirror, length_constraints_mirror shaped, matrix, bound, gain⟩

end Matrix
end Problem
end Linear
end Optimum

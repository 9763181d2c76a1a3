import Optimum.Proofs.Plane.HalfPlanes
import Optimum.Proofs.Plane.Real
import Optimum.Linear.Graphical
import Optimum.Proofs.Linear.Feasibility

namespace Optimum
namespace Linear

open Plane

/-!
# The feasible region in the plane

The points that are feasible for a problem with two variables are an
intersection of half planes, whose edges lie on the boundary lines of the
planar method.  So a vertex of the region is the crossing of two boundary
lines.
-/

/-- How two real values are compared, as `Relation.Holds` compares rationals. -/
def Relation.Compares : Relation → ℝ → ℝ → Prop
  | .le, left, right => left ≤ right
  | .eq, left, right => left = right
  | .ge, left, right => right ≤ left

/-- The points without negative coordinates that satisfy every constraint
exactly. -/
def Problem.region (problem : Problem ℝ) : Set (ℝ × ℝ) :=
  {point | 0 ≤ point.1 ∧ 0 ≤ point.2 ∧ ∀ constraint ∈ problem.constraints,
    constraint.relation.Compares (constraint.lhs [point.1, point.2]) constraint.rhs}

namespace Graphical

def Line.leftSide (line : Line ℝ) (point : ℝ × ℝ) : ℝ :=
  line.a * point.1 + line.b * point.2

/-- The half plane on one side of a line, given by the sign of a factor.  An
equation has both sides, and the line is where they meet. -/
def Line.side (line : Line ℝ) (factor : ℝ) : HalfPlane :=
  ⟨factor * line.a, factor * line.b, factor * line.value⟩

/-- The boundary line of a constraint. -/
def constraintLine (constraint : Constraint ℝ) : Line ℝ :=
  ⟨constraint.name, constraint.coefficients.getD 0 0, constraint.coefficients.getD 1 0,
    constraint.rhs⟩

/-- The half planes of a relation between the two sides of a line's equation. -/
def Line.edges (line : Line ℝ) : Relation → List HalfPlane
  | .le => [line.side 1]
  | .eq => [line.side 1, line.side (-1)]
  | .ge => [line.side (-1)]

/-- The edges of the region of a problem.  With those of the axes among them,
the theory of half planes applies to every problem. -/
def edges (problem : Problem ℝ) : List HalfPlane :=
  problem.constraints.flatMap (fun constraint =>
    (constraintLine constraint).edges constraint.relation) ++ quadrant

theorem quadrant_subset_edges (problem : Problem ℝ) : quadrant ⊆ edges problem :=
  List.subset_append_right _ _

/-! ## The region as an intersection of half planes -/

section Region

variable {line : Line ℝ} {relation : Relation} {point : ℝ × ℝ}

theorem form_side (line : Line ℝ) (factor : ℝ) (point : ℝ × ℝ) :
    (line.side factor).form point = factor * line.leftSide point := by
  simp only [HalfPlane.form, Line.side, Line.leftSide]
  ring

theorem limit_side (line : Line ℝ) (factor : ℝ) :
    (line.side factor).limit = factor * line.value :=
  rfl

theorem mem_region_edges_iff :
    point ∈ region (line.edges relation) ↔
      relation.Compares (line.leftSide point) line.value := by
  have below : (line.side 1).form point ≤ (line.side 1).limit ↔
      line.leftSide point ≤ line.value := by
    rw [form_side, limit_side, one_mul, one_mul]
  have above : (line.side (-1)).form point ≤ (line.side (-1)).limit ↔
      line.value ≤ line.leftSide point := by
    rw [form_side, limit_side, neg_one_mul, neg_one_mul, neg_le_neg_iff]
  cases relation with
  | le => rw [Line.edges, mem_region_iff, List.forall_mem_singleton, below, Relation.Compares]
  | eq =>
      rw [Line.edges, mem_region_iff, List.forall_mem_cons, List.forall_mem_singleton, below,
        above, Relation.Compares, le_antisymm_iff]
  | ge => rw [Line.edges, mem_region_iff, List.forall_mem_singleton, above, Relation.Compares]

theorem lhs_eq_leftSide {constraint : Constraint ℝ} (length : constraint.coefficients.length = 2)
    (point : ℝ × ℝ) :
    constraint.lhs [point.1, point.2] = (constraintLine constraint).leftSide point := by
  rcases List.length_eq_two.mp length with ⟨a, b, coefficients_eq⟩
  rw [Constraint.lhs, Line.leftSide, constraintLine, coefficients_eq]
  exact dot_pair a b point.1 point.2

theorem mem_region_quadrant_iff : point ∈ region quadrant ↔ 0 ≤ point.1 ∧ 0 ≤ point.2 := by
  simp [mem_region_iff, quadrant, HalfPlane.form]

theorem region_edges {problem : Problem ℝ} (shaped : problem.WellShaped)
    (planar : problem.dimension = 2) : region (edges problem) = problem.region := by
  ext point
  have sides constraint (member : constraint ∈ problem.constraints) :
      point ∈ region ((constraintLine constraint).edges constraint.relation) ↔
        constraint.relation.Compares (constraint.lhs [point.1, point.2]) constraint.rhs := by
    rw [mem_region_edges_iff,
      lhs_eq_leftSide (planar ▸ shaped.length_coefficients constraint member)]
    rfl
  rw [edges, mem_region_append_iff, mem_region_flatMap_iff, forall₂_congr sides,
    mem_region_quadrant_iff]
  exact and_comm.trans and_assoc

end Region

/-! ## Edges and boundary lines -/

theorem exists_side_of_mem_edges {line : Line ℝ} {relation : Relation} {edge : HalfPlane}
    (member : edge ∈ line.edges relation) : ∃ factor : ℝ, factor ≠ 0 ∧ edge = line.side factor := by
  have one : (1 : ℝ) ≠ 0 := one_ne_zero
  cases relation with
  | le => exact ⟨1, one, List.mem_singleton.mp member⟩
  | eq =>
      rcases List.mem_pair.mp member with same | same
      · exact ⟨1, one, same⟩
      · exact ⟨-1, neg_ne_zero.mpr one, same⟩
  | ge => exact ⟨-1, neg_ne_zero.mpr one, List.mem_singleton.mp member⟩

theorem exists_line_of_mem_edges {problem : Problem ℝ} {edge : HalfPlane}
    (member : edge ∈ edges problem) :
    ∃ line ∈ boundaryLines problem, ∃ factor : ℝ, factor ≠ 0 ∧ edge = line.side factor := by
  rcases List.mem_append.mp member with ofConstraint | ofAxis
  · rcases List.mem_flatMap.mp ofConstraint with ⟨constraint, constraintMember, side⟩
    exact ⟨constraintLine constraint,
      List.mem_append_left _ (List.mem_map_of_mem constraintMember),
      exists_side_of_mem_edges side⟩
  · rcases List.mem_pair.mp ofAxis with rfl | rfl
    · refine ⟨_, List.mem_append_right _ List.mem_cons_self, -1, by norm_num, ?_⟩
      simp [Line.side]
    · refine ⟨_, List.mem_append_right _ (List.mem_cons_of_mem _ List.mem_cons_self), -1,
        by norm_num, ?_⟩
      simp [Line.side]

theorem leftSide_eq_of_tight {line : Line ℝ} {factor : ℝ} {point : ℝ × ℝ} (nonzero : factor ≠ 0)
    (tight : (line.side factor).Tight point) : line.leftSide point = line.value := by
  rw [HalfPlane.Tight, form_side, limit_side] at tight
  exact mul_left_cancel₀ nonzero tight

theorem cross_side (first second : Line ℝ) (factor otherFactor : ℝ) :
    (first.side factor).cross (second.side otherFactor) =
      factor * otherFactor * determinant first second := by
  simp only [HalfPlane.cross, Line.side, determinant]
  ring

/-- A vertex of the region is the crossing of two boundary lines.  So the method
looks at every place where an optimum can be. -/
theorem exists_crossing_of_isVertex {problem : Problem ℝ} {point : ℝ × ℝ}
    (isVertex : IsVertex (edges problem) point) :
    ∃ first ∈ boundaryLines problem, ∃ second ∈ boundaryLines problem,
      determinant first second ≠ 0 ∧ crossing first second = ⟨point.1, point.2⟩ := by
  rcases isVertex.crosses with ⟨edge, member, otherEdge, otherMember, apart, tight, otherTight⟩
  rcases exists_line_of_mem_edges member with ⟨first, firstMember, factor, nonzero, rfl⟩
  rcases exists_line_of_mem_edges otherMember with
    ⟨second, secondMember, otherFactor, otherNonzero, rfl⟩
  rw [cross_side] at apart
  have determinant_ne := right_ne_zero_of_mul apart
  rcases eq_of_equations determinant_ne (leftSide_eq_of_tight nonzero tight)
    (leftSide_eq_of_tight otherNonzero otherTight) with ⟨x_eq, y_eq⟩
  refine ⟨first, firstMember, second, secondMember, determinant_ne, ?_⟩
  rw [crossing, x_eq, y_eq]
  rfl

end Graphical

end Linear
end Optimum

import Optimum.Proofs.Linear.PlaneRegion

namespace Optimum
namespace Linear
namespace Graphical

open Plane

/-!
# The vertices that are kept

Every pair of boundary lines is looked at once, in one order or the other.  A
feasible crossing becomes a place, moved by the rounding, and a place is kept
unless one near it is.  So a vertex of the region leaves its mark: a kept place
whose coordinates differ from its own by a known amount at most.
-/

/-! ## Pairs of lines -/

theorem mem_pairs_of_ne {β : Type} {values : List β} {first second : β}
    (firstMember : first ∈ values) (secondMember : second ∈ values) (different : first ≠ second) :
    (first, second) ∈ pairs values ∨ (second, first) ∈ pairs values := by
  induction values with
  | nil => cases firstMember
  | cons value others inductionHypothesis =>
      rw [pairs, List.mem_append, List.mem_append]
      rcases List.mem_cons.mp firstMember with rfl | firstLater
      · have secondLater := (List.mem_cons.mp secondMember).resolve_left different.symm
        exact .inl (.inl (List.mem_map_of_mem secondLater))
      · rcases List.mem_cons.mp secondMember with rfl | secondLater
        · exact .inr (.inl (List.mem_map_of_mem firstLater))
        · exact (inductionHypothesis firstLater secondLater).imp .inr .inr

theorem determinant_swap (first second : Line ℝ) :
    determinant second first = -determinant first second := by
  simp only [determinant]
  ring

theorem crossing_comm (first second : Line ℝ) : crossing second first = crossing first second := by
  simp only [crossing, determinant_swap first second, div_neg, ← neg_div, neg_sub]

/-! ## Places that are kept -/

section Places

variable {α : Type} [PlaneScalar α] {radius : α} {points : List (Point α)} {point : Point α}

/-- Whether a place, or one near it, is among some points.  Near places are left
out, so this is what can be said of a candidate. -/
def Covered (radius : α) (points : List (Point α)) (point : Point α) : Prop :=
  ∃ found ∈ points, found = point ∨ found.isNear point radius = true

theorem covered_insertPoint (radius : α) (points : List (Point α)) (point : Point α) :
    Covered radius (insertPoint radius points point) point := by
  rw [insertPoint]
  split
  · next near =>
      rcases List.any_eq_true.mp near with ⟨found, member, isNear⟩
      exact ⟨found, member, .inr isNear⟩
  · exact ⟨point, List.mem_append_right _ (List.mem_singleton_self point), .inl rfl⟩

theorem Covered.insertPoint (covered : Covered radius points point) (other : Point α) :
    Covered radius (insertPoint radius points other) point := by
  rcases covered with ⟨found, member, same⟩
  refine ⟨found, ?_, same⟩
  rw [Graphical.insertPoint]
  split
  · exact member
  · exact List.mem_append_left _ member

theorem Covered.foldl_insertPoint (covered : Covered radius points point)
    (candidates : List (Point α)) :
    Covered radius (candidates.foldl (Graphical.insertPoint radius) points) point := by
  induction candidates generalizing points with
  | nil => exact covered
  | cons candidate others inductionHypothesis =>
      exact inductionHypothesis (covered.insertPoint candidate)

/-- Every candidate is covered by the places that are kept.  It is kept itself,
unless one near it was. -/
theorem covered_foldl_insertPoint {candidates : List (Point α)} (member : point ∈ candidates)
    (points : List (Point α)) :
    Covered radius (candidates.foldl (insertPoint radius) points) point := by
  rcases List.append_of_mem member with ⟨before, after, rfl⟩
  rw [List.foldl_append, List.foldl_cons]
  exact (covered_insertPoint radius _ point).foldl_insertPoint after

/-- The places that the method keeps. -/
def keptPlaces (options : Options α) (problem : Problem α) : List (Point α) :=
  feasiblePoints options problem
    ((pairs (boundaryLines problem)).filterMap (intersection? options problem))

/-- Two lines that are far from parallel and cross at a feasible point leave a
place there. -/
theorem covered_keptPlaces {options : Options α} {problem : Problem α} {lines : Line α × Line α}
    (member : lines ∈ pairs (boundaryLines problem))
    (apart : ¬ Scalar.magnitude (determinant lines.1 lines.2) < options.tolerance)
    (feasible : isFeasible problem options.tolerance (crossing lines.1 lines.2) = true) :
    Covered options.vertexTolerance (keptPlaces options problem)
      ((crossing lines.1 lines.2).rounded options.places) := by
  let recorded : Intersection α :=
    ⟨(crossing lines.1 lines.2).rounded options.places, (lines.1.name, lines.2.name),
      isFeasible problem options.tolerance (crossing lines.1 lines.2)⟩
  have found : intersection? options problem lines = some recorded := if_neg apart
  have among : recorded ∈
      (pairs (boundaryLines problem)).filterMap (intersection? options problem) :=
    List.mem_filterMap.mpr ⟨lines, member, found⟩
  apply covered_foldl_insertPoint
  apply List.mem_append_left
  exact List.mem_map.mpr ⟨recorded, List.mem_filter.mpr ⟨among, feasible⟩, rfl⟩

end Places

/-! ## The marks of the vertices of the region -/

theorem isSatisfied_of_compares {constraint : Constraint ℝ} {values : List ℝ} {tolerance : ℝ}
    (positive : 0 < tolerance)
    (holds : constraint.relation.Compares (constraint.lhs values) constraint.rhs) :
    constraint.isSatisfied values tolerance = true := by
  rw [Constraint.isSatisfied]
  cases relation : constraint.relation with
  | le =>
      rw [relation] at holds
      exact decide_eq_true (holds.trans (le_add_of_nonneg_right positive.le))
  | eq =>
      rw [relation] at holds
      have same : constraint.lhs values = constraint.rhs := holds
      rw [same, sub_self, magnitude_eq_abs, abs_zero]
      exact decide_eq_true positive
  | ge =>
      rw [relation] at holds
      exact decide_eq_true ((sub_le_self _ positive.le).trans holds)

/-- Exact feasibility is feasibility up to every positive tolerance. -/
theorem isFeasible_of_mem_region {problem : Problem ℝ} {tolerance : ℝ} (positive : 0 < tolerance)
    {point : ℝ × ℝ} (inside : point ∈ problem.region) :
    isFeasible problem tolerance ⟨point.1, point.2⟩ = true := by
  rcases inside with ⟨first, second, holds⟩
  rw [isFeasible, Problem.isFeasible, Bool.and_eq_true, List.all_eq_true, List.all_eq_true]
  refine ⟨fun value member => decide_eq_true ?_, fun constraint member =>
    isSatisfied_of_compares positive (holds constraint member)⟩
  have below : -tolerance ≤ 0 := neg_nonpos.mpr positive.le
  rcases List.mem_pair.mp member with rfl | rfl
  · exact below.trans first
  · exact below.trans second

/-- A covered place belongs to a point that is not far from the place before it
was rounded. -/
theorem exists_near_of_covered {radius : ℝ} (nonneg : 0 ≤ radius) {places : Int}
    {points : List (Point ℝ)} {point : Point ℝ}
    (covered : Covered radius points (point.rounded places)) :
    ∃ found ∈ points, |found.x1 - point.x1| ≤ radius + 1 / 2 / 10 ^ places ∧
      |found.x2 - point.x2| ≤ radius + 1 / 2 / 10 ^ places := by
  rcases covered with ⟨found, member, covers⟩
  have near : |found.x1 - (point.rounded places).x1| ≤ radius ∧
      |found.x2 - (point.rounded places).x2| ≤ radius := by
    rcases covers with rfl | isNear
    · simpa using nonneg
    · exact (abs_lt_of_shorter isNear).imp le_of_lt le_of_lt
  refine ⟨found, member, ?_, ?_⟩
  · exact (abs_sub_le _ _ _).trans (add_le_add near.1 (abs_roundTo_sub_le point.x1 places))
  · exact (abs_sub_le _ _ _).trans (add_le_add near.2 (abs_roundTo_sub_le point.x2 places))

/-- Whether all pairs of boundary lines that count as parallel are.  Lines with
small coefficients may count as parallel by their scale alone. -/
def SkipsOnlyParallels (options : Options ℝ) (problem : Problem ℝ) : Prop :=
  ∀ lines ∈ pairs (boundaryLines problem),
    Scalar.magnitude (determinant lines.1 lines.2) < options.tolerance →
      determinant lines.1 lines.2 = 0

/-- A vertex of the region has a kept place near it, at most half a unit of the
last place and the radius away. -/
theorem exists_place_of_isVertex {options : Options ℝ} {problem : Problem ℝ}
    (shaped : problem.WellShaped) (planar : problem.dimension = 2)
    (positive : 0 < options.tolerance) (nonneg : 0 ≤ options.vertexTolerance)
    (parallel : SkipsOnlyParallels options problem)
    {vertex : ℝ × ℝ} (isVertex : IsVertex (edges problem) vertex) :
    ∃ place ∈ keptPlaces options problem,
      |place.x1 - vertex.1| ≤ options.vertexTolerance + 1 / 2 / 10 ^ options.places ∧
        |place.x2 - vertex.2| ≤ options.vertexTolerance + 1 / 2 / 10 ^ options.places := by
  rcases exists_crossing_of_isVertex isVertex with
    ⟨first, firstMember, second, secondMember, determinant_ne, crossing_eq⟩
  have inside : vertex ∈ problem.region := region_edges shaped planar ▸ isVertex.inside
  -- The pair is looked at in the order of the lines, which the crossing does not depend on.
  obtain ⟨lines, member, apart, meets⟩ : ∃ lines ∈ pairs (boundaryLines problem),
      determinant lines.1 lines.2 ≠ 0 ∧ crossing lines.1 lines.2 = ⟨vertex.1, vertex.2⟩ := by
    have different : first ≠ second := by
      rintro rfl
      exact determinant_ne (sub_self _)
    rcases mem_pairs_of_ne firstMember secondMember different with ordered | swapped
    · exact ⟨_, ordered, determinant_ne, crossing_eq⟩
    · refine ⟨_, swapped, ?_, (crossing_comm first second).trans crossing_eq⟩
      rw [determinant_swap first second]
      exact neg_ne_zero.mpr determinant_ne
  have covered := covered_keptPlaces member (fun near => apart (parallel lines member near))
    (meets ▸ isFeasible_of_mem_region positive inside)
  rw [meets] at covered
  exact exists_near_of_covered nonneg covered

end Graphical
end Linear
end Optimum

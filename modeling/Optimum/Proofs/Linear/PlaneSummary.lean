import Optimum.Proofs.Linear.PlaneAnswer
import Optimum.Proofs.Linear.Refusals

namespace Optimum
namespace Linear

open Plane

/-!
# The vertices sum up the feasible crossings

A crossing is judged before it is rounded, and rounded places are compared with
those that were kept before.  So two kept places are apart, every feasible
crossing has a kept place near it, and a kept place, being rounded, misses a
constraint by no more than the tolerance and what rounding adds to it.
-/

/-- Whether the first of two real values is better, as `Sense.Better` says of
rationals. -/
def Sense.Surpasses : Sense → ℝ → ℝ → Prop
  | .max, first, second => second < first
  | .min, first, second => first < second

theorem Sense.surpasses_iff {sense : Sense} {first second : ℝ} :
    sense.Surpasses first second ↔ sense.sign * second < sense.sign * first := by
  cases sense with
  | max => simp [Surpasses, sign]
  | min => simp [Surpasses, sign]

namespace Graphical

/-! ## Distances -/

noncomputable def Point.distance (first second : Point ℝ) : ℝ :=
  √((first.x1 - second.x1) ^ 2 + (first.x2 - second.x2) ^ 2)

theorem Point.isNear_iff {first second : Point ℝ} {radius : ℝ} :
    first.isNear second radius = true ↔ first.distance second < radius := by
  rw [isNear, distance, pow_two, pow_two]
  exact decide_eq_true_iff

theorem Point.distance_self (point : Point ℝ) : point.distance point = 0 := by
  simp [distance]

theorem Point.distance_comm (first second : Point ℝ) :
    first.distance second = second.distance first := by
  rw [distance, distance, ← neg_sq (first.x1 - second.x1), ← neg_sq (first.x2 - second.x2),
    neg_sub, neg_sub]

/-- A point with a positive radius around it has a kept place within the
radius, if it is covered. -/
theorem Covered.exists_near {radius : ℝ} {points : List (Point ℝ)} {point : Point ℝ}
    (covered : Covered radius points point) (positive : 0 < radius) :
    ∃ found ∈ points, point.distance found < radius := by
  rcases covered with ⟨found, member, rfl | isNear⟩
  · exact ⟨found, member, found.distance_self.trans_lt positive⟩
  · exact ⟨found, member, found.distance_comm point ▸ Point.isNear_iff.mp isNear⟩

/-! ## What is kept -/

section Places

variable {α : Type} [PlaneScalar α] {radius : α} {points : List (Point α)}

theorem pairwise_insertPoint
    (apart : points.Pairwise fun first second => ¬ first.isNear second radius = true)
    (point : Point α) :
    (insertPoint radius points point).Pairwise
      fun first second => ¬ first.isNear second radius = true := by
  rw [insertPoint]
  split
  · exact apart
  · next noneNear =>
      refine List.pairwise_append.mpr ⟨apart, List.pairwise_singleton _ _, ?_⟩
      intro found member other same near
      rw [List.mem_singleton.mp same] at near
      exact noneNear (List.any_eq_true.mpr ⟨found, member, near⟩)

/-- No two places that are kept are near one another.  A place is compared with
all that were kept before it. -/
theorem pairwise_foldl_insertPoint (candidates : List (Point α))
    (apart : points.Pairwise fun first second => ¬ first.isNear second radius = true) :
    (candidates.foldl (insertPoint radius) points).Pairwise
      fun first second => ¬ first.isNear second radius = true := by
  induction candidates generalizing points with
  | nil => exact apart
  | cons candidate others inductionHypothesis =>
      exact inductionHypothesis (pairwise_insertPoint apart candidate)

theorem mem_of_mem_foldl_insertPoint {candidates : List (Point α)} {point : Point α}
    (member : point ∈ candidates.foldl (insertPoint radius) points) :
    point ∈ points ∨ point ∈ candidates := by
  induction candidates generalizing points with
  | nil => exact .inl member
  | cons candidate others inductionHypothesis =>
      rcases inductionHypothesis member with kept | later
      · rw [insertPoint] at kept
        split at kept
        · exact .inl kept
        · rcases List.mem_append.mp kept with before | same
          · exact .inl before
          · exact .inr (List.mem_cons.mpr (.inl (List.mem_singleton.mp same)))
      · exact .inr (List.mem_cons_of_mem _ later)

/-- The places of the feasible crossings, and of the origin if it is feasible,
before near ones are left out. -/
def foundPlaces (options : Options α) (problem : Problem α) : List (Point α) :=
  ((((pairs (boundaryLines problem)).filterMap (intersection? options problem)).filter
      Intersection.feasible).map Intersection.point) ++
    if isFeasible problem options.tolerance ⟨0, 0⟩ then [⟨0, 0⟩] else []

theorem keptPlaces_eq (options : Options α) (problem : Problem α) :
    keptPlaces options problem =
      (foundPlaces options problem).foldl (insertPoint options.vertexTolerance) [] :=
  rfl

theorem covered_of_mem_foundPlaces {options : Options α} {problem : Problem α} {place : Point α}
    (found : place ∈ foundPlaces options problem) :
    Covered options.vertexTolerance (keptPlaces options problem) place :=
  covered_foldl_insertPoint found []

theorem mem_foundPlaces_of_mem_keptPlaces {options : Options α} {problem : Problem α}
    {place : Point α} (kept : place ∈ keptPlaces options problem) :
    place ∈ foundPlaces options problem :=
  (mem_of_mem_foldl_insertPoint kept).resolve_left nofun

theorem keptPlaces_eq_nil_iff {options : Options α} {problem : Problem α} :
    keptPlaces options problem = [] ↔ foundPlaces options problem = [] := by
  constructor
  · intro nothing
    by_contra something
    rcases List.exists_mem_of_ne_nil _ something with ⟨place, member⟩
    rcases covered_of_mem_foundPlaces member with ⟨found, kept, -⟩
    rw [nothing] at kept
    cases kept
  · intro nothing
    rw [keptPlaces_eq, nothing]
    rfl

end Places

/-! ## What is found -/

section Found

variable {options : Options ℝ} {problem : Problem ℝ} {place : Point ℝ}

/-- The crossings that are looked at are those of lines that are not nearly
parallel. -/
theorem intersection?_eq_some_iff {lines : Line ℝ × Line ℝ} {found : Intersection ℝ} :
    intersection? options problem lines = some found ↔
      options.tolerance ≤ |determinant lines.1 lines.2| ∧
        found = ⟨(crossing lines.1 lines.2).rounded options.places,
          (lines.1.name, lines.2.name),
          isFeasible problem options.tolerance (crossing lines.1 lines.2)⟩ := by
  rw [intersection?, magnitude_eq_abs]
  split
  · next parallel => exact iff_of_false nofun fun both => absurd parallel (not_lt.mpr both.1)
  · next apart => rw [Option.some.injEq, and_iff_right (not_lt.mp apart), eq_comm]

theorem mem_foundPlaces_iff :
    place ∈ foundPlaces options problem ↔
      (∃ lines ∈ pairs (boundaryLines problem),
        options.tolerance ≤ |determinant lines.1 lines.2| ∧
          isFeasible problem options.tolerance (crossing lines.1 lines.2) = true ∧
          place = (crossing lines.1 lines.2).rounded options.places) ∨
        isFeasible problem options.tolerance ⟨0, 0⟩ = true ∧ place = ⟨0, 0⟩ := by
  rw [foundPlaces, List.mem_append, List.mem_map]
  refine or_congr ⟨?_, ?_⟩ ?_
  · rintro ⟨found, member, rfl⟩
    rcases List.mem_filter.mp member with ⟨among, feasible⟩
    rcases List.mem_filterMap.mp among with ⟨lines, paired, crosses⟩
    rcases intersection?_eq_some_iff.mp crosses with ⟨apart, rfl⟩
    exact ⟨lines, paired, apart, feasible, rfl⟩
  · rintro ⟨lines, paired, apart, feasible, rfl⟩
    refine ⟨_, List.mem_filter.mpr ⟨List.mem_filterMap.mpr ⟨lines, paired,
      intersection?_eq_some_iff.mpr ⟨apart, rfl⟩⟩, feasible⟩, rfl⟩
  · split
    · next feasible => rw [List.mem_singleton, and_iff_right feasible]
    · next infeasible => exact iff_of_false List.not_mem_nil fun both => infeasible both.1

/-- Whether no lines that count as crossing do so at a feasible point and the
origin is not feasible either. -/
def NothingFeasible (options : Options ℝ) (problem : Problem ℝ) : Prop :=
  (∀ lines ∈ pairs (boundaryLines problem), options.tolerance ≤ |determinant lines.1 lines.2| →
    isFeasible problem options.tolerance (crossing lines.1 lines.2) = false) ∧
  isFeasible problem options.tolerance ⟨0, 0⟩ = false

theorem keptPlaces_eq_nil_iff_nothingFeasible :
    keptPlaces options problem = [] ↔ NothingFeasible options problem := by
  rw [keptPlaces_eq_nil_iff, List.eq_nil_iff_forall_not_mem]
  constructor
  · intro nothing
    refine ⟨fun lines paired apart => Bool.eq_false_iff.mpr fun feasible => ?_,
      Bool.eq_false_iff.mpr fun feasible => ?_⟩
    · exact nothing _ (mem_foundPlaces_iff.mpr (.inl ⟨lines, paired, apart, feasible, rfl⟩))
    · exact nothing _ (mem_foundPlaces_iff.mpr (.inr ⟨feasible, rfl⟩))
  · rintro ⟨noCrossing, noOrigin⟩ place found
    rcases mem_foundPlaces_iff.mp found with ⟨lines, paired, apart, feasible, -⟩ | ⟨feasible, -⟩
    · rw [noCrossing lines paired apart] at feasible
      cases feasible
    · rw [noOrigin] at feasible
      cases feasible

/-- A place that is found is the rounding of a feasible point.  The place itself
may miss a constraint by as much as rounding has moved it. -/
theorem exists_feasible_of_mem_foundPlaces (found : place ∈ foundPlaces options problem) :
    ∃ exact : Point ℝ, isFeasible problem options.tolerance exact = true ∧
      |place.x1 - exact.x1| ≤ 1 / 2 / 10 ^ options.places ∧
      |place.x2 - exact.x2| ≤ 1 / 2 / 10 ^ options.places := by
  rcases mem_foundPlaces_iff.mp found with ⟨lines, -, -, feasible, rfl⟩ | ⟨feasible, rfl⟩
  · exact ⟨_, feasible, abs_roundTo_sub_le _ _, abs_roundTo_sub_le _ _⟩
  · have origin : |(0 : ℝ) - 0| ≤ 1 / 2 / 10 ^ options.places := by
      rw [sub_self, abs_zero]
      positivity
    exact ⟨⟨0, 0⟩, feasible, origin, origin⟩

end Found

/-! ## What rounding adds -/

section Rounding

variable {problem : Problem ℝ} {constraint : Constraint ℝ} {place exact : Point ℝ}
  {tolerance error : ℝ}

/-- A point near one that satisfies a constraint satisfies it with a larger
tolerance. -/
theorem isSatisfied_of_near (length : constraint.coefficients.length = 2)
    (near : |place.x1 - exact.x1| ≤ error) (nearSecond : |place.x2 - exact.x2| ≤ error)
    (satisfied : constraint.isSatisfied [exact.x1, exact.x2] tolerance = true) :
    constraint.isSatisfied [place.x1, place.x2]
      (tolerance + error * (constraint.coefficients.map abs).sum) = true := by
  rcases List.length_eq_two.mp length with ⟨a, b, coefficients_eq⟩
  have sizes : (constraint.coefficients.map abs).sum = |a| + |b| := by
    simp [coefficients_eq]
  have moved : |constraint.lhs [place.x1, place.x2] - constraint.lhs [exact.x1, exact.x2]| ≤
      error * (constraint.coefficients.map abs).sum := by
    rw [sizes, Constraint.lhs, Constraint.lhs, coefficients_eq]
    exact abs_dot_pair_sub_le a b near nearSecond
  rcases abs_le.mp moved with ⟨below, above⟩
  rw [Constraint.isSatisfied] at satisfied ⊢
  cases relation : constraint.relation with
  | le =>
      rw [relation] at satisfied
      have holds := of_decide_eq_true satisfied
      exact decide_eq_true (by linarith)
  | eq =>
      rw [relation] at satisfied
      have holds := of_decide_eq_true satisfied
      rw [magnitude_eq_abs] at holds
      refine decide_eq_true ?_
      rw [magnitude_eq_abs]
      rcases abs_lt.mp holds with ⟨low, high⟩
      exact abs_lt.mpr ⟨by linarith, by linarith⟩
  | ge =>
      rw [relation] at satisfied
      have holds := of_decide_eq_true satisfied
      exact decide_eq_true (by linarith)

theorem nonneg_of_near (near : |place.x1 - exact.x1| ≤ error)
    (nearSecond : |place.x2 - exact.x2| ≤ error)
    (feasible : isFeasible problem tolerance exact = true) :
    -(tolerance + error) ≤ place.x1 ∧ -(tolerance + error) ≤ place.x2 := by
  rw [isFeasible, Problem.isFeasible, Bool.and_eq_true, List.all_eq_true] at feasible
  have first := of_decide_eq_true (feasible.1 exact.x1 (by simp))
  have second := of_decide_eq_true (feasible.1 exact.x2 (by simp))
  have moved := (abs_le.mp near).1
  have movedSecond := (abs_le.mp nearSecond).1
  constructor
  · linarith
  · linarith

end Rounding

/-! ## The answer -/

/-- What an answer says about the crossings of the boundary lines, where
rounding moves a coordinate by no more than an error. -/
structure Solution.SumsUp (options : Options ℝ) (problem : Problem ℝ) (error : ℝ)
    (solution : Solution ℝ) : Prop where
  /-- The crossings of all pairs of lines that are not nearly parallel. -/
  mem_intersections_iff : ∀ found, found ∈ solution.intersections ↔
    ∃ lines ∈ pairs (boundaryLines problem), options.tolerance ≤ |determinant lines.1 lines.2| ∧
      found = ⟨(crossing lines.1 lines.2).rounded options.places, (lines.1.name, lines.2.name),
        isFeasible problem options.tolerance (crossing lines.1 lines.2)⟩
  apart : solution.vertices.Pairwise fun first second =>
    options.vertexTolerance ≤ first.point.distance second.point
  near_feasible : ∀ found ∈ solution.intersections, found.feasible = true →
    ∃ vertex ∈ solution.vertices, found.point.distance vertex.point < options.vertexTolerance
  near_origin : isFeasible problem options.tolerance ⟨0, 0⟩ = true →
    ∃ vertex ∈ solution.vertices,
      (⟨0, 0⟩ : Point ℝ).distance vertex.point < options.vertexTolerance
  nonneg : ∀ vertex ∈ solution.vertices,
    -(options.tolerance + error) ≤ vertex.point.x1 ∧
      -(options.tolerance + error) ≤ vertex.point.x2
  satisfied : ∀ vertex ∈ solution.vertices, ∀ constraint ∈ problem.constraints,
    constraint.isSatisfied [vertex.point.x1, vertex.point.x2]
      (options.tolerance + error * (constraint.coefficients.map abs).sum) = true
  objective_eq : ∀ vertex ∈ solution.vertices, vertex.objective =
    PlaneScalar.roundTo (problem.evaluate [vertex.point.x1, vertex.point.x2]) options.places
  optimum_first : IsFirstBest (fun one other =>
    problem.sense.Surpasses one.objective other.objective) solution.vertices solution.optimum
  polygon_perm : solution.polygon.Perm (solution.vertices.map Vertex.point)

theorem polygonOrder_perm (points : List (Point ℝ)) : (polygonOrder points).Perm points := by
  rw [polygonOrder]
  split
  · exact .refl points
  · exact List.mergeSort_perm _ _

section Answer

variable {options : Options ℝ} {problem : Problem ℝ}

theorem near_vertex_of_found (positive : 0 < options.vertexTolerance) {place : Point ℝ}
    (found : place ∈ foundPlaces options problem) :
    ∃ vertex ∈ (keptPlaces options problem).map (vertexAt options problem),
      place.distance vertex.point < options.vertexTolerance := by
  rcases (covered_of_mem_foundPlaces found).exists_near positive with ⟨kept, member, near⟩
  exact ⟨_, List.mem_map_of_mem member, near⟩

theorem exists_feasible_of_mem_vertices {vertex : Vertex ℝ}
    (member : vertex ∈ (keptPlaces options problem).map (vertexAt options problem)) :
    ∃ exact : Point ℝ, isFeasible problem options.tolerance exact = true ∧
      |vertex.point.x1 - exact.x1| ≤ 1 / 2 / 10 ^ options.places ∧
      |vertex.point.x2 - exact.x2| ≤ 1 / 2 / 10 ^ options.places := by
  rcases List.mem_map.mp member with ⟨place, kept, rfl⟩
  exact exists_feasible_of_mem_foundPlaces (mem_foundPlaces_of_mem_keptPlaces kept)

/-- Where places are kept, the answer sums up the crossings.  The error is that
of rounding a coordinate. -/
theorem exists_sumsUp (planar : problem.dimension = 2) (valid : problem.validate = .ok ())
    (positive : 0 < options.vertexTolerance) (something : keptPlaces options problem ≠ []) :
    ∃ solution, graphical options problem = .ok solution ∧
      solution.SumsUp options problem (1 / 2 / 10 ^ options.places) := by
  have shaped := (Problem.validate_eq_ok_iff_accepted.mp valid).toWellShaped
  rcases List.exists_cons_of_ne_nil something with ⟨place, places, kept⟩
  refine ⟨_, graphical_eq_ok planar valid (congrArg (List.map _) kept), ?_⟩
  rw [← List.map_cons, ← kept]
  exact {
    mem_intersections_iff := fun found => by
      simp only [List.mem_filterMap, intersection?_eq_some_iff]
    apart := by
      refine List.pairwise_map.mpr ((pairwise_foldl_insertPoint _ List.Pairwise.nil).imp ?_)
      exact fun {first second} notNear => not_lt.mp fun near => notNear (Point.isNear_iff.mpr near)
    near_feasible := fun found member feasible => by
      refine near_vertex_of_found positive (List.mem_append_left _ ?_)
      exact List.mem_map_of_mem (List.mem_filter.mpr ⟨member, feasible⟩)
    near_origin := fun feasible =>
      near_vertex_of_found positive (mem_foundPlaces_iff.mpr (.inr ⟨feasible, rfl⟩))
    nonneg := fun vertex member => by
      rcases exists_feasible_of_mem_vertices member with ⟨exact, feasible, near, nearSecond⟩
      exact nonneg_of_near near nearSecond feasible
    satisfied := fun vertex member constraint among => by
      rcases exists_feasible_of_mem_vertices member with ⟨exact, feasible, near, nearSecond⟩
      refine isSatisfied_of_near (planar ▸ shaped.length_coefficients constraint among) near
        nearSecond ?_
      rw [isFeasible, Problem.isFeasible, Bool.and_eq_true, List.all_eq_true,
        List.all_eq_true] at feasible
      exact feasible.2 constraint among
    objective_eq := fun vertex member => by
      rcases List.mem_map.mp member with ⟨place, -, rfl⟩
      rfl
    optimum_first := by
      rw [kept]
      simp only [Sense.surpasses_iff]
      exact isFirstBest_best _ _ _
    polygon_perm := by
      rw [List.map_map]
      refine (polygonOrder_perm _).trans (List.Perm.of_eq ?_)
      exact (List.map_id _).symm }

end Answer

end Graphical

/-- With positive tolerances the planar method answers every validated problem
with two variables that has a feasible place among the crossings of its lines
and the origin, and refuses the others.  Its vertices sum up these places. -/
theorem graphical_sumsUp (problem : Problem ℝ) (tolerance vertexTolerance : ℝ)
    (planar : problem.dimension = 2) (valid : problem.validate = .ok ())
    (positive : 0 < vertexTolerance) :
    let options : Graphical.Options ℝ := ⟨tolerance, vertexTolerance, 5⟩
    (graphical options problem = .error .noFeasibleVertices ↔
        Graphical.NothingFeasible options problem) ∧
      (¬ Graphical.NothingFeasible options problem ↔
        ∃ solution, graphical options problem = .ok solution) ∧
      ∀ solution, graphical options problem = .ok solution →
        solution.SumsUp options problem 0.000005 := by
  intro options
  have error : (1 : ℝ) / 2 / 10 ^ options.places = 0.000005 := by norm_num [options]
  have refused : graphical options problem = .error .noFeasibleVertices ↔
      Graphical.NothingFeasible options problem := by
    rw [graphical_eq_error_iff valid, ← Graphical.keptPlaces_eq_nil_iff_nothingFeasible]
    simp [planar]
  refine ⟨refused, Checks.accepted_iff_and_forall (fun something => ?_) fun solution answers => ?_⟩
  · rw [← error]
    exact Graphical.exists_sumsUp planar valid positive
      (mt Graphical.keptPlaces_eq_nil_iff_nothingFeasible.mp something)
  · intro nothing
    rw [refused.mpr nothing] at answers
    cases answers

/-- A third of a unit is shared out, which no rounded vertex does exactly. -/
noncomputable def thirds : Problem ℝ where
  variableNames := ["x", "y"]
  sense := .max
  objective := [1, 0]
  constraints := [⟨"R1", [1, 1], .eq, Scalar.unitFraction 3⟩]

theorem graphical_sumsUp_thirds :
    thirds.dimension = 2 ∧ thirds.validate = .ok () ∧ (0 : ℝ) < 0.00001 ∧
      ∃ solution, graphical ⟨0.000000001, 0.00001, 5⟩ thirds = .ok solution ∧
        solution.SumsUp ⟨0.000000001, 0.00001, 5⟩ thirds 0.000005 := by
  have free : ∀ name ∈ ["x", "y"], isReserved name = false := by decide
  have valid : thirds.validate = .ok () :=
    thirds.validate_of_planar rfl rfl free (by simp [thirds])
  have positive : (0 : ℝ) < 0.00001 := by norm_num
  rcases graphical_sumsUp thirds 0.000000001 0.00001 rfl valid positive with
    ⟨-, answers, sumsUp⟩
  -- The line of the constraint meets the second axis at a third.
  have something : ¬ Graphical.NothingFeasible ⟨0.000000001, 0.00001, 5⟩ thirds := by
    rintro ⟨noCrossing, -⟩
    have axis := noCrossing (⟨"R1", 1, 1, Scalar.unitFraction 3⟩, ⟨"x = 0", 1, 0, 0⟩)
      (by simp [thirds, Graphical.boundaryLines, Graphical.pairs])
      (by norm_num [Graphical.determinant])
    norm_num [Graphical.isFeasible, Problem.isFeasible, Graphical.crossing, Graphical.determinant,
      thirds, Constraint.isSatisfied, Constraint.lhs, dot_pair, magnitude_eq_abs,
      Scalar.unitFraction] at axis
  rcases answers.mp something with ⟨solution, found⟩
  exact ⟨rfl, valid, positive, solution, found, sumsUp solution found⟩

end Linear
end Optimum

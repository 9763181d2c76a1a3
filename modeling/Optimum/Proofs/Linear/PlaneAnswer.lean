import Optimum.Proofs.Linear.PlaneVertices
import Optimum.Proofs.FirstBest

namespace Optimum
namespace Linear

open Plane

/-!
# The answer of the planar method

If the objective is bounded, a vertex of the region is a best point, and the
place that is kept near it is worth almost as much.  The method reports the
best of the kept places.  What it may lose by this is the way from the vertex
to the place, once for each coefficient, and the rounding of the reported
objective.
-/

/-- The objective at a point of the plane, with the sign that makes better
larger. -/
noncomputable def Problem.gain (problem : Problem ℝ) (point : ℝ × ℝ) : ℝ :=
  problem.sense.sign * problem.evaluate [point.1, point.2]

theorem Sense.sign_mul_le_abs (sense : Sense) (x : ℝ) : sense.sign * x ≤ |x| := by
  cases sense with
  | max => exact (one_mul x).trans_le (le_abs_self x)
  | min => exact (neg_one_mul x).trans_le (neg_le_abs x)

/-- Every real is finite, so validation is about names and shapes. -/
theorem Problem.validate_of_planar (problem : Problem ℝ) (planar : problem.dimension = 2)
    (names : problem.variableNames.length = 2)
    (free : ∀ name ∈ problem.variableNames, isReserved name = false)
    (shaped : ∀ constraint ∈ problem.constraints, constraint.coefficients.length = 2) :
    problem.validate = .ok () :=
  Problem.validate_eq_ok_iff_accepted.mpr
    { length_names := names.trans planar.symm
      length_coefficients := planar ▸ shaped
      dimension_ne_zero := planar ▸ two_ne_zero
      not_reserved := free
      finite_objective := fun _ _ => isFinite_real _
      finite_rhs := fun _ _ => isFinite_real _
      finite_coefficients := fun _ _ _ _ => isFinite_real _ }

namespace Graphical

variable {problem : Problem ℝ} {c1 c2 : ℝ}

/-! ## The gain -/

theorem evaluate_eq (objective : problem.objective = [c1, c2]) (x y : ℝ) :
    problem.evaluate [x, y] = c1 * x + c2 * y := by
  rw [Problem.evaluate, objective, dot_pair]

theorem exists_linearMap_eq_gain (objective : problem.objective = [c1, c2]) :
    ∃ gain : ℝ × ℝ →ₗ[ℝ] ℝ, ⇑gain = problem.gain := by
  refine ⟨(problem.sense.sign : ℝ) • (c1 • LinearMap.fst ℝ ℝ ℝ + c2 • LinearMap.snd ℝ ℝ ℝ), ?_⟩
  funext point
  rw [Problem.gain, evaluate_eq objective]
  rfl

/-- Points whose coordinates differ little are worth almost the same.  The bound
grows with the coefficients of the objective. -/
theorem gain_sub_le (objective : problem.objective = [c1, c2]) {place point : ℝ × ℝ}
    {distance : ℝ} (near : |place.1 - point.1| ≤ distance)
    (nearSecond : |place.2 - point.2| ≤ distance) :
    problem.gain point - distance * (|c1| + |c2|) ≤ problem.gain place := by
  have moved : |problem.evaluate [place.1, place.2] - problem.evaluate [point.1, point.2]| ≤
      distance * (|c1| + |c2|) := by
    rw [Problem.evaluate, Problem.evaluate, objective]
    exact abs_dot_pair_sub_le c1 c2 near nearSecond
  have difference : problem.gain point - problem.gain place ≤
      |problem.evaluate [point.1, point.2] - problem.evaluate [place.1, place.2]| := by
    rw [Problem.gain, Problem.gain, ← mul_sub]
    exact Sense.sign_mul_le_abs _ _
  rw [abs_sub_comm] at difference
  linarith

/-- The objective that a place is reported with is rounded once more. -/
theorem gain_sub_le_objective_vertexAt (options : Options ℝ) (problem : Problem ℝ)
    (place : Point ℝ) :
    problem.gain (place.x1, place.x2) - 1 / 2 / 10 ^ options.places ≤
      problem.sense.sign * (vertexAt options problem place).objective := by
  have rounded := abs_roundTo_sub_le (problem.evaluate [place.x1, place.x2]) options.places
  have difference : problem.gain (place.x1, place.x2) -
      problem.sense.sign * (vertexAt options problem place).objective ≤
        |problem.evaluate [place.x1, place.x2] - (vertexAt options problem place).objective| := by
    rw [Problem.gain, ← mul_sub]
    exact Sense.sign_mul_le_abs _ _
  rw [abs_sub_comm] at difference
  have bound := difference.trans rounded
  linarith

/-! ## The best of the kept places -/

theorem isFirstBest_best (sense : Sense) (first : Vertex ℝ) (others : List (Vertex ℝ)) :
    IsFirstBest (fun one other => sense.sign * other.objective < sense.sign * one.objective)
      (first :: others) (best sense first others) :=
  isFirstBest_foldl (fun _ _ => rfl) first others

theorem graphical_eq_ok {options : Options ℝ} (planar : problem.dimension = 2)
    (valid : problem.validate = .ok ()) {first : Vertex ℝ} {others : List (Vertex ℝ)}
    (vertices : (keptPlaces options problem).map (vertexAt options problem) = first :: others) :
    graphical options problem = .ok {
      sense := problem.sense
      lines := boundaryLines problem
      intersections := (pairs (boundaryLines problem)).filterMap (intersection? options problem)
      vertices := first :: others
      polygon := polygonOrder (keptPlaces options problem)
      optimum := best problem.sense first others } := by
  rw [keptPlaces] at vertices
  simp only [graphical, planar, ne_eq, not_true_eq_false, if_false, valid, vertices, bind,
    Except.bind]
  rfl

/-- The method answers if it keeps a place, and its answer is at least as good
as every kept place. -/
theorem exists_answer {options : Options ℝ} (planar : problem.dimension = 2)
    (valid : problem.validate = .ok ()) {place : Point ℝ}
    (kept : place ∈ keptPlaces options problem) :
    ∃ solution, graphical options problem = .ok solution ∧
      ∀ place ∈ keptPlaces options problem,
        problem.sense.sign * (vertexAt options problem place).objective ≤
          problem.sense.sign * solution.objectiveValue := by
  cases vertices : (keptPlaces options problem).map (vertexAt options problem) with
  | nil =>
      rw [List.map_eq_nil_iff.mp vertices] at kept
      cases kept
  | cons first others =>
      refine ⟨_, graphical_eq_ok planar valid vertices, fun place member => ?_⟩
      refine (isFirstBest_best problem.sense first others).le _ ?_
      rw [← vertices]
      exact List.mem_map_of_mem member

/-! ## Almost the best point -/

/-- If some point is feasible and all pairs of lines that count as parallel
are, the method answers, and what it loses against the best point is known. -/
theorem graphical_near_best {options : Options ℝ} (objective : problem.objective = [c1, c2])
    (valid : problem.validate = .ok ()) (positive : 0 < options.tolerance)
    (nonneg : 0 ≤ options.vertexTolerance)
    (parallel : SkipsOnlyParallels options problem)
    (feasible : problem.region.Nonempty) :
    ∃ solution, graphical options problem = .ok solution ∧
      (BddAbove (problem.gain '' problem.region) →
        ∃ best, IsGreatest (problem.gain '' problem.region) best ∧
          best - ((options.vertexTolerance + 1 / 2 / 10 ^ options.places) * (|c1| + |c2|) +
            1 / 2 / 10 ^ options.places) ≤ problem.sense.sign * solution.objectiveValue) := by
  have planar : problem.dimension = 2 := by
    rw [Problem.dimension, objective]
    rfl
  have shaped := (Problem.validate_eq_ok_iff_accepted.mp valid).toWellShaped
  have place_of_vertex {vertex : ℝ × ℝ} (isVertex : IsVertex (edges problem) vertex) :=
    exists_place_of_isVertex shaped planar positive nonneg parallel isVertex
  have quadrantEdges := quadrant_subset_edges problem
  have region_eq := region_edges shaped planar
  rw [← region_eq] at feasible ⊢
  rcases exists_isVertex quadrantEdges feasible with ⟨start, isVertex⟩
  rcases place_of_vertex isVertex with ⟨place, kept, -⟩
  rcases exists_answer planar valid kept with ⟨solution, answers, best⟩
  refine ⟨solution, answers, fun bounded => ?_⟩
  rcases exists_linearMap_eq_gain objective with ⟨gain, gain_eq⟩
  rw [← gain_eq] at bounded
  rcases exists_best_vertex quadrantEdges bounded feasible with ⟨vertex, isVertex, greatest⟩
  rw [gain_eq] at greatest
  refine ⟨problem.gain vertex, ⟨⟨vertex, isVertex.inside, rfl⟩, ?_⟩, ?_⟩
  · rintro _ ⟨point, inside, rfl⟩
    exact greatest point inside
  · rcases place_of_vertex isVertex with ⟨place, kept, near, nearSecond⟩
    have moved : problem.gain vertex - _ ≤ problem.gain (place.x1, place.x2) :=
      gain_sub_le objective near nearSecond
    have rounded := gain_sub_le_objective_vertexAt options problem place
    have reported := best place kept
    linarith

end Graphical

/-- If no lines but parallel ones count as parallel, the planar method answers
every problem that has a feasible point, and if the objective is bounded there,
its answer is the best value up to rounding. -/
theorem graphical_finds_best (problem : Problem ℝ) (c1 c2 : ℝ)
    (objective : problem.objective = [c1, c2]) (valid : problem.validate = .ok ())
    (parallel : Graphical.SkipsOnlyParallels .standard problem)
    (feasible : problem.region.Nonempty) :
    ∃ solution, graphical .standard problem = .ok solution ∧
      (BddAbove (problem.gain '' problem.region) →
        ∃ best, IsGreatest (problem.gain '' problem.region) best ∧
          best - (0.000015 * (|c1| + |c2|) + 0.000005) ≤
            problem.sense.sign * solution.objectiveValue) := by
  have positive : 0 < (Graphical.Options.standard : Graphical.Options ℝ).tolerance := by
    norm_num [Graphical.Options.standard, Scalar.unitFraction]
  have nonneg : 0 ≤ (Graphical.Options.standard : Graphical.Options ℝ).vertexTolerance := by
    norm_num [Graphical.Options.standard, Scalar.unitFraction]
  have loss : (Graphical.Options.standard : Graphical.Options ℝ).vertexTolerance +
      1 / 2 / 10 ^ (Graphical.Options.standard : Graphical.Options ℝ).places = 0.000015 := by
    norm_num [Graphical.Options.standard, Scalar.unitFraction]
  have last : (1 : ℝ) / 2 / 10 ^ (Graphical.Options.standard : Graphical.Options ℝ).places =
      0.000005 := by
    norm_num [Graphical.Options.standard]
  have answer := Graphical.graphical_near_best objective valid positive nonneg parallel feasible
  rwa [loss, last] at answer

/-- A machine that runs its whole hour, and a second one that runs no longer. -/
noncomputable def machines : Problem ℝ where
  variableNames := ["x", "y"]
  sense := .max
  objective := [1, 1]
  constraints := [⟨"R1", [1, 0], .eq, 1⟩, ⟨"R2", [-1, 1], .le, 0⟩]

theorem graphical_finds_best_machines :
    machines.objective = [1, 1] ∧ machines.validate = .ok () ∧
      Graphical.SkipsOnlyParallels .standard machines ∧ machines.region.Nonempty ∧
      BddAbove (machines.gain '' machines.region) ∧
      ∃ solution, graphical .standard machines = .ok solution ∧
        1.999965 ≤ solution.objectiveValue := by
  have free : ∀ name ∈ ["x", "y"], isReserved name = false := by decide
  have valid : machines.validate = .ok () :=
    machines.validate_of_planar rfl rfl free (by simp [machines])
  have parallel : Graphical.SkipsOnlyParallels .standard machines := by
    norm_num [Graphical.SkipsOnlyParallels, Graphical.pairs, Graphical.boundaryLines, machines,
      Graphical.determinant, Graphical.Options.standard, Scalar.unitFraction, magnitude_eq_abs]
  have best : ((1, 1) : ℝ × ℝ) ∈ machines.region := by
    norm_num [Problem.region, machines, Relation.Compares, Constraint.lhs, dot_pair]
  have gain_eq (point : ℝ × ℝ) : machines.gain point = point.1 + point.2 := by
    rw [Problem.gain, Graphical.evaluate_eq rfl, one_mul, one_mul]
    exact one_mul _
  have bounded : BddAbove (machines.gain '' machines.region) := by
    refine ⟨2, ?_⟩
    rintro _ ⟨point, inside, rfl⟩
    norm_num [Problem.region, machines, Relation.Compares, Constraint.lhs, dot_pair] at inside
    rw [gain_eq]
    linarith
  rcases graphical_finds_best machines 1 1 rfl valid parallel ⟨_, best⟩ with
    ⟨solution, answers, near⟩
  rcases near bounded with ⟨value, greatest, almost⟩
  have reached : machines.gain (1, 1) ≤ value := greatest.2 ⟨_, best, rfl⟩
  refine ⟨rfl, valid, parallel, ⟨_, best⟩, bounded, solution, answers, ?_⟩
  have sign_eq : machines.sense.sign * solution.objectiveValue = solution.objectiveValue :=
    one_mul _
  rw [sign_eq] at almost
  rw [gain_eq] at reached
  norm_num at almost reached
  linarith

end Linear
end Optimum

import Mathlib.Algebra.Order.Ring.Rat
import Optimum.Linear.BigM
import Optimum.Linear.Graphical
import Optimum.Plane.Rational
import Optimum.Proofs.Checks
import Optimum.Proofs.Linear.DualProblem
import Optimum.Proofs.Linear.Enumeration

namespace Optimum
namespace Linear

open Scalar

/-!
# The opposite sense

To minimise is to maximise the negated objective.  The methods that work with
a tableau never see the difference: their objective row holds the objective
multiplied by the sign of the sense, and there both changes cancel.  The runs
are therefore the same, and only the objective that is read off the last
tableau changes its sign.

The methods that compare candidates multiply both sides of each comparison by
the sign, so they prefer the same candidates.  In the plane objectives are
rounded as well, which keeps the sign because halves go away from zero.
-/

/-! ## The reversed problem -/

namespace Problem

/-- The problem with the opposite sense and the negated objective. -/
def reversed (problem : Problem Rat) : Problem Rat :=
  { problem with sense := problem.sense.opposite, objective := problem.objective.map (- ·) }

variable (problem : Problem Rat)

theorem dimension_reversed : problem.reversed.dimension = problem.dimension :=
  List.length_map _

theorem evaluate_reversed (point : List Rat) :
    problem.reversed.evaluate point = -problem.evaluate point :=
  dot_map_neg problem.objective point

theorem isFeasible_reversed (point : List Rat) (tolerance : Rat) :
    problem.reversed.isFeasible point tolerance = problem.isFeasible point tolerance := rfl

theorem validate_reversed : problem.reversed.validate = problem.validate := by
  have finite : ∀ values : List Rat, values.all isFinite = true :=
    fun values => List.all_eq_true.mpr fun value _ => isFinite_rat value
  rw [validate, validate, dimension_reversed, finite, finite]
  rfl

/-- The sign of the sense and the sign of the objective cancel.  So the runs are
the same, and only what is read off at the end has another sign. -/
theorem objectiveRow_reversed (added : List Rat) :
    problem.reversed.objectiveRow added = problem.objectiveRow added := by
  have cancel : problem.reversed.objective.map (-problem.reversed.sense.sign * ·) =
      problem.objective.map (-problem.sense.sign * ·) := by
    rw [reversed, List.map_map]
    refine List.map_congr_left fun coefficient _ => ?_
    rw [Function.comp_apply, Sense.sign_opposite, neg_mul_neg]
  rw [objectiveRow, objectiveRow, cancel]

end Problem

/-! ## Methods with a tableau -/

/-- The answer with the objective negated, if it has one. -/
def Solution.negated (solution : Solution Rat) : Solution Rat :=
  { solution with objectiveValue := solution.objectiveValue.map (- ·) }

theorem simplex_reversed (limits : Tableau.Limits Rat) (problem : Problem Rat) :
    simplex limits problem.reversed = (simplex limits problem).map Solution.negated := by
  have start : slackTableau problem.reversed = slackTableau problem := by
    rw [slackTableau, slackTableau, problem.objectiveRow_reversed, problem.dimension_reversed]
    rfl
  have standard : problem.reversed.checkStandardForm = problem.checkStandardForm := rfl
  have sign : (problem.reversed.sense.sign : Rat) = -problem.sense.sign :=
    Sense.sign_opposite problem.sense
  rw [simplex, simplex, problem.validate_reversed, standard, start, sign,
    problem.dimension_reversed]
  simp only [Checks.map_bind]
  refine bind_congr fun _ => bind_congr fun _ => bind_congr fun finished => ?_
  rw [neg_mul]
  rcases finished.verdict with _ | _ | _ | _ <;> rfl

theorem bigM_reversed (options : BigM.Options Rat) (problem : Problem Rat) :
    bigM options problem.reversed = (bigM options problem).map Solution.negated := by
  have start : BigM.penalizedTableau problem.reversed = BigM.penalizedTableau problem := by
    funext constraints penalty
    rw [BigM.penalizedTableau, BigM.penalizedTableau, problem.objectiveRow_reversed,
      problem.dimension_reversed]
    rfl
  have constraints : problem.reversed.constraints = problem.constraints := rfl
  have sign : (problem.reversed.sense.sign : Rat) = -problem.sense.sign :=
    Sense.sign_opposite problem.sense
  rw [bigM, bigM, problem.validate_reversed, constraints, start, sign, problem.dimension_reversed]
  simp only [Checks.map_bind]
  refine bind_congr fun _ => bind_congr fun finished => ?_
  rw [neg_mul]
  cases finished.verdict with
  | none => rfl
  | some verdict =>
      cases verdict with
      | unbounded => rfl
      | optimal | infeasible =>
          dsimp only
          split <;> rfl

/-! ## Methods that compare candidates -/

/-- Reversed values under the opposite sense are compared as they were, so a
search for the first of the best ends with the same entry. -/
theorem foldl_opposite {β : Type} (value : β → Rat) {negated : β → β}
    (value_negated : ∀ entry, value (negated entry) = -value entry) (sense : Sense)
    (first : β) (others : List β) :
    (others.map negated).foldl
        (fun champion entry =>
          if sense.opposite.sign * value champion < sense.opposite.sign * value entry then entry
          else champion)
        (negated first) =
      negated (others.foldl
        (fun champion entry =>
          if sense.sign * value champion < sense.sign * value entry then entry else champion)
        first) := by
  rw [List.foldl_map]
  refine List.foldl_hom negated fun champion entry => ?_
  rw [value_negated, value_negated, Sense.sign_opposite, neg_mul_neg, neg_mul_neg]
  exact (apply_ite negated _ _ _).symm

namespace Binary

def Candidate.negated (candidate : Candidate Rat) : Candidate Rat :=
  { candidate with objective := -candidate.objective }

/-- The answer with every objective negated. -/
def Solution.negated (solution : Solution Rat) : Solution Rat :=
  { solution with
    objectiveValue := solution.objectiveValue.map (- ·)
    candidates := solution.candidates.map Candidate.negated }

theorem candidate?_reversed (problem : Problem Rat) (tolerance : Rat) (number : Nat) :
    candidate? problem.reversed tolerance number =
      (candidate? problem tolerance number).map Candidate.negated := by
  rw [candidate?, candidate?, problem.dimension_reversed, problem.isFeasible_reversed,
    problem.evaluate_reversed]
  split <;> rfl

theorem best?_opposite (sense : Sense) (candidates : List (Candidate Rat)) :
    best? sense.opposite (candidates.map Candidate.negated) =
      (best? sense candidates).map Candidate.negated := by
  cases candidates with
  | nil => rfl
  | cons first others =>
      rw [List.map_cons, best?_cons, best?_cons]
      exact congrArg some
        (foldl_opposite Candidate.objective (fun _ => rfl) sense first others)

end Binary

theorem binary_reversed (options : Binary.Options Rat) (problem : Problem Rat) :
    binary options problem.reversed = (binary options problem).map Binary.Solution.negated := by
  have candidates : ∀ numbers : List Nat,
      numbers.filterMap (Binary.candidate? problem.reversed options.tolerance) =
        (numbers.filterMap (Binary.candidate? problem options.tolerance)).map
          Binary.Candidate.negated := by
    intro numbers
    rw [List.map_filterMap]
    exact List.filterMap_congr fun number _ => Binary.candidate?_reversed problem _ number
  have sense : problem.reversed.sense = problem.sense.opposite := rfl
  have names : problem.reversed.variableNames = problem.variableNames := rfl
  rw [binary, binary, problem.validate_reversed, problem.dimension_reversed, sense, names,
    Checks.map_bind]
  refine bind_congr fun _ => ?_
  split
  · rfl
  · dsimp only
    rw [candidates, Binary.best?_opposite]
    cases Binary.best? (α := Rat) problem.sense _ with
    | none => rfl
    | some champion => rfl

/-! ## The planar method -/

namespace Graphical

def Vertex.negated (vertex : Vertex Rat) : Vertex Rat :=
  { vertex with objective := -vertex.objective }

/-- The answer in the opposite sense with every objective negated. -/
def Solution.reversed (solution : Solution Rat) : Solution Rat :=
  { solution with
    sense := solution.sense.opposite
    vertices := solution.vertices.map Vertex.negated
    optimum := solution.optimum.negated }

/-- Halves are rounded away from zero on both sides of it.  Rounding to even
neighbours would do as well, but rounding up would not. -/
theorem roundRational_neg (x : Rat) : Plane.roundRational (-x) = -Plane.roundRational x := by
  rw [Plane.roundRational, Plane.roundRational]
  rcases lt_trichotomy x 0 with negative | rfl | positive
  · rw [if_neg (neg_pos.mpr negative).not_gt, if_pos negative, Int.cast_neg, neg_neg]
  · decide +kernel
  · rw [if_pos (neg_neg_iff_pos.mpr positive), if_neg positive.not_gt, neg_neg, Int.cast_neg]

theorem roundTo_neg (x : Rat) (places : Int) :
    PlaneScalar.roundTo (-x) places = -PlaneScalar.roundTo x places := by
  have round_neg : ∀ value : Rat, PlaneScalar.round (-value) = -PlaneScalar.round value :=
    roundRational_neg
  rw [PlaneScalar.roundTo, PlaneScalar.roundTo, neg_mul, round_neg, add_zero, add_zero, neg_div]

theorem vertexAt_reversed (options : Options Rat) (problem : Problem Rat) (point : Point Rat) :
    vertexAt options problem.reversed point = (vertexAt options problem point).negated := by
  rw [vertexAt, problem.evaluate_reversed, roundTo_neg]
  rfl

theorem best_opposite (sense : Sense) (first : Vertex Rat) (others : List (Vertex Rat)) :
    best sense.opposite first.negated (others.map Vertex.negated) =
      (best sense first others).negated :=
  foldl_opposite Vertex.objective (fun _ => rfl) sense first others

end Graphical

theorem graphical_reversed (options : Graphical.Options Rat) (problem : Problem Rat) :
    graphical options problem.reversed =
      (graphical options problem).map Graphical.Solution.reversed := by
  have intersections : Graphical.intersection? options problem.reversed =
      Graphical.intersection? options problem := rfl
  have points : Graphical.feasiblePoints options problem.reversed =
      Graphical.feasiblePoints options problem := rfl
  have lines : Graphical.boundaryLines problem.reversed = Graphical.boundaryLines problem := rfl
  have sense : problem.reversed.sense = problem.sense.opposite := rfl
  have vertices : Graphical.vertexAt options problem.reversed =
      Graphical.Vertex.negated ∘ Graphical.vertexAt options problem := by
    funext point
    exact Graphical.vertexAt_reversed options problem point
  rw [graphical, graphical, problem.dimension_reversed, problem.validate_reversed, intersections,
    points, lines, sense, vertices]
  split
  · rfl
  · rw [Checks.map_bind]
    refine bind_congr fun _ => ?_
    dsimp only
    rw [← List.map_map]
    cases (Graphical.feasiblePoints options problem _).map
        (Graphical.vertexAt options problem) with
    | nil => rfl
    | cons first others =>
        rw [List.map_cons]
        dsimp only
        rw [Graphical.best_opposite]
        rfl

/-! ## All methods -/

/-- That the methods give two problems the same answers up to the sign of the
objective: the same error, or else the same runs, candidates, places and
optima. -/
structure AnswersOppositely (problem other : Problem Rat) : Prop where
  simplex_eq : ∀ limits, simplex limits other = (simplex limits problem).map Solution.negated
  bigM_eq : ∀ options, bigM options other = (bigM options problem).map Solution.negated
  binary_eq : ∀ options,
    binary options other = (binary options problem).map Binary.Solution.negated
  graphical_eq : ∀ options,
    graphical options other = (graphical options problem).map Graphical.Solution.reversed

/-- To minimise is to maximise the negated objective, for every method.  The
tie-breaking is the same in both senses, so even the runs are, and only what is
read off at the end has the other sign. -/
theorem reversed_answersOppositely (problem : Problem Rat) :
    AnswersOppositely problem problem.reversed where
  simplex_eq limits := simplex_reversed limits problem
  bigM_eq options := bigM_reversed options problem
  binary_eq options := binary_reversed options problem
  graphical_eq options := graphical_reversed options problem

end Linear
end Optimum

import Mathlib.Data.List.Forall2
import Optimum.Linear.Binary
import Optimum.Linear.Dual
import Optimum.Linear.Graphical
import Optimum.Plane.Rational
import Optimum.Proofs.Linear.DualPair
import Optimum.Proofs.Linear.PenaltyReading

namespace Optimum
namespace Linear

open Scalar

/-!
# Negated constraints

A constraint and its negated form say the same, and no method tells them
apart over exact numbers.  Each of them reads a constraint through something
that both forms agree in: whether a point satisfies it, its fault, the bound
that agrees with the sense, and the form with a positive right-hand side.  So
it is enough to compare these one by one.

The planar method reads pairs of constraints, as the lines they bound.  There
the signs of both lines cancel in the quotients that are the crossing.
-/

/-! ## Two forms of a constraint -/

namespace Constraint

variable {constraint : Constraint Rat}

theorem negated_negated (constraint : Constraint Rat) : constraint.negated.negated = constraint := by
  refine Constraint.ext rfl ?_ ?_ (neg_neg constraint.rhs)
  · rw [negated, negated, List.map_map]
    exact (List.map_congr_left fun coefficient _ => neg_neg coefficient).trans (List.map_id _)
  · rw [negated, negated]
    cases constraint.relation with
    | le | eq | ge => rfl

theorem isSatisfied_negated (constraint : Constraint Rat) (point : List Rat) (tolerance : Rat) :
    constraint.negated.isSatisfied point tolerance = constraint.isSatisfied point tolerance := by
  have relation_eq : constraint.negated.relation = constraint.relation.flipped := rfl
  have rhs_eq : constraint.negated.rhs = -constraint.rhs := rfl
  rw [isSatisfied, isSatisfied, lhs_negated, relation_eq, rhs_eq]
  cases constraint.relation with
  | le =>
      refine decide_eq_decide.mpr ?_
      rw [← neg_add', neg_le_neg_iff]
  | eq =>
      refine decide_eq_decide.mpr ?_
      rw [magnitude_eq_abs, magnitude_eq_abs, neg_sub_neg, abs_sub_comm]
  | ge =>
      refine decide_eq_decide.mpr ?_
      rw [neg_add_eq_sub, ← neg_sub, neg_le_neg_iff]

theorem checkConstraint_negated (dimension : Nat) (constraint : Constraint Rat) :
    Problem.checkConstraint dimension constraint.negated =
      Problem.checkConstraint dimension constraint := by
  have finite : ∀ values : List Rat, values.all isFinite = true :=
    fun values => List.all_eq_true.mpr fun value _ => isFinite_rat value
  have length_eq : constraint.negated.coefficients.length = constraint.coefficients.length :=
    List.length_map _
  have name_eq : constraint.negated.name = constraint.name := rfl
  rw [Problem.checkConstraint, Problem.checkConstraint, length_eq, name_eq, finite, finite,
    isFinite_rat, isFinite_rat]

theorem symmetricConstraint_negated (sense : Sense) (constraint : Constraint Rat) :
    Problem.symmetricConstraint sense constraint.negated =
      Problem.symmetricConstraint sense constraint := by
  have name_eq : constraint.negated.name = constraint.name := rfl
  have relation_eq : constraint.negated.relation = constraint.relation.flipped := rfl
  rw [Problem.symmetricConstraint, Problem.symmetricConstraint, negated_negated, name_eq,
    relation_eq]
  cases constraint.relation <;> cases sense <;> rfl

theorem normalized_negated (present : constraint.rhs ≠ 0) :
    BigM.normalized constraint.negated = BigM.normalized constraint := by
  have rhs_eq : constraint.negated.rhs = -constraint.rhs := rfl
  rw [BigM.normalized, BigM.normalized, rhs_eq]
  rcases lt_or_gt_of_ne present with negative | positive
  · rw [if_pos negative, if_neg (neg_pos.mpr negative).not_gt]
  · rw [if_neg positive.not_gt, if_pos (neg_neg_iff_pos.mpr positive), negated_negated]

end Constraint

/-! ## Problems with some constraints negated -/

namespace Problem

/-- The problem with the constraints at the chosen positions negated. -/
def negatedAt (problem : Problem Rat) (chosen : Nat → Bool) : Problem Rat :=
  { problem with
    constraints := problem.constraints.mapIdx fun index constraint =>
      if chosen index then constraint.negated else constraint }

variable (problem : Problem Rat) (chosen : Nat → Bool)

/-- What the two forms of each chosen constraint agree in stays as it was.  A
method that reads its constraints only through such readings answers alike. -/
theorem map_negatedAt {β : Type} (reading : Constraint Rat → β)
    (agrees : ∀ (index : Nat) (constraint : Constraint Rat),
      problem.constraints[index]? = some constraint → chosen index = true →
        reading constraint.negated = reading constraint) :
    (problem.negatedAt chosen).constraints.map reading = problem.constraints.map reading := by
  refine List.ext_getElem? fun index => ?_
  rw [negatedAt, List.getElem?_map, List.getElem?_map, List.getElem?_mapIdx]
  cases found : problem.constraints[index]? with
  | none => rfl
  | some constraint =>
      rw [Option.map_some, Option.map_some, Option.map_some]
      split
      · next negated => rw [agrees index constraint found negated]
      · rfl

theorem mapIdx_zip_negatedAt {β γ : Type} (others : List β)
    {reading : Nat → Constraint Rat × β → γ}
    (agrees : ∀ (index : Nat) (constraint : Constraint Rat) (other : β),
      reading index (constraint.negated, other) = reading index (constraint, other)) :
    ((problem.negatedAt chosen).constraints.zip others).mapIdx reading =
      (problem.constraints.zip others).mapIdx reading := by
  refine List.ext_getElem ?_ fun index _ _ => ?_
  · simp only [negatedAt, List.length_mapIdx, List.length_zip]
  · simp only [negatedAt, List.getElem_mapIdx, List.getElem_zip]
    split
    · exact agrees index _ _
    · rfl

/-- Position by position the constraints are the same or negated.  What holds of
each such pair need be shown for these two cases only. -/
theorem forall₂_negatedAt :
    List.Forall₂ (fun constraint other => other = constraint ∨ other = constraint.negated)
      problem.constraints (problem.negatedAt chosen).constraints := by
  refine List.forall₂_iff_get.mpr ⟨List.length_mapIdx.symm, fun index _ _ => ?_⟩
  simp only [negatedAt, List.get_eq_getElem, List.getElem_mapIdx]
  split
  · exact .inr rfl
  · exact .inl rfl

theorem isFeasible_negatedAt (point : List Rat) (tolerance : Rat) :
    (problem.negatedAt chosen).isFeasible point tolerance =
      problem.isFeasible point tolerance := by
  have satisfied := problem.map_negatedAt chosen (·.isSatisfied point tolerance)
    fun _ constraint _ _ => constraint.isSatisfied_negated point tolerance
  have all := congrArg (List.all · id) satisfied
  simp only [List.all_map, Function.id_comp] at all
  exact congrArg _ all

theorem validate_negatedAt : (problem.negatedAt chosen).validate = problem.validate := by
  have checked := problem.map_negatedAt chosen (checkConstraint problem.dimension)
    fun _ constraint _ _ => constraint.checkConstraint_negated problem.dimension
  have same := congrArg (List.forM · id) checked
  simp only [List.forM_eq_forM, List.forM_map, id] at same
  rw [validate, validate, List.forM_eq_forM, ← same]
  rfl

theorem dual_negatedAt : (problem.negatedAt chosen).dual = problem.dual := by
  have bounds := problem.map_negatedAt chosen (symmetricConstraint problem.sense)
    fun _ constraint _ _ => constraint.symmetricConstraint_negated problem.sense
  have same := congrArg (List.mapM id) bounds
  simp only [List.mapM_map, Function.id_comp] at same
  rw [dual, dual, validate_negatedAt, ← same]
  rfl

end Problem

/-! ## Methods that read constraints one by one -/

variable (problem : Problem Rat) (chosen : Nat → Bool)

theorem binary_negatedAt (options : Binary.Options Rat) :
    binary options (problem.negatedAt chosen) = binary options problem := by
  have candidates : Binary.candidate? (problem.negatedAt chosen) options.tolerance =
      Binary.candidate? problem options.tolerance := by
    funext number
    rw [Binary.candidate?, Binary.candidate?, problem.isFeasible_negatedAt chosen]
    rfl
  rw [binary, binary, problem.validate_negatedAt chosen, candidates]
  rfl

theorem dualSimplex_negatedAt (limits : Tableau.Limits Rat) :
    dualSimplex limits (problem.negatedAt chosen) = dualSimplex limits problem := by
  rw [dualSimplex, dualSimplex, problem.dual_negatedAt chosen]
  refine bind_congr fun dual => bind_congr fun finished => ?_
  dsimp only
  congr 2
  refine problem.mapIdx_zip_negatedAt chosen _ fun _ _ _ => ?_
  rfl

theorem bigM_negatedAt (options : BigM.Options Rat)
    (present : ∀ (index : Nat) (constraint : Constraint Rat),
      problem.constraints[index]? = some constraint → chosen index = true → constraint.rhs ≠ 0) :
    bigM options (problem.negatedAt chosen) = bigM options problem := by
  have normalized := problem.map_negatedAt chosen BigM.normalized
    fun index constraint found negated =>
      Constraint.normalized_negated (present index constraint found negated)
  rw [bigM, bigM, problem.validate_negatedAt chosen, normalized]
  rfl

/-! ## The planar method -/

namespace Graphical

/-- A line with its equation multiplied by a factor. -/
def Line.scaled (line : Line Rat) (factor : Rat) : Line Rat :=
  ⟨line.name, factor * line.a, factor * line.b, factor * line.value⟩

/-- Whether two lines are the same up to the sign of their equations. -/
def Line.Alike (line other : Line Rat) : Prop :=
  ∃ sign : Rat, |sign| = 1 ∧ other = line.scaled sign

theorem Line.alike_refl (line : Line Rat) : line.Alike line := by
  refine ⟨1, abs_one, ?_⟩
  rw [Line.scaled, one_mul, one_mul, one_mul]

theorem determinant_scaled (first second : Line Rat) (factor factorSecond : Rat) :
    determinant (first.scaled factor) (second.scaled factorSecond) =
      factor * factorSecond * determinant first second := by
  simp only [determinant, Line.scaled]
  ring

theorem crossing_scaled (first second : Line Rat) {factor factorSecond : Rat} (present : factor ≠ 0)
    (presentSecond : factorSecond ≠ 0) :
    crossing (first.scaled factor) (second.scaled factorSecond) = crossing first second := by
  have product := mul_ne_zero present presentSecond
  have x1_eq : factor * first.value * (factorSecond * second.b) -
      factorSecond * second.value * (factor * first.b) =
        factor * factorSecond * (first.value * second.b - second.value * first.b) := by ring
  have x2_eq : factor * first.a * (factorSecond * second.value) -
      factorSecond * second.a * (factor * first.value) =
        factor * factorSecond * (first.a * second.value - second.a * first.value) := by ring
  rw [crossing, crossing, determinant_scaled]
  simp only [Line.scaled]
  rw [x1_eq, x2_eq, mul_div_mul_left _ _ product, mul_div_mul_left _ _ product]

variable (problem : Problem Rat) (chosen : Nat → Bool) (options : Options Rat)

theorem isFeasible_negatedAt :
    isFeasible (problem.negatedAt chosen) options.tolerance =
      isFeasible problem options.tolerance :=
  funext fun point => problem.isFeasible_negatedAt chosen [point.x1, point.x2] options.tolerance

theorem feasiblePoints_negatedAt :
    feasiblePoints options (problem.negatedAt chosen) = feasiblePoints options problem := by
  funext intersections
  rw [feasiblePoints, feasiblePoints, isFeasible_negatedAt]

theorem intersection?_eq_of_alike {lines others : Line Rat × Line Rat}
    (alike : lines.1.Alike others.1 ∧ lines.2.Alike others.2) :
    intersection? options (problem.negatedAt chosen) others =
      intersection? options problem lines := by
  rcases lines with ⟨first, second⟩
  rcases others with ⟨other, otherSecond⟩
  rcases alike with ⟨⟨sign, unit, rfl⟩, signSecond, unitSecond, rfl⟩
  have present : ∀ {factor : Rat}, |factor| = 1 → factor ≠ 0 := by
    rintro factor unit rfl
    exact zero_ne_one (abs_zero.symm.trans unit)
  have size : magnitude (determinant (first.scaled sign) (second.scaled signSecond)) =
      magnitude (determinant first second) := by
    rw [determinant_scaled, magnitude_eq_abs, magnitude_eq_abs, abs_mul, abs_mul, unit, unitSecond,
      one_mul, one_mul]
  have place := crossing_scaled first second (present unit) (present unitSecond)
  rw [intersection?, intersection?, size, place, isFeasible_negatedAt]
  rfl

theorem forall₂_pairs {β : Type} {relation : β → β → Prop} {values others : List β}
    (related : List.Forall₂ relation values others) :
    List.Forall₂ (fun pair other => relation pair.1 other.1 ∧ relation pair.2 other.2)
      (pairs values) (pairs others) := by
  induction related with
  | nil => exact .nil
  | cons first rest inductionHypothesis =>
      refine List.rel_append ?_ inductionHypothesis
      rw [List.forall₂_map_left_iff, List.forall₂_map_right_iff]
      exact rest.imp fun _ _ second => ⟨first, second⟩

theorem alike_boundaryLines :
    List.Forall₂ Line.Alike (boundaryLines problem) (boundaryLines (problem.negatedAt chosen)) := by
  refine List.rel_append ?_ (List.forall₂_same.mpr fun line _ => line.alike_refl)
  rw [List.forall₂_map_left_iff, List.forall₂_map_right_iff]
  refine (problem.forall₂_negatedAt chosen).imp ?_
  rintro constraint other (rfl | rfl)
  · exact Line.alike_refl _
  · refine ⟨-1, by rw [abs_neg, abs_one], ?_⟩
    simp only [Line.scaled, Constraint.negated, getD_map_neg, neg_one_mul]

theorem intersections_negatedAt :
    (pairs (boundaryLines (problem.negatedAt chosen))).filterMap
        (intersection? options (problem.negatedAt chosen)) =
      (pairs (boundaryLines problem)).filterMap (intersection? options problem) := by
  have related := forall₂_pairs (alike_boundaryLines problem chosen)
  generalize pairs (boundaryLines (problem.negatedAt chosen)) = others at related
  generalize pairs (boundaryLines problem) = lines at related
  induction related with
  | nil => rfl
  | cons alike _ inductionHypothesis =>
      rw [List.filterMap_cons, List.filterMap_cons,
        intersection?_eq_of_alike problem chosen options alike, inductionHypothesis]

end Graphical

/-- The planar method finds the same, along lines that may have changed sign.
Crossings and places do not depend on the sign of an equation. -/
theorem graphical_negatedAt (options : Graphical.Options Rat) :
    graphical options (problem.negatedAt chosen) =
      (graphical options problem).map fun solution =>
        { solution with lines := Graphical.boundaryLines (problem.negatedAt chosen) } := by
  have dimension_eq : (problem.negatedAt chosen).dimension = problem.dimension := rfl
  have vertexAt_eq : Graphical.vertexAt options (problem.negatedAt chosen) =
      Graphical.vertexAt options problem := rfl
  rw [graphical, graphical, problem.validate_negatedAt chosen, dimension_eq]
  split
  · rfl
  · cases problem.validate with
    | error fault => rfl
    | ok accepted =>
        simp only [bind, Except.bind, Graphical.intersections_negatedAt,
          Graphical.feasiblePoints_negatedAt, vertexAt_eq]
        cases (Graphical.feasiblePoints options problem _).map
            (Graphical.vertexAt options problem) with
        | nil => rfl
        | cons first others => rfl

/-! ## All methods -/

/-- That the methods answer two problems alike.  The planar method also shows
the lines as they were given. -/
structure AnswersAlike (problem other : Problem Rat) : Prop where
  isFeasible_eq : ∀ point tolerance,
    other.isFeasible point tolerance = problem.isFeasible point tolerance
  binary_eq : ∀ options, binary options other = binary options problem
  dual_eq : other.dual = problem.dual
  dualSimplex_eq : ∀ limits, dualSimplex limits other = dualSimplex limits problem
  graphical_eq : ∀ options, graphical options other =
    (graphical options problem).map fun solution =>
      { solution with lines := Graphical.boundaryLines other }

/-- Negating constraints changes no answer.  The method of penalties needs
right-hand sides other than zero: it leaves a constraint with zero there as it
is given, and so adds another kind of column for each of its two forms. -/
theorem negatedAt_answersAlike (problem : Problem Rat) (chosen : Nat → Bool) :
    AnswersAlike problem (problem.negatedAt chosen) ∧
      ((∀ (index : Nat) (constraint : Constraint Rat),
          problem.constraints[index]? = some constraint → chosen index = true →
            constraint.rhs ≠ 0) →
        ∀ options, bigM options (problem.negatedAt chosen) = bigM options problem) where
  left := {
    isFeasible_eq := problem.isFeasible_negatedAt chosen
    binary_eq := binary_negatedAt problem chosen
    dual_eq := problem.dual_negatedAt chosen
    dualSimplex_eq := dualSimplex_negatedAt problem chosen
    graphical_eq := graphical_negatedAt problem chosen }
  right := fun present options => bigM_negatedAt problem chosen options present

theorem negatedAt_answersAlike_rations :
    (rations.negatedAt (· = 0)).constraints =
        [⟨"cap", [-1, -1], .ge, -4⟩, ⟨"floor", [1, 0], .ge, 1⟩] ∧
      (∀ (index : Nat) (constraint : Constraint Rat),
        rations.constraints[index]? = some constraint → decide (index = 0) = true →
          constraint.rhs ≠ 0) ∧
      AnswersAlike rations (rations.negatedAt (· = 0)) ∧
      bigM .standard (rations.negatedAt (· = 0)) = bigM .standard rations := by
  have present : ∀ (index : Nat) (constraint : Constraint Rat),
      rations.constraints[index]? = some constraint → decide (index = 0) = true →
        constraint.rhs ≠ 0 := by
    intro index constraint found chosen
    obtain rfl := of_decide_eq_true chosen
    cases found
    decide +kernel
  have alike := negatedAt_answersAlike rations (· = 0)
  exact ⟨by decide +kernel, present, alike.1, alike.2 present .standard⟩

end Linear
end Optimum

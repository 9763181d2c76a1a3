import Optimum.Proofs.Linear.Feasibility
import Optimum.Proofs.Linear.SlackBasis
import Optimum.Linear.Dual

namespace Optimum
namespace Linear

open Scalar Tableau

/-!
# Problems as systems of bounds

A problem without equations is a system of bounds: bounds from below are
negated, and an objective to be minimised is negated as well.  Feasible points,
values and rays go over, and the tableau that the dual method starts from is
the slack tableau of this system.
-/

/-- The factor that makes a relation a bound from above. -/
def Relation.sign (relation : Relation) : Rat :=
  if relation = .ge then -1 else 1

theorem Relation.holds_iff {relation : Relation} (bound : relation ≠ .eq) {left right : Rat} :
    relation.Holds left right ↔ relation.sign * left ≤ relation.sign * right := by
  cases relation with
  | le => simp [Holds, sign]
  | eq => exact absurd rfl bound
  | ge => simp [Holds, sign]

namespace Problem

variable {problem : Problem Rat}

/-- A problem whose equations are read as bounds from above.  A system knows
neither senses nor relations, so that what is shown of it holds for both senses
at once. -/
def system (problem : Problem Rat) : System where
  dimension := problem.dimension
  size := problem.constraints.length
  matrix row column :=
    match problem.constraints[row]? with
    | some constraint => constraint.relation.sign * constraint.coefficients.getD column 0
    | none => 0
  bound row :=
    match problem.constraints[row]? with
    | some constraint => constraint.relation.sign * constraint.rhs
    | none => 0
  gain column := problem.sense.sign * problem.objective.getD column 0

theorem system_matrix {row : Nat} (inside : row < problem.constraints.length) (column : Nat) :
    problem.system.matrix row column =
      problem.constraints[row].relation.sign *
        problem.constraints[row].coefficients.getD column 0 := by
  simp only [system, List.getElem?_eq_getElem inside]

theorem system_bound {row : Nat} (inside : row < problem.constraints.length) :
    problem.system.bound row =
      problem.constraints[row].relation.sign * problem.constraints[row].rhs := by
  simp only [system, List.getElem?_eq_getElem inside]

/-! ## Points -/

theorem system_value (problem : Problem Rat) (point : List Rat) :
    problem.system.value (fun j => point.getD j 0) = problem.sense.sign * problem.evaluate point := by
  rw [evaluate, dot_eq_sum_range point (Nat.le_refl _), Finset.mul_sum]
  exact Finset.sum_congr rfl fun j _ => mul_assoc _ _ _

theorem evaluate_eq (problem : Problem Rat) (point : List Rat) :
    problem.evaluate point = problem.sense.sign * problem.system.value fun j => point.getD j 0 := by
  rw [system_value, ← mul_assoc, problem.sense.sign_mul_sign, one_mul]

theorem system_leftSide (shaped : problem.WellShaped) {row : Nat}
    (inside : row < problem.constraints.length) (point : List Rat) :
    problem.system.leftSide row (fun j => point.getD j 0) =
      problem.constraints[row].relation.sign * problem.constraints[row].lhs point := by
  have covered := (shaped.length_coefficients _ (List.getElem_mem inside)).le
  rw [Constraint.lhs, dot_eq_sum_range point covered, Finset.mul_sum, System.leftSide]
  refine Finset.sum_congr rfl fun j _ => ?_
  rw [system_matrix inside, mul_assoc]

/-- A point at which all constraints hold is one of the system.  Entries that a
point lacks count as zero, and those beyond the dimension do not count. -/
theorem system_feasible (shaped : problem.WellShaped)
    (bounds : ∀ constraint ∈ problem.constraints, constraint.relation ≠ .eq) {point : List Rat}
    (nonneg : ∀ value ∈ point, 0 ≤ value)
    (holds : ∀ constraint ∈ problem.constraints, constraint.Holds point) :
    problem.system.Feasible fun j => point.getD j 0 := by
  constructor
  · intro j _
    rw [List.getD_eq_getElem?_getD]
    cases found : point[j]? with
    | none => exact le_refl 0
    | some value => exact nonneg value (List.mem_of_getElem? found)
  · intro row inside
    have member := List.getElem_mem inside
    rw [system_leftSide shaped inside, system_bound inside]
    exact (Relation.holds_iff (bounds _ member)).mp (holds _ member)

/-- Without equations the feasible points are those of the system. -/
theorem feasible_iff (shaped : problem.WellShaped)
    (bounds : ∀ constraint ∈ problem.constraints, constraint.relation ≠ .eq) {point : List Rat} :
    problem.Feasible point ↔
      point.length = problem.dimension ∧ problem.system.Feasible fun j => point.getD j 0 := by
  constructor
  · intro feasible
    exact ⟨feasible.length_eq, system_feasible shaped bounds feasible.nonneg feasible.holds⟩
  · rintro ⟨length_eq, feasible⟩
    refine ⟨length_eq, fun value member => ?_, fun constraint member => ?_⟩
    · rcases List.mem_iff_getElem.mp member with ⟨j, inside, rfl⟩
      have nonneg := feasible.nonneg j (lt_of_lt_of_eq inside length_eq)
      rwa [List.getD_eq_getElem _ _ inside] at nonneg
    · rcases List.mem_iff_getElem.mp member with ⟨row, inside, rfl⟩
      have bounded := feasible.bounded row inside
      rw [system_leftSide shaped inside, system_bound inside] at bounded
      exact (Relation.holds_iff (bounds _ member)).mpr bounded

/-- The first entries of a point as a list. -/
def tabulate (problem : Problem Rat) (point : Nat → Rat) : List Rat :=
  (List.range problem.dimension).map point

theorem length_tabulate (problem : Problem Rat) (point : Nat → Rat) :
    (problem.tabulate point).length = problem.dimension := by
  rw [tabulate, List.length_map, List.length_range]

theorem getD_tabulate (problem : Problem Rat) (point : Nat → Rat) {j : Nat}
    (inside : j < problem.dimension) : (problem.tabulate point).getD j 0 = point j := by
  rw [tabulate, List.getD_eq_getElem?_getD, List.getElem?_map, List.getElem?_range inside]
  rfl

theorem feasible_tabulate (shaped : problem.WellShaped)
    (bounds : ∀ constraint ∈ problem.constraints, constraint.relation ≠ .eq)
    {point : Nat → Rat} (feasible : problem.system.Feasible point) :
    problem.Feasible (problem.tabulate point) := by
  refine (feasible_iff shaped bounds).mpr ⟨problem.length_tabulate point, ?_⟩
  exact feasible.congr fun j inside => (problem.getD_tabulate point inside).symm

theorem evaluate_tabulate (problem : Problem Rat) (point : Nat → Rat) :
    problem.evaluate (problem.tabulate point) = problem.sense.sign * problem.system.value point := by
  rw [evaluate_eq]
  congr 1
  exact System.value_congr fun j inside => problem.getD_tabulate point inside

/-- A ray of the system is one of the problem, from any feasible point.  It
keeps all constraints, whatever their relations are. -/
theorem improvingRay_tabulate (shaped : problem.WellShaped)
    (bounds : ∀ constraint ∈ problem.constraints, constraint.relation ≠ .eq)
    {direction : Nat → Rat} (ray : problem.system.Ray direction) {point : List Rat}
    (feasible : problem.Feasible point) :
    problem.ImprovingRay point (problem.tabulate direction) := by
  have same : (problem.tabulate direction).length = point.length := by
    rw [length_tabulate, feasible.length_eq]
  have agree : ∀ amount, ∀ j < problem.system.dimension,
      System.along (fun j => point.getD j 0) direction amount j =
        (along point (problem.tabulate direction) amount).getD j 0 := by
    intro amount j inside
    rw [getD_along amount same, problem.getD_tabulate direction inside, System.along]
  have start := ((feasible_iff shaped bounds).mp feasible).2
  refine ⟨problem.length_tabulate direction, fun value member => ?_, fun amount nonneg => ?_,
    fun limit => ?_⟩
  · rcases List.mem_map.mp member with ⟨j, inside, rfl⟩
    exact ray.nonneg j (List.mem_range.mp inside)
  · refine (feasible_iff shaped bounds).mpr ⟨?_, ?_⟩
    · rw [length_along amount same, feasible.length_eq]
    · exact (ray.feasible_along start nonneg).congr (agree amount)
  · rcases ray.exists_value_gt (fun j => point.getD j 0) (problem.sense.sign * limit) with
      ⟨amount, nonneg, passed⟩
    refine ⟨amount, nonneg, Sense.better_iff.mpr ?_⟩
    rw [← system_value, ← System.value_congr (agree amount)]
    exact passed

/-- A point whose value is the bound that some prices give is best.  This is the
certificate of an optimum: it needs no comparison with other points. -/
theorem isOptimal_tabulate (shaped : problem.WellShaped)
    (bounds : ∀ constraint ∈ problem.constraints, constraint.relation ≠ .eq)
    {point prices : Nat → Rat} (feasible : problem.system.Feasible point)
    (affordable : problem.system.dual.Feasible prices)
    (cancel : problem.system.value point + problem.system.dual.value prices = 0) :
    problem.IsOptimal (problem.tabulate point) := by
  refine ⟨feasible_tabulate shaped bounds feasible, fun other otherFeasible better => ?_⟩
  have bound := System.value_le_of_cancel affordable cancel
    ((feasible_iff shaped bounds).mp otherFeasible).2
  rw [Sense.better_iff, evaluate_tabulate, ← mul_assoc, problem.sense.sign_mul_sign, one_mul,
    ← system_value] at better
  exact absurd better (not_lt.mpr bound)

/-! ## Reading a tableau of the problem -/

section Readings

variable {start last : Tableau Rat} (slack : IsSlackTableau problem.system start)
  (reached : Reached start last)

include slack reached

theorem evaluate_valueOf :
    problem.evaluate (problem.tabulate last.valueOf) =
      problem.sense.sign * last.objectiveValue := by
  rw [evaluate_tabulate, value_valueOf slack reached]

variable (shaped : problem.WellShaped)
  (bounds : ∀ constraint ∈ problem.constraints, constraint.relation ≠ .eq)
  (kept : last.Feasible)

include shaped bounds kept

theorem feasible_tabulate_valueOf : problem.Feasible (problem.tabulate last.valueOf) :=
  feasible_tabulate shaped bounds (feasible_valueOf slack reached kept)

/-- When no column improves, the basic solution is best.  The objective row
holds the prices that show it. -/
theorem isOptimal_valueOf (satisfied : ∀ j < last.width, 0 ≤ last.entry last.height j) :
    problem.IsOptimal (problem.tabulate last.valueOf) := by
  apply isOptimal_tabulate shaped bounds (feasible_valueOf slack reached kept)
    (feasible_dual_of_satisfied slack reached satisfied)
  rw [value_valueOf slack reached, (objective_dual slack reached).2, add_neg_cancel]

/-- When no row limits an improving column, the problem is unbounded.  The ray
raises that column, and the basic ones give way. -/
theorem exists_improvingRay {column : Nat} (inside : column < last.width)
    (improves : last.entry last.height column < 0)
    (blocked : ∀ row < last.height, last.entry row column ≤ 0) :
    ∃ point direction, problem.Feasible point ∧ problem.ImprovingRay point direction := by
  have feasible := feasible_tabulate_valueOf slack reached shaped bounds kept
  have ray := ray_edge slack reached inside improves blocked
  exact ⟨_, _, feasible, improvingRay_tabulate shaped bounds ray feasible⟩

end Readings

end Problem
end Linear
end Optimum

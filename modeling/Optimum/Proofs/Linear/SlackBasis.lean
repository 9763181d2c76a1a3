import Optimum.Proofs.Linear.System
import Optimum.Proofs.Tableau.Run

namespace Optimum
namespace Linear

open Tableau

/-!
# Reading a tableau that started from the slack basis

A system of bounds starts from the tableau with one slack column for each row.
The slack columns hold the unit matrix at the start, so in every tableau of a
run they tell by which multiples of the first rows a row came about.  Hence
the right-hand sides give a point of the system, the objective row gives
prices, and a row that cannot be repaired gives a ray of the dual.

The four readings at the end hold for any tableau that a run has reached,
whatever pivots led to it.
-/

variable {system : System} {start last : Tableau Rat} {point : Nat → Rat}

/-- The tableau of a system with the slack columns, which follow the unknowns,
as its basis.  Both the simplex method and the dual method start from such a
tableau, for one of the two problems. -/
structure IsSlackTableau (system : System) (start : Tableau Rat) : Prop where
  shaped : start.Shaped
  height_eq : start.height = system.size
  width_eq : start.width = system.dimension + system.size
  basic_eq : ∀ row < system.size, start.basic row = system.dimension + row
  entry_unknown : ∀ row < system.size, ∀ j < system.dimension,
    start.entry row j = system.matrix row j
  entry_slack : ∀ k ≤ system.size, ∀ row < system.size,
    start.entry k (system.dimension + row) = if k = row then 1 else 0
  rhs_eq : ∀ row < system.size, start.rhs row = system.bound row
  entry_objective : ∀ j < system.dimension, start.entry system.size j = -system.gain j
  rhs_objective : start.rhs system.size = 0

namespace IsSlackTableau

theorem hasBasis (slack : IsSlackTableau system start) : start.HasBasis where
  toShaped := slack.shaped
  basic_lt := by
    intro row inside
    rw [slack.height_eq] at inside
    rw [slack.basic_eq row inside, slack.width_eq]
    exact Nat.add_lt_add_left inside _
  entry_basic := by
    intro row inside k bounded
    rw [slack.height_eq] at inside bounded
    rw [slack.basic_eq row inside, slack.entry_slack k bounded row inside]

theorem feasible (slack : IsSlackTableau system start)
    (nonneg : ∀ row < system.size, 0 ≤ system.bound row) : start.Feasible := by
  intro row inside
  rw [slack.height_eq] at inside
  rw [slack.rhs_eq row inside]
  exact nonneg row inside

/-! ## Rows at a point -/

theorem leftSide_eq (slack : IsSlackTableau system start) {row : Nat}
    (inside : row < system.size) (point : Nat → Rat) :
    start.leftSide row point = system.leftSide row point + point (system.dimension + row) := by
  rw [Tableau.leftSide, slack.width_eq, Finset.sum_range_add]
  congr 1
  · refine Finset.sum_congr rfl fun j member => ?_
    rw [slack.entry_unknown row inside j (Finset.mem_range.mp member)]
  · rw [Finset.sum_eq_single_of_mem row (Finset.mem_range.mpr inside),
      slack.entry_slack row inside.le row inside, if_pos rfl, one_mul]
    intro other member different
    rw [slack.entry_slack row inside.le other (Finset.mem_range.mp member),
      if_neg different.symm, zero_mul]

theorem leftSide_objective (slack : IsSlackTableau system start) (point : Nat → Rat) :
    start.leftSide start.height point = -system.value point := by
  rw [Tableau.leftSide, slack.width_eq, slack.height_eq, Finset.sum_range_add, System.value,
    ← Finset.sum_neg_distrib]
  have empty : ∑ row ∈ Finset.range system.size,
      start.entry system.size (system.dimension + row) * point (system.dimension + row) = 0 := by
    refine Finset.sum_eq_zero fun row member => ?_
    have inside := Finset.mem_range.mp member
    rw [slack.entry_slack system.size (Nat.le_refl _) row inside, if_neg inside.ne', zero_mul]
  rw [empty, add_zero]
  refine Finset.sum_congr rfl fun j member => ?_
  rw [slack.entry_objective j (Finset.mem_range.mp member), neg_mul]

theorem valueAt_eq (slack : IsSlackTableau system start) (point : Nat → Rat) :
    start.valueAt point = system.value point := by
  rw [valueAt, slack.leftSide_objective, slack.height_eq, slack.rhs_objective, sub_neg_eq_add,
    zero_add]

/-- A solution of the rows without negative values is a feasible point.  The
slacks are what the rows fall short of their bounds. -/
theorem feasible_of_solves (slack : IsSlackTableau system start) (solves : start.Solves point)
    (nonneg : ∀ j, 0 ≤ point j) : system.Feasible point where
  nonneg := fun j _ => nonneg j
  bounded := by
    intro row inside
    have equation := solves row (slack.height_eq.symm ▸ inside)
    rw [slack.leftSide_eq inside, slack.rhs_eq row inside] at equation
    rw [← equation]
    exact le_add_of_nonneg_right (nonneg _)

/-! ## Combinations of the first rows -/

variable {combination : Nat → Rat}

/-- The entries of a combination under the slack columns are its weights.  This
is why the prices can be read there. -/
theorem eq_sum_of_mem_rowSpace (slack : IsSlackTableau system start)
    (member : combination ∈ start.rowSpace) (column : Nat) :
    combination column = ∑ row ∈ Finset.range system.size,
      combination (system.dimension + row) * start.entry row column := by
  rcases mem_rowSpace_iff.mp member with ⟨weights, equal⟩
  rw [slack.height_eq] at equal
  rw [equal column]
  refine Finset.sum_congr rfl fun row member => ?_
  have inside := Finset.mem_range.mp member
  congr 1
  rw [equal, Finset.sum_eq_single_of_mem row member, slack.entry_slack row inside.le row inside,
    if_pos rfl, mul_one]
  intro other otherMember different
  rw [slack.entry_slack other (Finset.mem_range.mp otherMember).le row inside, if_neg different,
    mul_zero]

/-- The dual prices its rows by a combination as the combination has them. -/
theorem leftSide_dual (slack : IsSlackTableau system start)
    (member : combination ∈ start.rowSpace) {j : Nat} (inside : j < system.dimension) :
    system.dual.leftSide j (fun row => combination (system.dimension + row)) =
      -combination j := by
  rw [slack.eq_sum_of_mem_rowSpace member j, System.leftSide, ← Finset.sum_neg_distrib]
  refine Finset.sum_congr rfl fun row rowMember => ?_
  rw [slack.entry_unknown row (Finset.mem_range.mp rowMember) j inside]
  simp only [System.dual]
  ring

theorem value_dual (slack : IsSlackTableau system start)
    (member : combination ∈ start.rowSpace) :
    system.dual.value (fun row => combination (system.dimension + row)) =
      -combination start.width := by
  rw [slack.eq_sum_of_mem_rowSpace member start.width, System.value, ← Finset.sum_neg_distrib]
  refine Finset.sum_congr rfl fun row rowMember => ?_
  have bound := slack.rhs_eq row (Finset.mem_range.mp rowMember)
  rw [rhs] at bound
  simp only [System.dual]
  rw [bound]
  ring

end IsSlackTableau

/-! ## The four readings -/

section Readings

variable (slack : IsSlackTableau system start) (reached : Reached start last)

include slack reached

theorem value_valueOf : system.value last.valueOf = last.objectiveValue := by
  have solves := reached.equivalent.solves_iff.mp reached.based.solves_valueOf
  rw [← slack.valueAt_eq, ← reached.equivalent.valueAt_eq solves, reached.based.valueAt_valueOf]

/-- Right-hand sides that are not negative give a feasible point. -/
theorem feasible_valueOf (feasible : last.Feasible) : system.Feasible last.valueOf := by
  apply slack.feasible_of_solves
  · exact reached.equivalent.solves_iff.mp reached.based.solves_valueOf
  · exact spread_nonneg reached.based feasible

/-- The prices that the objective row has under the slack columns.  They are
read off one tableau, and hold for the system that it started from. -/
theorem objective_dual :
    (∀ j < system.dimension, system.dual.leftSide j
        (fun row => last.entry last.height (system.dimension + row)) =
      -system.gain j - last.entry last.height j) ∧
    system.dual.value (fun row => last.entry last.height (system.dimension + row)) =
      -last.objectiveValue := by
  have member := reached.equivalent.objective_mem
  have weights : ∀ row < system.size, (last.entry last.height - start.entry start.height)
      (system.dimension + row) = last.entry last.height (system.dimension + row) := by
    intro row inside
    rw [Pi.sub_apply, slack.height_eq, slack.entry_slack _ (Nat.le_refl _) row inside,
      if_neg inside.ne', sub_zero]
  constructor
  · intro j inside
    rw [← System.leftSide_congr weights, slack.leftSide_dual member inside, Pi.sub_apply,
      slack.height_eq, slack.entry_objective j inside]
    ring
  · have atStart := slack.rhs_objective
    rw [rhs] at atStart
    rw [← System.value_congr weights, slack.value_dual member, Pi.sub_apply, slack.height_eq, atStart,
      sub_zero, objectiveValue_eq_rhs, rhs, reached.equivalent.width_eq]

/-- An objective row without negative entries gives feasible prices. -/
theorem feasible_dual_of_satisfied
    (satisfied : ∀ j < last.width, 0 ≤ last.entry last.height j) :
    system.dual.Feasible fun row => last.entry last.height (system.dimension + row) := by
  rw [reached.equivalent.width_eq, slack.width_eq] at satisfied
  constructor
  · intro row inside
    exact satisfied _ (Nat.add_lt_add_left inside _)
  · intro j inside
    rw [(objective_dual slack reached).1 j inside]
    exact sub_le_self _ (satisfied j (Nat.lt_add_right _ inside))

/-- A column that improves the objective and that no row limits gives a ray.
The column is raised, and no basic one gets smaller. -/
theorem ray_edge {raised : Nat} (inside : raised < last.width)
    (improves : last.entry last.height raised < 0)
    (blocked : ∀ row < last.height, last.entry row raised ≤ 0) :
    system.Ray (last.edge raised) := by
  have balanced : ∀ row < start.height, start.leftSide row (last.edge raised) = 0 :=
    reached.equivalent.leftSide_eq_zero fun row bounded => reached.based.leftSide_edge inside bounded
  have nonneg := reached.based.edge_nonneg blocked
  constructor
  · exact fun j _ => nonneg j
  · intro row bounded
    have equation := balanced row (slack.height_eq.symm ▸ bounded)
    rw [slack.leftSide_eq bounded] at equation
    rw [eq_neg_of_add_eq_zero_left equation]
    exact neg_nonpos.mpr (nonneg _)
  · have change := reached.equivalent.leftSide_objective_eq balanced
    rw [reached.based.leftSide_height_edge inside, slack.leftSide_objective] at change
    rw [change] at improves
    exact neg_lt_zero.mp improves

/-- A row that no column can repair gives a ray of the dual.  The entries of the
row are the direction. -/
theorem dual_ray {row : Nat} (inside : row < last.height) (negative : last.rhs row < 0)
    (blocked : ∀ j < last.width, 0 ≤ last.entry row j) :
    system.dual.Ray fun slackRow => last.entry row (system.dimension + slackRow) := by
  have member := entry_mem_rowSpace inside
  rw [reached.equivalent.rowSpace_eq] at member
  rw [reached.equivalent.width_eq, slack.width_eq] at blocked
  constructor
  · intro slackRow bounded
    exact blocked _ (Nat.add_lt_add_left bounded _)
  · intro j bounded
    rw [slack.leftSide_dual member bounded]
    exact neg_nonpos.mpr (blocked j (Nat.lt_add_right _ bounded))
  · rw [slack.value_dual member, ← reached.equivalent.width_eq]
    exact neg_pos.mpr negative

end Readings
end Linear
end Optimum

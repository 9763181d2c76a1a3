import Mathlib.LinearAlgebra.Finsupp.LinearCombination
import Optimum.Proofs.Tableau.Pivot

namespace Optimum
namespace Tableau

/-!
# What a pivot leaves alone

A pivot replaces rows by combinations of rows, and it can be undone.  So the
space of all combinations of the constraint rows stays the same, and with it
the points that solve the rows.  The objective row changes only by a member of
that space, so on those points its value stays the same too.

Points give a value to every column; those beyond the last column are ignored.
-/

variable {start current tableau : Tableau Rat}

/-- The combinations of the constraint rows, right-hand sides included.  Pivots
change the rows but not this space. -/
def rowSpace (tableau : Tableau Rat) : Submodule Rat (Nat → Rat) :=
  Submodule.span Rat (tableau.entry '' (Finset.range tableau.height : Set Nat))

theorem entry_mem_rowSpace {index : Nat} (inside : index < tableau.height) :
    tableau.entry index ∈ tableau.rowSpace :=
  Submodule.subset_span ⟨index, Finset.mem_coe.mpr (Finset.mem_range.mpr inside), rfl⟩

theorem mem_rowSpace_iff {combination : Nat → Rat} :
    combination ∈ tableau.rowSpace ↔ ∃ weights : Nat → Rat, ∀ j,
      combination j = ∑ i ∈ Finset.range tableau.height, weights i * tableau.entry i j := by
  rw [rowSpace, Submodule.mem_span_image_finset_iff_exists_fun']
  constructor
  · rintro ⟨weights, rfl⟩
    refine ⟨weights, fun j => ?_⟩
    rw [Finset.sum_apply]
    rfl
  · rintro ⟨weights, equal⟩
    refine ⟨weights, funext fun j => ?_⟩
    rw [Finset.sum_apply, equal]
    rfl

theorem rowSpace_le {space : Submodule Rat (Nat → Rat)}
    (contained : ∀ index < tableau.height, tableau.entry index ∈ space) :
    tableau.rowSpace ≤ space := by
  refine Submodule.span_le.mpr ?_
  rintro row ⟨index, inside, rfl⟩
  exact contained index (Finset.mem_range.mp (Finset.mem_coe.mp inside))

/-- Two tableaus that row operations turn into one another.  The objective rows
differ by a combination of the constraint rows, and so they agree on every
solution. -/
structure RowEquivalent (start current : Tableau Rat) : Prop where
  columns_eq : current.columns = start.columns
  height_eq : current.height = start.height
  rowSpace_eq : current.rowSpace = start.rowSpace
  objective_mem : current.entry current.height - start.entry start.height ∈ start.rowSpace

namespace RowEquivalent

theorem refl (tableau : Tableau Rat) : RowEquivalent tableau tableau where
  columns_eq := rfl
  height_eq := rfl
  rowSpace_eq := rfl
  objective_mem := by
    rw [sub_self]
    exact Submodule.zero_mem _

theorem trans {middle : Tableau Rat} (first : RowEquivalent start middle)
    (second : RowEquivalent middle current) : RowEquivalent start current where
  columns_eq := second.columns_eq.trans first.columns_eq
  height_eq := second.height_eq.trans first.height_eq
  rowSpace_eq := second.rowSpace_eq.trans first.rowSpace_eq
  objective_mem := by
    have later := second.objective_mem
    rw [first.rowSpace_eq] at later
    have sum := Submodule.add_mem _ later first.objective_mem
    rwa [sub_add_sub_cancel] at sum

theorem width_eq (equivalent : RowEquivalent start current) : current.width = start.width := by
  rw [width, equivalent.columns_eq, width]

end RowEquivalent

/-! ## Pivots -/

namespace PivotsTo

variable {row column : Nat} {next : Tableau Rat}

theorem entry_pivotRow_eq_smul (step : tableau.PivotsTo row column next) :
    next.entry row = (tableau.entry row column)⁻¹ • tableau.entry row := by
  funext j
  rw [step.entry_pivotRow, div_eq_inv_mul]
  rfl

theorem entry_eq_sub (step : tableau.PivotsTo row column next) {index : Nat}
    (different : index ≠ row) :
    next.entry index = tableau.entry index - tableau.entry index column • next.entry row := by
  funext j
  exact step.entry_of_ne index different j

theorem entry_pivotRow_mem (step : tableau.PivotsTo row column next)
    (inside : row < tableau.height) : next.entry row ∈ tableau.rowSpace := by
  rw [step.entry_pivotRow_eq_smul]
  exact Submodule.smul_mem _ _ (entry_mem_rowSpace inside)

theorem rowSpace_eq (step : tableau.PivotsTo row column next) (inside : row < tableau.height)
    (nonzero : tableau.entry row column ≠ 0) : next.rowSpace = tableau.rowSpace := by
  have insideNext : row < next.height := by rw [step.height_eq]; exact inside
  apply le_antisymm
  · refine rowSpace_le fun index below => ?_
    by_cases same : index = row
    · rw [same]
      exact step.entry_pivotRow_mem inside
    · rw [step.height_eq] at below
      rw [step.entry_eq_sub same]
      exact Submodule.sub_mem _ (entry_mem_rowSpace below)
        (Submodule.smul_mem _ _ (step.entry_pivotRow_mem inside))
  · -- The old rows come back by undoing the two steps of the pivot.
    refine rowSpace_le fun index below => ?_
    by_cases same : index = row
    · have undone : tableau.entry row = tableau.entry row column • next.entry row := by
        rw [step.entry_pivotRow_eq_smul, smul_inv_smul₀ nonzero]
      rw [same, undone]
      exact Submodule.smul_mem _ _ (entry_mem_rowSpace insideNext)
    · have undone : tableau.entry index =
          next.entry index + tableau.entry index column • next.entry row := by
        rw [step.entry_eq_sub same, sub_add_cancel]
      rw [undone]
      rw [← step.height_eq] at below
      exact Submodule.add_mem _ (entry_mem_rowSpace below)
        (Submodule.smul_mem _ _ (entry_mem_rowSpace insideNext))

theorem rowEquivalent (step : tableau.PivotsTo row column next) (inside : row < tableau.height)
    (nonzero : tableau.entry row column ≠ 0) : RowEquivalent tableau next where
  columns_eq := step.columns_eq
  height_eq := step.height_eq
  rowSpace_eq := step.rowSpace_eq inside nonzero
  objective_mem := by
    rw [step.height_eq, step.entry_eq_sub inside.ne', sub_sub_cancel_left]
    exact Submodule.neg_mem _ (Submodule.smul_mem _ _ (step.entry_pivotRow_mem inside))

end PivotsTo

/-! ## Points that solve the rows -/

def leftSide (tableau : Tableau Rat) (index : Nat) (point : Nat → Rat) : Rat :=
  ∑ j ∈ Finset.range tableau.width, tableau.entry index j * point j

/-- Whether each constraint row holds as an equation at a point.  The signs of
the point do not matter here. -/
def Solves (tableau : Tableau Rat) (point : Nat → Rat) : Prop :=
  ∀ index < tableau.height, tableau.leftSide index point = tableau.rhs index

/-- The objective at a point, by the objective row. -/
def valueAt (tableau : Tableau Rat) (point : Nat → Rat) : Rat :=
  tableau.rhs tableau.height - tableau.leftSide tableau.height point

theorem sum_combination {point combination weights : Nat → Rat}
    (equal : ∀ j, combination j =
      ∑ i ∈ Finset.range tableau.height, weights i * tableau.entry i j) :
    ∑ j ∈ Finset.range tableau.width, combination j * point j =
      ∑ i ∈ Finset.range tableau.height, weights i * tableau.leftSide i point := by
  calc ∑ j ∈ Finset.range tableau.width, combination j * point j
      = ∑ j ∈ Finset.range tableau.width, ∑ i ∈ Finset.range tableau.height,
          weights i * (tableau.entry i j * point j) := by
        refine Finset.sum_congr rfl fun j _ => ?_
        rw [equal, Finset.sum_mul]
        exact Finset.sum_congr rfl fun i _ => mul_assoc _ _ _
    _ = ∑ i ∈ Finset.range tableau.height, weights i * tableau.leftSide i point := by
        rw [Finset.sum_comm]
        exact Finset.sum_congr rfl fun i _ => (Finset.mul_sum _ _ _).symm

/-- A point that solves the rows solves every combination of them. -/
theorem Solves.combination {point combination : Nat → Rat} (solves : tableau.Solves point)
    (member : combination ∈ tableau.rowSpace) :
    ∑ j ∈ Finset.range tableau.width, combination j * point j = combination tableau.width := by
  rcases mem_rowSpace_iff.mp member with ⟨weights, equal⟩
  rw [sum_combination equal, equal tableau.width]
  refine Finset.sum_congr rfl fun i below => ?_
  rw [solves i (Finset.mem_range.mp below), rhs]

/-- A direction that leaves every row alone leaves every combination alone. -/
theorem combination_eq_zero {direction combination : Nat → Rat}
    (balanced : ∀ i < tableau.height, tableau.leftSide i direction = 0)
    (member : combination ∈ tableau.rowSpace) :
    ∑ j ∈ Finset.range tableau.width, combination j * direction j = 0 := by
  rcases mem_rowSpace_iff.mp member with ⟨weights, equal⟩
  rw [sum_combination equal]
  refine Finset.sum_eq_zero fun i below => ?_
  rw [balanced i (Finset.mem_range.mp below), mul_zero]

namespace RowEquivalent

theorem symm (equivalent : RowEquivalent start current) : RowEquivalent current start where
  columns_eq := equivalent.columns_eq.symm
  height_eq := equivalent.height_eq.symm
  rowSpace_eq := equivalent.rowSpace_eq.symm
  objective_mem := by
    rw [equivalent.rowSpace_eq, ← neg_sub]
    exact Submodule.neg_mem _ equivalent.objective_mem

theorem solves (equivalent : RowEquivalent start current) {point : Nat → Rat}
    (solves : start.Solves point) : current.Solves point := by
  intro index below
  have member := entry_mem_rowSpace below
  rw [equivalent.rowSpace_eq] at member
  rw [leftSide, rhs, equivalent.width_eq]
  exact solves.combination member

/-- Row equivalent tableaus have the same solutions.  This is what a method
relies on when it answers from its last tableau. -/
theorem solves_iff (equivalent : RowEquivalent start current) {point : Nat → Rat} :
    current.Solves point ↔ start.Solves point :=
  ⟨equivalent.symm.solves, equivalent.solves⟩

/-- On the solutions both objective rows have the same value, though their
entries differ. -/
theorem valueAt_eq (equivalent : RowEquivalent start current) {point : Nat → Rat}
    (solves : start.Solves point) : current.valueAt point = start.valueAt point := by
  have difference := solves.combination equivalent.objective_mem
  simp only [Pi.sub_apply, sub_mul, Finset.sum_sub_distrib] at difference
  simp only [valueAt, leftSide, rhs, equivalent.width_eq]
  linarith

/-- Row equivalent tableaus leave the same directions balanced. -/
theorem leftSide_eq_zero (equivalent : RowEquivalent start current) {direction : Nat → Rat}
    (balanced : ∀ i < current.height, current.leftSide i direction = 0) :
    ∀ i < start.height, start.leftSide i direction = 0 := by
  intro index below
  have member := entry_mem_rowSpace below
  rw [← equivalent.rowSpace_eq] at member
  rw [leftSide, ← equivalent.width_eq]
  exact combination_eq_zero balanced member

/-- Along a balanced direction both objective rows change alike. -/
theorem leftSide_objective_eq (equivalent : RowEquivalent start current)
    {direction : Nat → Rat}
    (balanced : ∀ i < start.height, start.leftSide i direction = 0) :
    current.leftSide current.height direction = start.leftSide start.height direction := by
  have difference := combination_eq_zero balanced equivalent.objective_mem
  simp only [Pi.sub_apply, sub_mul, Finset.sum_sub_distrib] at difference
  rw [leftSide, leftSide, equivalent.width_eq]
  exact sub_eq_zero.mp difference

end RowEquivalent

end Tableau
end Optimum

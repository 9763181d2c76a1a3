import Optimum.Proofs.Tableau.Basis

namespace Optimum
namespace Tableau

open Scalar

/-!
# Reducing the objective row

Subtracting multiples of constraint rows from the objective row leaves the
constraint rows and the basis as they are.  `ReducesTo` says by how much the
objective row has gone down in each column; reductions follow one another by
adding what they take away.
-/

variable {tableau next : Tableau Rat} {amount : Nat → Rat}

/-- The objective row has lost an amount in each column, and all else is as it
was. -/
structure ReducesTo (tableau : Tableau Rat) (amount : Nat → Rat) (next : Tableau Rat) : Prop where
  columns_eq : next.columns = tableau.columns
  rows_eq : next.rows = tableau.rows
  basis_eq : next.basis = tableau.basis
  length_objective : next.objective.length = tableau.objective.length
  objective_eq : ∀ j, next.objective.getD j 0 = tableau.objective.getD j 0 - amount j

namespace ReducesTo

theorem refl (tableau : Tableau Rat) : ReducesTo tableau (fun _ => 0) tableau where
  columns_eq := rfl
  rows_eq := rfl
  basis_eq := rfl
  length_objective := rfl
  objective_eq := fun _ => (sub_zero _).symm

theorem trans {last : Tableau Rat} {later : Nat → Rat} (first : ReducesTo tableau amount next)
    (second : ReducesTo next later last) :
    ReducesTo tableau (fun j => amount j + later j) last where
  columns_eq := second.columns_eq.trans first.columns_eq
  rows_eq := second.rows_eq.trans first.rows_eq
  basis_eq := second.basis_eq.trans first.basis_eq
  length_objective := second.length_objective.trans first.length_objective
  objective_eq := by
    intro j
    rw [second.objective_eq, first.objective_eq, sub_sub]

theorem height_eq (reduces : ReducesTo tableau amount next) : next.height = tableau.height := by
  rw [height, reduces.rows_eq, height]

theorem width_eq (reduces : ReducesTo tableau amount next) : next.width = tableau.width := by
  rw [width, reduces.columns_eq, width]

theorem basic_eq (reduces : ReducesTo tableau amount next) (index : Nat) :
    next.basic index = tableau.basic index := by
  rw [basic, reduces.basis_eq, basic]

theorem entry_eq (reduces : ReducesTo tableau amount next) {index : Nat}
    (inside : index < tableau.height) (j : Nat) : next.entry index j = tableau.entry index j := by
  rw [entry, entry, row_of_lt inside, row_of_lt (reduces.height_eq.symm ▸ inside), reduces.rows_eq]

theorem rhs_eq (reduces : ReducesTo tableau amount next) {index : Nat}
    (inside : index < tableau.height) : next.rhs index = tableau.rhs index := by
  rw [rhs, reduces.entry_eq inside, reduces.width_eq, rhs]

theorem entry_height_eq (reduces : ReducesTo tableau amount next) (j : Nat) :
    next.entry next.height j = tableau.entry tableau.height j - amount j := by
  rw [entry_height, entry_height, reduces.objective_eq]

theorem shaped (reduces : ReducesTo tableau amount next) (shaped : tableau.Shaped) :
    next.Shaped where
  length_rows := by
    rw [reduces.rows_eq, reduces.width_eq]
    exact shaped.length_rows
  length_objective := by
    rw [reduces.length_objective, reduces.width_eq]
    exact shaped.length_objective
  length_basis := by
    rw [reduces.basis_eq, reduces.height_eq]
    exact shaped.length_basis

/-- A reduction by a combination of the rows is a row operation. -/
theorem rowEquivalent (reduces : ReducesTo tableau amount next)
    (member : amount ∈ tableau.rowSpace) : RowEquivalent tableau next where
  columns_eq := reduces.columns_eq
  height_eq := reduces.height_eq
  rowSpace_eq := by
    apply le_antisymm
    · refine rowSpace_le fun index below => ?_
      rw [reduces.height_eq] at below
      rw [funext (reduces.entry_eq below)]
      exact entry_mem_rowSpace below
    · refine rowSpace_le fun index below => ?_
      rw [← funext (reduces.entry_eq below)]
      exact entry_mem_rowSpace (reduces.height_eq.symm ▸ below)
  objective_mem := by
    have difference : next.entry next.height - tableau.entry tableau.height = -amount := by
      funext j
      rw [Pi.sub_apply, reduces.entry_height_eq, sub_sub_cancel_left, Pi.neg_apply]
    rw [difference]
    exact Submodule.neg_mem _ member

/-- A tableau whose rows have unit columns has a basis once the reduction has
taken the objective entries of those columns away. -/
theorem hasBasis (reduces : ReducesTo tableau amount next) (shaped : tableau.Shaped)
    (basic_lt : ∀ index < tableau.height, tableau.basic index < tableau.width)
    (unit : ∀ index < tableau.height, ∀ k < tableau.height,
      tableau.entry k (tableau.basic index) = if k = index then 1 else 0)
    (cleared : ∀ index < tableau.height,
      tableau.entry tableau.height (tableau.basic index) = amount (tableau.basic index)) :
    next.HasBasis where
  toShaped := reduces.shaped shaped
  basic_lt := by
    intro index inside
    rw [reduces.height_eq] at inside
    rw [reduces.basic_eq, reduces.width_eq]
    exact basic_lt index inside
  entry_basic := by
    intro index inside k bounded
    rw [reduces.height_eq] at inside bounded
    rw [reduces.basic_eq]
    rcases Nat.lt_or_eq_of_le bounded with constraint | objective
    · rw [reduces.entry_eq constraint, unit index inside k constraint]
    · rw [objective, ← reduces.height_eq, reduces.entry_height_eq, cleared index inside, sub_self,
        if_neg (reduces.height_eq.symm ▸ inside.ne')]

end ReducesTo

theorem reducesTo_reduceObjective (shaped : tableau.Shaped) {row : Nat}
    (inside : row < tableau.height) (factor : Rat) :
    ReducesTo tableau (fun j => factor * tableau.entry row j)
      (tableau.reduceObjective row factor) := by
  have same : tableau.objective.length = (tableau.row row).length := by
    rw [shaped.length_objective, shaped.length_row inside.le]
  refine ⟨rfl, rfl, rfl, length_subtractMultiple factor same, fun j => ?_⟩
  exact getD_subtractMultiple factor same j

end Tableau
end Optimum

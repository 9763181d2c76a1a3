import Mathlib.Data.List.GetD
import Optimum.Proofs.Rational
import Optimum.Tableau.Basic

namespace Optimum
namespace Tableau

open Scalar

/-!
# A pivot, entry by entry

Over the rationals the entries that a pivot sets to one and to zero are the
values that the division and the elimination give anyway, and leaving a row
with a zero entry alone changes nothing.  So one formula holds for every
entry: `PivotsTo` states it, and nothing after this module opens `pivot`.
-/

variable {tableau : Tableau Rat}

/-- The rows have one entry for each column and a right-hand side, and each
constraint row has a basic column.  Lookups in such a tableau never fall back on
a default value. -/
structure Shaped (tableau : Tableau Rat) : Prop where
  length_rows : ∀ entries ∈ tableau.rows, entries.length = tableau.width + 1
  length_objective : tableau.objective.length = tableau.width + 1
  length_basis : tableau.basis.length = tableau.height

/-! ## Entries -/

theorem row_of_lt {index : Nat} (inside : index < tableau.height) :
    tableau.row index = tableau.rows.getD index [] := by
  rw [row, allRows, List.getD_eq_getElem?_getD, List.getD_eq_getElem?_getD,
    List.getElem?_append_left inside]

theorem row_height : tableau.row tableau.height = tableau.objective := by
  simp [row, allRows, height]

theorem entry_height (column : Nat) :
    tableau.entry tableau.height column = tableau.objective.getD column 0 := by
  rw [entry, row_height]

/-- The objective value is the right-hand side of the objective row. -/
theorem objectiveValue_eq_rhs : tableau.objectiveValue = tableau.rhs tableau.height := by
  rw [rhs, entry_height]
  rfl

theorem getElem?_allRows_of_ge {index : Nat} (outside : tableau.height < index) :
    tableau.allRows[index]? = none := by
  rw [List.getElem?_eq_none_iff, allRows, List.length_append, List.length_singleton]
  exact outside

theorem Shaped.length_row (shaped : tableau.Shaped) {index : Nat}
    (inside : index ≤ tableau.height) : (tableau.row index).length = tableau.width + 1 := by
  rcases Nat.lt_or_eq_of_le inside with constraint | objective
  · rw [row_of_lt constraint, List.getD_eq_getElem _ _ constraint]
    exact shaped.length_rows _ (List.getElem_mem constraint)
  · rw [objective, row_height]
    exact shaped.length_objective

/-! ## Row operations -/

theorem getD_subtractMultiple (factor : Rat) {entries other : List Rat}
    (same : entries.length = other.length) (column : Nat) :
    (subtractMultiple factor entries other).getD column 0 =
      entries.getD column 0 - factor * other.getD column 0 := by
  simp only [subtractMultiple, List.getD_eq_getElem?_getD, List.getElem?_zipWith]
  by_cases inside : column < entries.length
  · rw [List.getElem?_eq_getElem inside, List.getElem?_eq_getElem (same ▸ inside)]
    rfl
  · rw [List.getElem?_eq_none (not_lt.mp inside),
      List.getElem?_eq_none (same ▸ not_lt.mp inside)]
    simp

theorem length_subtractMultiple (factor : Rat) {entries other : List Rat}
    (same : entries.length = other.length) :
    (subtractMultiple factor entries other).length = entries.length := by
  rw [subtractMultiple, List.length_zipWith, same, Nat.min_self]

/-- A cleared column is the result of the elimination, for the pivot row is
one there. -/
theorem getD_clearColumn {column : Nat} {pivotRow entries : List Rat}
    (same : entries.length = pivotRow.length) (normal : pivotRow.getD column 0 = 1)
    (index : Nat) :
    (clearColumn column pivotRow entries).getD index 0 =
      entries.getD index 0 - entries.getD column 0 * pivotRow.getD index 0 := by
  unfold clearColumn
  by_cases zero : isZero (entries.getD column 0) = true
  · rw [if_pos zero, isZero_iff.mp zero, zero_mul, sub_zero]
  · rw [if_neg zero, List.getD_eq_getElem?_getD, List.getElem?_set]
    by_cases cleared : column = index
    · subst cleared
      rw [if_pos rfl, normal, mul_one, sub_self]
      split <;> rfl
    · rw [if_neg cleared, ← List.getD_eq_getElem?_getD, getD_subtractMultiple _ same]

theorem length_clearColumn {column : Nat} {pivotRow entries : List Rat}
    (same : entries.length = pivotRow.length) :
    (clearColumn column pivotRow entries).length = entries.length := by
  unfold clearColumn
  by_cases zero : isZero (entries.getD column 0) = true
  · rw [if_pos zero]
  · rw [if_neg zero, List.length_set, length_subtractMultiple _ same]

/-! ## The pivot -/

/-- What a pivot on a row and a column makes of a tableau.  Everything later is
derived from these fields, and the definition of a pivot is opened only to show
them. -/
structure PivotsTo (tableau : Tableau Rat) (row column : Nat) (next : Tableau Rat) : Prop where
  columns_eq : next.columns = tableau.columns
  height_eq : next.height = tableau.height
  basis_eq : next.basis = tableau.basis.set row column
  shaped : next.Shaped
  entry_pivotRow : ∀ j, next.entry row j = tableau.entry row j / tableau.entry row column
  entry_of_ne : ∀ k, k ≠ row → ∀ j, next.entry k j =
    tableau.entry k j - tableau.entry k column * next.entry row j

theorem PivotsTo.width_eq {row column : Nat} {next : Tableau Rat}
    (step : tableau.PivotsTo row column next) : next.width = tableau.width := by
  rw [width, step.columns_eq, width]

/-- The pivot row divided by its pivot. -/
private def normalRow (tableau : Tableau Rat) (row column : Nat) : List Rat :=
  ((tableau.row row).map (· / tableau.entry row column)).set column 1

private theorem getD_normalRow {row column : Nat} (nonzero : tableau.entry row column ≠ 0)
    (j : Nat) :
    (tableau.normalRow row column).getD j 0 =
      tableau.entry row j / tableau.entry row column := by
  rw [normalRow, List.getD_eq_getElem?_getD, List.getElem?_set, List.length_map]
  by_cases same : column = j
  · subst same
    have inside : column < (tableau.row row).length := by
      by_contra outside
      exact nonzero (List.getD_eq_default _ _ (not_lt.mp outside))
    rw [if_pos rfl, if_pos inside, Option.getD_some, div_self nonzero]
  · rw [if_neg same, List.getElem?_map]
    change _ = (tableau.row row).getD j 0 / tableau.entry row column
    rw [List.getD_eq_getElem?_getD]
    cases (tableau.row row)[j]? with
    | none => exact (zero_div _).symm
    | some value => rfl

private theorem length_normalRow (row column : Nat) :
    (tableau.normalRow row column).length = (tableau.row row).length := by
  rw [normalRow, List.length_set, List.length_map]

/-- A row after the pivot, found by its index. -/
private def replacedRow (tableau : Tableau Rat) (row column index : Nat)
    (entries : List Rat) : List Rat :=
  if index = row then tableau.normalRow row column
  else clearColumn column (tableau.normalRow row column) entries

/-- The tableau after the pivot. -/
private def pivoted (tableau : Tableau Rat) (row column : Nat) : Tableau Rat where
  columns := tableau.columns
  rows := tableau.rows.mapIdx (tableau.replacedRow row column)
  objective := tableau.replacedRow row column tableau.height tableau.objective
  basis := tableau.basis.set row column

private theorem row_pivoted {row column index : Nat} (inside : index ≤ tableau.height) :
    (tableau.pivoted row column).row index =
      tableau.replacedRow row column index (tableau.row index) := by
  have height_eq : (tableau.pivoted row column).height = tableau.height := List.length_mapIdx
  rcases Nat.lt_or_eq_of_le inside with constraint | objective
  · rw [row_of_lt (height_eq.symm ▸ constraint), row_of_lt constraint]
    simp only [pivoted, List.getD_eq_getElem?_getD, List.getElem?_mapIdx]
    rw [List.getElem?_eq_getElem constraint]
    rfl
  · rw [objective, row_height, ← height_eq, row_height, height_eq]
    rfl

private theorem length_replacedRow (shaped : tableau.Shaped) {row column index : Nat}
    (rowInside : row < tableau.height) {entries : List Rat}
    (full : entries.length = tableau.width + 1) :
    (tableau.replacedRow row column index entries).length = tableau.width + 1 := by
  have normalLength : (tableau.normalRow row column).length = tableau.width + 1 := by
    rw [length_normalRow, shaped.length_row rowInside.le]
  unfold replacedRow
  by_cases same : index = row
  · rw [if_pos same, normalLength]
  · rw [if_neg same, length_clearColumn (full.trans normalLength.symm), full]

private theorem shaped_pivoted (shaped : tableau.Shaped) {row column : Nat}
    (rowInside : row < tableau.height) : (tableau.pivoted row column).Shaped where
  length_rows := by
    intro entries member
    rcases List.mem_iff_getElem.mp member with ⟨index, inside, rfl⟩
    simp only [pivoted, List.getElem_mapIdx]
    exact length_replacedRow shaped rowInside (shaped.length_rows _ (List.getElem_mem _))
  length_objective := length_replacedRow shaped rowInside shaped.length_objective
  length_basis := by
    simp only [pivoted, height, List.length_set, List.length_mapIdx]
    exact shaped.length_basis

/-- A pivot on an entry that is not zero succeeds.  A pivot on zero is the one
fault that a run can have. -/
theorem pivot_eq_ok (shaped : tableau.Shaped) {row column : Nat}
    (rowInside : row < tableau.height) (nonzero : tableau.entry row column ≠ 0) :
    ∃ next, tableau.pivot row column = .ok next ∧ tableau.PivotsTo row column next := by
  have accepted : ¬ (isZero (tableau.entry row column) ||
      !isFinite (tableau.entry row column)) = true := by
    simp [isZero_iff, nonzero]
  have pivotRow : ∀ j, (tableau.pivoted row column).entry row j =
      tableau.entry row j / tableau.entry row column := by
    intro j
    rw [entry, row_pivoted rowInside.le, replacedRow, if_pos rfl, getD_normalRow nonzero]
  refine ⟨tableau.pivoted row column, if_neg accepted, rfl, List.length_mapIdx, rfl,
    shaped_pivoted shaped rowInside, pivotRow, ?_⟩
  intro k different j
  rw [pivotRow]
  by_cases inside : k ≤ tableau.height
  · rw [entry, row_pivoted inside, replacedRow, if_neg different,
      getD_clearColumn _ (by rw [getD_normalRow nonzero, div_self nonzero]),
      getD_normalRow nonzero]
    · rfl
    · rw [length_normalRow, shaped.length_row inside, shaped.length_row rowInside.le]
  · -- There is no such row before the pivot nor after it.
    have beyond := getElem?_allRows_of_ge (not_le.mp inside)
    have beyondAfter : (tableau.pivoted row column).allRows[k]? = none :=
      getElem?_allRows_of_ge (by simpa [pivoted, height] using inside)
    simp [entry, Tableau.row, List.getD_eq_getElem?_getD, beyond, beyondAfter]

end Tableau
end Optimum

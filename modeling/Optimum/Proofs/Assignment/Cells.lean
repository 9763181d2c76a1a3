import Mathlib.Data.List.GetD
import Optimum.Proofs.Rational
import Optimum.Assignment.Hungarian

namespace Optimum
namespace Assignment

open Scalar

/-!
# Square tables, cell by cell

The steps of the Hungarian method are written with maps over rows.  Here each
of them is described by what it does to one cell of a square table.
-/

/-- A table with as many rows as each row has entries.  All tables of a run are
square, since padding comes first. -/
structure Square (matrix : List (List Rat)) (size : Nat) : Prop where
  length_eq : matrix.length = size
  length_row : ∀ entries ∈ matrix, entries.length = size

variable {matrix : List (List Rat)} {entries : List Rat} {value : Rat}
  {size row column : Nat}

theorem cell_eq (found : matrix[row]? = some entries) (entered : entries[column]? = some value) :
    cell matrix row column = value := by
  have inner : matrix.getD row [] = entries := by
    rw [List.getD_eq_getElem?_getD, found]
    rfl
  rw [cell, inner, List.getD_eq_getElem?_getD, entered]
  rfl

theorem getElem?_eq_some_getD {α : Type} {values : List α} {index : Nat} {default : α}
    (inside : index < values.length) : values[index]? = some (values.getD index default) := by
  rw [List.getD_eq_getElem _ _ inside]
  exact List.getElem?_eq_getElem inside

namespace Square

theorem exists_cell (square : Square matrix size) (rowInside : row < size)
    (columnInside : column < size) :
    ∃ entries, matrix[row]? = some entries ∧
      entries[column]? = some (cell matrix row column) := by
  have located := List.getElem?_eq_getElem (square.length_eq.symm ▸ rowInside)
  have length := square.length_row _ (List.mem_of_getElem? located)
  have entered := List.getElem?_eq_getElem (length.symm ▸ columnInside)
  refine ⟨_, located, ?_⟩
  rw [cell_eq located entered]
  exact entered

theorem columnCount_eq (square : Square matrix size) : columnCount matrix = size := by
  cases matrix with
  | nil => exact square.length_eq
  | cons first rest => exact square.length_row first List.mem_cons_self

/-! ## Reductions -/

variable {amounts : List Rat}

theorem reduceRows (square : Square matrix size) (covered : amounts.length = size) :
    Square (reduceRows amounts matrix) size where
  length_eq := by
    rw [Assignment.reduceRows, List.length_zipWith, covered, square.length_eq, Nat.min_self]
  length_row := by
    intro entries member
    rcases List.mem_iff_getElem.mp member with ⟨row, inside, rfl⟩
    simp only [Assignment.reduceRows, List.getElem_zipWith, List.length_map]
    exact square.length_row _ (List.getElem_mem _)

theorem cell_reduceRows (square : Square matrix size) (covered : amounts.length = size)
    (rowInside : row < size) (columnInside : column < size) :
    cell (Assignment.reduceRows amounts matrix) row column =
      cell matrix row column - amounts.getD row 0 := by
  rcases square.exists_cell rowInside columnInside with ⟨entries, found, entered⟩
  have amount : amounts[row]? = some (amounts.getD row 0) :=
    getElem?_eq_some_getD (covered.symm ▸ rowInside)
  apply cell_eq
  · rw [Assignment.reduceRows, List.getElem?_zipWith, found, amount]
  · rw [List.getElem?_map, entered]
    rfl

theorem reduceColumns (square : Square matrix size) (covered : amounts.length = size) :
    Square (reduceColumns amounts matrix) size where
  length_eq := by
    rw [Assignment.reduceColumns, List.length_map, square.length_eq]
  length_row := by
    intro entries member
    rcases List.mem_map.mp member with ⟨before, inside, rfl⟩
    rw [List.length_zipWith, covered, square.length_row before inside, Nat.min_self]

theorem cell_reduceColumns (square : Square matrix size) (covered : amounts.length = size)
    (rowInside : row < size) (columnInside : column < size) :
    cell (Assignment.reduceColumns amounts matrix) row column =
      cell matrix row column - amounts.getD column 0 := by
  rcases square.exists_cell rowInside columnInside with ⟨entries, found, entered⟩
  have amount : amounts[column]? = some (amounts.getD column 0) :=
    getElem?_eq_some_getD (covered.symm ▸ columnInside)
  apply cell_eq
  · rw [Assignment.reduceColumns, List.getElem?_map, found]
    rfl
  · rw [List.getElem?_zipWith, entered, amount]

theorem rowMinima_le (square : Square matrix size) (rowInside : row < size)
    (columnInside : column < size) : (rowMinima matrix).getD row 0 ≤ cell matrix row column := by
  rcases square.exists_cell rowInside columnInside with ⟨entries, found, entered⟩
  have member := List.mem_of_getElem? entered
  rw [rowMinima, List.getD_eq_getElem?_getD, List.getElem?_map, found]
  exact (least_mem (List.ne_nil_of_mem member)).2 _ member

theorem columnMinima_le (square : Square matrix size) (rowInside : row < size)
    (columnInside : column < size) :
    (columnMinima matrix).getD column 0 ≤ cell matrix row column := by
  rcases square.exists_cell rowInside columnInside with ⟨entries, found, entered⟩
  have member : cell matrix row column ∈ matrix.map fun row => row.getD column 0 := by
    apply List.mem_map.mpr
    refine ⟨entries, List.mem_of_getElem? found, ?_⟩
    rw [List.getD_eq_getElem?_getD, entered]
    rfl
  rw [columnMinima, square.columnCount_eq, List.getD_eq_getElem?_getD, List.getElem?_map,
    List.getElem?_range columnInside]
  exact (least_mem (List.ne_nil_of_mem member)).2 _ member

theorem exists_rowMinimum (square : Square matrix size) (rowInside : row < size) :
    ∃ column < size, (rowMinima matrix).getD row 0 = cell matrix row column := by
  have located := List.getElem?_eq_getElem (square.length_eq.symm ▸ rowInside)
  have length := square.length_row _ (List.mem_of_getElem? located)
  have nonempty := List.ne_nil_of_length_pos (length.symm ▸ Nat.zero_lt_of_lt rowInside)
  rcases List.mem_iff_getElem?.mp (least_mem nonempty).1 with ⟨column, entered⟩
  rcases List.getElem?_eq_some_iff.mp entered with ⟨columnInside, -⟩
  refine ⟨column, length ▸ columnInside, ?_⟩
  rw [cell_eq located entered, rowMinima, List.getD_eq_getElem?_getD, List.getElem?_map, located]
  rfl

theorem exists_columnMinimum (square : Square matrix size) (columnInside : column < size) :
    ∃ row < size, (columnMinima matrix).getD column 0 = cell matrix row column := by
  have nonempty : (matrix.map fun row => row.getD column 0) ≠ [] := by
    rw [ne_eq, List.map_eq_nil_iff]
    exact List.ne_nil_of_length_pos (square.length_eq.symm ▸ Nat.zero_lt_of_lt columnInside)
  rcases List.mem_iff_getElem.mp (least_mem nonempty).1 with ⟨row, inside, same⟩
  rw [List.getElem_map] at same
  rw [List.length_map] at inside
  refine ⟨row, square.length_eq ▸ inside, ?_⟩
  rw [columnMinima, square.columnCount_eq, List.getD_eq_getElem?_getD, List.getElem?_map,
    List.getElem?_range columnInside, cell, List.getD_eq_getElem _ _ inside, same]
  rfl

end Square

/-! ## Adjustments -/

/-- A cover with a flag for each line of a square table. -/
structure Cover.Fits (cover : Cover) (size : Nat) : Prop where
  length_rows : cover.rows.length = size
  length_columns : cover.columns.length = size

theorem mem_uncovered_iff {cover : Cover} :
    value ∈ uncovered cover matrix ↔ ∃ (row column : Nat) (entries : List Rat),
      cover.rows[row]? = some false ∧ cover.columns[column]? = some false ∧
        matrix[row]? = some entries ∧ entries[column]? = some value := by
  have inRow : ∀ entries : List Rat,
      (value ∈ (cover.columns.zip entries).filterMap fun (columnCovered, value) =>
        if columnCovered then none else some value) ↔
      ∃ column : Nat, cover.columns[column]? = some false ∧ entries[column]? = some value := by
    intro entries
    rw [List.mem_filterMap]
    constructor
    · rintro ⟨⟨flag, entry⟩, member, kept⟩
      rcases List.mem_iff_getElem?.mp member with ⟨column, located⟩
      rcases List.getElem?_zip_eq_some.mp located with ⟨flagged, entered⟩
      cases flag with
      | false =>
          cases kept
          exact ⟨column, flagged, entered⟩
      | true => cases kept
    · rintro ⟨column, flagged, entered⟩
      refine ⟨(false, value), List.mem_iff_getElem?.mpr ⟨column, ?_⟩, rfl⟩
      exact List.getElem?_zip_eq_some.mpr ⟨flagged, entered⟩
  rw [uncovered, List.mem_flatten]
  constructor
  · rintro ⟨kept, member, inside⟩
    rcases List.mem_iff_getElem?.mp member with ⟨row, located⟩
    rcases List.getElem?_zipWith_eq_some.mp located with ⟨flag, entries, flagged, found, rfl⟩
    cases flag with
    | false =>
        rcases (inRow entries).mp inside with ⟨column, columnFlagged, entered⟩
        exact ⟨row, column, entries, flagged, columnFlagged, found, entered⟩
    | true => cases inside
  · rintro ⟨row, column, entries, flagged, columnFlagged, found, entered⟩
    refine ⟨_, ?_, (inRow entries).mpr ⟨column, columnFlagged, entered⟩⟩
    apply List.mem_iff_getElem?.mpr
    exact ⟨row, List.getElem?_zipWith_eq_some.mpr ⟨false, entries, flagged, found, rfl⟩⟩

namespace Square

variable {cover : Cover} {amount : Rat}

theorem adjusted (square : Square matrix size) (fits : cover.Fits size) :
    Square (adjusted cover amount matrix) size where
  length_eq := by
    rw [Assignment.adjusted, List.length_zipWith, fits.length_rows, square.length_eq, Nat.min_self]
  length_row := by
    intro entries member
    rcases List.mem_iff_getElem.mp member with ⟨row, inside, rfl⟩
    simp only [Assignment.adjusted, List.getElem_zipWith, List.length_zipWith]
    rw [fits.length_columns, square.length_row _ (List.getElem_mem _), Nat.min_self]

/-- An adjustment takes the amount from every uncovered row and gives it to
every covered column. -/
theorem cell_adjusted (square : Square matrix size) (fits : cover.Fits size)
    (rowInside : row < size) (columnInside : column < size) :
    cell (Assignment.adjusted cover amount matrix) row column =
      cell matrix row column - (if cover.rows.getD row false then 0 else amount) -
        (if cover.columns.getD column false then -amount else 0) := by
  rcases square.exists_cell rowInside columnInside with ⟨entries, found, entered⟩
  have rowFlag : cover.rows[row]? = some (cover.rows.getD row false) :=
    getElem?_eq_some_getD (fits.length_rows.symm ▸ rowInside)
  have columnFlag : cover.columns[column]? = some (cover.columns.getD column false) :=
    getElem?_eq_some_getD (fits.length_columns.symm ▸ columnInside)
  apply cell_eq
  · rw [Assignment.adjusted, List.getElem?_zipWith, found, rowFlag]
  · rw [List.getElem?_zipWith, columnFlag, entered]
    cases cover.rows.getD row false with
    | false =>
        cases cover.columns.getD column false with
        | false => simp
        | true => simp
    | true =>
        cases cover.columns.getD column false with
        | false => simp
        | true => simp

/-- The smallest uncovered entry is not negative, and no uncovered entry is
smaller. -/
theorem least_uncovered (square : Square matrix size) (fits : cover.Fits size)
    (nonneg : ∀ row < size, ∀ column < size, 0 ≤ cell matrix row column) :
    0 ≤ least (uncovered cover matrix) ∧ ∀ row < size, ∀ column < size,
      cover.rows.getD row false = false → cover.columns.getD column false = false →
        least (uncovered cover matrix) ≤ cell matrix row column := by
  constructor
  · by_cases nothing : uncovered cover matrix = []
    · rw [nothing]
      exact le_refl 0
    · rcases mem_uncovered_iff.mp (least_mem nothing).1 with
        ⟨row, column, entries, rowFlag, columnFlag, found, entered⟩
      rcases List.getElem?_eq_some_iff.mp rowFlag with ⟨rowInside, -⟩
      rcases List.getElem?_eq_some_iff.mp columnFlag with ⟨columnInside, -⟩
      rw [← cell_eq found entered]
      rw [fits.length_rows] at rowInside
      rw [fits.length_columns] at columnInside
      exact nonneg row rowInside column columnInside
  · intro row rowInside column columnInside rowOpen columnOpen
    rcases square.exists_cell rowInside columnInside with ⟨entries, found, entered⟩
    have rowFlag : cover.rows[row]? = some false := by
      rw [← rowOpen]
      exact getElem?_eq_some_getD (fits.length_rows.symm ▸ rowInside)
    have columnFlag : cover.columns[column]? = some false := by
      rw [← columnOpen]
      exact getElem?_eq_some_getD (fits.length_columns.symm ▸ columnInside)
    have member : cell matrix row column ∈ uncovered cover matrix :=
      mem_uncovered_iff.mpr ⟨row, column, entries, rowFlag, columnFlag, found, entered⟩
    exact (least_mem (List.ne_nil_of_mem member)).2 _ member

/-- Adjusting by the smallest uncovered entry leaves no entry negative.  Only
uncovered entries lose anything, and none of them is smaller. -/
theorem cell_adjustmentStep_nonneg (square : Square matrix size) (fits : cover.Fits size)
    (nonneg : ∀ row < size, ∀ column < size, 0 ≤ cell matrix row column)
    (rowInside : row < size) (columnInside : column < size) :
    0 ≤ cell (adjustmentStep cover matrix).matrix row column := by
  rcases square.least_uncovered fits nonneg with ⟨amountNonneg, bound⟩
  have entryNonneg := nonneg row rowInside column columnInside
  have entryBound := bound row rowInside column columnInside
  rw [adjustmentStep, square.cell_adjusted fits rowInside columnInside]
  cases rowFlag : cover.rows.getD row false with
  | false =>
      cases columnFlag : cover.columns.getD column false with
      | false =>
          have below := entryBound rowFlag columnFlag
          simp only [Bool.false_eq_true, if_false]
          linarith
      | true =>
          simp only [Bool.false_eq_true, if_false, if_true]
          linarith
  | true =>
      cases columnFlag : cover.columns.getD column false with
      | false =>
          simp only [Bool.false_eq_true, if_false, if_true]
          linarith
      | true =>
          simp only [if_true]
          linarith

end Square

end Assignment
end Optimum

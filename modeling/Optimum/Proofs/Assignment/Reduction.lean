import Optimum.Proofs.Assignment.Cells
import Optimum.Proofs.Assignment.Matching
import Optimum.Proofs.Checks

namespace Optimum
namespace Assignment

open Scalar

/-!
# The invariant of the Hungarian method

Every table that the method comes to differs from the costs by an amount for
each row and an amount for each column, and has no negative entry.  The two
reductions establish this, and an adjustment keeps it for any cover whatever:
it need not be a small one, nor even cover all zeros.
-/

/-- A square table that differs from some costs by amounts of rows and columns.
Every step of the method keeps this, which is why the table can stand for the
costs in the search. -/
structure Shifted (costs matrix : List (List Rat)) (size : Nat) : Prop where
  square : Square matrix size
  amounts : ∃ rowAmount columnAmount : Nat → Rat, ∀ row < size, ∀ column < size,
    cell costs row column = cell matrix row column + (rowAmount row + columnAmount column)

structure Reduced (costs matrix : List (List Rat)) (size : Nat) : Prop
    extends Shifted costs matrix size where
  nonneg : ∀ row < size, ∀ column < size, 0 ≤ cell matrix row column

variable {costs matrix : List (List Rat)} {size : Nat}

namespace Shifted

theorem refl (square : Square matrix size) : Shifted matrix matrix size where
  square := square
  amounts := by
    refine ⟨fun _ => 0, fun _ => 0, fun row _ column _ => ?_⟩
    rw [add_zero, add_zero]

/-- A step that subtracts amounts from rows and from columns. -/
theorem step (shifted : Shifted costs matrix size) {next : List (List Rat)}
    (square : Square next size) (rowStep columnStep : Nat → Rat)
    (steps : ∀ row < size, ∀ column < size,
      cell next row column = cell matrix row column - rowStep row - columnStep column) :
    Shifted costs next size where
  square := square
  amounts := by
    rcases shifted.amounts with ⟨rowAmount, columnAmount, differs⟩
    refine ⟨fun row => rowAmount row + rowStep row,
      fun column => columnAmount column + columnStep column, fun row rowInside column inside => ?_⟩
    rw [differs row rowInside column inside, steps row rowInside column inside]
    ring

theorem reduceRows (shifted : Shifted costs matrix size) {amounts : List Rat}
    (covered : amounts.length = size) : Shifted costs (reduceRows amounts matrix) size := by
  apply shifted.step (shifted.square.reduceRows covered) (fun row => amounts.getD row 0)
    (fun _ => 0)
  intro row rowInside column columnInside
  rw [sub_zero]
  exact shifted.square.cell_reduceRows covered rowInside columnInside

theorem reduceColumns (shifted : Shifted costs matrix size) {amounts : List Rat}
    (covered : amounts.length = size) : Shifted costs (reduceColumns amounts matrix) size := by
  apply shifted.step (shifted.square.reduceColumns covered) (fun _ => 0)
    (fun column => amounts.getD column 0)
  intro row rowInside column columnInside
  rw [sub_zero]
  exact shifted.square.cell_reduceColumns covered rowInside columnInside

theorem adjusted (shifted : Shifted costs matrix size) {cover : Cover} (fits : cover.Fits size)
    (amount : Rat) : Shifted costs (adjusted cover amount matrix) size := by
  apply shifted.step (shifted.square.adjusted fits)
    (fun row => if cover.rows.getD row false then 0 else amount)
    (fun column => if cover.columns.getD column false then -amount else 0)
  intro row rowInside column columnInside
  exact shifted.square.cell_adjusted fits rowInside columnInside

end Shifted

/-! ## The reductions -/

theorem length_columnMinima (square : Square matrix size) :
    (columnMinima matrix).length = size := by
  rw [columnMinima, List.length_map, List.length_range, square.columnCount_eq]

/-- Once the minima of the columns are subtracted, no entry is negative. -/
theorem reduced_reduceColumns (shifted : Shifted costs matrix size) :
    Reduced costs (reduceColumns (columnMinima matrix) matrix) size where
  toShifted := shifted.reduceColumns (length_columnMinima shifted.square)
  nonneg := by
    intro row rowInside column columnInside
    rw [shifted.square.cell_reduceColumns (length_columnMinima shifted.square) rowInside
      columnInside]
    exact sub_nonneg.mpr (shifted.square.columnMinima_le rowInside columnInside)

/-- Once the minima of the rows are subtracted, no entry is negative. -/
theorem reduced_reduceRows (square : Square costs size) :
    Reduced costs (reduceRows (rowMinima costs) costs) size := by
  have covered : (rowMinima costs).length = size := by
    rw [rowMinima, List.length_map, square.length_eq]
  refine ⟨(Shifted.refl square).reduceRows covered, fun row rowInside column columnInside => ?_⟩
  rw [square.cell_reduceRows covered rowInside columnInside]
  exact sub_nonneg.mpr (square.rowMinima_le rowInside columnInside)

/-- The table that the search for an assignment starts from: rows are reduced
first, and columns by what is left. -/
theorem reduced_start (square : Square costs size) :
    Reduced costs (reduceColumns (columnMinima (reduceRows (rowMinima costs) costs))
      (reduceRows (rowMinima costs) costs)) size :=
  reduced_reduceColumns (reduced_reduceRows square).toShifted

/-! ## Adjustments -/

theorem Reduced.adjustmentStep (reduced : Reduced costs matrix size) {cover : Cover}
    (fits : cover.Fits size) : Reduced costs (adjustmentStep cover matrix).matrix size where
  toShifted := reduced.toShifted.adjusted fits _
  nonneg := by
    intro row rowInside column columnInside
    exact reduced.square.cell_adjustmentStep_nonneg fits reduced.nonneg rowInside columnInside

theorem fits_coverOfMatching (tolerance : Rat) (matrix : List (List Rat)) (matching : Matching) :
    (coverOfMatching tolerance matrix matching).Fits matrix.length where
  length_rows := by
    rw [coverOfMatching, matchingCover, List.length_map, List.length_range]
  length_columns := by
    rw [coverOfMatching, matchingCover, List.length_map, List.length_range]

theorem fits_cover (strategy : CoverStrategy) (tolerance : Rat) (matrix : List (List Rat)) :
    (strategy.cover tolerance matrix).Fits matrix.length := by
  cases strategy with
  | greedy =>
      constructor
      · rw [CoverStrategy.cover, greedyCover, List.length_map, List.length_range]
      · rw [CoverStrategy.cover, greedyCover, List.length_map, List.length_range]
  | minimum => exact fits_coverOfMatching tolerance matrix _

variable {options : Options Rat}

/-- The first phase keeps the invariant, whichever covers it uses.  A cover that
misses a zero would still do no harm here. -/
theorem Reduced.adjustUntilCovered {budget : Nat} {finished : Progress Rat}
    (reduced : Reduced costs matrix size)
    (succeeds : adjustUntilCovered options budget matrix = .ok finished) :
    Reduced costs finished.matrix size := by
  fun_induction Assignment.adjustUntilCovered options budget matrix generalizing finished with
  | case1 budget matrix cover =>
      cases succeeds
      exact reduced
  | case2 matrix cover => cases succeeds
  | case3 matrix cover short budget step =>
      rename_i inductionHypothesis
      rcases Checks.bind_eq_ok_iff.mp succeeds with ⟨later, continued, same⟩
      cases same
      have fits := fits_cover options.strategy options.tolerance matrix
      rw [reduced.square.length_eq] at fits
      have kept := inductionHypothesis (reduced.adjustmentStep fits) continued
      exact kept

/-- The second phase keeps the invariant and ends with a column for every
row. -/
theorem Reduced.adjustUntilMatched {budget : Nat} {finished : Progress Rat}
    (reduced : Reduced costs matrix size)
    (succeeds : adjustUntilMatched options budget matrix = .ok finished) :
    Reduced costs finished.matrix size ∧
      ((zeroMatching options.tolerance finished.matrix).columns size).all Option.isSome = true := by
  fun_induction Assignment.adjustUntilMatched options budget matrix generalizing finished with
  | case1 budget matrix matching =>
      rename_i complete
      cases succeeds
      rw [reduced.square.length_eq] at complete
      exact ⟨reduced, complete⟩
  | case2 matrix matching => cases succeeds
  | case3 matrix matching incomplete budget cover step =>
      rename_i inductionHypothesis
      rcases Checks.bind_eq_ok_iff.mp succeeds with ⟨later, continued, same⟩
      cases same
      have fits := fits_coverOfMatching options.tolerance matrix matching
      rw [reduced.square.length_eq] at fits
      have kept := inductionHypothesis (reduced.adjustmentStep fits) continued
      exact kept

/-! ## The matching on the zeros -/

theorem zeroCells_has_iff (square : Square matrix size) {tolerance : Rat} {row column : Nat} :
    (zeroCells tolerance matrix).has row column = true ↔
      row < size ∧ column < size ∧ |cell matrix row column| < tolerance := by
  rw [zeroCells, CellSet.has_ofTest_iff]
  constructor
  · rintro ⟨entries, value, found, entered, small⟩
    rcases List.getElem?_eq_some_iff.mp found with ⟨rowInside, -⟩
    rcases List.getElem?_eq_some_iff.mp entered with ⟨columnInside, -⟩
    rw [square.length_eq] at rowInside
    rw [square.length_row entries (List.mem_of_getElem? found)] at columnInside
    rw [cell_eq found entered, ← magnitude_eq_abs]
    exact ⟨rowInside, columnInside, of_decide_eq_true small⟩
  · rintro ⟨rowInside, columnInside, small⟩
    rcases square.exists_cell rowInside columnInside with ⟨entries, found, entered⟩
    rw [← magnitude_eq_abs] at small
    exact ⟨entries, _, found, entered, decide_eq_true small⟩

theorem permutation_zeroMatching (square : Square matrix size) {tolerance : Rat}
    (complete : ((zeroMatching tolerance matrix).columns size).all Option.isSome = true) :
    (permutation (zeroMatching tolerance matrix) size).Perm (List.range size) ∧
      ∀ row column, (permutation (zeroMatching tolerance matrix) size)[row]? = some column →
        cell matrix row column < tolerance := by
  have proper : Matching.Proper (zeroCells tolerance matrix).has (zeroMatching tolerance matrix) :=
    maximumMatching_proper _ _
  constructor
  · apply permutation_perm complete proper
    intro row column zero
    exact ((zeroCells_has_iff square).mp zero).2.1
  · intro row column found
    have member := mem_of_getElem?_permutation complete found
    have small := ((zeroCells_has_iff square).mp (proper.allowed_of_mem _ member)).2.2
    exact (le_abs_self _).trans_lt small

end Assignment
end Optimum

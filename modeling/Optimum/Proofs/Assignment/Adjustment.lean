import Mathlib.Algebra.BigOperators.Fin
import Optimum.Proofs.Assignment.GreedyCover
import Optimum.Proofs.Assignment.Reduction

namespace Optimum
namespace Assignment

open Scalar

/-!
# What an adjustment does

A cover with fewer lines than the table has rows leaves a cell open, and where
it contains all zeros, no open entry is a zero.  So an adjustment is by at least
the tolerance.  It takes the amount from every cell of an uncovered row and gives
it back to every cell of a covered column: the total falls by the amount once
for each row and each line that the cover lacks.
-/

variable {matrix : List (List Rat)} {cover : Cover} {size row column : Nat} {tolerance : Rat}

/-! ## Covers of the zeros -/

/-- A cover of the zeros of a square table.  Both strategies are known by this
alone where the trace of a run is concerned. -/
structure ZeroCover (tolerance : Rat) (matrix : List (List Rat)) (size : Nat) (cover : Cover) :
    Prop where
  fits : cover.Fits size
  covers : ∀ row < size, ∀ column < size, |cell matrix row column| < tolerance →
    row ∈ cover.rowSet ∨ column ∈ cover.columnSet

theorem zeroCover_of_covers (square : Square matrix size) (fits : cover.Fits size)
    (covers : Covers (zeroCells tolerance matrix).has size size cover.rowSet cover.columnSet) :
    ZeroCover tolerance matrix size cover where
  fits := fits
  covers := fun row rowInside column columnInside small =>
    covers row rowInside column columnInside
      ((zeroCells_has_iff square).mpr ⟨rowInside, columnInside, small⟩)

theorem zeroCover_coverOfMatching (square : Square matrix size) (tolerance : Rat)
    (matching : Matching) :
    ZeroCover tolerance matrix size (coverOfMatching tolerance matrix matching) := by
  have fits := fits_coverOfMatching tolerance matrix matching
  have covers := covers_matchingCover (zeroCells tolerance matrix).has matrix.length matching
  rw [square.length_eq] at fits covers
  refine zeroCover_of_covers square fits ?_
  rwa [coverOfMatching, square.length_eq]

/-- Both strategies cover all zeros.  What follows from that alone holds of
both, whether their covers are smallest or not. -/
theorem zeroCover_cover (square : Square matrix size) (strategy : CoverStrategy)
    (tolerance : Rat) :
    ZeroCover tolerance matrix size (strategy.cover tolerance matrix) := by
  cases strategy with
  | greedy =>
      have fits := fits_cover .greedy tolerance matrix
      have covers := covers_greedyCover (zeroCells tolerance matrix).has matrix.length
      rw [square.length_eq] at fits covers
      refine zeroCover_of_covers square fits ?_
      rwa [CoverStrategy.cover, square.length_eq]
  | minimum => exact zeroCover_coverOfMatching square tolerance _

/-! ## The open cells -/

theorem Cover.mem_covered_iff_getD {flags : List Bool} {index : Nat} :
    index ∈ covered flags ↔ flags.getD index false = true := by
  rw [mem_covered_iff, List.getD_eq_getElem?_getD]
  cases flags[index]? with
  | none => simp
  | some flag => simp

theorem Cover.rowFlag_eq (cover : Cover) (row : Nat) :
    cover.rows.getD row false = decide (row ∈ cover.rowSet) := by
  rw [Bool.eq_iff_iff, decide_eq_true_iff, rowSet, List.mem_toFinset, mem_covered_iff_getD]

theorem Cover.columnFlag_eq (cover : Cover) (column : Nat) :
    cover.columns.getD column false = decide (column ∈ cover.columnSet) := by
  rw [Bool.eq_iff_iff, decide_eq_true_iff, columnSet, List.mem_toFinset, mem_covered_iff_getD]

/-- A cover with too few lines leaves a row and a column. -/
theorem exists_open (short : cover.lineCount < size) :
    ∃ row < size, ∃ column < size, row ∉ cover.rowSet ∧ column ∉ cover.columnSet := by
  have lines := cover.card_lines
  have rows : cover.rowSet.card < (Finset.range size).card := by
    rw [Finset.card_range]
    omega
  have columns : cover.columnSet.card < (Finset.range size).card := by
    rw [Finset.card_range]
    omega
  rcases Finset.exists_mem_notMem_of_card_lt_card rows with ⟨row, rowInside, rowOpen⟩
  rcases Finset.exists_mem_notMem_of_card_lt_card columns with ⟨column, columnInside, columnOpen⟩
  exact ⟨row, Finset.mem_range.mp rowInside, column, Finset.mem_range.mp columnInside,
    rowOpen, columnOpen⟩

theorem mem_uncovered_of_cell (square : Square matrix size) (fits : cover.Fits size)
    (rowInside : row < size) (columnInside : column < size) (rowOpen : row ∉ cover.rowSet)
    (columnOpen : column ∉ cover.columnSet) : cell matrix row column ∈ uncovered cover matrix := by
  rcases square.exists_cell rowInside columnInside with ⟨entries, found, entered⟩
  have rowFlag : cover.rows[row]? = some false := by
    rw [getElem?_eq_some_getD (fits.length_rows.symm ▸ rowInside), cover.rowFlag_eq,
      decide_eq_false rowOpen]
  have columnFlag : cover.columns[column]? = some false := by
    rw [getElem?_eq_some_getD (fits.length_columns.symm ▸ columnInside), cover.columnFlag_eq,
      decide_eq_false columnOpen]
  exact mem_uncovered_iff.mpr ⟨row, column, entries, rowFlag, columnFlag, found, entered⟩

/-- The amount of an adjustment is the entry of an open cell. -/
theorem exists_least_open (square : Square matrix size) (fits : cover.Fits size)
    (short : cover.lineCount < size) :
    ∃ row < size, ∃ column < size, row ∉ cover.rowSet ∧ column ∉ cover.columnSet ∧
      cell matrix row column = least (uncovered cover matrix) := by
  rcases exists_open short with ⟨row, rowInside, column, columnInside, rowOpen, columnOpen⟩
  have member := mem_uncovered_of_cell square fits rowInside columnInside rowOpen columnOpen
  rcases mem_uncovered_iff.mp (least_mem (List.ne_nil_of_mem member)).1 with
    ⟨row, column, entries, rowFlag, columnFlag, found, entered⟩
  rcases List.getElem?_eq_some_iff.mp rowFlag with ⟨rowInside, -⟩
  rcases List.getElem?_eq_some_iff.mp columnFlag with ⟨columnInside, -⟩
  refine ⟨row, fits.length_rows ▸ rowInside, column, fits.length_columns ▸ columnInside, ?_, ?_,
    cell_eq found entered⟩
  · rw [Cover.rowSet, List.mem_toFinset, Cover.mem_covered_iff, rowFlag, Option.some_inj]
    exact Bool.false_ne_true
  · rw [Cover.columnSet, List.mem_toFinset, Cover.mem_covered_iff, columnFlag, Option.some_inj]
    exact Bool.false_ne_true

/-! ## The total of a table -/

def total (matrix : List (List Rat)) : Rat :=
  (matrix.map List.sum).sum

theorem Square.total_eq (square : Square matrix size) :
    total matrix = ∑ row ∈ Finset.range size, ∑ column ∈ Finset.range size,
      cell matrix row column := by
  have rows : ∀ row : Fin matrix.length,
      matrix[row.val].sum = ∑ column ∈ Finset.range size, cell matrix row column := by
    intro row
    have entries : matrix.getD row [] = matrix[row.val] := List.getD_eq_getElem _ _ row.isLt
    simp only [cell, entries]
    rw [← sum_eq_sum, sum_eq_sum_range, square.length_row _ (List.getElem_mem _)]
  rw [total, ← Fin.sum_univ_fun_getElem, Finset.sum_congr rfl fun row _ => rows row,
    ← Finset.sum_range fun row => ∑ column ∈ Finset.range size, cell matrix row column,
    square.length_eq]

theorem sum_flagged {flags : List Bool} (length : flags.length = size) (amount : Rat) :
    ∑ index ∈ Finset.range size, (if flags.getD index false then amount else 0) =
      flags.count true * amount := by
  have flagged : (Finset.range size).filter (fun index => flags.getD index false = true) =
      (Cover.covered flags).toFinset := by
    ext index
    rw [Finset.mem_filter, Finset.mem_range, List.mem_toFinset, ← Cover.mem_covered_iff_getD,
      and_iff_right_iff_imp, Cover.mem_covered_iff, ← length]
    exact fun found => (List.getElem?_eq_some_iff.mp found).1
  rw [← Finset.sum_filter, flagged, Finset.sum_const,
    List.toFinset_card_of_nodup (Cover.nodup_covered flags), Cover.length_covered, nsmul_eq_mul]

/-- The total falls by the amount for each row and each line that is lacking.
It is the measure that an adjustment lowers. -/
theorem total_adjusted (square : Square matrix size) (fits : cover.Fits size) (amount : Rat) :
    total (adjusted cover amount matrix) =
      total matrix - size * (size - cover.lineCount) * amount := by
  have rows : ∑ row ∈ Finset.range size, (if cover.rows.getD row false then 0 else amount) =
      size * amount - cover.rows.count true * amount := by
    rw [← sum_flagged fits.length_rows amount, eq_sub_iff_add_eq, ← Finset.sum_add_distrib]
    have each : ∀ row, (if cover.rows.getD row false then 0 else amount) +
        (if cover.rows.getD row false then amount else 0) = amount := by
      intro row
      cases cover.rows.getD row false with
      | false => exact add_zero amount
      | true => exact zero_add amount
    simp only [each, Finset.sum_const, Finset.card_range, nsmul_eq_mul]
  have columns := sum_flagged fits.length_columns (-amount)
  have cells : ∀ row ∈ Finset.range size, ∑ column ∈ Finset.range size,
      cell (adjusted cover amount matrix) row column =
        ∑ column ∈ Finset.range size, cell matrix row column -
          size * (if cover.rows.getD row false then 0 else amount) -
          cover.columns.count true * -amount := by
    intro row rowMember
    have rowInside := Finset.mem_range.mp rowMember
    rw [← columns, ← nsmul_eq_mul, ← Finset.card_range size, ← Finset.sum_const,
      Finset.card_range, ← Finset.sum_sub_distrib, ← Finset.sum_sub_distrib]
    refine Finset.sum_congr rfl fun column columnMember => ?_
    exact square.cell_adjusted fits rowInside (Finset.mem_range.mp columnMember)
  rw [(square.adjusted fits).total_eq, square.total_eq, Finset.sum_congr rfl cells,
    Finset.sum_sub_distrib, Finset.sum_sub_distrib, ← Finset.mul_sum, rows, Finset.sum_const,
    Finset.card_range, nsmul_eq_mul, Cover.lineCount, Nat.cast_add]
  ring

/-! ## Adjustments by a cover with too few lines -/

section Short

variable {costs : List (List Rat)} (reduced : Reduced costs matrix size)
  (zeroCover : ZeroCover tolerance matrix size cover) (short : cover.lineCount < size)

include reduced zeroCover short

/-- No open entry is a zero, and the amount is one of them.  So every adjustment
takes at least the tolerance. -/
theorem tolerance_le_amount : tolerance ≤ least (uncovered cover matrix) := by
  rcases exists_least_open reduced.square zeroCover.fits short with
    ⟨row, rowInside, column, columnInside, rowOpen, columnOpen, same⟩
  have nonneg := reduced.nonneg row rowInside column columnInside
  rw [← same]
  by_contra below
  have small : |cell matrix row column| < tolerance := by
    rw [abs_of_nonneg nonneg]
    exact not_le.mp below
  rcases zeroCover.covers row rowInside column columnInside small with byRow | byColumn
  · exact rowOpen byRow
  · exact columnOpen byColumn

theorem total_adjustmentStep_lt (positive : 0 < tolerance) :
    total (adjustmentStep cover matrix).matrix < total matrix := by
  have amountPositive := positive.trans_le (tolerance_le_amount reduced zeroCover short)
  have lacking : (0 : Rat) < size - cover.lineCount := sub_pos.mpr (Nat.cast_lt.mpr short)
  have sizePositive : (0 : Rat) < size := Nat.cast_pos.mpr (Nat.zero_lt_of_lt short)
  rw [adjustmentStep, total_adjusted reduced.square zeroCover.fits]
  exact sub_lt_self _ (mul_pos (mul_pos sizePositive lacking) amountPositive)

end Short

/-! ## The matching on the zeros -/

theorem maximum_zeroMatching (square : Square matrix size) (tolerance : Rat) :
    (zeroMatching tolerance matrix).Maximum (zeroCells tolerance matrix).has size size := by
  rw [zeroMatching, square.length_eq]
  exact Matching.maximum_maximumMatching (zeroCells tolerance matrix).has size

/-- A smallest cover has a line for each cell of the matching. -/
theorem lineCount_coverOfMatching (square : Square matrix size) (tolerance : Rat) :
    (coverOfMatching tolerance matrix (zeroMatching tolerance matrix)).lineCount =
      (zeroMatching tolerance matrix).length := by
  have maximum := maximum_zeroMatching square tolerance
  rw [← Cover.card_lines, coverOfMatching, square.length_eq]
  exact maximum.tightCover.card_eq maximum.onTable

theorem all_columns_zeroMatching_iff (square : Square matrix size) :
    ((zeroMatching tolerance matrix).columns matrix.length).all Option.isSome = true ↔
      size ≤ (zeroMatching tolerance matrix).length := by
  rw [square.length_eq]
  exact (maximum_zeroMatching square tolerance).onTable.all_columns_iff

/-- Where not all rows are matched, the cover of the matching has too few lines.
So an adjustment by it lowers the total. -/
theorem lineCount_coverOfMatching_lt (square : Square matrix size)
    (incomplete : ¬ ((zeroMatching tolerance matrix).columns matrix.length).all Option.isSome = true) :
    (coverOfMatching tolerance matrix (zeroMatching tolerance matrix)).lineCount < size := by
  rw [all_columns_zeroMatching_iff square, not_le] at incomplete
  rwa [lineCount_coverOfMatching square]

end Assignment
end Optimum

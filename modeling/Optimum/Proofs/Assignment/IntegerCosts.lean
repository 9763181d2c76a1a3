import Mathlib.Algebra.Ring.Subring.Basic
import Optimum.Proofs.Assignment.Convergence
import Optimum.Proofs.Assignment.HungarianAnswer

namespace Optimum
namespace Assignment

open Scalar

/-!
# Integer costs bound the adjustments

A greedy cover may have more lines than are needed and fewer than the next one,
and the first phase may end before all rows can be matched.  So neither the zeros
nor the matched rows measure how far a run has come.  The total of the table does.
Where all costs are integers, all tables are, and the smallest open entry is at
least one; a cover lacks at least one line, so an adjustment takes the size of
the table from its total.  The total is never negative, and both phases draw on
it as they draw on their budget.
-/

variable {costs matrix : List (List Rat)} {cover : Cover} {size : Nat} {tolerance value : Rat}

/-! ## Integers -/

/-- The integers among the rational numbers. -/
def integers : Subring Rat :=
  (Int.castRingHom Rat).range

theorem mem_integers_iff : value ∈ integers ↔ ∃ number : Int, value = number := by
  rw [integers, RingHom.mem_range]
  exact exists_congr fun number => eq_comm

theorem one_le_of_mem_integers (member : value ∈ integers) (positive : 0 < value) : 1 ≤ value := by
  rcases mem_integers_iff.mp member with ⟨number, rfl⟩
  exact_mod_cast Int.cast_pos.mp positive

/-! ## Tables of integers -/

/-- A table that the method comes to from integer costs.  Sums and differences
of integers are integers, so the property is kept for free. -/
structure IntegralTable (costs matrix : List (List Rat)) (size : Nat) : Prop
    extends Reduced costs matrix size where
  integral : ∀ row < size, ∀ column < size, cell matrix row column ∈ integers

theorem Reduced.total_nonneg (reduced : Reduced costs matrix size) : 0 ≤ total matrix := by
  rw [reduced.square.total_eq]
  refine Finset.sum_nonneg fun row rowMember => Finset.sum_nonneg fun column columnMember => ?_
  exact reduced.nonneg row (Finset.mem_range.mp rowMember) column (Finset.mem_range.mp columnMember)

namespace IntegralTable

section Adjustment

variable (table : IntegralTable costs matrix size)
  (zeroCover : ZeroCover tolerance matrix size cover) (short : cover.lineCount < size)

include table zeroCover short

/-- The amount of an adjustment is an entry of the table, and so it is an
integer. -/
theorem least_mem_integers : least (uncovered cover matrix) ∈ integers := by
  rcases exists_least_open table.square zeroCover.fits short with
    ⟨row, rowInside, column, columnInside, -, -, same⟩
  exact same ▸ table.integral row rowInside column columnInside

theorem adjustmentStep : IntegralTable costs (adjustmentStep cover matrix).matrix size where
  toReduced := table.toReduced.adjustmentStep zeroCover.fits
  integral := by
    intro row rowInside column columnInside
    have amount := table.least_mem_integers zeroCover short
    rw [Assignment.adjustmentStep,
      table.square.cell_adjusted zeroCover.fits rowInside columnInside]
    -- What a cell gains or loses is the amount, its negative or nothing.
    refine sub_mem (sub_mem (table.integral row rowInside column columnInside) ?_) ?_
    · split
      · exact zero_mem _
      · exact amount
    · split
      · exact neg_mem amount
      · exact zero_mem _

/-- An adjustment takes at least the size of the table from the total: a
positive integer for each row. -/
theorem total_adjustmentStep_add_le (positive : 0 < tolerance) :
    total (Assignment.adjustmentStep cover matrix).matrix + size ≤ total matrix := by
  have amount : 1 ≤ least (uncovered cover matrix) :=
    one_le_of_mem_integers (table.least_mem_integers zeroCover short)
      (positive.trans_le (tolerance_le_amount table.toReduced zeroCover short))
  have lacking : (1 : Rat) ≤ size - cover.lineCount := by
    rw [le_sub_iff_add_le, add_comm]
    exact_mod_cast short
  rw [Assignment.adjustmentStep, total_adjusted table.square zeroCover.fits]
  have taken : (size : Rat) ≤ size * (size - cover.lineCount) * least (uncovered cover matrix) := by
    calc (size : Rat) = size * 1 * 1 := by rw [mul_one, mul_one]
      _ ≤ size * (size - cover.lineCount) * least (uncovered cover matrix) := by gcongr
  linarith

theorem total_pos (positive : 0 < tolerance) : 0 < total matrix := by
  have sizePositive : (0 : Rat) < size := Nat.cast_pos.mpr (Nat.zero_lt_of_lt short)
  have rest := (table.adjustmentStep zeroCover short).total_nonneg
  have falls := table.total_adjustmentStep_add_le zeroCover short positive
  linarith

end Adjustment

end IntegralTable

/-! ## What a phase spends -/

/-- How a phase ends.  For every adjustment it has drawn one from its budget and
the size of the table from the total, or the budget is too small for the total. -/
inductive Spends (costs start : List (List Rat)) (size budget : Nat) :
    Except (SolveError Rat) (Progress Rat) → Prop
  | enough {finished : Progress Rat} (table : IntegralTable costs finished.matrix size)
      (total_le : total finished.matrix + finished.steps.countP Step.isAdjustment * size ≤
        total start)
      (budget_eq : finished.budget + finished.steps.countP Step.isAdjustment = budget) :
      Spends costs start size budget (.ok finished)
  | short (fault : SolveError Rat) (small : budget * size < total start) :
      Spends costs start size budget (.error fault)

namespace Spends

variable {start : List (List Rat)} {budget : Nat} {result : Except (SolveError Rat) (Progress Rat)}

theorem done (table : IntegralTable costs matrix size) (budget : Nat) {steps : List (Step Rat)}
    (unadjusted : steps.countP Step.isAdjustment = 0) :
    Spends costs matrix size budget (.ok ⟨matrix, steps, budget⟩) := by
  refine .enough table ?_ ?_
  · rw [unadjusted, Nat.cast_zero, zero_mul, add_zero]
  · rw [unadjusted, Nat.add_zero]

theorem exhausted (fault : SolveError Rat) (left : 0 < total start) :
    Spends costs start size 0 (.error fault) := by
  refine .short fault ?_
  rwa [Nat.cast_zero, zero_mul]

theorem round (falls : total (adjustmentStep cover matrix).matrix + size ≤ total matrix)
    (later : Spends costs (adjustmentStep cover matrix).matrix size budget result) :
    Spends costs matrix size (budget + 1) (result >>= fun finished => .ok
      { finished with
        steps := coverStep cover matrix :: adjustmentStep cover matrix :: finished.steps }) := by
  cases later with
  | enough table total_le budget_eq =>
      refine .enough table ?_ ?_
      · rw [countP_round]
        push_cast
        linarith
      · rw [countP_round, ← Nat.add_assoc]
        exact congrArg Nat.succ budget_eq
  | short fault small =>
      refine .short fault ?_
      push_cast
      linarith

/-- A budget that is large enough for the total is large enough for what is left. -/
theorem exists_ok (spends : Spends costs start size budget result)
    (enough : total start ≤ budget * size) :
    ∃ finished, result = .ok finished ∧ IntegralTable costs finished.matrix size ∧
      total finished.matrix ≤ finished.budget * size := by
  cases spends with
  | @enough finished table total_le budget_eq =>
      refine ⟨finished, rfl, table, ?_⟩
      rw [← budget_eq, Nat.cast_add, add_mul] at enough
      linarith
  | short fault small => exact absurd enough (not_le.mpr small)

end Spends

namespace IntegralTable

variable {options : Options Rat} (budget : Nat) (table : IntegralTable costs matrix size)
  (positive : 0 < options.tolerance)

include table positive

theorem spends_adjustUntilCovered :
    Spends costs matrix size budget (adjustUntilCovered options budget matrix) := by
  fun_induction Assignment.adjustUntilCovered options budget matrix with
  | case1 budget matrix cover => exact .done table budget rfl
  | case2 matrix cover short =>
      have zeroCover := zeroCover_cover table.square options.strategy options.tolerance
      rw [table.square.length_eq, not_le] at short
      exact .exhausted _ (table.total_pos zeroCover short positive)
  | case3 matrix cover short budget step =>
      rename_i inductionHypothesis
      have zeroCover := zeroCover_cover table.square options.strategy options.tolerance
      rw [table.square.length_eq, not_le] at short
      exact .round (table.total_adjustmentStep_add_le zeroCover short positive)
        (inductionHypothesis (table.adjustmentStep zeroCover short))

theorem spends_adjustUntilMatched :
    Spends costs matrix size budget (adjustUntilMatched options budget matrix) := by
  fun_induction Assignment.adjustUntilMatched options budget matrix with
  | case1 budget matrix matching => exact .done table budget rfl
  | case2 matrix matching incomplete =>
      have zeroCover := zeroCover_coverOfMatching table.square options.tolerance matching
      have short := lineCount_coverOfMatching_lt table.square incomplete
      exact .exhausted _ (table.total_pos zeroCover short positive)
  | case3 matrix matching incomplete budget cover step =>
      rename_i inductionHypothesis
      have zeroCover := zeroCover_coverOfMatching table.square options.tolerance matching
      have short := lineCount_coverOfMatching_lt table.square incomplete
      exact .round (table.total_adjustmentStep_add_le zeroCover short positive)
        (inductionHypothesis (table.adjustmentStep zeroCover short))

end IntegralTable

/-! ## The table of a matrix after both reductions -/

section Start

variable (square : Square matrix size)
  (integral : ∀ row < size, ∀ column < size, cell matrix row column ∈ integers)

include square integral

theorem integral_reduceRows : ∀ row < size, ∀ column < size,
    cell (reduceRows (rowMinima matrix) matrix) row column ∈ integers := by
  intro row rowInside column columnInside
  rcases square.exists_rowMinimum rowInside with ⟨least, leastInside, same⟩
  rw [square.cell_reduceRows (by rw [rowMinima, List.length_map, square.length_eq]) rowInside
    columnInside, same]
  exact sub_mem (integral row rowInside column columnInside) (integral row rowInside least leastInside)

theorem integral_reduceColumns : ∀ row < size, ∀ column < size,
    cell (reduceColumns (columnMinima matrix) matrix) row column ∈ integers := by
  intro row rowInside column columnInside
  rcases square.exists_columnMinimum columnInside with ⟨least, leastInside, same⟩
  rw [square.cell_reduceColumns (by rw [columnMinima, List.length_map, List.length_range,
    square.columnCount_eq]) rowInside columnInside, same]
  exact sub_mem (integral row rowInside column columnInside)
    (integral least leastInside column columnInside)

end Start

namespace CostMatrix

variable {matrix : CostMatrix Rat}

/-- The table that the first phase starts from. -/
def reducedTable (matrix : CostMatrix Rat) : List (List Rat) :=
  let rowReduced := reduceRows (rowMinima matrix.balance.costs) matrix.balance.costs
  reduceColumns (columnMinima rowReduced) rowReduced

theorem integralTable_reducedTable (valid : matrix.validate = .ok ()) (integral : matrix.Integral) :
    IntegralTable matrix.balance.costs matrix.reducedTable matrix.size where
  toReduced := reduced_start (square_balance_of_validate valid)
  integral := by
    have square := square_balance_of_validate valid
    refine integral_reduceColumns (reduced_reduceRows square).square
      (integral_reduceRows square fun row rowInside column columnInside => ?_)
    rcases square.exists_cell rowInside columnInside with ⟨entries, found, entered⟩
    rcases mem_balance (List.mem_of_getElem? found) (List.mem_of_getElem? entered) with
      ⟨before, inside, kept⟩ | zero
    · exact mem_integers_iff.mpr (integral before inside _ kept)
    · exact zero ▸ zero_mem _

theorem size_pos (valid : matrix.validate = .ok ()) : 0 < matrix.size := by
  unfold validate at valid
  split at valid
  · cases valid
  · next shape =>
      rw [not_or] at shape
      exact lt_max_of_lt_left (Nat.pos_of_ne_zero shape.1)

end CostMatrix

/-! ## Whole runs -/

/-- The two phases of a run, and the adjustments that it records. -/
theorem phases_of_hungarian {options : Options Rat} {matrix : CostMatrix Rat}
    {solution : Solution Rat} (solved : hungarian options matrix = .ok solution) :
    ∃ covered matched,
      adjustUntilCovered options options.maxAdjustments matrix.reducedTable = .ok covered ∧
      adjustUntilMatched options covered.budget covered.matrix = .ok matched ∧
      solution.steps.countP Step.isAdjustment =
        covered.steps.countP Step.isAdjustment + matched.steps.countP Step.isAdjustment := by
  rcases Checks.bind_eq_ok_iff.mp solved with ⟨⟨⟩, -, started⟩
  rcases Checks.bind_eq_ok_iff.mp started with ⟨covered, firstPhase, rest⟩
  rcases Checks.bind_eq_ok_iff.mp rest with ⟨matched, secondPhase, same⟩
  cases same
  refine ⟨covered, matched, firstPhase, secondPhase, ?_⟩
  rw [Solution.ofPermutation, List.countP_append, List.countP_append, List.countP_append]
  show 0 + covered.steps.countP Step.isAdjustment + matched.steps.countP Step.isAdjustment + 0 = _
  rw [Nat.zero_add, Nat.add_zero]

/-- With integer costs a run takes no more adjustments than the reduced total
over the size, and as many as that are always enough, for either strategy.  Each
adjustment takes an integer from each row, so the total pays for all of them. -/
theorem hungarian_integral_converges {matrix : CostMatrix Rat} (valid : matrix.validate = .ok ())
    (integral : matrix.Integral) (options : Options Rat) (positive : 0 < options.tolerance) :
    (∀ solution, hungarian options matrix = .ok solution →
      solution.steps.countP Step.isAdjustment ≤ total matrix.reducedTable / matrix.size) ∧
    (total matrix.reducedTable / matrix.size ≤ options.maxAdjustments →
      ∃ solution, hungarian options matrix = .ok solution) := by
  have sizePositive : (0 : Rat) < matrix.size := Nat.cast_pos.mpr (CostMatrix.size_pos valid)
  have first := (CostMatrix.integralTable_reducedTable valid integral).spends_adjustUntilCovered
    options.maxAdjustments positive
  constructor
  · intro solution solved
    rcases phases_of_hungarian solved with ⟨covered, matched, firstPhase, secondPhase, counted⟩
    rw [firstPhase] at first
    cases first with
    | enough table firstTotal _ =>
        have second := table.spends_adjustUntilMatched covered.budget positive
        rw [secondPhase] at second
        cases second with
        | enough last secondTotal _ =>
            -- Both phases have spent from one total, which ends at no less than zero.
            have remains := last.total_nonneg
            rw [counted, le_div_iff₀ sizePositive, Nat.cast_add, add_mul]
            linarith
  · intro enough
    rw [div_le_iff₀ sizePositive] at enough
    rcases first.exists_ok enough with ⟨covered, firstPhase, table, left⟩
    rcases (table.spends_adjustUntilMatched covered.budget positive).exists_ok left with
      ⟨matched, secondPhase, -, -⟩
    exact ⟨_, Checks.bind_eq_ok_iff.mpr ⟨(), valid, Checks.bind_eq_ok_iff.mpr
      ⟨covered, firstPhase, Checks.bind_eq_ok_iff.mpr ⟨matched, secondPhase, rfl⟩⟩⟩⟩

/-- The greedy cover of the four rows has four lines, so it is the second phase
that makes the adjustment. -/
theorem hungarian_integral_converges_fourRows :
    fourRows.validate = .ok () ∧ fourRows.Integral ∧ (0 : Rat) < 1 / 10 ∧
      total fourRows.reducedTable / fourRows.size ≤ (4 : Nat) ∧
      ∃ solution, hungarian ⟨.greedy, 4, 1 / 10⟩ fourRows = .ok solution ∧
        solution.steps.countP Step.isAdjustment = 1 := by
  have valid : fourRows.validate = .ok () := by decide +kernel
  have integral : fourRows.Integral := by
    intro entries member value among
    refine ⟨value.num, ?_⟩
    revert value
    revert entries
    decide +kernel
  have positive : (0 : Rat) < 1 / 10 := by decide +kernel
  have enough : total fourRows.reducedTable / fourRows.size ≤ (4 : Nat) := by decide +kernel
  have counts : (hungarian ⟨.greedy, 4, 1 / 10⟩ fourRows).map (fun solution =>
      solution.steps.countP Step.isAdjustment) = .ok 1 := by decide +kernel
  rcases (hungarian_integral_converges valid integral ⟨.greedy, 4, 1 / 10⟩ positive).2 enough with
    ⟨solution, solved⟩
  rw [solved] at counts
  exact ⟨valid, integral, positive, enough, solution, solved, Except.ok.inj counts⟩

end Assignment
end Optimum

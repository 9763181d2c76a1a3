import Optimum.Proofs.Assignment.Trace

namespace Optimum
namespace Assignment

open Scalar

/-!
# Smallest covers need few adjustments

The matching is found afresh after every adjustment, yet the search does not
lose what it had.  An adjustment by a smallest cover changes no cell that is
covered once, so the cells of the old matching and the zeros of the reached rows
stay zeros.  The new matching is therefore as large.  Where it is not larger, its
cover is tight for the old matching too, so it contains all the columns that were
reached before, whichever matching was found; and it contains the column of the
new zero besides.

The number of matched rows, and among equal ones that of covered columns, grows
with every adjustment.  Both stay below the number of rows until all are matched.
-/

variable {matrix : List (List Rat)} {cover : Cover} {size row column : Nat} {amount : Rat}

/-! ## Cells of an adjusted table -/

theorem Square.cell_adjusted_of_once (square : Square matrix size) (fits : cover.Fits size)
    (rowInside : row < size) (columnInside : column < size)
    (once : row ∈ cover.rowSet ↔ column ∉ cover.columnSet) :
    cell (Assignment.adjusted cover amount matrix) row column = cell matrix row column := by
  rw [square.cell_adjusted fits rowInside columnInside, cover.rowFlag_eq, cover.columnFlag_eq]
  by_cases covered : row ∈ cover.rowSet
  · simp [covered, once.mp covered]
  · simp [covered, not_not.mp (mt once.mpr covered)]

theorem Square.cell_adjusted_of_open (square : Square matrix size) (fits : cover.Fits size)
    (rowInside : row < size) (columnInside : column < size) (rowOpen : row ∉ cover.rowSet)
    (columnOpen : column ∉ cover.columnSet) :
    cell (Assignment.adjusted cover amount matrix) row column =
      cell matrix row column - amount := by
  rw [square.cell_adjusted fits rowInside columnInside, cover.rowFlag_eq, cover.columnFlag_eq]
  simp [rowOpen, columnOpen]

/-! ## One round with a smallest cover -/

/-- The cover that the matching on the zeros of a table leads to. -/
def smallestCover (tolerance : Rat) (matrix : List (List Rat)) : Cover :=
  CoverStrategy.minimum.cover tolerance matrix

/-- The table after an adjustment by that cover. -/
def nextTable (tolerance : Rat) (matrix : List (List Rat)) : List (List Rat) :=
  (adjustmentStep (smallestCover tolerance matrix) matrix).matrix

section Round

variable (square : Square matrix size) (tolerance : Rat)

include square

theorem fits_smallestCover : (smallestCover tolerance matrix).Fits size :=
  (zeroCover_cover square .minimum tolerance).fits

theorem square_nextTable : Square (nextTable tolerance matrix) size :=
  square.adjusted (fits_smallestCover square tolerance)

theorem smallestCover_eq : smallestCover tolerance matrix =
    matchingCover (zeroCells tolerance matrix).has size (zeroMatching tolerance matrix) := by
  rw [smallestCover, CoverStrategy.cover, coverOfMatching, square.length_eq]

theorem tightCover_smallestCover :
    (zeroMatching tolerance matrix).TightCover (zeroCells tolerance matrix).has size size
      (smallestCover tolerance matrix).rowSet (smallestCover tolerance matrix).columnSet := by
  rw [smallestCover_eq square]
  exact (maximum_zeroMatching square tolerance).tightCover

theorem lineCount_smallestCover :
    (smallestCover tolerance matrix).lineCount = (zeroMatching tolerance matrix).length :=
  lineCount_coverOfMatching square tolerance

variable {tolerance}

/-- A zero that is covered once stays a zero.  Only zeros on two lines are lost
by an adjustment. -/
theorem zero_nextTable (zero : (zeroCells tolerance matrix).has row column = true)
    (once : row ∈ (smallestCover tolerance matrix).rowSet ↔
      column ∉ (smallestCover tolerance matrix).columnSet) :
    (zeroCells tolerance (nextTable tolerance matrix)).has row column = true := by
  have fits := fits_smallestCover square tolerance
  rcases (zeroCells_has_iff square).mp zero with ⟨rowInside, columnInside, small⟩
  refine (zeroCells_has_iff (square_nextTable square tolerance)).mpr
    ⟨rowInside, columnInside, ?_⟩
  rwa [nextTable, adjustmentStep, square.cell_adjusted_of_once fits rowInside columnInside once]

variable (tolerance)

/-- The old matching is one of the new table, for a smallest cover has no two
lines on a cell of it. -/
theorem onTable_nextTable :
    (zeroMatching tolerance matrix).OnTable
      (zeroCells tolerance (nextTable tolerance matrix)).has size size := by
  have onTable := (maximum_zeroMatching square tolerance).onTable
  have tight := tightCover_smallestCover square tolerance
  refine { onTable with allowed_of_mem := fun pair paired => ?_ }
  have zero := onTable.allowed_of_mem pair paired
  rcases onTable.inside pair paired with ⟨rowInside, columnInside⟩
  refine zero_nextTable square zero ⟨fun byRow byColumn => ?_, fun columnOpen => ?_⟩
  · exact tight.row_not_mem onTable paired byColumn byRow
  · exact (tight.covers _ rowInside _ columnInside zero).resolve_right columnOpen

theorem lineCount_le_nextTable :
    (smallestCover tolerance matrix).lineCount ≤
      (smallestCover tolerance (nextTable tolerance matrix)).lineCount := by
  have next := tightCover_smallestCover (square_nextTable square tolerance) tolerance
  rw [lineCount_smallestCover square, ← Cover.card_lines]
  exact (onTable_nextTable square tolerance).length_le_of_covers next.covers

variable {tolerance}

/-- Where the new cover has no more lines, it leaves out the reached rows and
contains the reached columns. -/
theorem reached_nextTable
    (same : (smallestCover tolerance (nextTable tolerance matrix)).lineCount =
      (smallestCover tolerance matrix).lineCount) :
    (∀ row < size, row ∉ (smallestCover tolerance matrix).rowSet →
      row ∉ (smallestCover tolerance (nextTable tolerance matrix)).rowSet) ∧
      (smallestCover tolerance matrix).columnSet ⊆
        (smallestCover tolerance (nextTable tolerance matrix)).columnSet := by
  have covers := (tightCover_smallestCover square tolerance).covers
  have next := tightCover_smallestCover (square_nextTable square tolerance) tolerance
  -- As many lines as before, so the new cover is tight for the old matching too.
  rw [lineCount_smallestCover square, ← Cover.card_lines] at same
  have rowOpen : ∀ row ∈ reachedRows (zeroCells tolerance matrix).has size
      (zeroMatching tolerance matrix), row ∉ (smallestCover tolerance matrix).rowSet := by
    intro row member
    rw [smallestCover_eq square, mem_rowSet_iff]
    exact fun lined => lined.2 member
  have stays : ∀ row ∈ reachedRows (zeroCells tolerance matrix).has size
      (zeroMatching tolerance matrix), row < size → ∀ column < size,
      (zeroCells tolerance matrix).has row column = true →
        (zeroCells tolerance (nextTable tolerance matrix)).has row column = true := by
    intro row member rowInside column columnInside zero
    have left := rowOpen row member
    refine zero_nextTable square zero ⟨fun byRow => absurd byRow left, fun columnOpen => ?_⟩
    exact (covers row rowInside column columnInside zero).resolve_right columnOpen
  rcases reached_of_tightCover (onTable_nextTable square tolerance) ⟨next.covers, same.le⟩ stays
    with ⟨rows, columns⟩
  rw [← smallestCover_eq square] at columns
  refine ⟨fun row rowInside left => rows row ?_, columns⟩
  rw [smallestCover_eq square, mem_rowSet_iff] at left
  exact not_not.mp fun unreached => left ⟨rowInside, unreached⟩

/-- Where the new cover has no more lines, it contains the column of the new
zero besides. -/
theorem columnSet_ssubset_nextTable (positive : 0 < tolerance)
    (short : (smallestCover tolerance matrix).lineCount < size)
    (same : (smallestCover tolerance (nextTable tolerance matrix)).lineCount =
      (smallestCover tolerance matrix).lineCount) :
    (smallestCover tolerance matrix).columnSet ⊂
      (smallestCover tolerance (nextTable tolerance matrix)).columnSet := by
  have fits := fits_smallestCover square tolerance
  have next := tightCover_smallestCover (square_nextTable square tolerance) tolerance
  rcases reached_nextTable square same with ⟨rows, columns⟩
  rcases exists_least_open square fits short with
    ⟨row, rowInside, column, columnInside, rowOpen, columnOpen, amount⟩
  have zero : (zeroCells tolerance (nextTable tolerance matrix)).has row column = true := by
    refine (zeroCells_has_iff (square_nextTable square tolerance)).mpr
      ⟨rowInside, columnInside, ?_⟩
    rwa [nextTable, adjustmentStep, square.cell_adjusted_of_open fits rowInside columnInside
      rowOpen columnOpen, amount, sub_self, abs_zero]
  -- The row of the new zero is reached still, so only its column can cover it.
  refine Finset.ssubset_iff_subset_ne.mpr ⟨columns, fun equal => columnOpen ?_⟩
  rw [equal]
  exact (next.covers row rowInside column columnInside zero).resolve_left
    (rows row rowInside rowOpen)

end Round

/-! ## The rank of a table -/

/-- The lines of the smallest cover, and among equally many of them its columns.
An adjustment raises it, and it is bounded by the size of the table. -/
def rank (tolerance : Rat) (matrix : List (List Rat)) : Nat :=
  (smallestCover tolerance matrix).lineCount * matrix.length +
    (smallestCover tolerance matrix).columnSet.card

section Rank

variable {tolerance : Rat} (square : Square matrix size)
  (short : (smallestCover tolerance matrix).lineCount < size)

include square short

theorem rank_lt_sq : rank tolerance matrix < size * size := by
  have lines := (smallestCover tolerance matrix).card_lines
  have columns : (smallestCover tolerance matrix).columnSet.card < size := by omega
  calc rank tolerance matrix
      < (smallestCover tolerance matrix).lineCount * size + size := by
        rw [rank, square.length_eq]
        exact Nat.add_lt_add_left columns _
    _ = ((smallestCover tolerance matrix).lineCount + 1) * size := (Nat.succ_mul _ _).symm
    _ ≤ size * size := Nat.mul_le_mul_right size short

theorem rank_lt_nextTable (positive : 0 < tolerance) :
    rank tolerance matrix < rank tolerance (nextTable tolerance matrix) := by
  rw [rank, rank, square.length_eq, (square_nextTable square tolerance).length_eq]
  rcases (lineCount_le_nextTable square tolerance).lt_or_eq with grown | same
  · have lines := (smallestCover tolerance matrix).card_lines
    have rows := Nat.mul_le_mul_right size grown
    rw [Nat.succ_mul] at rows
    omega
  · rw [← same]
    exact Nat.add_lt_add_left (Finset.card_lt_card
      (columnSet_ssubset_nextTable square positive short same.symm)) _

theorem lacking_nextTable_lt (positive : 0 < tolerance) :
    size * size - rank tolerance (nextTable tolerance matrix) <
      size * size - rank tolerance matrix := by
  have below := rank_lt_sq square short
  have grows := rank_lt_nextTable square short positive
  omega

end Rank

/-! ## The first phase -/

/-- Whether a step is an adjustment. -/
def Step.isAdjustment (step : Step Rat) : Bool :=
  match step.action with
  | .adjustment _ => true
  | _ => false

theorem countP_round (cover : Cover) (matrix : List (List Rat)) (steps : List (Step Rat)) :
    (coverStep cover matrix :: adjustmentStep cover matrix :: steps).countP Step.isAdjustment =
      steps.countP Step.isAdjustment + 1 := by
  rw [List.countP_cons_of_neg Bool.false_ne_true, List.countP_cons_of_pos rfl]

variable {tolerance : Rat} {limit budget : Nat}

/-- The first phase ends with a matching of all rows, after no more adjustments
than the rank lacks. -/
theorem Square.adjustUntilCovered_eq_ok {finished : Progress Rat} (square : Square matrix size)
    (positive : 0 < tolerance)
    (succeeds : adjustUntilCovered ⟨.minimum, limit, tolerance⟩ budget matrix = .ok finished) :
    ((zeroMatching tolerance finished.matrix).columns finished.matrix.length).all
        Option.isSome = true ∧
      finished.steps.countP Step.isAdjustment ≤ size * size - rank tolerance matrix := by
  fun_induction adjustUntilCovered ⟨.minimum, limit, tolerance⟩ budget matrix
    generalizing finished with
  | case1 budget matrix cover =>
      rename_i enough
      cases succeeds
      have matched : size ≤ (zeroMatching tolerance matrix).length := by
        rw [← lineCount_smallestCover square]
        exact square.length_eq ▸ enough
      exact ⟨(all_columns_zeroMatching_iff square).mpr matched, Nat.zero_le _⟩
  | case2 matrix cover => cases succeeds
  | case3 matrix cover short budget step =>
      rename_i inductionHypothesis
      rcases Checks.bind_eq_ok_iff.mp succeeds with ⟨later, continued, same⟩
      cases same
      rw [square.length_eq, not_le] at short
      have fewer := lacking_nextTable_lt square short positive
      rcases inductionHypothesis (square_nextTable square tolerance) continued with
        ⟨matched, counted⟩
      refine ⟨matched, (countP_round cover matrix later.steps).trans_le ?_⟩
      exact (Nat.succ_le_succ counted).trans fewer

theorem Square.exists_adjustUntilCovered (square : Square matrix size) (positive : 0 < tolerance)
    (enough : size * size - rank tolerance matrix ≤ budget) :
    ∃ finished, adjustUntilCovered ⟨.minimum, limit, tolerance⟩ budget matrix = .ok finished := by
  fun_induction adjustUntilCovered ⟨.minimum, limit, tolerance⟩ budget matrix with
  | case1 budget matrix cover => exact ⟨_, rfl⟩
  | case2 matrix cover =>
      rename_i short
      rw [square.length_eq, not_le] at short
      have below := rank_lt_sq square short
      exact absurd enough (not_le.mpr (Nat.sub_pos_of_lt below))
  | case3 matrix cover short budget step =>
      rename_i inductionHypothesis
      rw [square.length_eq, not_le] at short
      have fewer := lacking_nextTable_lt square short positive
      rcases inductionHypothesis (square_nextTable square tolerance)
        (Nat.le_of_lt_succ (fewer.trans_le enough)) with ⟨later, continued⟩
      exact ⟨_, Checks.bind_eq_ok_iff.mpr ⟨later, continued, rfl⟩⟩

/-! ## Whole runs -/

/-- The second phase has nothing to do where all rows are matched.  With
smallest covers that is how the first one ends. -/
theorem adjustUntilMatched_eq_ok (strategy : CoverStrategy) (limit budget : Nat)
    (matched : ((zeroMatching tolerance matrix).columns matrix.length).all Option.isSome = true) :
    adjustUntilMatched ⟨strategy, limit, tolerance⟩ budget matrix = .ok ⟨matrix, [], budget⟩ := by
  unfold adjustUntilMatched
  exact if_pos matched

/-- With smallest covers, a run on a valid matrix takes no more adjustments than
the square of its size, and as many as that are always enough.  So a run that
fails was allowed fewer. -/
theorem hungarian_minimum_converges {matrix : CostMatrix Rat} (valid : matrix.validate = .ok ())
    {tolerance : Rat} (positive : 0 < tolerance) (limit : Nat) :
    (∀ solution, hungarian ⟨.minimum, limit, tolerance⟩ matrix = .ok solution →
      solution.steps.countP Step.isAdjustment ≤ matrix.size * matrix.size) ∧
    (matrix.size * matrix.size ≤ limit →
      ∃ solution, hungarian ⟨.minimum, limit, tolerance⟩ matrix = .ok solution) := by
  have square := (reduced_start (CostMatrix.square_balance_of_validate valid)).square
  constructor
  · intro solution solved
    rcases Checks.bind_eq_ok_iff.mp solved with ⟨⟨⟩, -, started⟩
    rcases Checks.bind_eq_ok_iff.mp started with ⟨covered, firstPhase, rest⟩
    rcases Checks.bind_eq_ok_iff.mp rest with ⟨finished, secondPhase, same⟩
    rcases square.adjustUntilCovered_eq_ok positive firstPhase with ⟨matched, counted⟩
    rw [adjustUntilMatched_eq_ok .minimum limit covered.budget matched] at secondPhase
    cases secondPhase
    cases same
    rw [Solution.ofPermutation, List.append_nil, List.countP_append, List.countP_append]
    show 0 + covered.steps.countP Step.isAdjustment + 0 ≤ matrix.size * matrix.size
    rw [Nat.zero_add]
    exact counted.trans (Nat.sub_le _ _)
  · intro enough
    rcases square.exists_adjustUntilCovered positive ((Nat.sub_le _ _).trans enough) with
      ⟨covered, firstPhase⟩
    have matched := (square.adjustUntilCovered_eq_ok positive firstPhase).1
    have secondPhase := adjustUntilMatched_eq_ok .minimum limit covered.budget matched
    exact ⟨_, Checks.bind_eq_ok_iff.mpr ⟨(), valid, Checks.bind_eq_ok_iff.mpr
      ⟨covered, firstPhase, Checks.bind_eq_ok_iff.mpr ⟨_, secondPhase, rfl⟩⟩⟩⟩

/-- Three of the four rows are matched at first, and one adjustment is enough. -/
theorem hungarian_minimum_converges_fourRows :
    fourRows.validate = .ok () ∧ (0 : Rat) < 1 / 10 ∧
      ∃ solution, hungarian ⟨.minimum, 16, 1 / 10⟩ fourRows = .ok solution ∧
        solution.steps.countP Step.isAdjustment = 1 ∧
        solution.steps.countP Step.isAdjustment ≤ fourRows.size * fourRows.size := by
  have valid : fourRows.validate = .ok () := by decide +kernel
  have positive : (0 : Rat) < 1 / 10 := by decide +kernel
  have counts : (hungarian ⟨.minimum, 16, 1 / 10⟩ fourRows).map (fun solution =>
      solution.steps.countP Step.isAdjustment) = .ok 1 := by decide +kernel
  rcases hungarian_minimum_converges valid positive 16 with ⟨bounded, answers⟩
  rcases answers (by decide) with ⟨solution, solved⟩
  rw [solved] at counts
  exact ⟨valid, positive, solution, solved, Except.ok.inj counts, bounded solution solved⟩

end Assignment
end Optimum

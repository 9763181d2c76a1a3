import Optimum.Proofs.Assignment.Pairing

namespace Optimum
namespace Assignment

open Scalar

/-!
# The answer of a permutation

A permutation places every row of the balanced matrix on a column.  The pairs
of two real lines form a pairing, what they leave is what is reported as
unassigned, and padding adds nothing to the cost.
-/

variable {permutation : List Nat} {row column size : Nat}

/-- The rows with their columns, in row order. -/
def placed (permutation : List Nat) : List (Nat × Nat) :=
  permutation.zipIdx.map Prod.swap

theorem mem_placed_iff : (row, column) ∈ placed permutation ↔ permutation[row]? = some column := by
  rw [placed, List.mem_map]
  constructor
  · rintro ⟨⟨value, index⟩, member, same⟩
    cases same
    exact List.mem_zipIdx_iff_getElem?.mp member
  · intro found
    refine ⟨(column, row), ?_, rfl⟩
    exact List.mem_zipIdx_iff_getElem?.mpr found

theorem map_fst_placed : (placed permutation).map Prod.fst = List.range permutation.length := by
  rw [placed, List.map_map, List.range_eq_range']
  exact List.zipIdx_map_snd 0 permutation

theorem map_snd_placed : (placed permutation).map Prod.snd = permutation := by
  rw [placed, List.map_map]
  exact List.zipIdx_map_fst 0 permutation

section Bijective

variable (bijective : permutation.Perm (List.range size))

include bijective

theorem length_of_bijective : permutation.length = size := by
  rw [bijective.length_eq, List.length_range]

theorem rows_placed : ((placed permutation).map Prod.fst).Perm (List.range size) := by
  rw [map_fst_placed, length_of_bijective bijective]

theorem columns_placed : ((placed permutation).map Prod.snd).Perm (List.range size) := by
  rw [map_snd_placed]
  exact bijective

end Bijective

/-! ## Rows and columns below a bound -/

theorem length_filter_range {bound : Nat} (within : bound ≤ size) :
    ((List.range size).filter fun line => line < bound).length = bound := by
  have same : ((List.range size).filter fun line => line < bound).Perm (List.range bound) := by
    apply (List.perm_ext_iff_of_nodup (List.nodup_range.filter _) List.nodup_range).mpr
    intro line
    rw [List.mem_filter, List.mem_range, List.mem_range, decide_eq_true_eq]
    constructor
    · intro both
      exact both.2
    · intro below
      exact ⟨below.trans_le within, below⟩
  rw [same.length_eq, List.length_range]

section Lines

variable {values : List (Nat × Nat)} {line : Nat × Nat → Nat} {bound : Nat}
  (lines : (values.map line).Perm (List.range size)) (within : bound ≤ size)

include lines within

theorem length_filter_lines : (values.filter fun pair => line pair < bound).length = bound := by
  have same := (lines.filter fun index => index < bound).length_eq
  rw [length_filter_range within, List.filter_map, List.length_map] at same
  exact same

/-- Of pairs with one for each line, those that fail a test lie on the lines
that the ones that pass it leave. -/
theorem left_perm (passes : Nat × Nat → Prop) [DecidablePred passes] :
    ((values.filter fun pair => line pair < bound ∧ ¬ passes pair).map line).Perm
      ((List.range bound).filter fun index =>
        index ∉ (values.filter fun pair => line pair < bound ∧ passes pair).map line) := by
  have distinct : (values.map line).Nodup := lines.nodup_iff.mpr List.nodup_range
  apply (List.perm_ext_iff_of_nodup (distinct.sublist (List.filter_sublist.map line))
    (List.nodup_range.filter _)).mpr
  intro index
  rw [List.mem_filter, List.mem_range, decide_eq_true_eq]
  constructor
  · intro member
    rcases List.mem_map.mp member with ⟨pair, kept, rfl⟩
    rcases List.mem_filter.mp kept with ⟨inside, fails⟩
    rw [decide_eq_true_eq] at fails
    refine ⟨fails.1, fun taken => ?_⟩
    rcases List.mem_map.mp taken with ⟨other, otherKept, same⟩
    rcases List.mem_filter.mp otherKept with ⟨otherInside, otherPasses⟩
    rw [decide_eq_true_eq] at otherPasses
    have equal := List.inj_on_of_nodup_map distinct otherInside inside same
    rw [equal] at otherPasses
    exact fails.2 otherPasses.2
  · rintro ⟨below, notTaken⟩
    have present : index ∈ values.map line :=
      lines.mem_iff.mpr (List.mem_range.mpr (below.trans_le within))
    rcases List.mem_map.mp present with ⟨pair, inside, rfl⟩
    refine List.mem_map.mpr ⟨pair, List.mem_filter.mpr ⟨inside, ?_⟩, rfl⟩
    refine decide_eq_true ⟨below, fun passed => notTaken ?_⟩
    exact List.mem_map.mpr ⟨pair, List.mem_filter.mpr ⟨inside, decide_eq_true ⟨below, passed⟩⟩, rfl⟩

end Lines

/-- A list is divided by two tests that exclude each other. -/
theorem filterMap_perm {α β : Type} {first second : α → Bool} {left right : α → β}
    {choose : α → Option β} {values : List α}
    (chosen : ∀ value ∈ values, choose value =
      if first value then some (left value)
      else if second value then some (right value) else none)
    (exclusive : ∀ value ∈ values, first value = true → second value = false) :
    (values.filterMap choose).Perm
      ((values.filter first).map left ++ (values.filter second).map right) := by
  induction values with
  | nil => exact List.Perm.refl []
  | cons value values inductionHypothesis =>
      rw [List.forall_mem_cons] at chosen exclusive
      have rest := inductionHypothesis chosen.2 exclusive.2
      rw [List.filterMap_cons, chosen.1, List.filter_cons, List.filter_cons]
      cases isFirst : first value with
      | true =>
          rw [exclusive.1 isFirst]
          exact rest.cons _
      | false =>
          cases isSecond : second value with
          | true => exact (rest.cons _).trans List.perm_middle.symm
          | false => exact rest

/-- Entries that are left out may be counted with nothing. -/
theorem sum_filterMap {α β : Type} {choose : α → Option β} {weight : β → Rat} {amount : α → Rat}
    {values : List α}
    (chosen : ∀ value ∈ values, (choose value).elim 0 weight = amount value) :
    ((values.filterMap choose).map weight).sum = (values.map amount).sum := by
  induction values with
  | nil => rfl
  | cons value values inductionHypothesis =>
      rw [List.forall_mem_cons] at chosen
      rw [List.map_cons, List.sum_cons, ← inductionHypothesis chosen.2, ← chosen.1,
        List.filterMap_cons]
      cases choose value with
      | none => exact (zero_add _).symm
      | some other => exact List.sum_cons

/-- Amounts of rows and columns, summed over the places of a permutation. -/
theorem sum_placed (bijective : permutation.Perm (List.range size))
    (rowAmount columnAmount : Nat → Rat) :
    ((placed permutation).map fun pair => rowAmount pair.1 + columnAmount pair.2).sum =
      ∑ row ∈ Finset.range size, rowAmount row +
        ∑ column ∈ Finset.range size, columnAmount column := by
  have rows : ((placed permutation).map fun pair => rowAmount pair.1) =
      (List.range size).map rowAmount := by
    rw [← length_of_bijective bijective, ← map_fst_placed, List.map_map]
    rfl
  have columns : ((placed permutation).map fun pair => columnAmount pair.2) =
      permutation.map columnAmount := by
    rw [← congrArg (List.map columnAmount) map_snd_placed, List.map_map]
    rfl
  have lines : (List.range size).toFinset = Finset.range size := by
    ext line
    rw [List.mem_toFinset, List.mem_range, Finset.mem_range]
  rw [List.sum_map_add, rows, columns, (bijective.map columnAmount).sum_eq,
    ← List.sum_toFinset _ List.nodup_range, ← List.sum_toFinset _ List.nodup_range, lines]

/-! ## The answer -/

/-- The rows of an answer with their columns. -/
def Solution.pairs (solution : Solution Rat) : List (Nat × Nat) :=
  solution.pairings.map fun pairing => (pairing.row, pairing.column)

namespace CostMatrix

/-- The labels of the lines that pairs leave. -/
def remaining (matrix : CostMatrix Rat) (pairs : List (Nat × Nat)) : List String :=
  ((List.range matrix.height).filter fun row => row ∉ pairs.map Prod.fst).map
      (fun row => matrix.rowLabels.getD row "") ++
    ((List.range matrix.width).filter fun column => column ∉ pairs.map Prod.snd).map
      (fun column => matrix.columnLabels.getD column "")

namespace Unpadded

variable {matrix : CostMatrix Rat} (unpadded : matrix.Unpadded)

include unpadded

theorem isDummyRow_balance (row : Nat) :
    matrix.balance.isDummyRow row = decide (matrix.height ≤ row) := by
  rw [isDummyRow, balance, unpadded.realRows_eq]

theorem isDummyColumn_balance (column : Nat) :
    matrix.balance.isDummyColumn column = decide (matrix.width ≤ column) := by
  rw [isDummyColumn, balance, unpadded.realColumns_eq]

theorem pairing?_balance (row column : Nat) :
    pairing? matrix.balance (column, row) =
      if row < matrix.height ∧ column < matrix.width then
        some ⟨row, column, matrix.rowLabels.getD row "", matrix.columnLabels.getD column "",
          cell matrix.costs row column⟩
      else none := by
  rw [pairing?, unpadded.isDummyRow_balance, unpadded.isDummyColumn_balance]
  by_cases real : row < matrix.height ∧ column < matrix.width
  · rw [if_pos real, decide_eq_false (not_le.mpr real.1), decide_eq_false (not_le.mpr real.2),
      unpadded.rowLabel_balance real.1, unpadded.columnLabel_balance real.2,
      unpadded.cell_balance_of_row_lt real.1]
    rfl
  · rw [if_neg real, if_pos]
    rw [Bool.or_eq_true, decide_eq_true_eq, decide_eq_true_eq]
    rcases not_and_or.mp real with padding | padding
    · exact Or.inl (not_lt.mp padding)
    · exact Or.inr (not_lt.mp padding)

theorem unassigned?_balance (row column : Nat) :
    unassigned? matrix.balance (column, row) =
      if row < matrix.height ∧ ¬ column < matrix.width then some (matrix.rowLabels.getD row "")
      else if column < matrix.width ∧ ¬ row < matrix.height then
        some (matrix.columnLabels.getD column "")
      else none := by
  rw [unassigned?, unpadded.isDummyRow_balance, unpadded.isDummyColumn_balance]
  by_cases realRow : row < matrix.height
  · rw [decide_eq_false (not_le.mpr realRow)]
    by_cases realColumn : column < matrix.width
    · rw [decide_eq_false (not_le.mpr realColumn), if_neg fun both => both.2 realColumn,
        if_neg fun both => both.2 realRow]
    · rw [decide_eq_true (not_lt.mp realColumn), if_pos ⟨realRow, realColumn⟩]
      exact congrArg some (unpadded.rowLabel_balance realRow)
  · rw [decide_eq_true (not_lt.mp realRow), if_neg fun both => realRow both.1]
    by_cases realColumn : column < matrix.width
    · rw [decide_eq_false (not_le.mpr realColumn), if_pos ⟨realColumn, realRow⟩]
      exact congrArg some (unpadded.columnLabel_balance realColumn)
    · rw [decide_eq_true (not_lt.mp realColumn), if_neg fun both => realColumn both.1]

/-- The pairs of an answer are the places on two real lines. -/
theorem pairs_ofPermutation (permutation : List Nat) (steps : List (Step Rat)) :
    (Solution.ofPermutation matrix.balance permutation steps).pairs =
      (placed permutation).filter fun pair => pair.1 < matrix.height ∧ pair.2 < matrix.width := by
  change (permutation.zipIdx.filterMap (pairing? matrix.balance)).map _ = _
  rw [List.map_filterMap, placed, List.filter_map, ← List.filterMap_eq_filter, List.map_filterMap]
  refine List.filterMap_congr fun pair _ => ?_
  rw [unpadded.pairing?_balance]
  by_cases real : pair.2 < matrix.height ∧ pair.1 < matrix.width
  · rw [if_pos real, Option.guard, if_pos]
    · rfl
    · exact decide_eq_true real
  · rw [if_neg real, Option.guard, if_neg]
    · rfl
    · exact fun passed => real (of_decide_eq_true passed)

theorem totalCost_ofPermutation (permutation : List Nat) (steps : List (Step Rat)) :
    (Solution.ofPermutation matrix.balance permutation steps).totalCost =
      matrix.cost (Solution.ofPermutation matrix.balance permutation steps).pairs := by
  have costs : ∀ pairing ∈ permutation.zipIdx.filterMap (pairing? matrix.balance),
      pairing.cost = cell matrix.costs pairing.row pairing.column := by
    intro pairing member
    rcases List.mem_filterMap.mp member with ⟨pair, _, found⟩
    rw [unpadded.pairing?_balance] at found
    by_cases real : pair.2 < matrix.height ∧ pair.1 < matrix.width
    · rw [if_pos real] at found
      cases found
      rfl
    · rw [if_neg real] at found
      cases found
  rw [cost, Solution.pairs, List.map_map, Solution.ofPermutation, sum_eq_sum]
  exact congrArg List.sum (List.map_congr_left costs)

/-- Padding adds nothing to the total.  So the total may be summed over the
places of the whole permutation. -/
theorem totalCost_eq_sum_placed (permutation : List Nat) (steps : List (Step Rat)) :
    (Solution.ofPermutation matrix.balance permutation steps).totalCost =
      ((placed permutation).map fun pair => cell matrix.balance.costs pair.1 pair.2).sum := by
  rw [Solution.ofPermutation, sum_eq_sum, placed, List.map_map]
  apply sum_filterMap
  intro pair _
  rw [unpadded.pairing?_balance]
  by_cases real : pair.2 < matrix.height ∧ pair.1 < matrix.width
  · rw [if_pos real]
    exact (unpadded.cell_balance_of_row_lt real.1 _).symm
  · rw [if_neg real]
    rcases not_and_or.mp real with padding | padding
    · exact (cell_balance_of_height_le (not_lt.mp padding) _).symm
    · exact (unpadded.cell_balance_of_width_le (not_lt.mp padding) _).symm

section Bijective

variable (bijective : permutation.Perm (List.range matrix.size)) (steps : List (Step Rat))

include bijective

/-- The labels of an answer are those of the lines that its pairs leave. -/
theorem unassigned_ofPermutation :
    (Solution.ofPermutation matrix.balance permutation steps).unassigned.Perm
      (matrix.remaining (Solution.ofPermutation matrix.balance permutation steps).pairs) := by
  have rows := left_perm (rows_placed bijective) matrix.height_le_size
    fun pair => pair.2 < matrix.width
  have columns := left_perm (columns_placed bijective) matrix.width_le_size
    fun pair => pair.1 < matrix.height
  have listed : (Solution.ofPermutation matrix.balance permutation steps).unassigned =
      (placed permutation).filterMap fun pair => unassigned? matrix.balance (pair.2, pair.1) := by
    rw [placed, List.filterMap_map]
    rfl
  have divided : ((placed permutation).filterMap fun pair =>
      unassigned? matrix.balance (pair.2, pair.1)).Perm
      (((placed permutation).filter fun pair =>
          pair.1 < matrix.height ∧ ¬ pair.2 < matrix.width).map
          (fun pair => matrix.rowLabels.getD pair.1 "") ++
        ((placed permutation).filter fun pair =>
          pair.2 < matrix.width ∧ ¬ pair.1 < matrix.height).map
          fun pair => matrix.columnLabels.getD pair.2 "") := by
    apply filterMap_perm
    · intro pair _
      rw [unpadded.unassigned?_balance]
      simp only [decide_eq_true_eq]
    · intro pair _ isFirst
      rw [decide_eq_true_eq] at isFirst
      exact decide_eq_false fun isSecond => isSecond.2 isFirst.1
  rw [listed, remaining, unpadded.pairs_ofPermutation]
  apply divided.trans
  apply List.Perm.append
  · have labelled := rows.map fun row => matrix.rowLabels.getD row ""
    rwa [List.map_map] at labelled
  · have labelled := columns.map fun column => matrix.columnLabels.getD column ""
    rw [List.map_map] at labelled
    simp only [and_comm] at labelled ⊢
    exact labelled

/-- The pairs of an answer use every line of the shorter side, since padding is
only added to that side. -/
theorem isPairing_ofPermutation :
    matrix.IsPairing (Solution.ofPermutation matrix.balance permutation steps).pairs := by
  have rows := rows_placed bijective
  have columns := columns_placed bijective
  rw [unpadded.pairs_ofPermutation]
  constructor
  · rcases Nat.le_total matrix.height matrix.width with tall | wide
    · have real : ∀ pair ∈ placed permutation, pair.2 < matrix.width := by
        intro pair member
        have inside := columns.mem_iff.mp (List.mem_map_of_mem member)
        rwa [List.mem_range, size, Nat.max_eq_right tall] at inside
      have same : (placed permutation).filter (fun pair =>
          pair.1 < matrix.height ∧ pair.2 < matrix.width) =
          (placed permutation).filter fun pair => pair.1 < matrix.height := by
        refine List.filter_congr fun pair member => ?_
        simp only [real pair member, and_true]
      rw [same, length_filter_lines rows matrix.height_le_size, Nat.min_eq_left tall]
    · have real : ∀ pair ∈ placed permutation, pair.1 < matrix.height := by
        intro pair member
        have inside := rows.mem_iff.mp (List.mem_map_of_mem member)
        rwa [List.mem_range, size, Nat.max_eq_left wide] at inside
      have same : (placed permutation).filter (fun pair =>
          pair.1 < matrix.height ∧ pair.2 < matrix.width) =
          (placed permutation).filter fun pair => pair.2 < matrix.width := by
        refine List.filter_congr fun pair member => ?_
        simp only [real pair member, true_and]
      rw [same, length_filter_lines columns matrix.width_le_size, Nat.min_eq_right wide]
  · intro pair member
    exact of_decide_eq_true (List.mem_filter.mp member).2
  · exact (rows.nodup_iff.mpr List.nodup_range).sublist (List.filter_sublist.map Prod.fst)
  · exact (columns.nodup_iff.mpr List.nodup_range).sublist (List.filter_sublist.map Prod.snd)

/-- Where every place costs less than its amounts and a tolerance, the total
costs less than all amounts and the tolerance for each row. -/
theorem totalCost_lt {rowAmount columnAmount : Nat → Rat} {tolerance : Rat}
    (tight : ∀ row column, permutation[row]? = some column →
      cell matrix.balance.costs row column < tolerance + (rowAmount row + columnAmount column)) :
    (Solution.ofPermutation matrix.balance permutation steps).totalCost <
      matrix.size * tolerance + (∑ row ∈ Finset.range matrix.size, rowAmount row +
        ∑ column ∈ Finset.range matrix.size, columnAmount column) := by
  have length : (placed permutation).length = matrix.size := by
    rw [placed, List.length_map, List.length_zipIdx, length_of_bijective bijective]
  have some : placed permutation ≠ [] := by
    intro none
    have positive := unpadded.height_pos.trans_le matrix.height_le_size
    rw [← length, none] at positive
    exact absurd positive (Nat.lt_irrefl 0)
  have total : ((placed permutation).map fun pair =>
      tolerance + (rowAmount pair.1 + columnAmount pair.2)).sum =
      matrix.size * tolerance + (∑ row ∈ Finset.range matrix.size, rowAmount row +
        ∑ column ∈ Finset.range matrix.size, columnAmount column) := by
    rw [List.sum_map_add, sum_placed bijective, List.map_const', List.sum_replicate, length,
      nsmul_eq_mul]
  rw [unpadded.totalCost_eq_sum_placed, ← total]
  apply List.sum_lt_sum_of_ne_nil some
  intro pair member
  exact tight pair.1 pair.2 (mem_placed_iff.mp member)

end Bijective

end Unpadded
end CostMatrix

end Assignment
end Optimum

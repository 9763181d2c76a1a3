import Mathlib.Algebra.BigOperators.Group.Finset.Basic
import Mathlib.Algebra.Order.BigOperators.Group.List
import Mathlib.Data.Finset.Card
import Optimum.Proofs.Assignment.Balance

namespace Optimum
namespace Assignment

/-!
# Pairings and a bound on their costs

A pairing uses every line of the shorter side of a matrix.  Amounts for the
lines of the balanced matrix that no cell falls short of are a lower bound on
the cost of every pairing: where the pairing leaves a row and a column, their
cell is padding and costs nothing.
-/

namespace CostMatrix

variable {matrix : CostMatrix Rat} {pairs : List (Nat × Nat)}

def cost (matrix : CostMatrix Rat) (pairs : List (Nat × Nat)) : Rat :=
  (pairs.map fun pair => cell matrix.costs pair.1 pair.2).sum

/-- One-to-one pairs of rows and columns, as many as the matrix admits.  Nothing
is padded here: this is what an assignment means to its user. -/
structure IsPairing (matrix : CostMatrix Rat) (pairs : List (Nat × Nat)) : Prop where
  length_eq : pairs.length = min matrix.height matrix.width
  inside : ∀ pair ∈ pairs, pair.1 < matrix.height ∧ pair.2 < matrix.width
  nodup_rows : (pairs.map Prod.fst).Nodup
  nodup_columns : (pairs.map Prod.snd).Nodup

end CostMatrix

/-! ## The lines that a pairing leaves -/

/-- As many rows as columns, no two of which sum to more than nothing. -/
theorem sum_add_sum_nonpos {rows columns : Finset Nat} {rowAmount columnAmount : Nat → Rat}
    (same : rows.card = columns.card)
    (cells : ∀ row ∈ rows, ∀ column ∈ columns, rowAmount row + columnAmount column ≤ 0) :
    ∑ row ∈ rows, rowAmount row + ∑ column ∈ columns, columnAmount column ≤ 0 := by
  have total : ∑ row ∈ rows, ∑ column ∈ columns, (rowAmount row + columnAmount column) =
      rows.card * (∑ row ∈ rows, rowAmount row + ∑ column ∈ columns, columnAmount column) := by
    simp only [Finset.sum_add_distrib, Finset.sum_const, nsmul_eq_mul, ← Finset.mul_sum]
    rw [same]
    ring
  have nonpos : ∑ row ∈ rows, ∑ column ∈ columns, (rowAmount row + columnAmount column) ≤ 0 :=
    Finset.sum_nonpos fun row member => Finset.sum_nonpos (cells row member)
  rw [total] at nonpos
  rcases Nat.eq_zero_or_pos rows.card with none | some
  · have noRows := Finset.card_eq_zero.mp none
    have noColumns := Finset.card_eq_zero.mp (same ▸ none)
    rw [noRows, noColumns, Finset.sum_empty, Finset.sum_empty, add_zero]
  · exact nonpos_of_mul_nonpos_right nonpos (Nat.cast_pos.mpr some)

namespace CostMatrix.IsPairing

variable {matrix : CostMatrix Rat} {pairs : List (Nat × Nat)}
  (pairing : matrix.IsPairing pairs)

include pairing

theorem rows_subset : (pairs.map Prod.fst).toFinset ⊆ Finset.range matrix.height := by
  intro row member
  rcases List.mem_map.mp (List.mem_toFinset.mp member) with ⟨pair, inside, rfl⟩
  exact Finset.mem_range.mpr (pairing.inside pair inside).1

theorem columns_subset : (pairs.map Prod.snd).toFinset ⊆ Finset.range matrix.width := by
  intro column member
  rcases List.mem_map.mp (List.mem_toFinset.mp member) with ⟨pair, inside, rfl⟩
  exact Finset.mem_range.mpr (pairing.inside pair inside).2

theorem card_rows : (pairs.map Prod.fst).toFinset.card = min matrix.height matrix.width := by
  rw [List.toFinset_card_of_nodup pairing.nodup_rows, List.length_map, pairing.length_eq]

theorem card_columns : (pairs.map Prod.snd).toFinset.card = min matrix.height matrix.width := by
  rw [List.toFinset_card_of_nodup pairing.nodup_columns, List.length_map, pairing.length_eq]

theorem height_le_or_width_le {row column : Nat}
    (rowLeft : row ∉ (pairs.map Prod.fst).toFinset)
    (columnLeft : column ∉ (pairs.map Prod.snd).toFinset) :
    matrix.height ≤ row ∨ matrix.width ≤ column := by
  rcases Nat.le_total matrix.height matrix.width with tall | wide
  · left
    by_contra inside
    have all : (pairs.map Prod.fst).toFinset = Finset.range matrix.height := by
      apply Finset.eq_of_subset_of_card_le pairing.rows_subset
      rw [pairing.card_rows, Finset.card_range, Nat.min_eq_left tall]
    rw [all] at rowLeft
    exact rowLeft (Finset.mem_range.mpr (not_le.mp inside))
  · right
    by_contra inside
    have all : (pairs.map Prod.snd).toFinset = Finset.range matrix.width := by
      apply Finset.eq_of_subset_of_card_le pairing.columns_subset
      rw [pairing.card_columns, Finset.card_range, Nat.min_eq_right wide]
    rw [all] at columnLeft
    exact columnLeft (Finset.mem_range.mpr (not_le.mp inside))

/-- Amounts that no cell of the balanced matrix falls short of bound the cost
of a pairing from below. -/
theorem sum_amounts_le_cost (unpadded : matrix.Unpadded) {rowAmount columnAmount : Nat → Rat}
    (below : ∀ row < matrix.size, ∀ column < matrix.size,
      rowAmount row + columnAmount column ≤ cell matrix.balance.costs row column) :
    ∑ row ∈ Finset.range matrix.size, rowAmount row +
        ∑ column ∈ Finset.range matrix.size, columnAmount column ≤ matrix.cost pairs := by
  have rowsWithin : (pairs.map Prod.fst).toFinset ⊆ Finset.range matrix.size :=
    pairing.rows_subset.trans (Finset.range_mono matrix.height_le_size)
  have columnsWithin : (pairs.map Prod.snd).toFinset ⊆ Finset.range matrix.size :=
    pairing.columns_subset.trans (Finset.range_mono matrix.width_le_size)
  have left : ∑ row ∈ Finset.range matrix.size \ (pairs.map Prod.fst).toFinset, rowAmount row +
      ∑ column ∈ Finset.range matrix.size \ (pairs.map Prod.snd).toFinset,
        columnAmount column ≤ 0 := by
    apply sum_add_sum_nonpos
    · rw [Finset.card_sdiff_of_subset rowsWithin, Finset.card_sdiff_of_subset columnsWithin,
        pairing.card_rows, pairing.card_columns]
    · intro row rowMember column columnMember
      rcases Finset.mem_sdiff.mp rowMember with ⟨rowInside, rowLeft⟩
      rcases Finset.mem_sdiff.mp columnMember with ⟨columnInside, columnLeft⟩
      have bound := below row (Finset.mem_range.mp rowInside) column
        (Finset.mem_range.mp columnInside)
      rcases pairing.height_le_or_width_le rowLeft columnLeft with padding | padding
      · rwa [Unpadded.cell_balance_of_height_le padding] at bound
      · rwa [unpadded.cell_balance_of_width_le padding] at bound
  have paired : (pairs.map fun pair => rowAmount pair.1 + columnAmount pair.2).sum ≤
      matrix.cost pairs := by
    apply List.sum_le_sum
    intro pair member
    rcases pairing.inside pair member with ⟨rowInside, columnInside⟩
    rw [← unpadded.cell_balance_of_row_lt rowInside]
    exact below _ (rowInside.trans_le matrix.height_le_size) _
      (columnInside.trans_le matrix.width_le_size)
  have divided : (pairs.map fun pair => rowAmount pair.1 + columnAmount pair.2).sum =
      ∑ row ∈ (pairs.map Prod.fst).toFinset, rowAmount row +
        ∑ column ∈ (pairs.map Prod.snd).toFinset, columnAmount column := by
    rw [List.sum_map_add, List.sum_toFinset _ pairing.nodup_rows,
      List.sum_toFinset _ pairing.nodup_columns, List.map_map, List.map_map]
    rfl
  rw [← Finset.sum_sdiff rowsWithin, ← Finset.sum_sdiff columnsWithin]
  linarith

end CostMatrix.IsPairing

end Assignment
end Optimum

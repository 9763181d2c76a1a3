import Optimum.Proofs.Assignment.Cells
import Optimum.Proofs.Checks

namespace Optimum
namespace Assignment

open Scalar

/-!
# Accepted matrices and their padding

A cost matrix that was accepted is a rectangle with a label for every line.
Its balanced form is square, keeps every cost and label in place, and costs
nothing on a line that was added.
-/

namespace CostMatrix

variable {matrix : CostMatrix Rat} {row column : Nat}

/-- Whether a matrix came from one of the two ways to make one. -/
def Accepted (matrix : CostMatrix Rat) : Prop :=
  (∃ costs, ofCosts costs = .ok matrix) ∨
    ∃ rowLabels columnLabels costs, withLabels rowLabels columnLabels costs = .ok matrix

/-- A rectangle of costs without padding, with a label for every line.  The
method pads it; what it answers is said about this matrix. -/
structure Unpadded (matrix : CostMatrix Rat) : Prop where
  length_row : ∀ entries ∈ matrix.costs, entries.length = matrix.width
  length_rowLabels : matrix.rowLabels.length = matrix.height
  length_columnLabels : matrix.columnLabels.length = matrix.width
  realRows_eq : matrix.realRows = matrix.height
  realColumns_eq : matrix.realColumns = matrix.width
  height_pos : 0 < matrix.height

theorem checkRow_eq_ok {width : Nat} {entries : List Rat × Nat}
    (passed : checkRow width entries = .ok ()) : entries.1.length = width := by
  unfold checkRow at passed
  by_contra different
  rw [if_pos different] at passed
  cases passed

theorem checkLabels_eq_ok_iff {axis : Axis} {expected : Nat} {labels : List String} :
    checkLabels (α := Rat) axis expected labels = .ok () ↔ labels.length = expected := by
  rw [checkLabels]
  split
  · next different => exact iff_of_false nofun different
  · next same => exact iff_of_true rfl (not_not.mp same)

theorem unpadded_of_withLabels {rowLabels columnLabels : List String} {costs : List (List Rat)}
    (made : withLabels rowLabels columnLabels costs = .ok matrix) : matrix.Unpadded := by
  rcases Checks.bind_eq_ok_iff.mp made with ⟨⟨⟩, valid, same⟩
  cases same
  unfold validate at valid
  split at valid
  · cases valid
  · next present =>
    rcases not_or.mp present with ⟨tall, -⟩
    rcases Checks.bind_eq_ok_iff.mp valid with ⟨⟨⟩, rows, labels⟩
    rcases Checks.bind_eq_ok_iff.mp labels with ⟨⟨⟩, rowsLabelled, columnsLabelled⟩
    constructor
    · intro entries member
      rcases List.mem_iff_getElem?.mp member with ⟨row, found⟩
      have indexed : (entries, row) ∈ costs.zipIdx := List.mem_zipIdx_iff_getElem?.mpr found
      exact checkRow_eq_ok (Checks.forM_eq_ok_iff.mp rows _ indexed)
    · exact checkLabels_eq_ok_iff.mp rowsLabelled
    · exact checkLabels_eq_ok_iff.mp columnsLabelled
    · rfl
    · rfl
    · exact Nat.pos_of_ne_zero tall

theorem Accepted.unpadded (accepted : matrix.Accepted) : matrix.Unpadded := by
  rcases accepted with ⟨costs, made⟩ | ⟨rowLabels, columnLabels, costs, made⟩
  · exact unpadded_of_withLabels made
  · exact unpadded_of_withLabels made

/-! ## The balanced matrix -/

theorem getD_costs_mem (inside : row < matrix.height) : matrix.costs.getD row [] ∈ matrix.costs := by
  rw [List.getD_eq_getElem _ _ inside]
  exact List.getElem_mem _

theorem height_le_size (matrix : CostMatrix Rat) : matrix.height ≤ matrix.size :=
  Nat.le_max_left _ _

theorem width_le_size (matrix : CostMatrix Rat) : matrix.width ≤ matrix.size :=
  Nat.le_max_right _ _

/-- Zeros at the end of a row are what is found beyond its end anyway. -/
theorem getD_append_zeros (entries : List Rat) (count column : Nat) :
    (entries ++ List.replicate count 0).getD column 0 = entries.getD column 0 := by
  by_cases inside : column < entries.length
  · rw [List.getD_append _ _ _ _ inside]
  · have beyond := not_lt.mp inside
    rw [List.getD_append_right _ _ _ _ beyond, List.getD_eq_default _ _ beyond,
      List.getD_eq_getElem?_getD, List.getElem?_replicate]
    split
    · rfl
    · rfl

theorem getD_resized {size : Nat} {entries : List Rat} (fits : entries.length ≤ size)
    (column : Nat) : (resized size entries).getD column 0 = entries.getD column 0 := by
  rw [resized, List.take_of_length_le fits]
  exact getD_append_zeros entries _ column

namespace Unpadded

variable (unpadded : matrix.Unpadded)

include unpadded

theorem length_le_size {entries : List Rat} (member : entries ∈ matrix.costs) :
    entries.length ≤ matrix.size := by
  rw [unpadded.length_row entries member]
  exact matrix.width_le_size

theorem square_balance : Square matrix.balance.costs matrix.size where
  length_eq := by
    simp only [balance, List.length_append, List.length_map, List.length_replicate]
    exact Nat.add_sub_of_le matrix.height_le_size
  length_row := by
    intro entries member
    rcases List.mem_append.mp member with real | padding
    · rcases List.mem_map.mp real with ⟨before, inside, rfl⟩
      have fits := unpadded.length_le_size inside
      rw [resized, List.take_of_length_le fits, List.length_append, List.length_replicate]
      exact Nat.add_sub_of_le fits
    · rw [(List.mem_replicate.mp padding).2, List.length_replicate]

theorem cell_balance_of_row_lt (inside : row < matrix.height) (column : Nat) :
    cell matrix.balance.costs row column = cell matrix.costs row column := by
  have bounded : row < (matrix.costs.map (resized matrix.size)).length := by
    rw [List.length_map]
    exact inside
  have before : matrix.balance.costs.getD row [] = resized matrix.size (matrix.costs.getD row []) := by
    rw [balance, List.getD_append _ _ _ _ bounded, List.getD_eq_getElem _ _ bounded,
      List.getElem_map, List.getD_eq_getElem _ _ inside]
    rfl
  rw [cell, before, getD_resized (unpadded.length_le_size (getD_costs_mem inside)), cell]

omit unpadded in
theorem cell_balance_of_height_le (outside : matrix.height ≤ row) (column : Nat) :
    cell matrix.balance.costs row column = 0 := by
  have bounded : (matrix.costs.map (resized matrix.size)).length ≤ row := by
    rw [List.length_map]
    exact outside
  rw [cell, balance, List.getD_append_right _ _ _ _ bounded]
  simp only [List.getD_eq_getElem?_getD, List.getElem?_replicate]
  split
  · rw [Option.getD_some, List.getElem?_replicate]
    split
    · rfl
    · rfl
  · rfl

theorem cell_balance_of_width_le (outside : matrix.width ≤ column) (row : Nat) :
    cell matrix.balance.costs row column = 0 := by
  by_cases inside : row < matrix.height
  · rw [unpadded.cell_balance_of_row_lt inside, cell, List.getD_eq_default]
    rw [unpadded.length_row _ (getD_costs_mem inside)]
    exact outside
  · exact cell_balance_of_height_le (not_lt.mp inside) column

theorem rowLabel_balance (inside : row < matrix.height) :
    matrix.balance.rowLabels.getD row "" = matrix.rowLabels.getD row "" := by
  rw [balance, List.getD_append _ _ _ _ (unpadded.length_rowLabels.symm ▸ inside)]

theorem columnLabel_balance (inside : column < matrix.width) :
    matrix.balance.columnLabels.getD column "" = matrix.columnLabels.getD column "" := by
  rw [balance, List.getD_append _ _ _ _ (unpadded.length_columnLabels.symm ▸ inside)]

end Unpadded
end CostMatrix

end Assignment
end Optimum

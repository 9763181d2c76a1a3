import Optimum.Proofs.Assignment.Cells
import Optimum.Transport.Northwest

namespace Optimum
namespace Transport

open Assignment Scalar

/-!
# Tables and their lines

A plan is a table with a row for each source and a column for each
destination.  Here is what adding an amount to one cell does to the totals of
the lines, and the cost of a plan as a sum over cells.
-/

/-- A table with a number of rows of one length.  Lookups beyond it give zero,
so sums over larger ranges are the same. -/
structure Sized (table : List (List Rat)) (rows columns : Nat) : Prop where
  length_eq : table.length = rows
  length_row : ∀ entries ∈ table, entries.length = columns

/-- What a row of a table holds. -/
def rowTotal (table : List (List Rat)) (columns row : Nat) : Rat :=
  ∑ column ∈ Finset.range columns, cell table row column

/-- What a column of a table holds. -/
def columnTotal (table : List (List Rat)) (rows column : Nat) : Rat :=
  ∑ row ∈ Finset.range rows, cell table row column

/-- All rows together hold what all columns hold.  Supply and demand are
compared through this. -/
theorem sum_rowTotal (table : List (List Rat)) (rows columns : Nat) :
    ∑ row ∈ Finset.range rows, rowTotal table columns row =
      ∑ column ∈ Finset.range columns, columnTotal table rows column :=
  Finset.sum_comm

variable {table : List (List Rat)} {rows columns source destination : Nat} {amount : Rat}

theorem sized_replicate (rows columns : Nat) :
    Sized (List.replicate rows (List.replicate columns 0)) rows columns where
  length_eq := List.length_replicate
  length_row := by
    intro entries member
    rw [(List.mem_replicate.mp member).2, List.length_replicate]

theorem cell_replicate (rows columns row column : Nat) :
    cell (List.replicate rows (List.replicate columns (0 : Rat))) row column = 0 := by
  simp only [cell, List.getD_eq_getElem?_getD, List.getElem?_replicate]
  by_cases rowInside : row < rows
  · rw [if_pos rowInside, Option.getD_some, List.getElem?_replicate]
    split
    · rfl
    · rfl
  · rw [if_neg rowInside]
    rfl

/-! ## One amount is added -/

namespace Sized

theorem addAt (sized : Sized table rows columns) (source destination : Nat) (amount : Rat) :
    Sized (addAt table source destination amount) rows columns where
  length_eq := by
    rw [Transport.addAt, List.length_modify, sized.length_eq]
  length_row := by
    intro entries member
    rcases List.mem_iff_getElem?.mp member with ⟨row, found⟩
    rw [Transport.addAt, List.getElem?_modify] at found
    rcases Option.map_eq_some_iff.mp found with ⟨before, located, rfl⟩
    have length := sized.length_row before (List.mem_of_getElem? located)
    split
    · rw [List.length_modify, length]
    · exact length

theorem cell_addAt (sized : Sized table rows columns) (sourceInside : source < rows)
    (destinationInside : destination < columns) (row column : Nat) :
    cell (Transport.addAt table source destination amount) row column =
      cell table row column + if row = source ∧ column = destination then amount else 0 := by
  have located := List.getElem?_eq_getElem (sized.length_eq.symm ▸ sourceInside)
  have length := sized.length_row _ (List.mem_of_getElem? located)
  simp only [cell, Transport.addAt, List.getD_eq_getElem?_getD, List.getElem?_modify]
  by_cases sameRow : row = source
  · subst sameRow
    have entered := List.getElem?_eq_getElem (length.symm ▸ destinationInside)
    simp only [located, Option.map_eq_map, Option.map_some, Option.getD_some, if_true, true_and,
      List.getElem?_modify]
    by_cases sameColumn : column = destination
    · subst sameColumn
      simp only [entered, Option.map_some, Option.getD_some, if_true]
    · simp only [if_neg sameColumn, if_neg (Ne.symm sameColumn), Option.map_id', add_zero]
  · simp only [if_neg (Ne.symm sameRow), Option.map_eq_map, Option.map_id', sameRow, false_and,
      if_false, add_zero]

theorem rowTotal_addAt (sized : Sized table rows columns) (sourceInside : source < rows)
    (destinationInside : destination < columns) (row : Nat) :
    rowTotal (Transport.addAt table source destination amount) columns row =
      rowTotal table columns row + if row = source then amount else 0 := by
  simp only [rowTotal, sized.cell_addAt sourceInside destinationInside, Finset.sum_add_distrib]
  congr 1
  by_cases same : row = source
  · simp [same, Finset.sum_ite_eq', destinationInside]
  · simp [same]

theorem columnTotal_addAt (sized : Sized table rows columns) (sourceInside : source < rows)
    (destinationInside : destination < columns) (column : Nat) :
    columnTotal (Transport.addAt table source destination amount) rows column =
      columnTotal table rows column + if column = destination then amount else 0 := by
  simp only [columnTotal, sized.cell_addAt sourceInside destinationInside, Finset.sum_add_distrib]
  congr 1
  by_cases same : column = destination
  · simp [same, Finset.sum_ite_eq', sourceInside]
  · simp [same]

end Sized

/-! ## The cost of a plan -/

/-- Amounts times costs, row by row. -/
theorem sum_flatten_zipWith {amounts costs : List (List Rat)}
    (sized : ∀ entries ∈ amounts, entries.length = columns) (same : costs.length = amounts.length) :
    (List.zipWith (List.zipWith (· * ·)) amounts costs).flatten.sum =
      ∑ row ∈ Finset.range amounts.length, ∑ column ∈ Finset.range columns,
        cell amounts row column * cell costs row column := by
  induction amounts generalizing costs with
  | nil => simp
  | cons entries amounts inductionHypothesis =>
      cases costs with
      | nil => cases same
      | cons prices costs =>
          have others := inductionHypothesis
            (fun entries member => sized entries (List.mem_cons_of_mem _ member))
            (Nat.succ.inj same)
          have first : (List.zipWith (· * ·) entries prices).sum =
              ∑ column ∈ Finset.range columns, entries.getD column 0 * prices.getD column 0 := by
            rw [← sum_eq_sum, ← dot_eq_sum]
            exact dot_eq_sum_range prices (sized entries List.mem_cons_self).le
          rw [List.zipWith_cons_cons, List.flatten_cons, List.sum_append, others, first,
            List.length_cons, Finset.sum_range_succ', add_comm]
          rfl

theorem allocationCost_eq {costs : List (List Rat)} (sized : Sized table rows columns)
    (priced : Sized costs rows columns) :
    allocationCost table costs = ∑ row ∈ Finset.range rows, ∑ column ∈ Finset.range columns,
      cell table row column * cell costs row column := by
  rw [allocationCost, sum_eq_sum, sum_flatten_zipWith sized.length_row
    (priced.length_eq.trans sized.length_eq.symm), sized.length_eq]

end Transport
end Optimum

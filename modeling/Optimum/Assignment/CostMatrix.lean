import Optimum.Linear.Problem

namespace Optimum
namespace Assignment

open Scalar

/-!
# Cost matrices

The cost of giving each row to each column, with labels on both sides.  The
assignment method needs a square matrix, so `balance` pads the shorter side
with rows or columns that cost nothing; the counts of real rows and columns
tell which ones these are.
-/

structure CostMatrix (α : Type) where
  rowLabels : List String
  columnLabels : List String
  costs : List (List α)
  /-- Rows from this index on are padding. -/
  realRows : Nat
  /-- Columns from this index on are padding. -/
  realColumns : Nat
  deriving DecidableEq, Repr

/-- The number of columns of a table, as its first row has them.  Validation
holds the other rows against it. -/
def columnCount {α : Type} (costs : List (List α)) : Nat :=
  (costs.head?.map List.length).getD 0

variable {α : Type} [Scalar α]

/-- The first entry of a row that is no cost, with its column. -/
def invalidCost? (row : List α) : Option (α × Nat) :=
  row.zipIdx.find? fun (value, _) => !isFinite value || decide (value < 0)

/-- The fault of an entry of a row, if one is no cost. -/
def checkCosts (index : Nat) (row : List α) : Except (SolveError α) Unit :=
  match invalidCost? row with
  | some (value, column) => .error (.invalidCost index column value)
  | none => .ok ()

/-- Fail unless there are as many labels as the axis needs. -/
def checkLabels (axis : Axis) (expected : Nat) (labels : List String) :
    Except (SolveError α) Unit :=
  if labels.length ≠ expected then .error (.labelCount axis expected labels.length) else .ok ()

namespace CostMatrix

def height (matrix : CostMatrix α) : Nat :=
  matrix.costs.length

def width (matrix : CostMatrix α) : Nat :=
  columnCount matrix.costs

/-- The fault of one row, if it has one. -/
def checkRow (width : Nat) (row : List α × Nat) : Except (SolveError α) Unit :=
  if row.1.length ≠ width then .error (.raggedMatrix row.2 width row.1.length)
  else checkCosts row.2 row.1

/-- The conditions that the assignment method relies on.  A row is held against
the width before its entries are looked at. -/
def validate (matrix : CostMatrix α) : Except (SolveError α) Unit :=
  if matrix.height = 0 ∨ matrix.width = 0 then .error .emptyMatrix
  else do
    matrix.costs.zipIdx.forM (checkRow matrix.width)
    checkLabels .rows matrix.height matrix.rowLabels
    checkLabels .columns matrix.width matrix.columnLabels

/-- A matrix without padding, with labels. -/
def withLabels (rowLabels columnLabels : List String) (costs : List (List α)) :
    Except (SolveError α) (CostMatrix α) := do
  let matrix : CostMatrix α :=
    ⟨rowLabels, columnLabels, costs, costs.length, columnCount costs⟩
  matrix.validate
  return matrix

/-- A matrix without padding, labelled by position. -/
def ofCosts (costs : List (List α)) : Except (SolveError α) (CostMatrix α) :=
  withLabels (Linear.numbered "R" costs.length) (Linear.numbered "C" (columnCount costs)) costs

def isSquare (matrix : CostMatrix α) : Bool :=
  matrix.height = matrix.width

def isDummyRow (matrix : CostMatrix α) (row : Nat) : Bool :=
  matrix.realRows ≤ row

def isDummyColumn (matrix : CostMatrix α) (column : Nat) : Bool :=
  matrix.realColumns ≤ column

/-- The number of rows and columns after padding: the larger of the two before
it. -/
def size (matrix : CostMatrix α) : Nat :=
  max matrix.height matrix.width

/-- A row with a given number of entries: cut off, or filled with zeros. -/
def resized (size : Nat) (row : List α) : List α :=
  row.take size ++ List.replicate (size - row.length) 0

/-- Pad the shorter side with rows or columns that cost nothing.  A partner that
costs nothing stands for none; the height and the width before tell which they
are. -/
def balance (matrix : CostMatrix α) : CostMatrix α :=
  let size := matrix.size
  { matrix with
    rowLabels := matrix.rowLabels ++ Linear.numbered "Dummy" (size - matrix.height)
    columnLabels := matrix.columnLabels ++ Linear.numbered "Dummy" (size - matrix.width)
    costs := matrix.costs.map (resized size) ++
      List.replicate (size - matrix.height) (List.replicate size 0) }

end CostMatrix

end Assignment
end Optimum

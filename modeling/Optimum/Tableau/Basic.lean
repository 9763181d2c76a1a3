import Optimum.Scalar
import Optimum.SolveError

namespace Optimum

open Scalar

/-!
# Tableaus

A tableau holds one row per constraint and the row of an objective that is to
be maximised.  Every row has one entry per labelled column and a right-hand
side at its end.  The objective row carries the negated coefficients, so a
negative entry marks a column whose increase improves the objective.

Rows are counted from zero; the index after the last constraint row means the
objective row, and the index after the last column the right-hand side.
-/

structure Tableau (α : Type) where
  columns : List String
  rows : List (List α)
  objective : List α
  /-- The column that is basic in each constraint row. -/
  basis : List Nat
  deriving DecidableEq, Repr

namespace Tableau

variable {α : Type}

def height (tableau : Tableau α) : Nat :=
  tableau.rows.length

/-- The number of columns, the right-hand side not counted. -/
def width (tableau : Tableau α) : Nat :=
  tableau.columns.length

/-- All rows, the objective row last.  A pivot treats them alike. -/
def allRows (tableau : Tableau α) : List (List α) :=
  tableau.rows ++ [tableau.objective]

def row (tableau : Tableau α) (index : Nat) : List α :=
  tableau.allRows.getD index []

def label (tableau : Tableau α) (column : Nat) : String :=
  tableau.columns.getD column ""

def basisLabels (tableau : Tableau α) : List String :=
  tableau.basis.map tableau.label

/-- The row in which a column is basic. -/
def basicRow? (tableau : Tableau α) (column : Nat) : Option Nat :=
  tableau.basis.findIdx? (· = column)

variable [Scalar α]

def entry (tableau : Tableau α) (row column : Nat) : α :=
  (tableau.row row).getD column 0

def rhs (tableau : Tableau α) (row : Nat) : α :=
  tableau.entry row tableau.width

/-- The current value of the objective, in the sense of a maximum, as the
objective row keeps it. -/
def objectiveValue (tableau : Tableau α) : α :=
  tableau.objective.getD tableau.width 0

/-- The value of a column: the right-hand side where it is basic, else zero.
This is the point that the tableau stands for. -/
def valueOf (tableau : Tableau α) (column : Nat) : α :=
  match tableau.basicRow? column with
  | some row => tableau.rhs row
  | none => 0

/-- Whether a column is one in a row and zero in all others, the objective row
included, up to a tolerance. -/
def isUnitColumn (tableau : Tableau α) (column row : Nat) (tolerance : α) : Bool :=
  tableau.allRows.zipIdx.all fun (entries, index) =>
    let expected : α := if index = row then 1 else 0
    magnitude (entries.getD column 0 - expected) ≤ tolerance

/-! ## Row operations -/

/-- A row less a multiple of another one. -/
def subtractMultiple (factor : α) (row other : List α) : List α :=
  List.zipWith (fun x y => x - factor * y) row other

/-- Subtract a multiple of a constraint row from the objective row.  The
objective then shows the same values at all points of the constraints. -/
def reduceObjective (tableau : Tableau α) (row : Nat) (factor : α) : Tableau α :=
  { tableau with
    objective := subtractMultiple factor tableau.objective (tableau.row row) }

/-- Make the entry of a column zero by subtracting a multiple of the pivot
row.  A row whose entry is zero already is left as it is. -/
def clearColumn (column : Nat) (pivotRow row : List α) : List α :=
  let factor := row.getD column 0
  if isZero factor then row else (subtractMultiple factor row pivotRow).set column 0

/-- Divide the pivot row by its pivot, clear the column in every other row and
make the column basic in the row.  The pivot entry becomes exactly one and the
cleared entries exactly zero. -/
def pivot (tableau : Tableau α) (row column : Nat) :
    Except (SolveError α) (Tableau α) :=
  let element := tableau.entry row column
  if isZero element || !isFinite element then .error (.zeroPivot row column)
  else
    let pivotRow := ((tableau.row row).map (· / element)).set column 1
    let replaced (index : Nat) (entries : List α) : List α :=
      if index = row then pivotRow else clearColumn column pivotRow entries
    .ok {
      columns := tableau.columns
      rows := tableau.rows.mapIdx replaced
      objective := replaced tableau.height tableau.objective
      basis := tableau.basis.set row column }

/-! ## Choices of a pivot -/

/-- The entries of a row under the labelled columns, with their columns.  The
right-hand side has no label and is left out. -/
def numberedEntries (tableau : Tableau α) (row : List α) : List (Nat × α) :=
  (List.range tableau.width).map fun column => (column, row.getD column 0)

/-- The column with the most negative objective entry below the tolerance.  Of
equal entries the first is taken. -/
def enteringColumn? (tableau : Tableau α) (tolerance : α) : Option Nat :=
  leastIndex ((tableau.numberedEntries tableau.objective).filter
    fun candidate => candidate.2 < -tolerance)

/-- The row with the smallest ratio of its right-hand side to its entry, among
the entries above the tolerance. -/
def leavingRow? (tableau : Tableau α) (column : Nat) (tolerance : α) : Option Nat :=
  leastIndex ((List.range tableau.height).filterMap fun row =>
    let element := tableau.entry row column
    let ratio := tableau.rhs row / element
    if tolerance < element ∧ belowCeiling ratio then some (row, ratio) else none)

/-- The row with the most negative right-hand side below the tolerance.  Of
equal ones the first is taken. -/
def dualLeavingRow? (tableau : Tableau α) (tolerance : α) : Option Nat :=
  leastIndex (((List.range tableau.height).map fun row => (row, tableau.rhs row)).filter
    fun candidate => candidate.2 < -tolerance)

/-- The column with the smallest ratio in magnitude of its objective entry to
its entry in the row, among the entries below the negated tolerance. -/
def dualEnteringColumn? (tableau : Tableau α) (row : Nat) (tolerance : α) : Option Nat :=
  leastIndex ((List.range tableau.width).filterMap fun column =>
    let element := tableau.entry row column
    let ratio := magnitude (tableau.objective.getD column 0 / element)
    if element < -tolerance ∧ belowCeiling ratio then some (column, ratio) else none)

end Tableau

end Optimum

import Optimum.Assignment.CellSet
import Optimum.Assignment.CostMatrix
import Optimum.Assignment.Cover

namespace Optimum
namespace Assignment

open Scalar

/-!
# The Hungarian method

Subtracting an amount from a row or a column changes the cost of every
assignment by that amount, so it does not change which one is cheapest.  The
method subtracts until the zeros of the matrix, which never becomes negative,
hold an assignment; that assignment is then cheapest.

It works in two phases.  The first covers the zeros with lines, by the chosen
strategy, and adjusts the matrix until the cover has as many lines as the
matrix has rows.  A greedy cover may have that many lines although no
assignment lies on the zeros yet; the second phase then goes on with covers
that are as small as possible.  Both phases draw on one budget of adjustments.
-/

inductive CoverStrategy
  | greedy
  | minimum
  deriving DecidableEq, Repr

structure Options (α : Type) where
  strategy : CoverStrategy
  maxAdjustments : Nat
  /-- Entries of smaller magnitude count as zeros. -/
  tolerance : α
  deriving DecidableEq, Repr

/-- What a step did, with what has to be said about it.  The matrix after it is
kept beside. -/
inductive Action (α : Type)
  | balance (dummyRows dummyColumns : Nat)
  | rowReduction (minima : List α)
  | columnReduction (minima : List α)
  | cover (rows columns : List Nat)
  | adjustment (value : α)
  | diagonalize (columnOrder : List Nat)
  deriving DecidableEq, Repr

/-- A step with the matrix after it, as it is shown to a reader of the
history. -/
structure Step (α : Type) where
  action : Action α
  matrix : List (List α)
  deriving DecidableEq, Repr

/-- A real row with the real column it was given, and what that costs in the
original matrix. -/
structure Pairing (α : Type) where
  row : Nat
  column : Nat
  rowLabel : String
  columnLabel : String
  cost : α
  deriving DecidableEq, Repr

structure Solution (α : Type) where
  /-- The balanced matrix. -/
  matrix : CostMatrix α
  pairings : List (Pairing α)
  /-- The labels of real rows and columns that were paired with padding. -/
  unassigned : List String
  totalCost : α
  /-- The column of every row of the balanced matrix. -/
  permutation : List Nat
  steps : List (Step α)
  deriving DecidableEq, Repr

/-- The sentence that describes a step, where `labels` are those of the columns
of the balanced matrix. -/
def Step.description {α : Type} [NumberText α] (labels : List String) (step : Step α) : String :=
  let size := toString step.matrix.length
  let brief (values : List α) : String :=
    "[" ++ ", ".intercalate (values.map NumberText.brief) ++ "]"
  match step.action with
  | .balance dummyRows dummyColumns =>
    if dummyRows + dummyColumns = 0 then
      "Matrix is already square (" ++ size ++ "x" ++ size ++ ")"
    else
      "Added " ++ toString dummyRows ++ " dummy row(s) and " ++ toString dummyColumns ++
        " dummy column(s) with zero cost"
  | .rowReduction minima => "Subtracted row minima " ++ brief minima
  | .columnReduction minima => "Subtracted column minima " ++ brief minima
  | .cover rows columns =>
    let lines := rows.length + columns.length
    "All zeros covered with " ++ toString lines ++ " lines, " ++
      (if step.matrix.length ≤ lines then "an assignment exists" else "fewer than " ++ size)
  | .adjustment value =>
    "Subtracted " ++ NumberText.brief value ++
      " from uncovered cells and added it to intersections"
  | .diagonalize columnOrder =>
    "Reordered columns to " ++ ", ".intercalate (columnOrder.map fun column =>
      labels.getD column "") ++ " so the assigned zeros lie on the diagonal"

variable {α : Type} [Scalar α]

/-- The greedy strategy, a thousand adjustments and a billionth. -/
def Options.standard : Options α :=
  ⟨.greedy, 1000, unitFraction 1000000000⟩

def cell (matrix : List (List α)) (row column : Nat) : α :=
  (matrix.getD row []).getD column 0

/-- The cells that count as zeros.  Repeated subtraction leaves small
remainders, so entries nearer to zero than the tolerance do, of either sign. -/
def zeroCells (tolerance : α) (matrix : List (List α)) : CellSet :=
  .ofTest (fun value => magnitude value < tolerance) matrix

/-! ## Reductions -/

def rowMinima (matrix : List (List α)) : List α :=
  matrix.map least

def reduceRows (amounts : List α) (matrix : List (List α)) : List (List α) :=
  List.zipWith (fun amount row => row.map (· - amount)) amounts matrix

def columnMinima (matrix : List (List α)) : List α :=
  (List.range (columnCount matrix)).map fun column =>
    least (matrix.map fun row => row.getD column 0)

def reduceColumns (amounts : List α) (matrix : List (List α)) : List (List α) :=
  matrix.map fun row => List.zipWith (· - ·) row amounts

/-! ## Adjustments -/

/-- The entries on no line of a cover, row by row.  The smallest of them is the
least that an adjustment can take off without making an entry negative. -/
def uncovered (cover : Cover) (matrix : List (List α)) : List α :=
  (List.zipWith (fun rowCovered entries =>
    if rowCovered then []
    else (List.zip cover.columns entries).filterMap fun (columnCovered, value) =>
      if columnCovered then none else some value) cover.rows matrix).flatten

/-- Subtract an amount from the cells on no line and add it to those on two.
That is the same as adding to whole rows and columns, so the cheapest
assignments stay the same. -/
def adjusted (cover : Cover) (amount : α) (matrix : List (List α)) : List (List α) :=
  List.zipWith (fun rowCovered entries =>
    List.zipWith (fun columnCovered value =>
      match rowCovered, columnCovered with
      | false, false => value - amount
      | true, true => value + amount
      | _, _ => value) cover.columns entries) cover.rows matrix

/-- A matrix that has come this far, with the steps that led to it and the
adjustments that are left. -/
structure Progress (α : Type) where
  matrix : List (List α)
  steps : List (Step α)
  budget : Nat
  deriving DecidableEq, Repr

/-- The record of a cover. -/
def coverStep (cover : Cover) (matrix : List (List α)) : Step α :=
  ⟨.cover (Cover.covered cover.rows) (Cover.covered cover.columns), matrix⟩

/-- The adjustment by a cover, by the smallest entry on none of its lines.  A
zero appears outside of the cover, so the next cover is another one. -/
def adjustmentStep (cover : Cover) (matrix : List (List α)) : Step α :=
  let amount := least (uncovered cover matrix)
  ⟨.adjustment amount, adjusted cover amount matrix⟩

/-- A largest matching of rows with columns on the zeros of a matrix. -/
def zeroMatching (tolerance : α) (matrix : List (List α)) : Matching :=
  let zeros := zeroCells tolerance matrix
  maximumMatching zeros.has matrix.length

/-- The cover of the zeros of a matrix that a matching on them leads to. -/
def coverOfMatching (tolerance : α) (matrix : List (List α)) (matching : Matching) : Cover :=
  let zeros := zeroCells tolerance matrix
  matchingCover zeros.has matrix.length matching

/-- The cover of the zeros that a strategy chooses.  Both cover all zeros; only
one of them is always smallest. -/
def CoverStrategy.cover (strategy : CoverStrategy) (tolerance : α) (matrix : List (List α)) :
    Cover :=
  match strategy with
  | .greedy =>
    let zeros := zeroCells tolerance matrix
    greedyCover zeros.has matrix.length
  | .minimum => coverOfMatching tolerance matrix (zeroMatching tolerance matrix)

/-- Adjust until the cover has as many lines as the matrix has rows.  That last
cover is recorded too. -/
def adjustUntilCovered (options : Options α) :
    (budget : Nat) → List (List α) → Except (SolveError α) (Progress α)
  | budget, matrix =>
    let cover := options.strategy.cover options.tolerance matrix
    if matrix.length ≤ cover.lineCount then .ok ⟨matrix, [coverStep cover matrix], budget⟩
    else match budget with
    | 0 => .error (.adjustmentLimit options.maxAdjustments)
    | budget + 1 => do
      let step := adjustmentStep cover matrix
      let finished ← adjustUntilCovered options budget step.matrix
      return { finished with steps := coverStep cover matrix :: step :: finished.steps }

/-- Adjust by smallest covers until the zeros hold an assignment.  Unlike a
greedy cover, a smallest one has as many lines as there are rows only then. -/
def adjustUntilMatched (options : Options α) :
    (budget : Nat) → List (List α) → Except (SolveError α) (Progress α)
  | budget, matrix =>
    let matching := zeroMatching options.tolerance matrix
    if (matching.columns matrix.length).all Option.isSome then .ok ⟨matrix, [], budget⟩
    else match budget with
    | 0 => .error (.adjustmentLimit options.maxAdjustments)
    | budget + 1 => do
      let cover := coverOfMatching options.tolerance matrix matching
      let step := adjustmentStep cover matrix
      let finished ← adjustUntilMatched options budget step.matrix
      return { finished with steps := coverStep cover matrix :: step :: finished.steps }

/-! ## The whole method -/

/-- The pairing of a row with its column, if both are real.  One that was added
by the padding stands for no partner. -/
def pairing? (matrix : CostMatrix α) (pair : Nat × Nat) : Option (Pairing α) :=
  let (column, row) := pair
  if matrix.isDummyRow row || matrix.isDummyColumn column then none
  else some {
    row := row
    column := column
    rowLabel := matrix.rowLabels.getD row ""
    columnLabel := matrix.columnLabels.getD column ""
    cost := cell matrix.costs row column }

/-- The label that a row and its column leave without a partner, if exactly one
of them is real. -/
def unassigned? (matrix : CostMatrix α) (pair : Nat × Nat) : Option String :=
  let (column, row) := pair
  match matrix.isDummyRow row, matrix.isDummyColumn column with
  | false, true => some (matrix.rowLabels.getD row "")
  | true, false => some (matrix.columnLabels.getD column "")
  | _, _ => none

/-- The answer for a matrix whose rows were given columns.  Its cost is told by
the original entries, not by the reduced ones. -/
def Solution.ofPermutation (matrix : CostMatrix α) (permutation : List Nat)
    (steps : List (Step α)) : Solution α :=
  let pairings := permutation.zipIdx.filterMap (pairing? matrix)
  { matrix := matrix
    pairings := pairings
    unassigned := permutation.zipIdx.filterMap (unassigned? matrix)
    totalCost := sum (pairings.map Pairing.cost)
    permutation := permutation
    steps := steps }

/-- Find a cheapest assignment.  Rows and columns are reduced first, adjustments
follow as the strategy asks for them, and the last zeros are matched.  Every
step is recorded with the matrix after it, for display. -/
def hungarian (options : Options α) (matrix : CostMatrix α) :
    Except (SolveError α) (Solution α) := do
  matrix.validate
  let balanced := matrix.balance
  let rowAmounts := rowMinima balanced.costs
  let rowReduced := reduceRows rowAmounts balanced.costs
  let columnAmounts := columnMinima rowReduced
  let reduced := reduceColumns columnAmounts rowReduced
  let covered ← adjustUntilCovered options options.maxAdjustments reduced
  let matched ← adjustUntilMatched options covered.budget covered.matrix
  let matching := zeroMatching options.tolerance matched.matrix
  let permutation := (matching.columns matched.matrix.length).filterMap id
  let diagonal := matched.matrix.map fun row => permutation.map fun column => row.getD column 0
  return Solution.ofPermutation balanced permutation
    ([⟨.balance (matrix.size - matrix.height) (matrix.size - matrix.width), balanced.costs⟩,
      ⟨.rowReduction rowAmounts, rowReduced⟩,
      ⟨.columnReduction columnAmounts, reduced⟩] ++
      covered.steps ++ matched.steps ++ [⟨.diagonalize permutation, diagonal⟩])

end Assignment
end Optimum

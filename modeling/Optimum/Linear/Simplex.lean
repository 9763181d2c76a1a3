import Optimum.Linear.Problem
import Optimum.Linear.Solution

namespace Optimum
namespace Linear

open Scalar Tableau

/-!
# The simplex method

For problems whose constraints all bound from above with a right-hand side
that is not negative.  Then the slack columns form a basis to start from, and
the point that belongs to it is the origin.
-/

variable {α : Type} [Scalar α]

/-- The fault of a constraint that the slack basis cannot hold: it bounds from
above, and its right-hand side is the value of its slack at the start. -/
def checkStandard (constraint : Constraint α) : Except (SolveError α) Unit :=
  if constraint.relation ≠ .le then
    .error (.unsupportedRelation constraint.name constraint.relation [.le])
  else if constraint.rhs < 0 then .error (.negativeRightSide constraint.name constraint.rhs)
  else .ok ()

namespace Problem

/-- Whether the simplex method accepts the constraints. -/
def checkStandardForm (problem : Problem α) : Except (SolveError α) Unit :=
  problem.constraints.forM checkStandard

/-- The objective row of a tableau with a number of added columns.  The
coefficients stand in it with the opposite sign of a maximum, so a negative
entry marks a column that improves the objective, whatever the sense. -/
def objectiveRow (problem : Problem α) (added : List α) : List α :=
  problem.objective.map (fun coefficient => -problem.sense.sign * coefficient) ++ added ++ [0]

end Problem

/-- The row of `count` entries that is one at a position and zero elsewhere.
Columns that are basic at the start have such rows. -/
def unitRow (count position : Nat) : List α :=
  (List.replicate count 0).set position 1

/-- The tableau of the slack basis.  All variables are zero in it and each slack
is its right-hand side, so it shows a feasible point whenever no right-hand side
is negative. -/
def slackTableau (problem : Problem α) : Tableau α :=
  let count := problem.constraints.length
  { columns := problem.variableNames ++ numbered "s" count
    rows := problem.constraints.mapIdx fun index constraint =>
      constraint.coefficients ++ unitRow count index ++ [constraint.rhs]
    objective := problem.objectiveRow (List.replicate count 0)
    basis := (List.range count).map (problem.dimension + ·) }

/-- The labelled values of some columns.  Labels tell an answer's values apart,
so the columns of one label are never mixed up. -/
def columnValues (tableau : Tableau α) (columns : List Nat) : List (NamedValue α) :=
  columns.map fun column => ⟨tableau.label column, tableau.valueOf column⟩

/-- Solve a problem in standard form.  The slack basis is feasible from the
start, so no first phase is needed. -/
def simplex (limits : Limits α) (problem : Problem α) :
    Except (SolveError α) (Solution α) := do
  problem.validate
  problem.checkStandardForm
  let start := slackTableau problem
  let finished ← run (primalRule limits.tolerance) limits.pivots 1 start
  let iterations := ⟨0, start, .slackBasis⟩ :: finished.iterations
  let answer (status : Status) : Solution α :=
    { status := status
      objectiveValue := some (problem.sense.sign * finished.last.objectiveValue)
      variableValues := columnValues finished.last (List.range problem.dimension)
      slackValues := columnValues finished.last start.basis
      artificials := []
      iterations := iterations }
  match finished.verdict with
  | some .unbounded => return .withoutValues .unbounded [] iterations
  | some _ => return answer .optimal
  | none => return answer .iterationLimit

end Linear
end Optimum

import Optimum.Tableau.Run

namespace Optimum
namespace Linear

open Tableau

/-!
# Answers of the tableau methods

An answer keeps every tableau of the run, the first one included, so the
number of pivots is one less than the number of snapshots.
-/

/-- How a method ended.  The limit is one of the ends and not an error, since
what was reached by then can still be read. -/
inductive Status
  | optimal
  | unbounded
  | infeasible
  | iterationLimit
  deriving DecidableEq, Repr

/-- The words for a status in reports. -/
def Status.words : Status → String
  | .optimal => "OPTIMAL"
  | .unbounded => "UNBOUNDED"
  | .infeasible => "INFEASIBLE"
  | .iterationLimit => "ITERATION LIMIT"

structure NamedValue (α : Type) where
  name : String
  value : α
  deriving DecidableEq, Repr

/-- The value that a list gives a name, the first one if there are several. -/
def NamedValue.find? {α : Type} (values : List (NamedValue α)) (name : String) : Option α :=
  (values.find? fun entry => entry.name = name).map NamedValue.value

structure Solution (α : Type) where
  status : Status
  /-- The objective in the sense of the problem, where the run gives one. -/
  objectiveValue : Option α
  variableValues : List (NamedValue α)
  slackValues : List (NamedValue α)
  /-- Artificial columns that are still basic with a positive value. -/
  artificials : List (NamedValue α)
  iterations : List (Iteration α)
  deriving DecidableEq, Repr

namespace Solution

variable {α : Type}

/-- An answer without values, for statuses about which no point says anything.
The history is kept. -/
def withoutValues (status : Status) (artificials : List (NamedValue α))
    (iterations : List (Iteration α)) : Solution α :=
  ⟨status, none, [], [], artificials, iterations⟩

/-- The number of pivots.  The first snapshot is the start, which is no
pivot. -/
def iterationCount (solution : Solution α) : Nat :=
  solution.iterations.length - 1

/-- The value of a variable or a slack.  Variables are looked up first, but a
slack never has the name of one. -/
def value? (solution : Solution α) (name : String) : Option α :=
  NamedValue.find? (solution.variableValues ++ solution.slackValues) name

/-- The values of the variables in their order. -/
def values (solution : Solution α) : List α :=
  solution.variableValues.map NamedValue.value

end Solution

end Linear
end Optimum

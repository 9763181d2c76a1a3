import Optimum.Linear.Simplex

namespace Optimum
namespace Linear

open Scalar Tableau

/-!
# The dual problem

Every constraint of a problem has a price.  The dual problem looks for the
best prices, with the roles of variables and constraints exchanged.  Bounds
that point against the sense of the problem are negated first; an equation
would need a price of either sign and is refused.

The dual is solved from its slack basis.  Its bounds from below are negated
there, so right-hand sides may be negative, and the rule repairs them first.
-/

variable {α : Type} [Scalar α]

/-- The relation of bounds that agree with a sense.  A maximum is bounded from
above and a minimum from below, and only such bounds have prices of one sign. -/
def Sense.boundary : Sense → Relation
  | .max => .le
  | .min => .ge

namespace Problem

/-- A constraint as a bound that agrees with the sense.  A bound of the other
direction changes its sign; an equation has no such form and is refused. -/
def symmetricConstraint (sense : Sense) (constraint : Constraint α) :
    Except (SolveError α) (Constraint α) :=
  if constraint.relation = .eq then
    .error (.unsupportedRelation constraint.name constraint.relation [.le, .ge])
  else .ok (if constraint.relation = sense.boundary then constraint else constraint.negated)

/-- The dual of a problem.  Its constraints carry the names of the variables,
and its variables are the prices of the bounds in their order.  An equation has
no price of one sign, so a problem with one has no dual here. -/
def dual (problem : Problem α) : Except (SolveError α) (Problem α) := do
  problem.validate
  let bounds ← problem.constraints.mapM (symmetricConstraint problem.sense)
  let sense := problem.sense.opposite
  let priced (name : String) (index : Nat) (coefficient : α) : Constraint α :=
    ⟨name, bounds.map fun bound => bound.coefficients.getD index 0, sense.boundary, coefficient⟩
  return {
    variableNames := numbered "y" bounds.length
    sense := sense
    objective := bounds.map Constraint.rhs
    constraints := (problem.variableNames.zip problem.objective).mapIdx
      fun index (name, coefficient) => priced name index coefficient }

end Problem

/-- The slack tableau of a dual problem, bounds from below negated.  Right-hand
sides may be negative in it, and the dual rule repairs them. -/
def dualTableau (dual : Problem α) : Tableau α :=
  let count := dual.constraints.length
  { columns := dual.variableNames ++ numbered "s" count
    rows := dual.constraints.mapIdx fun index constraint =>
      let sign : α := if constraint.relation = .ge then -1 else 1
      constraint.coefficients.map (sign * ·) ++ unitRow count index ++ [sign * constraint.rhs]
    objective := dual.objectiveRow (List.replicate count 0)
    basis := (List.range count).map (dual.dimension + ·) }

structure Price (α : Type) where
  name : String
  constraint : String
  value : α
  deriving DecidableEq, Repr

structure DualSolution (α : Type) where
  dual : Problem α
  /-- How the search for prices ended. -/
  status : Status
  /-- The common optimum of both problems, if there is one. -/
  objectiveValue : Option α
  /-- The objective of the dual problem at the last tableau. -/
  dualObjectiveValue : α
  prices : List (Price α)
  iterations : List (Iteration α)
  deriving DecidableEq, Repr

namespace DualSolution

def iterationCount (solution : DualSolution α) : Nat :=
  solution.iterations.length - 1

def value? (solution : DualSolution α) (name : String) : Option α :=
  (solution.prices.find? fun price => price.name = name).map Price.value

end DualSolution

/-- The status that a run of the dual rule ends with.  A run that was stopped by
its limit has no verdict. -/
def dualStatus : Option Verdict → Status
  | some .optimal => .optimal
  | some .unbounded => .unbounded
  | some .infeasible => .infeasible
  | none => .iterationLimit

/-- Solve the dual of a problem.  The prices are read off the last tableau, and
the problem is not solved on the way. -/
def dualSimplex (limits : Limits α) (problem : Problem α) :
    Except (SolveError α) (DualSolution α) := do
  let dual ← problem.dual
  let start := dualTableau dual
  let finished ← run (dualRule limits.tolerance) limits.pivots 1 start
  let status := dualStatus finished.verdict
  let objective := dual.sense.sign * finished.last.objectiveValue
  let optimal := decide (status = .optimal)
  return {
    dual := dual
    status := status
    objectiveValue := if optimal then some objective else none
    dualObjectiveValue := objective
    prices := (problem.constraints.zip dual.variableNames).mapIdx fun index (constraint, name) =>
      ⟨name, constraint.name, if optimal then finished.last.valueOf index else 0⟩
    iterations := ⟨0, start, .dualBasis dual.sense dual.dimension⟩ :: finished.iterations }

end Linear
end Optimum

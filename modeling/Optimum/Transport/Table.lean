import Optimum.Assignment.CostMatrix

namespace Optimum
namespace Transport

open Scalar

/-!
# Transport problems

Goods are at sources and wanted at destinations.  A table gives the cost of
moving one unit from each source to each destination.
-/

structure Problem (α : Type) where
  sources : List String
  destinations : List String
  supply : List α
  demand : List α
  costs : List (List α)
  deriving DecidableEq, Repr

variable {α : Type} [Scalar α]

/-- The fault of the first amount that is none, if there is one. -/
def checkAmounts (kind : AmountKind) (amounts : List α) : Except (SolveError α) Unit :=
  match Assignment.invalidCost? amounts with
  | some (value, index) => .error (.invalidAmount kind index value)
  | none => .ok ()

namespace Problem

/-- The fault of a table with the wrong number of rows or entries. -/
def checkShape (problem : Problem α) : Except (SolveError α) Unit :=
  let rows := problem.supply.length
  let columns := problem.demand.length
  if problem.costs.length = rows ∧ problem.costs.all (fun row => row.length = columns) then .ok ()
  else
    .error (.costShape rows columns problem.costs.length
      ((problem.costs.map List.length).foldl max 0))

/-- The conditions on shape and values.  Whether supply meets demand is a
question of its own. -/
def validate (problem : Problem α) : Except (SolveError α) Unit := do
  if problem.supply.isEmpty || problem.demand.isEmpty then .error .emptyTransport
  else
    checkAmounts .supply problem.supply
    checkAmounts .demand problem.demand
    problem.checkShape
    problem.costs.zipIdx.forM fun (row, index) => Assignment.checkCosts index row
    Assignment.checkLabels .sources problem.supply.length problem.sources
    Assignment.checkLabels .destinations problem.demand.length problem.destinations

def withLabels (sources destinations : List String) (supply demand : List α)
    (costs : List (List α)) : Except (SolveError α) (Problem α) := do
  let problem : Problem α := ⟨sources, destinations, supply, demand, costs⟩
  problem.validate
  return problem

/-- A problem labelled by position. -/
def ofAmounts (supply demand : List α) (costs : List (List α)) :
    Except (SolveError α) (Problem α) :=
  withLabels (Linear.numbered "S" supply.length) (Linear.numbered "D" demand.length)
    supply demand costs

def totalSupply (problem : Problem α) : α :=
  sum problem.supply

def totalDemand (problem : Problem α) : α :=
  sum problem.demand

/-- Whether supply and demand agree up to a billionth of the larger of them,
or of one if both are smaller. -/
def isBalanced (problem : Problem α) : Bool :=
  let supply := problem.totalSupply
  let demand := problem.totalDemand
  let scale := larger (larger (magnitude supply) (magnitude demand)) 1
  magnitude (supply - demand) ≤ unitFraction 1000000000 * scale

/-- Let a destination take the surplus for nothing, or a source make up for
the shortage for nothing. -/
def balanced (problem : Problem α) : Problem α :=
  let gap := problem.totalSupply - problem.totalDemand
  if problem.isBalanced then problem
  else if 0 < gap then
    { problem with
      destinations := problem.destinations ++ ["Dummy"]
      demand := problem.demand ++ [gap]
      costs := problem.costs.map (· ++ [0]) }
  else
    { problem with
      sources := problem.sources ++ ["Dummy"]
      supply := problem.supply ++ [-gap]
      costs := problem.costs ++ [List.replicate problem.demand.length 0] }

end Problem

end Transport
end Optimum

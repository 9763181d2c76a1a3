import Optimum.Transport.Table

namespace Optimum
namespace Transport

open Scalar

/-!
# The northwest corner

A first plan for a transport problem.  Starting with the first source and the
first destination, as much as possible is moved at each cell; then the source
or the destination that is exhausted is left for the next one, or both are.
Costs play no part in it.
-/

/-- An allocation with the state right after it, so that a step can be shown
without the ones before it. -/
structure Step (α : Type) where
  index : Nat
  source : Nat
  destination : Nat
  amount : α
  allocation : List (List α)
  remainingSupply : List α
  remainingDemand : List α
  sourceDone : Bool
  destinationDone : Bool
  deriving DecidableEq, Repr

/-- Whether a step leaves its source or its destination for the next one. -/
def Step.advances {α : Type} (step : Step α) : Bool :=
  step.sourceDone || step.destinationDone

def Step.nextSource {α : Type} (step : Step α) : Nat :=
  if step.sourceDone then step.source + 1 else step.source

def Step.nextDestination {α : Type} (step : Step α) : Nat :=
  if step.destinationDone then step.destination + 1 else step.destination

theorem Step.lt_next_of_advances {α : Type} (step : Step α) (advances : step.advances = true) :
    step.source ≤ step.nextSource ∧ step.destination ≤ step.nextDestination ∧
      step.source + step.destination < step.nextSource + step.nextDestination := by
  simp only [Step.advances] at advances
  simp only [Step.nextSource, Step.nextDestination]
  cases sourceDone : step.sourceDone <;> cases destinationDone : step.destinationDone <;>
    simp only [sourceDone, destinationDone, Bool.or_self, Bool.false_eq_true] at advances <;>
    simp only [if_true, if_false, Bool.false_eq_true] <;> omega

/-- The sentence that describes a step of a problem. -/
def Step.description {α β : Type} [NumberText α] (problem : Problem β) (step : Step α) : String :=
  let source := problem.sources.getD step.source ""
  let destination := problem.destinations.getD step.destination ""
  let ending := match step.sourceDone, step.destinationDone with
    | true, true => "; " ++ source ++ " and " ++ destination ++ " are both exhausted"
    | true, false => "; " ++ source ++ " is exhausted"
    | false, true => "; " ++ destination ++ " is satisfied"
    | false, false => ""
  "Allocate " ++ NumberText.brief step.amount ++ " from " ++ source ++ " to " ++ destination ++
    ending

structure Solution (α : Type) where
  problem : Problem α
  allocation : List (List α)
  totalCost : α
  steps : List (Step α)
  deriving DecidableEq, Repr

variable {α : Type} [Scalar α]

/-- The cells that received something.  A cell that was visited for an amount of
zero is not among them. -/
def Solution.occupiedCells (solution : Solution α) : List (Nat × Nat) :=
  solution.allocation.zipIdx.flatMap fun (amounts, source) =>
    amounts.zipIdx.filterMap fun (amount, destination) =>
      if 0 < amount then some (source, destination) else none

/-- Add an amount to a cell of a table. -/
def addAt (table : List (List α)) (source destination : Nat) (amount : α) : List (List α) :=
  table.modify source fun row => row.modify destination (· + amount)

/-- An amount after a withdrawal, zero as soon as no more than the tolerance is
left, with the word whether that is so. -/
def withdraw (tolerance available amount : α) : α × Bool :=
  let rest := available - amount
  if rest ≤ tolerance then (0, true) else (rest, false)

/-- The allocation at one cell, from the state before it.  It is the smaller of
what is left of either side. -/
def stepAt (tolerance : α) (index source destination : Nat) (supply demand : List α)
    (allocation : List (List α)) : Step α :=
  let available := supply.getD source 0
  let wanted := demand.getD destination 0
  let amount := smaller available wanted
  let (leftSupply, sourceDone) := withdraw tolerance available amount
  let (leftDemand, destinationDone) := withdraw tolerance wanted amount
  { index := index
    source := source
    destination := destination
    amount := amount
    allocation := addAt allocation source destination amount
    remainingSupply := supply.set source leftSupply
    remainingDemand := demand.set destination leftDemand
    sourceDone := sourceDone
    destinationDone := destinationDone }

theorem length_remainingSupply_stepAt (tolerance : α) (index source destination : Nat)
    (supply demand : List α) (allocation : List (List α)) :
    (stepAt tolerance index source destination supply demand allocation).remainingSupply.length =
      supply.length :=
  List.length_set

theorem length_remainingDemand_stepAt (tolerance : α) (index source destination : Nat)
    (supply demand : List α) (allocation : List (List α)) :
    (stepAt tolerance index source destination supply demand allocation).remainingDemand.length =
      demand.length :=
  List.length_set

/-- The steps from a cell on.  A cell that exhausts neither side ends them,
which only a tolerance below zero can bring about. -/
def walk (tolerance : α) (index source destination : Nat) (supply demand : List α)
    (allocation : List (List α)) : List (Step α) :=
  if inside : source < supply.length ∧ destination < demand.length then
    let step := stepAt tolerance index source destination supply demand allocation
    if advances : step.advances then
      step :: walk tolerance (index + 1) step.nextSource step.nextDestination
        step.remainingSupply step.remainingDemand step.allocation
    else [step]
  else []
termination_by (supply.length - source) + (demand.length - destination)
decreasing_by
  have next := (stepAt tolerance index source destination supply demand
    allocation).lt_next_of_advances advances
  have place : (stepAt tolerance index source destination supply demand
    allocation).source = source ∧ (stepAt tolerance index source destination supply demand
    allocation).destination = destination := ⟨rfl, rfl⟩
  rw [length_remainingSupply_stepAt, length_remainingDemand_stepAt]
  omega

def allocationCost (allocation costs : List (List α)) : α :=
  sum (List.zipWith (List.zipWith (· * ·)) allocation costs).flatten

/-- Plan by the northwest corner.  The plan meets supply and demand without a
look at the costs, which are only summed up at the end.  Problems out of balance
are refused, and the caller may balance them first. -/
def northwest (tolerance : α) (problem : Problem α) : Except (SolveError α) (Solution α) := do
  problem.validate
  if !problem.isBalanced then .error (.unbalanced problem.totalSupply problem.totalDemand)
  else
    let empty := List.replicate problem.supply.length
      (List.replicate problem.demand.length (0 : α))
    let steps := walk tolerance 0 0 0 problem.supply problem.demand empty
    let allocation := (steps.getLast?.map Step.allocation).getD empty
    return {
      problem := problem
      allocation := allocation
      totalCost := allocationCost allocation problem.costs
      steps := steps }

/-- The tolerance of the northwest corner: a billionth. -/
def standardTolerance : α :=
  unitFraction 1000000000

end Transport
end Optimum

import Optimum.Linear.Problem
import Optimum.Linear.Solution

namespace Optimum
namespace Linear

open Scalar

/-!
# Enumeration of zeros and ones

Every vector of zeros and ones is tried, in the order of the numbers whose
binary digits they are, the first variable being the lowest digit.
-/

namespace Binary

/-- The largest number of variables that any setting allows.  The points double
with each variable, so a larger number could not be enumerated. -/
def ceiling : Nat := 20

structure Options (α : Type) where
  maxVariables : Nat
  tolerance : α
  deriving DecidableEq, Repr

/-- A feasible vector and its objective, as the answer lists them. -/
structure Candidate (α : Type) where
  digits : List Bool
  objective : α
  deriving DecidableEq, Repr

structure Solution (α : Type) where
  status : Status
  objectiveValue : Option α
  variableValues : List (NamedValue α)
  /-- All feasible vectors in the order of trial. -/
  candidates : List (Candidate α)
  /-- How many vectors were tried. -/
  evaluated : Nat
  deriving DecidableEq, Repr

/-- The value of a variable. -/
def Solution.value? {α : Type} (solution : Solution α) (name : String) : Option α :=
  NamedValue.find? solution.variableValues name

variable {α : Type} [Scalar α]

/-- Sixteen variables and a billionth. -/
def Options.standard : Options α :=
  ⟨16, unitFraction 1000000000⟩

/-- The setting for another number of variables, never above the ceiling. -/
def Options.withMaxVariables (options : Options α) (count : Nat) : Options α :=
  { options with maxVariables := min count ceiling }

/-- The lowest binary digits of a number, lowest first.  The first variable
changes fastest when the numbers are counted up. -/
def digits : (count number : Nat) → List Bool
  | 0, _ => []
  | count + 1, number => (number % 2 = 1) :: digits count (number / 2)

/-- The point with the given digits. -/
def point (digits : List Bool) : List α :=
  digits.map fun digit => if digit then 1 else 0

/-- The candidate of a number, if its point is feasible.  The objective is
computed for feasible points only. -/
def candidate? (problem : Problem α) (tolerance : α) (number : Nat) : Option (Candidate α) :=
  let digits := digits problem.dimension number
  if problem.isFeasible (point digits) tolerance then
    some ⟨digits, problem.evaluate (point digits)⟩
  else none

/-- The candidate with the best objective, the first of several.  A later one
replaces it only if it is strictly better. -/
def best? (sense : Sense) (candidates : List (Candidate α)) : Option (Candidate α) :=
  let keep (best : Option (Candidate α)) (candidate : Candidate α) : Option (Candidate α) :=
    match best with
    | none => some candidate
    | some champion =>
      if sense.sign * champion.objective < sense.sign * candidate.objective then some candidate
      else best
  candidates.foldl keep none

end Binary

variable {α : Type} [Scalar α]

/-- Solve a problem over zeros and ones.  Every point is tried, so the answer is
the best one without any argument about the objective.  The number of variables
is limited before any point is made. -/
def binary (options : Binary.Options α) (problem : Problem α) :
    Except (SolveError α) (Binary.Solution α) := do
  problem.validate
  if options.maxVariables < problem.dimension then
    .error (.tooManyBinaryVariables options.maxVariables problem.dimension)
  else
    let total := Nat.pow 2 problem.dimension
    let candidates := (List.range total).filterMap (Binary.candidate? problem options.tolerance)
    match Binary.best? problem.sense candidates with
    | none => return ⟨.infeasible, none, [], candidates, total⟩
    | some champion =>
      return {
        status := .optimal
        objectiveValue := some champion.objective
        variableValues := List.zipWith NamedValue.mk problem.variableNames
          (Binary.point champion.digits)
        candidates := candidates
        evaluated := total }

end Linear
end Optimum

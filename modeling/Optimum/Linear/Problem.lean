import Optimum.Scalar
import Optimum.SolveError

namespace Optimum
namespace Linear

open Scalar

/-!
# Linear problems

An objective and constraints over named variables that are never negative.
A problem may be built with any contents; `Problem.validate` says whether the
methods accept it, and with which fault they refuse it.
-/

structure Constraint (α : Type) where
  name : String
  coefficients : List α
  relation : Relation
  rhs : α
  deriving DecidableEq, Repr

structure Problem (α : Type) where
  variableNames : List String
  sense : Sense
  objective : List α
  constraints : List (Constraint α)
  deriving DecidableEq, Repr

/-- Names made of a letter and the positions from one to a count.  The columns
that a method adds are named so, and constraints without a name. -/
def numbered (letter : String) (count : Nat) : List String :=
  (List.range count).map fun k => letter ++ toString (k + 1)

variable {α : Type} [Scalar α]

namespace Constraint

def lhs (constraint : Constraint α) (point : List α) : α :=
  dot constraint.coefficients point

/-- Whether a point satisfies the constraint up to a tolerance.  An equation
needs a distance strictly below it. -/
def isSatisfied (constraint : Constraint α) (point : List α) (tolerance : α) : Bool :=
  match constraint.relation with
  | .le => constraint.lhs point ≤ constraint.rhs + tolerance
  | .ge => constraint.rhs - tolerance ≤ constraint.lhs point
  | .eq => magnitude (constraint.lhs point - constraint.rhs) < tolerance

/-- The same constraint with both sides negated.  The relation is turned around,
so the same points satisfy it. -/
def negated (constraint : Constraint α) : Constraint α where
  name := constraint.name
  coefficients := constraint.coefficients.map (- ·)
  relation := constraint.relation.flipped
  rhs := -constraint.rhs

end Constraint

/-- Whether a name has the form of the columns that the tableau methods add:
one of three letters and decimal digits after it. -/
def isReserved (name : String) : Bool :=
  match name.toList with
  | letter :: digits =>
    (letter = 's' || letter = 'e' || letter = 'A') && !digits.isEmpty &&
      digits.all Char.isDigit
  | [] => false

namespace Problem

/-- A problem without constraints whose variables are `x1`, `x2` and so on. -/
def ofObjective (sense : Sense) (objective : List α) : Problem α :=
  ⟨numbered "x" objective.length, sense, objective, []⟩

/-- Add a constraint, named for its position unless a name is given.  Names are
not compared, so two constraints may share one. -/
def addConstraint (problem : Problem α) (name : Option String) (coefficients : List α)
    (relation : Relation) (rhs : α) : Problem α :=
  let name := name.getD ("R" ++ toString (problem.constraints.length + 1))
  { problem with constraints := problem.constraints ++ [⟨name, coefficients, relation, rhs⟩] }

/-- The number of variables, as the objective counts them.  Names may be fewer;
validation refuses a problem whose names do not match. -/
def dimension (problem : Problem α) : Nat :=
  problem.objective.length

/-- The objective at a point. -/
def evaluate (problem : Problem α) (point : List α) : α :=
  dot problem.objective point

/-- Whether a point satisfies every constraint and has no negative entry, up
to a tolerance. -/
def isFeasible (problem : Problem α) (point : List α) (tolerance : α) : Bool :=
  point.all (fun x => -tolerance ≤ x) &&
    problem.constraints.all fun constraint => constraint.isSatisfied point tolerance

/-- The fault of one constraint, if it has one.  The length is checked first,
since a row of another length has no left side at all. -/
def checkConstraint (dimension : Nat) (constraint : Constraint α) :
    Except (SolveError α) Unit :=
  if constraint.coefficients.length ≠ dimension then
    .error (.constraintLength constraint.name dimension constraint.coefficients.length)
  else if !isFinite constraint.rhs || !constraint.coefficients.all isFinite then
    .error (.nonFinite (.constraint constraint.name))
  else .ok ()

/-- The conditions that every method relies on.  The first one that fails is
reported, in the order in which a reader would meet them. -/
def validate (problem : Problem α) : Except (SolveError α) Unit :=
  if problem.dimension = 0 then .error .noVariables
  else if problem.variableNames.length ≠ problem.dimension then
    .error (.objectiveLength problem.variableNames.length problem.dimension)
  else match problem.variableNames.find? isReserved with
  | some name => .error (.reservedName name)
  | none =>
    if !problem.objective.all isFinite then .error (.nonFinite .objective)
    else problem.constraints.forM (checkConstraint problem.dimension)

end Problem

end Linear
end Optimum

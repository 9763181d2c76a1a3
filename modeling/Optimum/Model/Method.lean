import Optimum.Linear.Problem

namespace Optimum
namespace Model

/-!
# Methods for linear models

The methods that may be asked for by name.
-/

inductive Method
  | simplex
  | bigM
  | dual
  | graphical
  | binary
  deriving DecidableEq, Repr

namespace Method

def all : List Method :=
  [.simplex, .bigM, .dual, .graphical, .binary]

def name : Method → String
  | .simplex => "simplex"
  | .bigM => "big-m"
  | .dual => "dual"
  | .graphical => "graphical"
  | .binary => "binary"

/-- The method with a name, in capitals or not. -/
def ofName? (name : String) : Option Method :=
  all.find? fun method => method.name = name.map Char.toLower

/-- What is said to a name that no method has.  It lists the names that there
are. -/
def unknownNameMessage (name : String) : String :=
  "Unknown method '" ++ name ++ "', expected one of: " ++
    ", ".intercalate (all.map Method.name)

/-- The simplex method where its start exists, and otherwise the method of
penalties. -/
def default {α : Type} [Scalar α] (problem : Linear.Problem α) : Method :=
  if problem.constraints.all fun constraint => constraint.relation = .le ∧ 0 ≤ constraint.rhs then
    .simplex
  else .bigM

end Method

end Model
end Optimum

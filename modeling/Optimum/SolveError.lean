import Optimum.Linear.Relation
import Optimum.NumberText

namespace Optimum

/-!
# Why a problem is not solved

Faults of the data that a method notices before or while it computes.  That a
problem is infeasible or unbounded is no fault: it is a status of the answer.
-/

/-- The part of a linear problem that holds a value which is not finite.  A
constraint is named, since its coefficients and its right-hand side are checked
together. -/
inductive ProblemPart
  | objective
  | constraint (name : String)
  deriving DecidableEq, Repr

def ProblemPart.text : ProblemPart → String
  | .objective => "objective"
  | .constraint name => "constraint " ++ name

/-- The axes of a table that carry labels. -/
inductive Axis
  | rows
  | columns
  | sources
  | destinations
  deriving DecidableEq, Repr

def Axis.text : Axis → String
  | .rows => "rows"
  | .columns => "columns"
  | .sources => "sources"
  | .destinations => "destinations"

/-- The two kinds of amounts of a transport problem. -/
inductive AmountKind
  | supply
  | demand
  deriving DecidableEq, Repr

def AmountKind.text : AmountKind → String
  | .supply => "Supply"
  | .demand => "Demand"

inductive SolveError (α : Type)
  | noVariables
  | objectiveLength (expected found : Nat)
  | constraintLength (constraint : String) (expected found : Nat)
  | reservedName (name : String)
  | nonFinite (part : ProblemPart)
  | unsupportedRelation (constraint : String) (relation : Linear.Relation)
      (accepted : List Linear.Relation)
  | negativeRightSide (constraint : String) (value : α)
  | zeroPivot (row column : Nat)
  | planeDimension (found : Nat)
  | noFeasibleVertices
  | emptyMatrix
  | raggedMatrix (row expected found : Nat)
  | invalidCost (row column : Nat) (value : α)
  | labelCount (axis : Axis) (expected found : Nat)
  | adjustmentLimit (limit : Nat)
  | emptyTransport
  | invalidAmount (kind : AmountKind) (index : Nat) (value : α)
  | costShape (expectedRows expectedColumns rows columns : Nat)
  | unbalanced (supply demand : α)
  | tooManyBinaryVariables (limit found : Nat)
  deriving DecidableEq, Repr

namespace SolveError

variable {α : Type}

/-- The name of a cause in answers. -/
def name : SolveError α → String
  | .noVariables => "NoVariables"
  | .objectiveLength .. => "ObjectiveLength"
  | .constraintLength .. => "ConstraintLength"
  | .reservedName .. => "ReservedName"
  | .nonFinite .. => "NonFinite"
  | .unsupportedRelation .. => "UnsupportedRelation"
  | .negativeRightSide .. => "NegativeRhs"
  | .zeroPivot .. => "ZeroPivot"
  | .planeDimension .. => "GraphicalVariableCount"
  | .noFeasibleVertices => "NoFeasibleVertices"
  | .emptyMatrix => "EmptyMatrix"
  | .raggedMatrix .. => "RaggedMatrix"
  | .invalidCost .. => "InvalidCost"
  | .labelCount .. => "LabelCount"
  | .adjustmentLimit .. => "AssignmentLimit"
  | .emptyTransport => "EmptyTransport"
  | .invalidAmount .. => "InvalidAmount"
  | .costShape .. => "CostShape"
  | .unbalanced .. => "Unbalanced"
  | .tooManyBinaryVariables .. => "TooManyBinaryVariables"

def message [NumberText α] : SolveError α → String
  | .noVariables => "Problem has no variables"
  | .objectiveLength expected found =>
    "Objective has " ++ toString found ++ " coefficients but " ++ toString expected ++
      " variables are declared"
  | .constraintLength constraint expected found =>
    "Constraint " ++ constraint ++ " has " ++ toString found ++ " coefficients, expected " ++
      toString expected
  | .reservedName name =>
    "Variable name " ++ name ++
      " is reserved for generated slack, surplus and artificial columns"
  | .nonFinite part => "Non-finite value in " ++ part.text
  | .unsupportedRelation constraint relation accepted =>
    "Constraint " ++ constraint ++ " uses " ++ relation.mark ++
      "; this method only accepts " ++
      " or ".intercalate (accepted.map Linear.Relation.mark) ++ " constraints"
  | .negativeRightSide constraint value =>
    "Constraint " ++ constraint ++ " has negative right-hand side " ++
      NumberText.write value ++ "; the simplex method needs rhs >= 0"
  | .zeroPivot row column =>
    "Pivot element at row " ++ toString row ++ ", column " ++ toString column ++ " is zero"
  | .planeDimension found =>
    "The graphical method requires exactly 2 variables, got " ++ toString found
  | .noFeasibleVertices => "No feasible vertices"
  | .emptyMatrix => "Cost matrix is empty"
  | .raggedMatrix row expected found =>
    "Row " ++ toString row ++ " of the cost matrix has " ++ toString found ++
      " entries, expected " ++ toString expected
  | .invalidCost row column value =>
    "Cost at row " ++ toString row ++ ", column " ++ toString column ++
      " must be a finite non-negative number, got " ++ NumberText.write value
  | .labelCount axis expected found =>
    "Expected " ++ toString expected ++ " labels for " ++ axis.text ++ ", got " ++
      toString found
  | .adjustmentLimit limit =>
    "Assignment did not converge within " ++ toString limit ++ " adjustments"
  | .emptyTransport => "Transport problem needs at least one source and one destination"
  | .invalidAmount kind index value =>
    kind.text ++ " " ++ toString index ++
      " must be a finite non-negative amount, got " ++ NumberText.write value
  | .costShape expectedRows expectedColumns rows columns =>
    "Cost table is " ++ toString rows ++ "x" ++ toString columns ++ ", expected " ++
      toString expectedRows ++ "x" ++ toString expectedColumns
  | .unbalanced supply demand =>
    "Total supply " ++ NumberText.write supply ++ " does not match total demand " ++
      NumberText.write demand
  | .tooManyBinaryVariables limit found =>
    "Binary enumeration supports at most " ++ toString limit ++ " variables, got " ++
      toString found

end SolveError

end Optimum

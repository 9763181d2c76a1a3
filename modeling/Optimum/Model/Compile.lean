import Optimum.Assignment.CostMatrix
import Optimum.Model.LinearForm
import Optimum.Transport.Table

namespace Optimum
namespace Model

open Optimum.Language Scalar

/-!
# From models to problems

A linear model becomes a problem over the variables of its expressions, the
objective's first.  Each constraint is brought to the form in which all
variables stand on its left and one number on its right.  Models of data are
taken as they are, with labels by position where none are given.
-/

/-- A problem with the name of its model, which answers and faults show. -/
inductive Compiled (α : Type)
  | lp (name : String) (problem : Linear.Problem α)
  | assignment (name : String) (matrix : Assignment.CostMatrix α)
  | transport (name : String) (problem : Transport.Problem α)
  deriving DecidableEq, Repr

namespace Compiled

variable {α : Type}

def name : Compiled α → String
  | .lp name _ => name
  | .assignment name _ => name
  | .transport name _ => name

def kind : Compiled α → ModelKind
  | .lp .. => .lp
  | .assignment .. => .assignment
  | .transport .. => .transport

end Compiled

variable {α : Type} [Scalar α]

/-- Say which model a fault of its problem belongs to. -/
def blame {β : Type} (model : String) (result : Except (SolveError α) β) :
    Except (CompileError α) β :=
  result.mapError (.unsolvable model)

/-- The difference of the two sides of a constraint.  Variables may stand on
either side; the difference gathers them on one. -/
def constraintForm (model : String) (declaration : Declaration α) :
    Except (CompileError α) (LinearForm α) := do
  let left ← linearForm model declaration.left
  let right ← linearForm model declaration.right
  return left.combine right (-1)

/-- The variables of forms in the order in which they first appear.  The columns
of the problem follow that order. -/
def variablesOf (forms : List (LinearForm α)) : List String :=
  (forms.flatMap fun form => form.terms.map Prod.fst).foldl
    (fun names name => if names.contains name then names else names ++ [name]) []

/-- The constraint that a form compared with zero stands for.  Its constant goes
to the right side with the other sign. -/
def constraintOf (names : List String) (declared : (Declaration α × LinearForm α) × Nat) :
    Linear.Constraint α :=
  let ((declaration, form), index) := declared
  { name := declaration.label.getD ("R" ++ toString (index + 1))
    coefficients := names.map form.coefficient
    relation := declaration.relation
    rhs := -form.constant + 0 }

/-- The problem of a linear model.  Faults of the objective come before those of
the constraints, and both before what validation finds. -/
def compileLinear (model : LinearModel α) : Except (CompileError α) (Linear.Problem α) := do
  match model.objective with
  | none => .error (.missingObjective model.name)
  | some objective =>
    let objectiveForm ← linearForm model.name objective.expression
    if !isZero objectiveForm.constant then .error (.constantObjective model.name)
    else
      let forms ← model.constraints.mapM (constraintForm model.name)
      let names := variablesOf (objectiveForm :: forms)
      let problem : Linear.Problem α :=
        { variableNames := names
          sense := objective.sense
          objective := names.map objectiveForm.coefficient
          constraints := (model.constraints.zip forms).zipIdx.map (constraintOf names) }
      blame model.name problem.validate
      return problem

/-- A section that the model must have. -/
def requireSection {β : Type} (model : String) (name : RequiredSection) :
    Option β → Except (CompileError α) β
  | some value => .ok value
  | none => .error (.missingSection model name)

/-- The cost matrix of an assignment model. -/
def compileAssignment (model : AssignmentModel α) :
    Except (CompileError α) (Assignment.CostMatrix α) := do
  let costs ← requireSection model.name .costs model.costs
  let rows := model.rows.getD (Linear.numbered "R" costs.length)
  let columns := model.columns.getD (Linear.numbered "C" (Assignment.columnCount costs))
  blame model.name (Assignment.CostMatrix.withLabels rows columns costs)

/-- The problem of a transport model. -/
def compileTransport (model : TransportModel α) :
    Except (CompileError α) (Transport.Problem α) := do
  let supply ← requireSection model.name .supply model.supply
  let demand ← requireSection model.name .demand model.demand
  let costs ← requireSection model.name .costs model.costs
  let sources := model.sources.getD (Linear.numbered "S" supply.length)
  let destinations := model.destinations.getD (Linear.numbered "D" demand.length)
  blame model.name (Transport.Problem.withLabels sources destinations supply demand costs)

/-- The problem of a model.  A fault of its data is reported under the name of
the model. -/
def compile : Item α → Except (CompileError α) (Compiled α)
  | .lp model => (compileLinear model).map (.lp model.name)
  | .assignment model => (compileAssignment model).map (.assignment model.name)
  | .transport model => (compileTransport model).map (.transport model.name)

end Model
end Optimum

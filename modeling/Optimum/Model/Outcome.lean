import Optimum.Assignment.Hungarian
import Optimum.Linear.BigM
import Optimum.Linear.Binary
import Optimum.Linear.Dual
import Optimum.Linear.Graphical
import Optimum.Model.Registry
import Optimum.Transport.Northwest

namespace Optimum
namespace Model

open Optimum.Language

/-!
# Solving models

A linear model is solved by the method asked for, or by the default for its
problem.  A model of data has one method of its own and accepts no other.
-/

/-- The answer to a model, by the method that found it.  Each method keeps an
answer of its own form. -/
inductive Outcome (α : Type)
  | tableau (model : String) (method : Method) (solution : Linear.Solution α)
  | dual (model : String) (solution : Linear.DualSolution α)
  | graphical (model : String) (solution : Linear.Graphical.Solution α)
  | binary (model : String) (solution : Linear.Binary.Solution α)
  | assignment (model : String) (solution : Assignment.Solution α)
  | transport (model : String) (solution : Transport.Solution α)
  deriving DecidableEq, Repr

def Outcome.model {α : Type} : Outcome α → String
  | .tableau model .. => model
  | .dual model _ => model
  | .graphical model _ => model
  | .binary model _ => model
  | .assignment model _ => model
  | .transport model _ => model

variable {α : Type}

/-- Fail if a method is asked for.  Only linear models have a choice of
methods. -/
def Compiled.rejectMethod (compiled : Compiled α) (method : Option Method) :
    Except (CompileError α) Unit :=
  match method with
  | some method => .error (.unsupportedMethod compiled.name method compiled.kind)
  | none => .ok ()

variable [PlaneScalar α]

/-- Solve a linear problem by a method with its standard settings.  None of them
can be changed from outside. -/
def solveLinear (name : String) (problem : Linear.Problem α) (method : Method) :
    Except (CompileError α) (Outcome α) :=
  blame name <| match method with
    | .simplex => (Linear.simplex .standard problem).map (.tableau name .simplex)
    | .bigM => (Linear.bigM .standard problem).map (.tableau name .bigM)
    | .dual => (Linear.dualSimplex .standard problem).map (.dual name)
    | .graphical => (Linear.graphical .standard problem).map (.graphical name)
    | .binary => (Linear.binary .standard problem).map (.binary name)

/-- Solve the problem of a model.  With `balance`, a transport problem whose
supply does not meet its demand is balanced first. -/
def solve (compiled : Compiled α) (method : Option Method) (balance : Bool) :
    Except (CompileError α) (Outcome α) := do
  match compiled with
  | .lp name problem => solveLinear name problem (method.getD (Method.default problem))
  | .assignment name matrix =>
    compiled.rejectMethod method
    blame name ((Assignment.hungarian .standard matrix).map (.assignment name))
  | .transport name problem =>
    compiled.rejectMethod method
    let table := if balance then problem.balanced else problem
    blame name ((Transport.northwest Transport.standardTolerance table).map (.transport name))

/-- Parse a text, compile one of its models and solve it.  Of the other models
only the grammar and the names matter. -/
def solveSource [NumberText α] (source model : String) (method : Option Method) (balance : Bool) :
    Except (CompileError α) (Outcome α) := do
  let program ← (parse source).mapError (.unparsable "<source>")
  let registry ← Registry.ofProgram program
  let compiled ← registry.compile model
  solve compiled method balance

end Model
end Optimum

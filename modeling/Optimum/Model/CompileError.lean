import Optimum.Files
import Optimum.Language.ParseError
import Optimum.Model.Method

namespace Optimum
namespace Model

open Optimum.Language

/-!
# Why a model cannot be used

Faults between a text and an answer: of the file, of the text, of the model as
it is written, of the problem it stands for, and of what is asked of it.
-/

/-- The sections that a model of data cannot do without. -/
inductive RequiredSection
  | costs
  | supply
  | demand
  deriving DecidableEq, Repr

def RequiredSection.text : RequiredSection → String
  | .costs => "costs"
  | .supply => "supply"
  | .demand => "demand"

inductive CompileError (α : Type)
  | unknownModel (name : String)
  | duplicateModel (name : String)
  | missingObjective (model : String)
  | missingSection (model : String) (missing : RequiredSection)
  | nonLinear (model : String) (expression : Expression α)
  | constantObjective (model : String)
  | divisionByZero (model : String)
  | wrongKind (model : String) (found wanted : ModelKind)
  | unsupportedMethod (model : String) (method : Method) (kind : ModelKind)
  | unreadable (path : String) (failure : Files.ReadFailure)
  | unparsable (origin : String) (cause : ParseError)
  | unsolvable (model : String) (cause : SolveError α)
  deriving DecidableEq, Repr

namespace CompileError

variable {α : Type}

/-- The name of a cause in answers. -/
def name : CompileError α → String
  | .unknownModel .. => "UnknownModel"
  | .duplicateModel .. => "DuplicateModel"
  | .missingObjective .. => "MissingObjective"
  | .missingSection .. => "MissingSection"
  | .nonLinear .. => "NonLinear"
  | .constantObjective .. => "ConstantObjective"
  | .divisionByZero .. => "DivisionByZero"
  | .wrongKind .. => "WrongKind"
  | .unsupportedMethod .. => "UnsupportedMethod"
  | .unreadable .. => "IoError"
  | .unparsable .. => "ParseError"
  | .unsolvable .. => "Solver"

/-- The fault of the problem behind the fault of the model. -/
def solveError? : CompileError α → Option (SolveError α)
  | .unsolvable _ cause => some cause
  | _ => none

def message [NumberText α] : CompileError α → String
  | .unknownModel name => "Unknown model: " ++ name
  | .duplicateModel name => "Model " ++ name ++ " is defined more than once"
  | .missingObjective model => "Model " ++ model ++ " has no maximize/minimize objective"
  | .missingSection model missing =>
    "Model " ++ model ++ " is missing its " ++ missing.text ++ " section"
  | .nonLinear model expression => "Non-linear term in " ++ model ++ ": " ++ expression.text
  | .constantObjective model => "Objective of " ++ model ++ " contains a constant term"
  | .divisionByZero model => "Division by zero in " ++ model
  | .wrongKind model found wanted =>
    "Model " ++ model ++ " is " ++ found.keyword ++ ", not " ++ wanted.keyword
  | .unsupportedMethod model method kind =>
    "Method " ++ method.name ++ " cannot solve " ++ kind.keyword ++ " model " ++ model
  | .unreadable path failure => "IO error: " ++ path ++ ": " ++ failure.message
  | .unparsable origin cause => "Parse error in " ++ origin ++ ": " ++ cause.message
  | .unsolvable model cause => model ++ ": " ++ cause.message

end CompileError

end Model
end Optimum

import Optimum.Language.Expression
import Optimum.Linear.Relation

namespace Optimum
namespace Language

/-!
# Programs

A program is a list of models in the order of the text.  Sections that a model
leaves out stay absent here; whether it may leave them out is decided when the
model is compiled.
-/

structure Objective (α : Type) where
  span : Span
  sense : Linear.Sense
  expression : Expression α
  deriving Repr

/-- A constraint, with its label if it has one.  Both sides are expressions, and
nothing is moved to one side yet. -/
structure Declaration (α : Type) where
  span : Span
  label : Option String
  left : Expression α
  relation : Linear.Relation
  right : Expression α
  deriving Repr

structure LinearModel (α : Type) where
  span : Span
  name : String
  objective : Option (Objective α)
  constraints : List (Declaration α)
  deriving Repr

structure AssignmentModel (α : Type) where
  span : Span
  name : String
  rows : Option (List String)
  columns : Option (List String)
  costs : Option (List (List α))
  deriving Repr

structure TransportModel (α : Type) where
  span : Span
  name : String
  sources : Option (List String)
  destinations : Option (List String)
  supply : Option (List α)
  demand : Option (List α)
  costs : Option (List (List α))
  deriving Repr

/-- The kinds of models. -/
inductive ModelKind
  | lp
  | assignment
  | transport
  deriving DecidableEq, Repr

/-- The keyword that opens a model of the kind. -/
def ModelKind.keyword : ModelKind → String
  | .lp => "lp"
  | .assignment => "assignment"
  | .transport => "transport"

/-- One model of a program.  Models of all kinds share one space of names. -/
inductive Item (α : Type)
  | lp (model : LinearModel α)
  | assignment (model : AssignmentModel α)
  | transport (model : TransportModel α)
  deriving Repr

namespace Item

variable {α : Type}

def name : Item α → String
  | .lp model => model.name
  | .assignment model => model.name
  | .transport model => model.name

def span : Item α → Span
  | .lp model => model.span
  | .assignment model => model.span
  | .transport model => model.span

def kind : Item α → ModelKind
  | .lp _ => .lp
  | .assignment _ => .assignment
  | .transport _ => .transport

/-- The expressions of a model: the objective's, then both sides of each
constraint. -/
def expressions : Item α → List (Expression α)
  | .lp model =>
    (model.objective.map Objective.expression).toList ++
      model.constraints.flatMap fun declaration => [declaration.left, declaration.right]
  | _ => []

end Item

structure Program (α : Type) where
  items : List (Item α)
  deriving Repr

end Language
end Optimum

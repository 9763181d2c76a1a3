import Optimum.Document
import Optimum.Language.Program

namespace Optimum

open Document

/-!
# Programs as documents
-/

def Linear.Relation.variantName : Linear.Relation → String
  | .le => "Le"
  | .eq => "Eq"
  | .ge => "Ge"

namespace Language

def Span.document (span : Span) : Document :=
  .record [("start", .count span.start), ("end", .count span.stop)]

def Operator.variantName : Operator → String
  | .add => "Add"
  | .subtract => "Sub"
  | .multiply => "Mul"
  | .divide => "Div"

def Expression.document : Expression Float → Document
  | .number value => variant "Number" (.number value)
  | .variable name span =>
    variant "Variable" (.record [("name", .text name), ("span", span.document)])
  | .negate inner => variant "Neg" inner.document
  | .binary left operator right =>
    variant "BinaryOp" (.record [("left", left.document), ("op", .text operator.variantName),
      ("right", right.document)])
  | .parenthesized inner => variant "Paren" inner.document

/-- The name of the sense of a written objective in answers, which differs from
the name that the sense of a problem has. -/
def senseVariantName : Linear.Sense → String
  | .max => "Maximize"
  | .min => "Minimize"

def Objective.document (objective : Objective Float) : Document :=
  .record [("span", objective.span.document),
    ("sense", .text (senseVariantName objective.sense)),
    ("expr", objective.expression.document)]

def Declaration.document (declaration : Declaration Float) : Document :=
  .record [("span", declaration.span.document),
    ("label", optional .text declaration.label),
    ("lhs", declaration.left.document),
    ("relation", .text declaration.relation.variantName),
    ("rhs", declaration.right.document)]

def Item.document : Item Float → Document
  | .lp model => variant "Lp" (.record [("span", model.span.document),
      ("name", .text model.name),
      ("objective", optional Objective.document model.objective),
      ("constraints", listOf Declaration.document model.constraints)])
  | .assignment model => variant "Assignment" (.record [("span", model.span.document),
      ("name", .text model.name),
      ("rows", optional texts model.rows),
      ("cols", optional texts model.columns),
      ("costs", optional table model.costs)])
  | .transport model => variant "Transport" (.record [("span", model.span.document),
      ("name", .text model.name),
      ("sources", optional texts model.sources),
      ("destinations", optional texts model.destinations),
      ("supply", optional numbers model.supply),
      ("demand", optional numbers model.demand),
      ("costs", optional table model.costs)])

def Program.document (program : Program Float) : Document :=
  .record [("items", listOf Item.document program.items)]

end Language
end Optimum

import Optimum.Language.Token
import Optimum.NumberText

namespace Optimum
namespace Language

/-!
# Expressions

An expression is kept as it was written: parentheses are nodes, so a tree can
be shown without adding any.
-/

inductive Operator
  | add
  | subtract
  | multiply
  | divide
  deriving DecidableEq, Repr, Inhabited

def Operator.mark : Operator → String
  | .add => "+"
  | .subtract => "-"
  | .multiply => "*"
  | .divide => "/"

/-- An arithmetic expression over numbers of the type `α`.  Parentheses are part
of it, so that its text can be given back as it was written. -/
inductive Expression (α : Type)
  | number (value : α)
  | variable (name : String) (span : Span)
  | negate (inner : Expression α)
  | binary (left : Expression α) (operator : Operator) (right : Expression α)
  | parenthesized (inner : Expression α)
  deriving DecidableEq, Repr, Inhabited

/-- The text of an expression.  Operands stand as they are, without parentheses
of its own making. -/
def Expression.text {α : Type} [NumberText α] : Expression α → String
  | .number value => NumberText.write value
  | .variable name _ => name
  | .negate inner => "-" ++ inner.text
  | .binary left operator right =>
    left.text ++ " " ++ operator.mark ++ " " ++ right.text
  | .parenthesized inner => "(" ++ inner.text ++ ")"

end Language
end Optimum

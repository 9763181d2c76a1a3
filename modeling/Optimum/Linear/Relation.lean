namespace Optimum
namespace Linear

/-!
# Senses and relations

The two directions of optimisation and the three ways to compare the two sides
of a constraint.
-/

/-- The direction in which an objective improves. -/
inductive Sense
  | max
  | min
  deriving DecidableEq, Repr, Inhabited

namespace Sense

def opposite : Sense → Sense
  | .max => .min
  | .min => .max

def word : Sense → String
  | .max => "max"
  | .min => "min"

/-- The factor that turns an objective into one to be maximised.  Methods work
on that objective and give its value back with the same factor. -/
def sign {α : Type} [One α] [Neg α] : Sense → α
  | .max => 1
  | .min => -1

end Sense

/-- How the left side of a constraint compares with its right side.  Strict
relations are not among them, since a best point need not exist then. -/
inductive Relation
  | le
  | eq
  | ge
  deriving DecidableEq, Repr, Inhabited

namespace Relation

/-- The relation after both sides have changed sign.  An equation stays one. -/
def flipped : Relation → Relation
  | .le => .ge
  | .eq => .eq
  | .ge => .le

def mark : Relation → String
  | .le => "<="
  | .eq => "="
  | .ge => ">="

end Relation

end Linear
end Optimum

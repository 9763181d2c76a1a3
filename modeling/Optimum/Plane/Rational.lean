import Optimum.Scalar

namespace Optimum
namespace Plane

/-!
# The plane over rationals

Lengths and angles of rational displacements are mostly irrational, but they
compare exactly: lengths through their squares, and angles through the half
plane of the displacement and the sign of a cross product.
-/

/-- Round to the nearest integer, halves away from zero. -/
def roundRational (x : Rat) : Rat :=
  if x < 0 then ((-(-x + 1 / 2 : Rat).floor : Int) : Rat) else ((x + 1 / 2 : Rat).floor : Rat)

/-- The part of the turn that a displacement points into, counted from below:
the lower half plane, the forward axis, the upper half plane and the backward
axis. -/
def sector (displacement : Rat × Rat) : Nat :=
  if displacement.2 < 0 then 0
  else if 0 < displacement.2 then 2
  else if displacement.1 < 0 then 3
  else 1

/-- Whether the first displacement makes an angle that is not larger.  Angles
are compared by sector first and by a cross product within one, so no angle is
ever computed. -/
def angleLe (first second : Rat × Rat) : Bool :=
  if sector first = sector second then
    if sector first % 2 = 0 then 0 ≤ first.1 * second.2 - first.2 * second.1 else true
  else sector first < sector second

instance : PlaneScalar Rat where
  round := roundRational
  shorter := fun dx dy radius => 0 < radius ∧ dx * dx + dy * dy < radius * radius
  angleLe := angleLe

end Plane
end Optimum

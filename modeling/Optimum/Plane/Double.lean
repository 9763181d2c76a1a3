import Optimum.Scalar

namespace Optimum
namespace Plane

/-!
# The plane over doubles

The length of a displacement is the root of the sum of the squares of its
sides, with one correction for what the roundings of the squares and of the
root have lost.  Sides so large or so small that a square would leave the
range of doubles are scaled by a power of two first, and a side too short to
change the other one is simply added to it.

Angles are ordered by their value, a negative zero before zero and an angle
that is no number before all others.
-/

/-- The double `2 ^ exponent`, for exponents of normal doubles.  It is built
from its bits, so it is exact. -/
def powerOfTwo (exponent : Int) : Float :=
  Float.ofBits (UInt64.ofNat ((exponent + 1023).toNat * Nat.pow 2 52))

/-- The length for sides whose squares are normal doubles, the longer side
first.  The correction is half the excess of the root's square over the sum of
the squares, relative to the root. -/
def correctedLength (long short : Float) : Float :=
  let root := Float.sqrt (long * long + short * short)
  if root <= 2.0 * short then
    let delta := root - short
    let first := long * (2.0 * delta - long)
    let second := (delta - 2.0 * (long - short)) * delta
    root - (first + second) / (2.0 * root)
  else
    let delta := root - long
    let first := 2.0 * delta * (long - 2.0 * short)
    let second := (4.0 * delta - short) * short + delta * delta
    root - (first + second) / (2.0 * root)

/-- The length for finite sides, the longer one first.  Sides whose squares
would be too large or too small are scaled by a power of two, which loses
nothing. -/
def orderedLength (long short : Float) : Float :=
  let negligible := powerOfTwo (-54)
  let scale := powerOfTwo (-600)
  if powerOfTwo 511 < long then
    if short <= long * negligible then long + short
    else correctedLength (long * scale) (short * scale) / scale
  else if short < powerOfTwo (-459) then
    if short / negligible <= long then long + short
    else correctedLength (long / scale) (short / scale) * scale
  else if short <= long * negligible then long + short
  else correctedLength long short

/-- The length of a displacement.  It is infinite as soon as one side is, even
if the other is no number. -/
def length (dx dy : Float) : Float :=
  if dx.isInf || dy.isInf then Float.ofBits 0x7ff0000000000000
  else if dx.isNaN || dy.isNaN then dx + dy
  else
    let width := dx.abs
    let height := dy.abs
    if width < height then orderedLength height width else orderedLength width height

/-- A place in the order of doubles by value, and by sign for the zeros. -/
def orderKey (x : Float) : Int :=
  let bits := x.toBits.toNat
  if x.isNaN then -(Nat.pow 2 64 : Nat)
  else if bits < Nat.pow 2 63 then bits
  else -((bits - Nat.pow 2 63 : Nat) : Int) - 1

instance : PlaneScalar Float where
  round := Float.round
  shorter := fun dx dy radius => length dx dy < radius
  angleLe := fun first second =>
    orderKey (Float.atan2 first.2 first.1) ≤ orderKey (Float.atan2 second.2 second.1)

end Plane
end Optimum

import Optimum.Decimal.Rounding

namespace Optimum
namespace Decimal

/-!
# Doubles as exact binary fractions

`Parts.of` takes a double apart into an integer times a power of two, and
`nearest` finds the double closest to a quotient of natural numbers.  Both
work on the bit pattern, so nothing is lost to the arithmetic of doubles.
-/

/-- What a double stands for: no number, an infinity, or a signed integer
times a power of two. -/
inductive Parts
  | notANumber
  | infinite (negative : Bool)
  | finite (negative : Bool) (significand : Nat) (exponent : Int)
  deriving DecidableEq, Repr

/-- The least exponent of a double's unit.  Doubles whose unit has it are evenly
spaced down to zero. -/
def leastExponent : Int := -1074

/-- The significand of a normal double is at least this, and less than twice as
much. -/
def leastNormal : Nat := Nat.pow 2 52

/-- The parts encoded by 64 bits. -/
def Parts.ofBits (bits : Nat) : Parts :=
  let negative := decide (Nat.pow 2 63 ≤ bits)
  let field := bits / Nat.pow 2 52 % Nat.pow 2 11
  let fraction := bits % Nat.pow 2 52
  if field = Nat.pow 2 11 - 1 then
    if fraction = 0 then .infinite negative else .notANumber
  else if field = 0 then .finite negative fraction leastExponent
  else .finite negative (leastNormal + fraction) (leastExponent + (field - 1 : Nat))

def Parts.of (x : Float) : Parts :=
  .ofBits x.toBits.toNat

/-- The bits of the double closest to a quotient, an exact half going to the
even significand.  Quotients beyond the largest double give the infinity. -/
def nearestBits (numerator denominator : Nat) : Nat :=
  if numerator = 0 then 0
  else
    let estimate : Int := (numerator.log2 : Int) - (denominator.log2 : Int)
    let power := scaled denominator 2 estimate
    let reaches := decide (power.1 ≤ numerator * power.2)
    let unit := max leastExponent (if reaches then estimate - 52 else estimate - 53)
    let quotient := scaled 1 2 (-unit)
    let significand := roundDiv .even (numerator * quotient.1) (denominator * quotient.2)
    min ((unit - leastExponent).toNat * Nat.pow 2 52 + significand) (2047 * Nat.pow 2 52)

/-- The double closest to a quotient of natural numbers.  Every number that a
text gives becomes a double in this one step, so it is rounded once. -/
def nearest (numerator denominator : Nat) : Float :=
  Float.ofBits (UInt64.ofNat (nearestBits numerator denominator))

end Decimal
end Optimum

namespace Optimum
namespace Decimal

/-!
# Rounding a quotient to a natural number

Both directions between doubles and decimal text round an exact quotient of
natural numbers.  The only choice is where an exact half goes.
-/

/-- Where an exact half is rounded to.  Halves away from zero are `up`, since
only magnitudes are rounded. -/
inductive Tie
  | up
  | even
  deriving DecidableEq, Repr

/-- The natural number nearest to a quotient.  Quotients of exact numbers are
rounded only here, so that no rounding is hidden in another step. -/
def roundDiv (tie : Tie) (numerator denominator : Nat) : Nat :=
  let quotient := numerator / denominator
  let twice := 2 * (numerator % denominator)
  if twice < denominator then quotient
  else if denominator < twice then quotient + 1
  else match tie with
    | .up => quotient + 1
    | .even => quotient + quotient % 2

/-- The fraction of natural numbers that a scaled natural number is: the
numerator and the denominator of `factor * base ^ exponent`. -/
def scaled (factor base : Nat) (exponent : Int) : Nat × Nat :=
  if exponent < 0 then (factor, Nat.pow base exponent.natAbs)
  else (factor * Nat.pow base exponent.natAbs, 1)

end Decimal
end Optimum

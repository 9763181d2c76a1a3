import Optimum.Decimal.Binary

namespace Optimum
namespace Decimal

/-!
# The shortest decimal that reads back

A double is the nearest one to every real number of an interval around it.
Among the decimals of that interval those with the fewest digits are kept, and
of these the one closest to the double.  On each decimal grid only the two
neighbours of the double can be closest, so one grid after the other is tried,
coarsest first.
-/

/-- A decimal number `digits * 10 ^ exponent`.  Several of them may stand for
one value; the shortest is the one whose last digit is not zero. -/
structure Digits where
  digits : Nat
  exponent : Int
  deriving DecidableEq, Repr

namespace Digits

/-- Drop zeros from the right, at most `count` of them.  The count keeps the
recursion structural; no decimal of a double has more digits. -/
def trim : Nat → Digits → Digits
  | 0, decimal => decimal
  | count + 1, decimal =>
    if decimal.digits ≠ 0 ∧ decimal.digits % 10 = 0 then
      trim count ⟨decimal.digits / 10, decimal.exponent + 1⟩
    else decimal

/-- The number of digits that are written. -/
def size (decimal : Digits) : Nat :=
  (Nat.toDigits 10 decimal.digits).length

/-- The exponent of the first digit. -/
def leading (decimal : Digits) : Int :=
  decimal.exponent + decimal.size - 1

end Digits

/-- The interval of reals that round to a positive double, in quarters of the
unit `2 ^ exponent`, whose ends belong to it when the significand is even. -/
structure Neighbourhood where
  low : Nat
  centre : Nat
  high : Nat
  closed : Bool
  exponent : Int
  deriving Repr

namespace Neighbourhood

/-- The neighbourhood of `significand * 2 ^ exponent`.  Below the least
significand of its binade the doubles lie twice as close. -/
def of (significand : Nat) (exponent : Int) : Neighbourhood where
  low := if significand = leastNormal ∧ leastExponent < exponent then 4 * significand - 1
    else 4 * significand - 2
  centre := 4 * significand
  high := 4 * significand + 2
  closed := significand % 2 = 0
  exponent := exponent - 2

/-- The exponent of the first decimal digit of the centre. -/
def leading (near : Neighbourhood) : Int :=
  let estimate := ((near.centre.log2 : Int) + near.exponent) * 30103 / 100000
  let reaches (power : Int) : Bool :=
    let left := scaled 1 10 power
    let right := scaled near.centre 2 near.exponent
    decide (left.1 * right.2 ≤ right.1 * left.2)
  if reaches (estimate + 1) then estimate + 1
  else if reaches estimate then estimate
  else estimate - 1

/-- The decimal closest to the centre among those of the interval that are
multiples of `10 ^ power`, if there is one. -/
def onGrid (near : Neighbourhood) (tie : Tie) (power : Int) : Option Digits :=
  let unit := scaled 1 2 near.exponent
  let grid := scaled 1 10 power
  -- In units of a common denominator the grid has the step `step`.
  let step := grid.1 * unit.2
  let place (quarters : Nat) : Nat := quarters * unit.1 * grid.2
  let below := place near.centre / step
  let inside (multiple : Nat) : Bool :=
    let value := multiple * step
    if near.closed then decide (place near.low ≤ value ∧ value ≤ place near.high)
    else decide (place near.low < value ∧ value < place near.high)
  match inside below, inside (below + 1) with
  | true, true => some ⟨roundDiv tie (place near.centre) step, power⟩
  | true, false => some ⟨below, power⟩
  | false, true => some ⟨below + 1, power⟩
  | false, false => none

/-- Try the grids from `10 ^ power` downwards; seventeen always suffice.  The
first grid that meets the interval gives the fewest digits. -/
def search (near : Neighbourhood) (tie : Tie) : Nat → Int → Digits
  | 0, power => ⟨0, power⟩
  | grids + 1, power =>
    match near.onGrid tie power with
    | some decimal => decimal
    | none => search near tie grids (power - 1)

end Neighbourhood

/-- The shortest decimal that reads back as `significand * 2 ^ exponent`; of
two equally close ones `tie` decides. -/
def shortest (tie : Tie) (significand : Nat) (exponent : Int) : Digits :=
  if significand = 0 then ⟨0, 0⟩
  else
    let near := Neighbourhood.of significand exponent
    (near.search tie 20 near.leading).trim 20

end Decimal
end Optimum

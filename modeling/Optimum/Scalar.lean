namespace Optimum

/-!
# The numbers of a model

Every method of this library computes with numbers of one type, chosen by the
caller.  `Scalar` collects the operations a method may use, and it states no
law: the doubles that the command line computes with satisfy none of the
useful ones, and the rationals, over which the methods are exact, satisfy all
of them.  A definition over `Scalar` therefore fixes the order in which the
operations are applied, and that order is part of its meaning.

`PlaneScalar` adds what the planar method needs beside arithmetic: rounding
to an integer, comparing the length of a displacement with a radius, and
ordering displacements by their angle.
-/

/-- Arithmetic with decidable comparisons, and no laws.  Methods are defined
over it once: doubles are what they run on, and rationals what most is shown
about.  `ceiling?` is a value above every finite one, in arithmetics that have
such a value. -/
class Scalar (α : Type) extends Zero α, One α, Add α, Sub α, Neg α, Mul α, Div α, NatCast α,
    LE α, LT α where
  decideLe : DecidableLE α
  decideLt : DecidableLT α
  ceiling? : Option α

instance Scalar.instDecidableLE {α : Type} [Scalar α] : DecidableLE α := Scalar.decideLe

instance Scalar.instDecidableLT {α : Type} [Scalar α] : DecidableLT α := Scalar.decideLt

namespace Scalar

variable {α : Type} [Scalar α]

/-- Whether a value lies below the ceiling.  A value that compares with
nothing does not. -/
def belowCeiling (x : α) : Bool :=
  match (ceiling? : Option α) with
  | none => true
  | some top => decide (x < top)

/-- Whether a value is an actual number: neither beyond the ceiling on either
side nor without order. -/
def isFinite (x : α) : Bool :=
  belowCeiling x && belowCeiling (-x)

/-- Whether a value compares equal to zero.  Both signed zeros do, so a test for
zero never looks at a sign. -/
def isZero (x : α) : Bool :=
  decide (x ≤ 0) && decide (0 ≤ x)

/-- The distance from zero, up to the sign of a zero.  It is decided by one
comparison, so a value that compares with nothing is left as it is. -/
def magnitude (x : α) : α :=
  if x < 0 then -x else x

/-- The smaller of two numbers; the second of two equal ones.  The choice shows
only where equal values differ, as the two zeros do. -/
def smaller (x y : α) : α :=
  if y ≤ x then y else x

/-- The larger of two numbers; the first of two equal ones. -/
def larger (x y : α) : α :=
  if x < y then y else x

/-- The sum from left to right.  It starts from the negative of zero, the one
start that changes no term, so an empty sum is that value. -/
def sum (values : List α) : α :=
  values.foldl (· + ·) (-0)

/-- Add the products of entries at equal positions to a total, one by one.  The
order of the additions is part of the meaning where they round. -/
def addProducts (total : α) : List α → List α → α
  | x :: left, y :: right => addProducts (total + x * y) left right
  | _, _ => total

/-- The sum of the products of entries at equal positions, from the neutral
start of a sum, so that a single product is kept as it is. -/
def dot (left right : List α) : α :=
  addProducts (-0) left right

theorem dot_eq_sum (left right : List α) :
    dot left right = sum (List.zipWith (· * ·) left right) := by
  have general : ∀ (total : α) (left right : List α),
      addProducts total left right = (List.zipWith (· * ·) left right).foldl (· + ·) total := by
    intro total left
    induction left generalizing total with
    | nil => intro right; cases right <;> rfl
    | cons x left inductionHypothesis =>
        intro right
        cases right with
        | nil => rfl
        | cons y right => exact inductionHypothesis _ right
  exact general (-0) left right

/-- The smaller of a value and the one kept so far, if there is one. -/
def keepSmaller (best : Option α) (x : α) : Option α :=
  match best with
  | none => some x
  | some smallest => some (smaller smallest x)

/-- The smallest of a list, starting from the ceiling, and of equal ones the
last; zero for an empty list in an arithmetic without a ceiling. -/
def least (values : List α) : α :=
  (values.foldl keepSmaller ceiling?).getD 0

/-- Keep a candidate only if it lies strictly below the one kept so far, so that
the first of equal candidates stays. -/
def keepBelow (best : Option (Nat × α)) (candidate : Nat × α) : Option (Nat × α) :=
  match best with
  | none => some candidate
  | some smallest => if candidate.2 < smallest.2 then some candidate else best

/-- The index that carries the smallest value, the first of several.  All ties
between columns and between rows are broken here. -/
def leastIndex (candidates : List (Nat × α)) : Option Nat :=
  (candidates.foldl keepBelow none).map Prod.fst

/-- Multiply `total` by a power, squaring the base for each binary digit of
the exponent, lowest digit first. -/
def raise (total base : α) (exponent : Nat) : α :=
  if exponent = 0 then total
  else raise (if exponent % 2 = 1 then total * base else total) (base * base) (exponent / 2)
termination_by exponent
decreasing_by omega

/-- An integer power; a negative one is the reciprocal of the positive one.  The
reciprocal is taken last, so that only one division rounds. -/
def power (base : α) (exponent : Int) : α :=
  let positive := raise 1 base exponent.natAbs
  if exponent < 0 then 1 / positive else positive

/-- One part in `n`. -/
def unitFraction (n : Nat) : α :=
  1 / (n : α)

end Scalar

/-- A scalar with the planar operations.  `shorter` compares the length of a
displacement with a radius, and `angleLe` orders displacements by the angle
they make with the first axis, from minus half a turn to half a turn. -/
class PlaneScalar (α : Type) extends Scalar α where
  round : α → α
  shorter : (dx dy radius : α) → Bool
  angleLe : (first second : α × α) → Bool

/-- Round to a number of decimal places, halves away from zero.  Adding zero
at the end makes a negative zero positive. -/
def PlaneScalar.roundTo {α : Type} [PlaneScalar α] (value : α) (places : Int) : α :=
  let factor := Scalar.power ((10 : Nat) : α) places
  PlaneScalar.round (value * factor) / factor + 0

/-! ## Doubles -/

instance : Scalar Float where
  natCast := Float.ofNat
  decideLe := fun x y => Float.decLe x y
  decideLt := fun x y => Float.decLt x y
  ceiling? := some (Float.ofBits 0x7ff0000000000000)

/-! ## Rationals -/

instance : Scalar Rat where
  toZero := @Zero.ofOfNat0 Rat Rat.instOfNat
  toOne := @One.ofOfNat1 Rat Rat.instOfNat
  decideLe := fun x y => inferInstanceAs (Decidable (x ≤ y))
  decideLt := fun x y => inferInstanceAs (Decidable (x < y))
  ceiling? := none

end Optimum

import Mathlib.Analysis.SpecialFunctions.Complex.Arg
import Optimum.Scalar

namespace Optimum
namespace Plane

/-!
# The plane over the reals

Over the reals the planar operations are what those of the doubles stand for.
A length is the root of the sum of the squared sides, and the angle of a
displacement is the argument of a complex number.
-/

noncomputable instance : Scalar ℝ where
  decideLe := fun x y => inferInstanceAs (Decidable (x ≤ y))
  decideLt := fun x y => inferInstanceAs (Decidable (x < y))
  ceiling? := none

/-- Round to the nearest integer, halves away from zero. -/
noncomputable def roundReal (x : ℝ) : ℝ :=
  if x < 0 then -⌊-x + 1 / 2⌋ else ⌊x + 1 / 2⌋

noncomputable instance : PlaneScalar ℝ where
  round := roundReal
  shorter := fun dx dy radius => decide (√(dx * dx + dy * dy) < radius)
  angleLe := fun first second =>
    decide (Complex.arg ⟨first.1, first.2⟩ ≤ Complex.arg ⟨second.1, second.2⟩)

/-! ## Exact arithmetic -/

theorem isFinite_real (x : ℝ) : Scalar.isFinite x = true := rfl

theorem magnitude_eq_abs (x : ℝ) : Scalar.magnitude x = |x| := by
  rw [Scalar.magnitude]
  split
  · next negative => exact (abs_of_neg negative).symm
  · next notNegative => exact (abs_of_nonneg (not_lt.mp notNegative)).symm

theorem dot_pair (a b x y : ℝ) : Scalar.dot [a, b] [x, y] = a * x + b * y := by
  simp only [Scalar.dot, Scalar.addProducts, neg_zero, zero_add]

/-- A linear form takes almost the same value at points whose coordinates
differ little. -/
theorem abs_dot_pair_sub_le (a b : ℝ) {x y u v distance : ℝ} (near : |x - u| ≤ distance)
    (nearSecond : |y - v| ≤ distance) :
    |Scalar.dot [a, b] [x, y] - Scalar.dot [a, b] [u, v]| ≤ distance * (|a| + |b|) := calc
  _ = |a * (x - u) + b * (y - v)| := by
    rw [dot_pair, dot_pair]
    ring_nf
  _ ≤ |a * (x - u)| + |b * (y - v)| := abs_add_le _ _
  _ = |a| * |x - u| + |b| * |y - v| := by rw [abs_mul, abs_mul]
  _ ≤ |a| * distance + |b| * distance := by gcongr
  _ = distance * (|a| + |b|) := by ring

theorem raise_eq (total base : ℝ) (exponent : Nat) :
    Scalar.raise total base exponent = total * base ^ exponent := by
  fun_induction Scalar.raise total base exponent with
  | case1 => rw [pow_zero, mul_one]
  | case2 total base exponent nonzero inductionHypothesis =>
      have halves := Nat.div_add_mod exponent 2
      simp only [dite_eq_ite] at inductionHypothesis
      rw [inductionHypothesis, ← pow_two, ← pow_mul]
      rcases Nat.mod_two_eq_zero_or_one exponent with even | odd
      · rw [even, add_zero] at halves
        rw [if_neg (by rw [even]; decide), halves]
      · rw [odd] at halves
        rw [if_pos odd, mul_assoc, ← pow_succ', halves]

theorem power_eq (base : ℝ) (exponent : Int) : Scalar.power base exponent = base ^ exponent := by
  rw [Scalar.power, raise_eq, one_mul]
  split
  · next negative =>
      rw [one_div, ← zpow_natCast, ← zpow_neg, Int.ofNat_natAbs_of_nonpos negative.le, neg_neg]
  · next notNegative =>
      rw [← zpow_natCast, Int.natAbs_of_nonneg (not_lt.mp notNegative)]

/-! ## Rounding -/

theorem abs_floor_add_half_sub_le (x : ℝ) : |(⌊x + 1 / 2⌋ : ℝ) - x| ≤ 1 / 2 := by
  have below := Int.floor_le (x + 1 / 2)
  have above := Int.lt_floor_add_one (x + 1 / 2)
  rw [abs_le]
  constructor
  · linarith
  · linarith

theorem abs_roundReal_sub_le (x : ℝ) : |roundReal x - x| ≤ 1 / 2 := by
  rw [roundReal]
  split
  · rw [← abs_neg, neg_sub, sub_neg_eq_add, add_comm, ← sub_neg_eq_add]
    exact abs_floor_add_half_sub_le (-x)
  · exact abs_floor_add_half_sub_le x

/-- Rounding to some places moves a number by half a unit of the last place at
most. -/
theorem abs_roundTo_sub_le (x : ℝ) (places : Int) :
    |PlaneScalar.roundTo x places - x| ≤ 1 / 2 / 10 ^ places := by
  have positive : (0 : ℝ) < 10 ^ places := zpow_pos (by norm_num) places
  have rounded : PlaneScalar.roundTo x places = roundReal (x * 10 ^ places) / 10 ^ places := by
    rw [PlaneScalar.roundTo, power_eq, add_zero]
    rfl
  have error : roundReal (x * 10 ^ places) / 10 ^ places - x =
      (roundReal (x * 10 ^ places) - x * 10 ^ places) / 10 ^ places := by
    field_simp
  rw [rounded, error, abs_div, abs_of_pos positive]
  exact div_le_div_of_nonneg_right (abs_roundReal_sub_le _) positive.le

/-- A displacement that is shorter than a radius has sides that are. -/
theorem abs_lt_of_shorter {dx dy radius : ℝ} (shorter : PlaneScalar.shorter dx dy radius = true) :
    |dx| < radius ∧ |dy| < radius := by
  have length : √(dx * dx + dy * dy) < radius := of_decide_eq_true shorter
  have first : |dx| ≤ √(dx * dx + dy * dy) :=
    Real.abs_le_sqrt (by rw [pow_two]; exact le_add_of_nonneg_right (mul_self_nonneg dy))
  have second : |dy| ≤ √(dx * dx + dy * dy) :=
    Real.abs_le_sqrt (by rw [pow_two]; exact le_add_of_nonneg_left (mul_self_nonneg dx))
  exact ⟨first.trans_lt length, second.trans_lt length⟩

end Plane
end Optimum

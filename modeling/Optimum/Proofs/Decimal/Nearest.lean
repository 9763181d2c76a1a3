import Mathlib.Algebra.Order.Field.Power
import Mathlib.Algebra.Order.Field.Rat
import Mathlib.Algebra.Order.Floor.Semifield
import Mathlib.Data.Int.Log
import Mathlib.Data.Rat.Floor
import Mathlib.Tactic.FieldSimp
import Mathlib.Tactic.Linarith
import Mathlib.Tactic.Positivity
import Mathlib.Tactic.Ring
import Optimum.Decimal.Shortest

namespace Optimum
namespace Decimal

/-!
# The double nearest to a quotient

`nearestBits` against the rational number that it is given.  A quotient of the
neighbourhood of a double, ends included where they belong to it, has that
double's bits (`nearestBits_of_holds`).
-/

/-! ## Exact quotients -/

theorem scaled_snd_pos {factor base : Nat} (positive : 0 < base) (exponent : Int) :
    0 < (scaled factor base exponent).2 := by
  unfold scaled
  split
  · exact Nat.pow_pos positive
  · exact Nat.one_pos

theorem scaled_eq (factor base : Nat) (exponent : Int) :
    ((scaled factor base exponent).1 : ℚ) / (scaled factor base exponent).2 =
      factor * (base : ℚ) ^ exponent := by
  unfold scaled
  split
  · next negative =>
      rcases Int.exists_eq_neg_ofNat (Int.le_of_lt negative) with ⟨size, rfl⟩
      simp only [Int.natAbs_neg, Int.natAbs_natCast, Nat.pow_eq, Nat.cast_pow, zpow_neg,
        zpow_natCast, div_eq_mul_inv]
  · next natural =>
      rcases Int.eq_ofNat_of_zero_le (Int.not_lt.mp natural) with ⟨size, rfl⟩
      simp only [Int.natAbs_natCast, Nat.pow_eq, Nat.cast_mul, Nat.cast_pow, Nat.cast_one, div_one,
        zpow_natCast]

/-- The natural numbers that a rational number may be rounded to, an exact half
going to the even neighbour. -/
def RoundsEven (value : ℚ) (rounded : Nat) : Prop :=
  (rounded : ℚ) - 1 / 2 ≤ value ∧ value ≤ rounded + 1 / 2 ∧
    (rounded % 2 = 0 ∨ (rounded : ℚ) - 1 / 2 < value ∧ value < rounded + 1 / 2)

theorem roundDiv_even_of_bounds {numerator denominator rounded : Nat} (positive : 0 < denominator)
    (low : 2 * (rounded * denominator) ≤ 2 * numerator + denominator)
    (high : 2 * numerator ≤ 2 * (rounded * denominator) + denominator)
    (tie : rounded % 2 = 0 ∨ 2 * (rounded * denominator) < 2 * numerator + denominator ∧
      2 * numerator < 2 * (rounded * denominator) + denominator) :
    roundDiv .even numerator denominator = rounded := by
  have split := Nat.div_add_mod' numerator denominator
  have small := Nat.mod_lt numerator positive
  have neighbour : rounded = numerator / denominator ∨ rounded = numerator / denominator + 1 := by
    have above : numerator / denominator < rounded + 1 := by
      refine Nat.lt_of_mul_lt_mul_right (a := denominator) ?_
      rw [Nat.add_mul]
      omega
    have below : rounded < numerator / denominator + 2 := by
      refine Nat.lt_of_mul_lt_mul_right (a := denominator) ?_
      rw [Nat.add_mul]
      omega
    omega
  unfold roundDiv
  rcases neighbour with same | next
  · rw [same] at low high tie ⊢
    dsimp only
    split_ifs <;> omega
  · rw [next, Nat.add_mul] at low high tie
    rw [next]
    dsimp only
    split_ifs <;> omega

theorem roundDiv_even_eq {numerator denominator rounded : Nat} (positive : 0 < denominator)
    (rounds : RoundsEven ((numerator : ℚ) / denominator) rounded) :
    roundDiv .even numerator denominator = rounded := by
  have denominatorPositive : (0 : ℚ) < denominator := Nat.cast_pos.mpr positive
  rcases rounds with ⟨low, high, tie⟩
  rw [le_div_iff₀ denominatorPositive] at low
  rw [div_le_iff₀ denominatorPositive] at high
  rw [lt_div_iff₀ denominatorPositive, div_lt_iff₀ denominatorPositive] at tie
  refine roundDiv_even_of_bounds positive ?_ ?_ (tie.imp_right fun strict => ⟨?_, ?_⟩)
  · have bound : 2 * ((rounded : ℚ) * denominator) ≤ 2 * numerator + denominator := by linarith
    exact_mod_cast bound
  · have bound : 2 * (numerator : ℚ) ≤ 2 * ((rounded : ℚ) * denominator) + denominator := by
      linarith
    exact_mod_cast bound
  · have bound : 2 * ((rounded : ℚ) * denominator) < 2 * numerator + denominator := by
      linarith [strict.1]
    exact_mod_cast bound
  · have bound : 2 * (numerator : ℚ) < 2 * ((rounded : ℚ) * denominator) + denominator := by
      linarith [strict.2]
    exact_mod_cast bound

/-! ## The unit of a quotient -/

theorem log_eq {value : ℚ} {binade : Int} (low : (2 : ℚ) ^ binade ≤ value)
    (high : value < 2 ^ (binade + 1)) : Int.log 2 value = binade := by
  have positive : 0 < value := lt_of_lt_of_le (zpow_pos two_pos binade) low
  have below := (Int.zpow_le_iff_le_log one_lt_two positive).mp low
  have above := (Int.lt_zpow_iff_log_lt one_lt_two positive).mp high
  omega

/-- The binary logarithms of a numerator and a denominator tell that of their
quotient up to one. -/
theorem quotient_bounds {numerator denominator : Nat} (positive : 0 < numerator)
    (denominatorPositive : 0 < denominator) :
    (2 : ℚ) ^ ((numerator.log2 : Int) - denominator.log2 - 1) < (numerator : ℚ) / denominator ∧
      (numerator : ℚ) / denominator < 2 ^ ((numerator.log2 : Int) - denominator.log2 + 1) := by
  have castPositive : (0 : ℚ) < denominator := Nat.cast_pos.mpr denominatorPositive
  have numeratorLow : (2 : ℚ) ^ numerator.log2 ≤ numerator :=
    mod_cast Nat.log2_self_le (Nat.ne_of_gt positive)
  have numeratorHigh : (numerator : ℚ) < 2 ^ (numerator.log2 + 1) :=
    mod_cast Nat.lt_log2_self
  have denominatorLow : (2 : ℚ) ^ denominator.log2 ≤ denominator :=
    mod_cast Nat.log2_self_le (Nat.ne_of_gt denominatorPositive)
  have denominatorHigh : (denominator : ℚ) < 2 ^ (denominator.log2 + 1) :=
    mod_cast Nat.lt_log2_self
  have below : (2 : ℚ) ^ ((numerator.log2 : Int) - denominator.log2 - 1) =
      2 ^ numerator.log2 / 2 ^ (denominator.log2 + 1) := by
    rw [sub_sub, zpow_sub₀ two_ne_zero, zpow_natCast]
    norm_cast
  have above : (2 : ℚ) ^ ((numerator.log2 : Int) - denominator.log2 + 1) =
      2 ^ (numerator.log2 + 1) / 2 ^ denominator.log2 := by
    rw [sub_add_eq_add_sub, zpow_sub₀ two_ne_zero, zpow_natCast]
    norm_cast
  rw [below, above]
  constructor
  · rw [div_lt_div_iff₀ (by positivity) castPositive]
    calc (2 : ℚ) ^ numerator.log2 * denominator
        ≤ numerator * denominator := by gcongr
      _ < numerator * 2 ^ (denominator.log2 + 1) := by gcongr
  · rw [div_lt_div_iff₀ castPositive (by positivity)]
    calc (numerator : ℚ) * 2 ^ denominator.log2
        ≤ numerator * denominator := by gcongr
      _ < 2 ^ (numerator.log2 + 1) * denominator := by gcongr

/-- The test of `nearestBits` tells the logarithm of the quotient.  It compares
natural numbers only, so it is exact. -/
theorem reaches_iff {numerator denominator : Nat} (denominatorPositive : 0 < denominator)
    (exponent : Int) :
    (scaled denominator 2 exponent).1 ≤ numerator * (scaled denominator 2 exponent).2 ↔
      (2 : ℚ) ^ exponent ≤ (numerator : ℚ) / denominator := by
  have castPositive : (0 : ℚ) < denominator := Nat.cast_pos.mpr denominatorPositive
  have scaledPositive : (0 : ℚ) < (scaled denominator 2 exponent).2 :=
    Nat.cast_pos.mpr (scaled_snd_pos two_pos exponent)
  have same := scaled_eq denominator 2 exponent
  rw [Nat.cast_ofNat] at same
  rw [le_div_iff₀ castPositive, mul_comm ((2 : ℚ) ^ exponent), ← same, div_le_iff₀ scaledPositive]
  exact_mod_cast Iff.rfl

/-- The bits of a positive quotient from its rounding to a multiple of its
unit. -/
theorem nearestBits_eq {numerator denominator rounded : Nat} (positive : 0 < numerator)
    (denominatorPositive : 0 < denominator) {unit : Int}
    (isUnit : unit = max leastExponent (Int.log 2 ((numerator : ℚ) / denominator) - 52))
    (rounds : RoundsEven ((numerator : ℚ) / denominator / 2 ^ unit) rounded) :
    nearestBits numerator denominator =
      min ((unit - leastExponent).toNat * 2 ^ 52 + rounded) (2047 * 2 ^ 52) := by
  have bounds := quotient_bounds positive denominatorPositive
  have estimated : (if (scaled denominator 2 ((numerator.log2 : Int) - denominator.log2)).1 ≤
        numerator * (scaled denominator 2 ((numerator.log2 : Int) - denominator.log2)).2
      then (numerator.log2 : Int) - denominator.log2 - 52
      else (numerator.log2 : Int) - denominator.log2 - 53) =
      Int.log 2 ((numerator : ℚ) / denominator) - 52 := by
    split
    · next reaches => rw [log_eq ((reaches_iff denominatorPositive _).mp reaches) bounds.2]
    · next misses =>
        have below : (numerator : ℚ) / denominator <
            2 ^ ((numerator.log2 : Int) - denominator.log2 - 1 + 1) := by
          rw [sub_add_cancel]
          exact not_le.mp (mt (reaches_iff denominatorPositive _).mpr misses)
        rw [log_eq (le_of_lt bounds.1) below]
        ring
  have quotient : ((numerator * (scaled 1 2 (-unit)).1 : Nat) : ℚ) /
      ((denominator * (scaled 1 2 (-unit)).2 : Nat) : ℚ) =
      (numerator : ℚ) / denominator / 2 ^ unit := by
    rw [Nat.cast_mul, Nat.cast_mul, mul_div_mul_comm, scaled_eq, Nat.cast_one, one_mul,
      Nat.cast_ofNat, zpow_neg, div_eq_mul_inv _ ((2 : ℚ) ^ unit)]
  rw [← quotient] at rounds
  have rest := roundDiv_even_eq
    (Nat.mul_pos denominatorPositive (scaled_snd_pos two_pos (-unit))) rounds
  rw [nearestBits, if_neg (Nat.ne_of_gt positive)]
  simp only [decide_eq_true_eq, estimated, ← isUnit, rest]
  rfl

/-! ## The neighbourhood of a double -/

/-- The significands and exponents of the positive finite doubles.  Each double
has one such pair, since the significand is normal unless the exponent is the
least. -/
structure IsDouble (significand : Nat) (exponent : Int) : Prop where
  positive : 0 < significand
  bounded : significand < 2 ^ 53
  least : leastExponent ≤ exponent
  most : exponent ≤ 971
  normal : leastNormal ≤ significand ∨ exponent = leastExponent

/-- The values of a neighbourhood, its ends included if it is closed. -/
def Neighbourhood.Holds (near : Neighbourhood) (value : ℚ) : Prop :=
  near.low * 2 ^ near.exponent ≤ value ∧ value ≤ near.high * 2 ^ near.exponent ∧
    (near.closed = true ∨
      near.low * 2 ^ near.exponent < value ∧ value < near.high * 2 ^ near.exponent)

section Holds

variable {significand : Nat} {exponent : Int} {value : ℚ}

theorem two_zpow_sub_two (exponent : Int) : (2 : ℚ) ^ (exponent - 2) = 2 ^ exponent / 4 := by
  rw [zpow_sub₀ two_ne_zero]
  norm_num

theorem low_cast (double : IsDouble significand exponent) :
    ((Neighbourhood.of significand exponent).low : ℚ) =
      if significand = leastNormal ∧ leastExponent < exponent then (4 * significand - 1 : ℚ)
      else 4 * significand - 2 := by
  have positive := double.positive
  unfold Neighbourhood.of
  dsimp only
  split
  · rw [Nat.cast_sub (by omega)]
    norm_num
  · rw [Nat.cast_sub (by omega)]
    norm_num

/-- In units of the double, its neighbourhood holds what rounds to its
significand; below the least significand of a binade it is half as wide. -/
theorem rounds_of_holds (double : IsDouble significand exponent)
    (holds : (Neighbourhood.of significand exponent).Holds value) :
    RoundsEven (value / 2 ^ exponent) significand ∧
      (significand = leastNormal ∧ leastExponent < exponent →
        (significand : ℚ) - 1 / 4 ≤ value / 2 ^ exponent) := by
  have unitPositive : (0 : ℚ) < 2 ^ exponent := zpow_pos two_pos exponent
  rcases holds with ⟨low, high, ends⟩
  rw [low_cast double] at low ends
  simp only [Neighbourhood.of, Nat.cast_add, Nat.cast_mul, Nat.cast_ofNat, decide_eq_true_eq,
    two_zpow_sub_two] at low high ends
  have wide : (4 * (significand : ℚ) - 2) * (2 ^ exponent / 4) ≤
      (if significand = leastNormal ∧ leastExponent < exponent then 4 * (significand : ℚ) - 1
        else 4 * significand - 2) * (2 ^ exponent / 4) := by
    gcongr
    split <;> linarith
  refine ⟨⟨?_, ?_, ends.imp_right fun strict => ⟨?_, ?_⟩⟩, fun least => ?_⟩
  · rw [le_div_iff₀ unitPositive]
    linarith
  · rw [div_le_iff₀ unitPositive]
    linarith
  · rw [lt_div_iff₀ unitPositive]
    linarith [strict.1]
  · rw [div_lt_iff₀ unitPositive]
    linarith [strict.2]
  · rw [if_pos least] at low
    rw [le_div_iff₀ unitPositive]
    linarith

theorem two_zpow_add (exponent : Int) (places : Nat) :
    (2 : ℚ) ^ (exponent + places) = 2 ^ places * 2 ^ exponent := by
  rw [zpow_add₀ two_ne_zero, zpow_natCast, mul_comm]

/-- What rounds to the significand of a double and lies in its binade has the
double's unit. -/
theorem unit_of_binade (double : IsDouble significand exponent)
    (rounds : RoundsEven (value / 2 ^ exponent) significand)
    (above : (2 : ℚ) ^ 52 ≤ value / 2 ^ exponent) :
    exponent = max leastExponent (Int.log 2 value - 52) := by
  have unitPositive : (0 : ℚ) < 2 ^ exponent := zpow_pos two_pos exponent
  have bounded : (significand : ℚ) + 1 ≤ 2 ^ 53 := mod_cast double.bounded
  have binade : Int.log 2 value = exponent + 52 := by
    refine log_eq ?_ ?_
    · rw [show exponent + 52 = exponent + (52 : Nat) from rfl, two_zpow_add]
      exact (le_div_iff₀ unitPositive).mp above
    · rw [show exponent + 52 + 1 = exponent + (53 : Nat) by omega, two_zpow_add,
        ← div_lt_iff₀ unitPositive]
      linarith [rounds.2.1]
  rw [binade, Int.add_sub_cancel]
  exact (max_eq_right double.least).symm

/-- What lies under all normal doubles has the least unit. -/
theorem unit_of_subnormal (positive : 0 < value)
    (below : value / 2 ^ leastExponent < (2 : ℚ) ^ 52) :
    leastExponent = max leastExponent (Int.log 2 value - 52) := by
  rw [div_lt_iff₀ (zpow_pos two_pos leastExponent), ← two_zpow_add] at below
  have log := (Int.lt_zpow_iff_log_lt one_lt_two positive).mp below
  exact (max_eq_left (by omega)).symm

/-- Just under the least normal significand of a binade the doubles are twice as
close, and the quotient is rounded up to the binade. -/
theorem rounds_under_binade (later : leastExponent < exponent)
    (close : (2 : ℚ) ^ 52 - 1 / 4 ≤ value / 2 ^ exponent)
    (below : value / 2 ^ exponent < (2 : ℚ) ^ 52) :
    exponent - 1 = max leastExponent (Int.log 2 value - 52) ∧
      RoundsEven (value / 2 ^ (exponent - 1)) (2 ^ 53) := by
  have unitPositive : (0 : ℚ) < 2 ^ exponent := zpow_pos two_pos exponent
  constructor
  · have binade : Int.log 2 value = exponent + 51 := by
      refine log_eq ?_ ?_
      · rw [show exponent + 51 = exponent + (51 : Nat) from rfl, two_zpow_add,
          ← le_div_iff₀ unitPositive]
        linarith
      · rw [show exponent + 51 + 1 = exponent + (52 : Nat) by omega, two_zpow_add]
        exact (div_lt_iff₀ unitPositive).mp below
    rw [binade, show exponent + 51 - 52 = exponent - 1 by ring]
    exact (max_eq_right (Int.le_sub_one_of_lt later)).symm
  · have doubled : value / 2 ^ (exponent - 1) = 2 * (value / 2 ^ exponent) := by
      rw [zpow_sub₀ two_ne_zero, zpow_one]
      field_simp
    rw [doubled]
    refine ⟨?_, ?_, .inl (by norm_num)⟩
    · push_cast
      linarith
    · push_cast
      linarith

/-- Every quotient in the neighbourhood of a double has its bits.  The
neighbourhood is searched when a double is written, and this is why it is read
back. -/
theorem nearestBits_of_holds (double : IsDouble significand exponent)
    {numerator denominator : Nat} (positive : 0 < numerator)
    (denominatorPositive : 0 < denominator)
    (holds : (Neighbourhood.of significand exponent).Holds ((numerator : ℚ) / denominator)) :
    nearestBits numerator denominator =
      (exponent - leastExponent).toNat * 2 ^ 52 + significand := by
  rcases rounds_of_holds double holds with ⟨rounds, narrow⟩
  have most := double.most
  have least := double.least
  have bounded := double.bounded
  by_cases above : (2 : ℚ) ^ 52 ≤ (numerator : ℚ) / denominator / 2 ^ exponent
  · rw [nearestBits_eq positive denominatorPositive (unit_of_binade double rounds above) rounds]
    exact Nat.min_eq_left (by unfold leastExponent at *; omega)
  · have below := not_le.mp above
    rcases eq_or_lt_of_le double.least with rfl | later
    · have valuePositive : (0 : ℚ) < (numerator : ℚ) / denominator :=
        div_pos (Nat.cast_pos.mpr positive) (Nat.cast_pos.mpr denominatorPositive)
      rw [nearestBits_eq positive denominatorPositive (unit_of_subnormal valuePositive below) rounds]
      exact Nat.min_eq_left (by unfold leastExponent at *; omega)
    · have smallest : significand = leastNormal := by
        refine Nat.le_antisymm (Nat.le_of_lt_succ ?_)
          (double.normal.resolve_right (ne_of_gt later))
        have small : (significand : ℚ) < 2 ^ 52 + 1 := by linarith [rounds.1]
        exact_mod_cast small
      have size : (significand : ℚ) = 2 ^ 52 := by
        rw [smallest]
        norm_num [leastNormal]
      rcases rounds_under_binade later (size ▸ narrow ⟨smallest, later⟩) below with
          ⟨isUnit, roundsUp⟩
      have written : significand = 2 ^ 52 := smallest
      rw [nearestBits_eq positive denominatorPositive isUnit roundsUp, written]
      unfold leastExponent at *
      refine (Nat.min_eq_left ?_).trans ?_ <;> omega

end Holds

end Decimal
end Optimum

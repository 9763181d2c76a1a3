import Optimum.Proofs.Decimal.Nearest

namespace Optimum
namespace Decimal

/-!
# Shortest digits denote their double

Whatever grid a decimal is found on, it lies in the neighbourhood, and on the
last grids one is always found, because there the step is no longer than a
quarter of the unit.  So the digits that `shortest` gives denote a number of
the neighbourhood of the double (`shortest_holds`).
-/

/-- The number that digits denote. -/
def Digits.value (decimal : Digits) : ℚ :=
  decimal.digits * 10 ^ decimal.exponent

theorem Digits.value_trim (count : Nat) (decimal : Digits) :
    (decimal.trim count).value = decimal.value := by
  induction count generalizing decimal with
  | zero => rfl
  | succ count inductionHypothesis =>
      rw [trim]
      split
      · next zeros =>
          rw [inductionHypothesis, value, value]
          have tenth : decimal.digits = 10 * (decimal.digits / 10) := by omega
          have scaledBack : (decimal.digits : ℚ) = 10 * (decimal.digits / 10 : Nat) :=
            mod_cast tenth
          rw [zpow_add_one₀ (by norm_num), scaledBack]
          ring
      · rfl

theorem roundDiv_eq_or (tie : Tie) (numerator denominator : Nat) :
    roundDiv tie numerator denominator = numerator / denominator ∨
      roundDiv tie numerator denominator = numerator / denominator + 1 := by
  unfold roundDiv
  cases tie <;> dsimp only <;> split_ifs <;> omega

namespace Neighbourhood

/-! ## One grid -/

/-- Quarters of a unit beside multiples of a power of ten, as natural numbers. -/
theorem common_denominator (exponent power : Int) :
    ∃ common : ℚ, 0 < common ∧
      (∀ quarters : Nat, ((quarters * (scaled 1 2 exponent).1 * (scaled 1 10 power).2 : Nat) : ℚ) =
        quarters * 2 ^ exponent * common) ∧
      ∀ multiple : Nat, ((multiple * ((scaled 1 10 power).1 * (scaled 1 2 exponent).2) : Nat) : ℚ) =
        multiple * 10 ^ power * common := by
  have unitPositive : (0 : ℚ) < (scaled 1 2 exponent).2 :=
    Nat.cast_pos.mpr (scaled_snd_pos two_pos exponent)
  have gridPositive : (0 : ℚ) < (scaled 1 10 power).2 :=
    Nat.cast_pos.mpr (scaled_snd_pos (by norm_num) power)
  have unit := scaled_eq 1 2 exponent
  have grid := scaled_eq 1 10 power
  rw [Nat.cast_one, one_mul, Nat.cast_ofNat, div_eq_iff (ne_of_gt unitPositive)] at unit
  rw [Nat.cast_one, one_mul, Nat.cast_ofNat, div_eq_iff (ne_of_gt gridPositive)] at grid
  refine ⟨_, mul_pos unitPositive gridPositive, fun quarters => ?_, fun multiple => ?_⟩
  · push_cast
    rw [unit]
    ring
  · push_cast
    rw [grid]
    ring

theorem inside_iff (near : Neighbourhood) (power : Int) (multiple : Nat) :
    (if near.closed then
      decide (near.low * (scaled 1 2 near.exponent).1 * (scaled 1 10 power).2 ≤
          multiple * ((scaled 1 10 power).1 * (scaled 1 2 near.exponent).2) ∧
        multiple * ((scaled 1 10 power).1 * (scaled 1 2 near.exponent).2) ≤
          near.high * (scaled 1 2 near.exponent).1 * (scaled 1 10 power).2)
      else
      decide (near.low * (scaled 1 2 near.exponent).1 * (scaled 1 10 power).2 <
          multiple * ((scaled 1 10 power).1 * (scaled 1 2 near.exponent).2) ∧
        multiple * ((scaled 1 10 power).1 * (scaled 1 2 near.exponent).2) <
          near.high * (scaled 1 2 near.exponent).1 * (scaled 1 10 power).2)) = true ↔
      near.Holds (multiple * 10 ^ power) := by
  rcases common_denominator near.exponent power with ⟨common, positive, quarters, multiples⟩
  have le_iff (left right : Nat) {x y : ℚ} (isLeft : (left : ℚ) = x * common)
      (isRight : (right : ℚ) = y * common) : left ≤ right ↔ x ≤ y := by
    rw [← Nat.cast_le (α := ℚ), isLeft, isRight, mul_le_mul_iff_of_pos_right positive]
  have lt_iff (left right : Nat) {x y : ℚ} (isLeft : (left : ℚ) = x * common)
      (isRight : (right : ℚ) = y * common) : left < right ↔ x < y := by
    rw [← Nat.cast_lt (α := ℚ), isLeft, isRight, mul_lt_mul_iff_of_pos_right positive]
  rw [Holds]
  split
  · next closed =>
      rw [decide_eq_true_eq, le_iff _ _ (quarters _) (multiples _),
        le_iff _ _ (multiples _) (quarters _)]
      simp only [closed, true_or, and_true]
  · next opened =>
      rw [decide_eq_true_eq, lt_iff _ _ (quarters _) (multiples _),
        lt_iff _ _ (multiples _) (quarters _)]
      simp only [opened, Bool.false_eq_true, false_or]
      exact ⟨fun strict => ⟨le_of_lt strict.1, le_of_lt strict.2, strict⟩, fun all => all.2.2⟩

/-- What is found on a grid is one of its multiples in the neighbourhood.  That
it is the closest to the centre is not needed. -/
theorem holds_of_onGrid {near : Neighbourhood} {tie : Tie} {power : Int} {decimal : Digits}
    (found : near.onGrid tie power = some decimal) : near.Holds decimal.value := by
  unfold onGrid at found
  dsimp only at found
  split at found
  · next below above =>
      cases found
      rcases roundDiv_eq_or tie (near.centre * (scaled 1 2 near.exponent).1 * (scaled 1 10 power).2)
        ((scaled 1 10 power).1 * (scaled 1 2 near.exponent).2) with same | next
      · rw [Digits.value, same]
        exact (inside_iff near power _).mp below
      · rw [Digits.value, next]
        exact (inside_iff near power _).mp above
  · next below _ =>
      cases found
      exact (inside_iff near power _).mp below
  · next _ above =>
      cases found
      exact (inside_iff near power _).mp above
  · cases found

/-- A grid whose step is a quarter of the unit at most has a multiple in the
neighbourhood: the one below the centre. -/
theorem onGrid_isSome {near : Neighbourhood} (low : near.low < near.centre)
    (high : near.centre < near.high) (tie : Tie) {power : Int}
    (fine : (10 : ℚ) ^ power ≤ 2 ^ near.exponent) : (near.onGrid tie power).isSome := by
  rcases common_denominator near.exponent power with ⟨common, positive, quarters, multiples⟩
  have unitPositive : (0 : ℚ) < 2 ^ near.exponent := zpow_pos two_pos _
  have gridPositive : (0 : ℚ) < 10 ^ power := zpow_pos (by norm_num) _
  let place := near.centre * (scaled 1 2 near.exponent).1 * (scaled 1 10 power).2
  let step := (scaled 1 10 power).1 * (scaled 1 2 near.exponent).2
  have stepPositive : 0 < step := by
    have cast := multiples 1
    rw [Nat.one_mul, Nat.cast_one, one_mul] at cast
    have : (0 : ℚ) < step := cast ▸ mul_pos gridPositive positive
    exact_mod_cast this
  have below : ((place / step : Nat) : ℚ) * 10 ^ power ≤ near.centre * 2 ^ near.exponent := by
    rw [← mul_le_mul_iff_of_pos_right positive, ← quarters, ← multiples]
    exact_mod_cast Nat.div_mul_le_self place step
  have above : (near.centre : ℚ) * 2 ^ near.exponent < ((place / step : Nat) + 1) * 10 ^ power := by
    have next := multiples (place / step + 1)
    rw [Nat.cast_add_one] at next
    rw [← mul_lt_mul_iff_of_pos_right positive, ← quarters, ← next]
    exact_mod_cast Nat.lt_mul_of_div_lt (Nat.lt_succ_self (place / step)) stepPositive
  have lowCast : (near.low : ℚ) + 1 ≤ near.centre := mod_cast low
  have highCast : (near.centre : ℚ) < near.high := mod_cast high
  have strictLow : (near.low : ℚ) * 2 ^ near.exponent < (place / step : Nat) * 10 ^ power := by
    have quarter : (near.low + 1 : ℚ) * 2 ^ near.exponent ≤ near.centre * 2 ^ near.exponent := by
      gcongr
    linarith
  have strictHigh : ((place / step : Nat) : ℚ) * 10 ^ power < near.high * 2 ^ near.exponent :=
    lt_of_le_of_lt below (mul_lt_mul_of_pos_right highCast unitPositive)
  have holds : near.Holds ((place / step : Nat) * 10 ^ power) :=
    ⟨le_of_lt strictLow, le_of_lt strictHigh, .inr ⟨strictLow, strictHigh⟩⟩
  have inside := (inside_iff near power _).mpr holds
  unfold onGrid
  dsimp only
  split
  · rfl
  · rfl
  · rfl
  · next outside _ => exact absurd (inside.symm.trans outside) (by decide)

/-! ## All grids -/

/-- What the search answers was found on one of the grids, if one of them has
anything. -/
theorem search_found (near : Neighbourhood) (tie : Tie) {grids : Nat} {power : Int}
    (reached : ∃ skipped < grids, (near.onGrid tie (power - skipped)).isSome) :
    ∃ reached, near.onGrid tie reached = some (near.search tie grids power) := by
  induction grids generalizing power with
  | zero =>
      rcases reached with ⟨skipped, impossible, -⟩
      exact absurd impossible (Nat.not_lt_zero skipped)
  | succ grids inductionHypothesis =>
      rw [search]
      split
      · next decimal found => exact ⟨power, found⟩
      · next nothing =>
          rcases reached with ⟨skipped, within, found⟩
          refine inductionHypothesis ?_
          cases skipped with
          | zero =>
              rw [Nat.cast_zero, sub_zero, nothing] at found
              cases found
          | succ skipped =>
              refine ⟨skipped, Nat.lt_of_succ_lt_succ within, ?_⟩
              rwa [Nat.cast_add_one, ← sub_sub, sub_right_comm] at found

/-- A power of ten for a power of two, the logarithm taken as 0.30103.  That is
a little too large, and exponents of doubles are small enough for it. -/
theorem ten_zpow_estimate_le {exponent : Int} (least : -1200 < exponent) (most : exponent < 1200) :
    (10 : ℚ) ^ (exponent * 30103 / 100000) ≤ 2 ^ (exponent + 1) := by
  have large : ∀ size < 1200, 10 ^ (size * 30103 / 100000) ≤ 2 ^ (size + 1) := by decide +kernel
  have small : ∀ size < 1200, 2 ^ size ≤ 10 ^ ((size * 30103 + 99999) / 100000) := by
    decide +kernel
  rcases Int.eq_nat_or_neg exponent with ⟨size, rfl | rfl⟩
  · have estimate : (size : Int) * 30103 / 100000 = (size * 30103 / 100000 : Nat) := by omega
    rw [estimate, zpow_natCast, ← Nat.cast_add_one, zpow_natCast]
    exact_mod_cast large size (by omega)
  · have estimate : -(size : Int) * 30103 / 100000 =
        -((size * 30103 + 99999) / 100000 : Nat) := by omega
    have bound : (2 : ℚ) ^ size ≤ 10 ^ ((size * 30103 + 99999) / 100000) := by
      exact_mod_cast small size (by omega)
    rw [estimate, zpow_neg, zpow_natCast, zpow_add_one₀ two_ne_zero, zpow_neg, zpow_natCast]
    have inverse := inv_anti₀ (by positivity) bound
    have positive : (0 : ℚ) < (2 ^ size)⁻¹ := by positivity
    linarith

theorem reaches_iff (near : Neighbourhood) (power : Int) :
    (scaled 1 10 power).1 * (scaled near.centre 2 near.exponent).2 ≤
        (scaled near.centre 2 near.exponent).1 * (scaled 1 10 power).2 ↔
      (10 : ℚ) ^ power ≤ near.centre * 2 ^ near.exponent := by
  have powerPositive : (0 : ℚ) < (scaled 1 10 power).2 :=
    Nat.cast_pos.mpr (scaled_snd_pos (by norm_num) power)
  have centrePositive : (0 : ℚ) < (scaled near.centre 2 near.exponent).2 :=
    Nat.cast_pos.mpr (scaled_snd_pos two_pos _)
  have tens := scaled_eq 1 10 power
  have centre := scaled_eq near.centre 2 near.exponent
  rw [Nat.cast_one, one_mul, Nat.cast_ofNat] at tens
  rw [Nat.cast_ofNat] at centre
  rw [← tens, ← centre, div_le_div_iff₀ powerPositive centrePositive]
  exact_mod_cast Iff.rfl

/-- The exponent of the first digit is estimated well enough. -/
theorem ten_zpow_leading_le {near : Neighbourhood} (positive : 0 < near.centre)
    (least : -1200 < (near.centre.log2 : Int) + near.exponent)
    (most : (near.centre.log2 : Int) + near.exponent < 1200) :
    (10 : ℚ) ^ near.leading ≤ 2 * (near.centre * 2 ^ near.exponent) := by
  have unitPositive : (0 : ℚ) < 2 ^ near.exponent := zpow_pos two_pos _
  have centrePositive : (0 : ℚ) < near.centre * 2 ^ near.exponent :=
    mul_pos (Nat.cast_pos.mpr positive) unitPositive
  have binade : (2 : ℚ) ^ ((near.centre.log2 : Int) + near.exponent) ≤
      near.centre * 2 ^ near.exponent := by
    rw [zpow_add₀ two_ne_zero, zpow_natCast]
    gcongr
    exact_mod_cast Nat.log2_self_le (Nat.ne_of_gt positive)
  unfold leading
  simp only [decide_eq_true_eq, reaches_iff]
  split
  · next reaches => linarith
  · split
    · next reaches => linarith
    · have estimate := ten_zpow_estimate_le least most
      rw [zpow_add_one₀ two_ne_zero] at estimate
      have lower : (10 : ℚ) ^ (((near.centre.log2 : Int) + near.exponent) * 30103 / 100000 - 1) ≤
          10 ^ (((near.centre.log2 : Int) + near.exponent) * 30103 / 100000) :=
        zpow_le_zpow_right₀ (by norm_num) (by omega)
      linarith

end Neighbourhood

/-- The shortest digits of a double denote a number of its neighbourhood.  The
last of the seventeen grids is fine enough for every double, so the search finds
one. -/
theorem shortest_holds {significand : Nat} {exponent : Int}
    (double : IsDouble significand exponent) (tie : Tie) :
    (Neighbourhood.of significand exponent).Holds (shortest tie significand exponent).value := by
  have positive := double.positive
  have bounded := double.bounded
  have least := double.least
  have most := double.most
  rw [leastExponent] at least
  let near := Neighbourhood.of significand exponent
  have unit : near.exponent = exponent - 2 := rfl
  have centre : near.centre = 4 * significand := rfl
  have log : near.centre.log2 < 55 := (Nat.log2_lt (by omega)).mpr (by omega)
  have leading := near.ten_zpow_leading_le (by omega) (by omega) (by omega)
  have fine : (10 : ℚ) ^ (near.leading - (17 : Nat)) ≤ 2 ^ near.exponent := by
    have unitPositive : (0 : ℚ) < 2 ^ near.exponent := zpow_pos two_pos _
    have small : (near.centre : ℚ) < 2 ^ 55 := by
      have : near.centre < 2 ^ 55 := by omega
      exact_mod_cast this
    rw [zpow_sub₀ (by norm_num), zpow_natCast, div_le_iff₀ (by norm_num)]
    have product : (near.centre : ℚ) * 2 ^ near.exponent ≤ 2 ^ 55 * 2 ^ near.exponent := by
      gcongr
    linarith
  have low : near.low < near.centre := by
    have cases : near.low = 4 * significand - 1 ∨ near.low = 4 * significand - 2 := by
      change (if _ then _ else _) = _ ∨ (if _ then _ else _) = _
      split
      · exact .inl rfl
      · exact .inr rfl
    omega
  have high : near.centre < near.high := Nat.lt_add_of_pos_right two_pos
  have searched : ∃ power, near.onGrid tie power = some (near.search tie 20 near.leading) :=
    near.search_found tie ⟨17, by norm_num, near.onGrid_isSome low high tie fine⟩
  rcases searched with ⟨power, found⟩
  rw [shortest, if_neg (Nat.ne_of_gt positive), Digits.value_trim]
  exact Neighbourhood.holds_of_onGrid found

end Decimal
end Optimum

import Optimum.Proofs.Decimal.PlainText
import Optimum.Proofs.Double

namespace Optimum
namespace Decimal

/-!
# The bits of doubles

The parts of a double tell its bits, and bits that are not those of an invalid
number are kept by the double that is made of them.
-/

theorem ofBits_toNat_toBits (x : Float) : Float.ofBits (UInt64.ofNat x.toBits.toNat) = x := by
  rw [UInt64.ofNat_toNat, Float.ofBits_toBits]

theorem toNat_ofNat_of_ordered {bits : Nat} (ordered : bits ≤ 2047 * 2 ^ 52) :
    (UInt64.ofNat bits).toNat = bits := by
  refine UInt64.toNat_ofNat_of_lt' ?_
  rw [UInt64.size]
  omega

open Float.Model UnpackedFloat in
/-- Bits up to those of the infinity are not those of an invalid number. -/
theorem isNaNBits_eq_false {bits : Nat} (ordered : bits ≤ 2047 * 2 ^ 52) :
    ¬ @isNaNBits Format.binary64 (UInt64.ofNat bits).toBitVec = true := by
  have number : (UInt64.ofNat bits).toBitVec.toNat = bits := by
    rw [UInt64.toNat_toBitVec, toNat_ofNat_of_ordered ordered]
  rw [isNaNBits, decide_eq_true_eq, not_and, not_not]
  intro full
  have exponent := congrArg BitVec.toNat full
  rw [unpackExponent_def, BitVec.extractLsb'_toNat, number, Nat.shiftRight_eq_div_pow] at exponent
  have top : (-BitVec.ofNat Format.binary64.exponentBits 1).toNat = 2047 := by decide
  rw [top] at exponent
  refine BitVec.eq_of_toNat_eq ?_
  rw [unpackMantissa_def, BitVec.extractLsb'_toNat, number, Nat.shiftRight_zero]
  change bits / 2 ^ 52 % 2 ^ 11 = 2047 at exponent
  change bits % 2 ^ 52 = 0
  omega

/-- Bits up to those of the infinity are kept.  Invalid numbers come after them,
and only those change their bits. -/
theorem toBits_ofBits {bits : Nat} (ordered : bits ≤ 2047 * 2 ^ 52) :
    (Float.ofBits (UInt64.ofNat bits)).toBits.toNat = bits := by
  change (UInt64.ofBitVec (Float.Model.UnpackedFloat.pack Float.Model.Format.binary64
    (Float.Model.UnpackedFloat.unpack Float.Model.Format.binary64
      (UInt64.ofNat bits).toBitVec))).toNat = bits
  rw [Float.Model.UnpackedFloat.pack_unpack, if_neg (isNaNBits_eq_false ordered),
    UInt64.ofBitVec_toBitVec, toNat_ofNat_of_ordered ordered]

/-- A finite double without a sign is zero, or its parts are those of a positive
double; either way they tell its bits. -/
theorem parts_cases {bits significand : Nat} {exponent : Int}
    (finite : Parts.ofBits bits = .finite false significand exponent) :
    (significand = 0 ∧ exponent = leastExponent ∨ IsDouble significand exponent) ∧
      bits = (exponent - leastExponent).toNat * 2 ^ 52 + significand := by
  unfold Parts.ofBits at finite
  simp only [Nat.pow_eq, leastNormal] at finite
  split at finite
  · split at finite <;> cases finite
  · next notFull =>
      split at finite
      · next zero =>
          simp only [Parts.finite.injEq, decide_eq_false_iff_not] at finite
          rcases finite with ⟨unsigned, rfl, rfl⟩
          refine ⟨?_, by omega⟩
          rcases Nat.eq_zero_or_pos (bits % 2 ^ 52) with none | positive
          · exact .inl ⟨none, rfl⟩
          · exact .inr ⟨positive, by omega, le_refl _, by decide, .inr rfl⟩
      · next nonzero =>
          simp only [Parts.finite.injEq, decide_eq_false_iff_not] at finite
          rcases finite with ⟨unsigned, rfl, rfl⟩
          refine ⟨.inr ⟨by omega, by omega, by omega, ?_, .inl ?_⟩, by omega⟩
          · unfold leastExponent
            omega
          · exact Nat.le_add_right _ _

theorem nearestDecimal_zero (exponent : Int) : nearestDecimal 0 exponent = Float.ofBits 0 := by
  rw [nearestDecimal, if_pos (.inl rfl), nearest, nearestBits, if_pos rfl]
  rfl

/-- What is written for a finite double without a sign is plain digits, and it
is read as the same double. -/
theorem write_spells_read {x : Float} {significand : Nat} {exponent : Int}
    (finite : Parts.of x = .finite false significand exponent) :
    (∃ whole fraction, Spells (plain.write x).toList whole fraction) ∧
      read? (plain.write x) = some x := by
  rcases parts_cases finite with ⟨kinds, bits⟩
  have written : plain.write x = positionalText false (shortest .up significand exponent) := by
    rw [Style.write, finite]
    simp [plain, sign]
  rcases exists_spells_positional (shortest .up significand exponent) with
      ⟨whole, fraction, spells, denotes⟩
  rw [written]
  refine ⟨⟨whole, fraction, spells⟩, ?_⟩
  rw [read?_of_spells spells, ← ofBits_toNat_toBits x, bits]
  rcases kinds with ⟨rfl, rfl⟩ | double
  · have zero : digitsValue (whole ++ fraction) = 0 := by
      have none : (shortest .up 0 leastExponent).value = 0 := by
        rw [shortest, if_pos rfl, Digits.value, Nat.cast_zero, zero_mul]
      rw [none, spelledValue, mul_eq_zero] at denotes
      rcases denotes with digits | power
      · exact mod_cast digits
      · exact absurd power (zpow_ne_zero _ (by norm_num))
    rw [zero, nearestDecimal_zero]
    rfl
  · have holds := shortest_holds double .up
    rw [← denotes] at holds
    exact congrArg some (nearestDecimal_of_holds double holds)

/-! ## Numbers that are read -/

/-- Bits up to those of the infinity are those of a finite double without a
sign, or of the infinity. -/
theorem parts_ofBits {bits : Nat} (ordered : bits ≤ 2047 * 2 ^ 52) :
    Parts.ofBits bits = .infinite false ∨
      ∃ significand exponent, Parts.ofBits bits = .finite false significand exponent := by
  have unsigned : decide (2 ^ 63 ≤ bits) = false := decide_eq_false (by omega)
  unfold Parts.ofBits
  simp only [Nat.pow_eq, unsigned]
  split
  · next full =>
      have fraction : bits % 2 ^ 52 = 0 := by omega
      exact .inl (if_pos fraction)
  · split
    · exact .inr ⟨_, _, rfl⟩
    · exact .inr ⟨_, _, rfl⟩

theorem nearestBits_le (numerator denominator : Nat) :
    nearestBits numerator denominator ≤ 2047 * 2 ^ 52 := by
  unfold nearestBits
  split
  · exact Nat.zero_le _
  · exact Nat.min_le_right _ _

/-- The double next to a quotient is finite and without a sign, or it is the
infinity. -/
theorem parts_nearest (numerator denominator : Nat) :
    Parts.of (nearest numerator denominator) = .infinite false ∨
      ∃ significand exponent,
        Parts.of (nearest numerator denominator) = .finite false significand exponent := by
  have ordered := nearestBits_le numerator denominator
  rw [Parts.of, nearest, toBits_ofBits ordered]
  exact parts_ofBits ordered

/-- A literal denotes a finite double without a sign, or it is out of range. -/
theorem parts_of_read? {text : String} {x : Float} (read : read? text = some x) :
    Parts.of x = .infinite false ∨
      ∃ significand exponent, Parts.of x = .finite false significand exponent := by
  obtain ⟨digits, exponent, rfl⟩ : ∃ digits exponent, x = nearestDecimal digits exponent := by
    unfold read? at read
    dsimp only at read
    split at read <;> split at read <;>
      simp only [Option.map_eq_some_iff, reduceCtorEq] at read
    all_goals
      obtain ⟨exponent, -, rfl⟩ := read
      exact ⟨_, _, rfl⟩
  unfold nearestDecimal
  dsimp only
  split
  · exact parts_nearest _ _
  · split <;> exact parts_nearest _ _

end Decimal
end Optimum

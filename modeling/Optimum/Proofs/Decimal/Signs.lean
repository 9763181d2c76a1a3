import Optimum.Proofs.Decimal.Doubles

namespace Optimum
namespace Decimal

open Float.Model UnpackedFloat
open Scalar (flipSign)

/-!
# The signs of doubles

The negative of a finite double has the other sign and the same parts
otherwise, and its own negative is the double again.  So a finite double is one
without a sign or the negative of one.
-/

/-! ## The fields of bits -/

section Fields

variable (bits : BitVec Format.binary64.numBits)

theorem toNat_unpackExponent : (unpackExponent bits).toNat = bits.toNat / 2 ^ 52 % 2 ^ 11 := by
  rw [unpackExponent_def, BitVec.extractLsb'_toNat, Nat.shiftRight_eq_div_pow]

theorem toNat_unpackMantissa : (unpackMantissa bits).toNat = bits.toNat % 2 ^ 52 := by
  rw [unpackMantissa_def, BitVec.extractLsb'_toNat, Nat.shiftRight_zero]

theorem unpackSign_eq_iff : Sign.ofBitVec (unpackSign bits) = .negative ↔ 2 ^ 63 ≤ bits.toNat := by
  have small : bits.toNat < 2 ^ 64 := bits.isLt
  have positive : unpackSign bits = 0#1 ↔ bits.toNat / 2 ^ 63 % 2 ^ 1 = 0 := by
    rw [unpackSign_def, ← BitVec.toNat_inj, BitVec.extractLsb'_toNat, Nat.shiftRight_eq_div_pow]
    rfl
  rw [Sign.ofBitVec]
  split
  · next clear =>
      have low := positive.mp clear
      exact iff_of_false nofun (by omega)
  · next set =>
      have high := mt positive.mpr set
      exact iff_of_true rfl (by omega)

end Fields

theorem neg_eq_negative_iff (sign : Sign) : -sign = .negative ↔ ¬ sign = .negative := by
  cases sign with
  | negative => exact iff_of_false (by rintro ⟨⟩) (not_not.mpr rfl)
  | positive => exact iff_of_true rfl (by rintro ⟨⟩)

/-- Bits with the other sign are otherwise of the same parts. -/
theorem parts_flipSign {bits : BitVec Format.binary64.numBits} {negative : Bool}
    {significand : Nat} {power : Int}
    (finite : Parts.ofBits bits.toNat = .finite negative significand power) :
    Parts.ofBits (flipSign bits).toNat = .finite (!negative) significand power := by
  have exponent : (flipSign bits).toNat / 2 ^ 52 % 2 ^ 11 = bits.toNat / 2 ^ 52 % 2 ^ 11 := by
    rw [← toNat_unpackExponent, flipSign, unpackExponent_packComponents, toNat_unpackExponent]
  have mantissa : (flipSign bits).toNat % 2 ^ 52 = bits.toNat % 2 ^ 52 := by
    rw [← toNat_unpackMantissa, flipSign, unpackMantissa_packComponents, toNat_unpackMantissa]
  have signs : decide (2 ^ 63 ≤ (flipSign bits).toNat) = !decide (2 ^ 63 ≤ bits.toNat) := by
    rw [← decide_not, decide_eq_decide, ← unpackSign_eq_iff, ← unpackSign_eq_iff, flipSign,
      unpackSign_packComponents, Sign.ofBitVec_toBitVec]
    exact neg_eq_negative_iff _
  unfold Parts.ofBits at finite ⊢
  simp only [Nat.pow_eq, exponent, mantissa, signs] at finite ⊢
  split at finite
  · split at finite <;> cases finite
  · next notFull =>
      rw [if_neg notFull]
      split at finite
      · next zero =>
          cases finite
          exact if_pos zero
      · next nonzero =>
          cases finite
          exact if_neg nonzero

theorem isNaNBits_flipSign (bits : BitVec Format.binary64.numBits) :
    isNaNBits (flipSign bits) = isNaNBits bits := by
  rw [isNaNBits, isNaNBits, flipSign, unpackExponent_packComponents, unpackMantissa_packComponents]

theorem isNaNBits_of_finite {bits : BitVec Format.binary64.numBits} {negative : Bool}
    {significand : Nat} {power : Int}
    (finite : Parts.ofBits bits.toNat = .finite negative significand power) :
    ¬ isNaNBits bits = true := by
  rw [isNaNBits, decide_eq_true_eq, not_and]
  intro full
  have exponent := congrArg BitVec.toNat full
  rw [toNat_unpackExponent] at exponent
  change bits.toNat / 2 ^ 52 % 2 ^ 11 = 2 ^ 11 - 1 at exponent
  unfold Parts.ofBits at finite
  simp only [Nat.pow_eq] at finite
  rw [if_pos exponent] at finite
  split at finite <;> cases finite

theorem parts_neg {x : Float} {negative : Bool} {significand : Nat} {power : Int}
    (finite : Parts.of x = .finite negative significand power) :
    Parts.of (-x) = .finite (!negative) significand power := by
  have negated : (-x).toBits.toBitVec =
      UnpackedFloat.pack .binary64 (UnpackedFloat.unpack .binary64 (flipSign x.toBits.toBitVec)) :=
    (congrArg (UnpackedFloat.pack .binary64) (Scalar.unpack_flipSign _)).symm
  rw [pack_unpack, isNaNBits_flipSign, if_neg (isNaNBits_of_finite finite)] at negated
  rw [Parts.of, ← UInt64.toNat_toBitVec, negated]
  exact parts_flipSign finite

/-- Doubles that tell the same are the same.  The model of a double is valid, so
its bits can be told from what they stand for. -/
theorem eq_of_unpack_eq {x y : Float} (same : x.toModel.unpack = y.toModel.unpack) : x = y := by
  have packed (z : Float) : UnpackedFloat.pack .binary64 z.toModel.unpack = z.toBits.toBitVec :=
    pack_unpack_of_valid z.toModel.valid
  have bits : x.toBits = y.toBits := UInt64.toBitVec_inj.mp (by rw [← packed, ← packed, same])
  rw [← Float.ofBits_toBits x, ← Float.ofBits_toBits y, bits]

theorem neg_neg_float (x : Float) : - -x = x := by
  have signs (sign : Sign) : - -sign = sign := by
    cases sign <;> rfl
  refine eq_of_unpack_eq ?_
  rw [Scalar.unpack_neg, Scalar.unpack_neg]
  cases x.toModel.unpack <;> simp [UnpackedFloat.neg, signs]

/-- Doubles that are tested to be finite have finite parts. -/
theorem parts_of_isFinite {x : Float} (finite : Scalar.isFinite x = true) :
    ∃ negative significand power, Parts.of x = .finite negative significand power := by
  rcases (Scalar.isFinite_float_iff x).mp finite with ⟨number, bounded⟩
  have exponent := toNat_unpackExponent x.toBits.toBitVec
  rw [UInt64.toNat_toBitVec] at exponent
  have notFull : ¬ x.toBits.toNat / 2 ^ 52 % 2 ^ 11 = 2 ^ 11 - 1 := by
    intro full
    have top : @unpackExponent .binary64 x.toBits.toBitVec =
        -BitVec.ofNat Format.binary64.exponentBits 1 :=
      BitVec.eq_of_toNat_eq (exponent.trans full)
    have unpacked : x.toModel.unpack = UnpackedFloat.unpack .binary64 x.toBits.toBitVec := rfl
    rw [UnpackedFloat.unpack, if_pos top] at unpacked
    split at unpacked
    · exact bounded _ unpacked
    · exact number unpacked
  rw [Parts.of, Parts.ofBits]
  simp only [Nat.pow_eq, if_neg notFull]
  split
  · exact ⟨_, _, _, rfl⟩
  · exact ⟨_, _, _, rfl⟩

end Decimal
end Optimum

import Mathlib
import Optimum.Scalar

namespace Optimum
namespace Scalar

open Float.Model

/-!
# The doubles as scalars

Doubles keep few laws of arithmetic.  One that they keep is that the sign
stands apart from the rest: a negation changes the sign and nothing else, so
the negative of a finite double is finite.

The whole library is imported because its facts about packed doubles belong to
no part of it that can be imported alone.
-/

/-- Packing loses nothing of what came from bits.  Only an invalid number
changes its bits, and it is told apart from nothing but other ones. -/
theorem unpack_pack_unpack (bits : BitVec Format.binary64.numBits) :
    UnpackedFloat.unpack .binary64
        (UnpackedFloat.pack .binary64 (UnpackedFloat.unpack .binary64 bits)) =
      UnpackedFloat.unpack .binary64 bits := by
  rw [UnpackedFloat.pack_unpack]
  split
  · next invalid =>
      rw [UnpackedFloat.isNaNBits, decide_eq_true_eq] at invalid
      rw [UnpackedFloat.unpack_packedNaN, UnpackedFloat.unpack]
      simp only [invalid, if_true, if_false]
  · rfl

/-- The bits with the other sign.  Negation is defined on unpacked doubles; on
bits it is this change of the first one. -/
def flipSign (bits : BitVec Format.binary64.numBits) : BitVec Format.binary64.numBits :=
  UnpackedFloat.packComponents .binary64 (-.ofBitVec (UnpackedFloat.unpackSign bits))
    (UnpackedFloat.unpackExponent bits) (UnpackedFloat.unpackMantissa bits)

/-- The negative of what bits tell is told by the bits with the other sign.  The
exponent and the mantissa are the same bits as before. -/
theorem unpack_flipSign (bits : BitVec Format.binary64.numBits) :
    UnpackedFloat.unpack .binary64 (flipSign bits) =
      (UnpackedFloat.unpack .binary64 bits).neg := by
  simp only [flipSign, UnpackedFloat.unpack, UnpackedFloat.unpackMantissa_packComponents,
    UnpackedFloat.unpackExponent_packComponents, UnpackedFloat.unpackSign_packComponents,
    UnpackedFloat.Sign.ofBitVec_toBitVec]
  split_ifs <;> rfl

theorem unpack_neg (x : Float) : (-x).toModel.unpack = x.toModel.unpack.neg := by
  change UnpackedFloat.unpack .binary64 (UnpackedFloat.pack .binary64
      (UnpackedFloat.unpack .binary64 x.toModel.toBits.toBitVec).neg) =
    (UnpackedFloat.unpack .binary64 x.toModel.toBits.toBitVec).neg
  rw [← unpack_flipSign, unpack_pack_unpack]

/-- Below the ceiling of the doubles lies all but the invalid number and the
positive infinity. -/
theorem belowCeiling_float_iff (x : Float) :
    belowCeiling x = true ↔
      x.toModel.unpack ≠ .notANumber ∧ x.toModel.unpack ≠ .infinity .positive := by
  have compared : belowCeiling x = decide (x < Float.ofBits 0x7ff0000000000000) := rfl
  have top : (Float.ofBits 0x7ff0000000000000).toModel.unpack = .infinity .positive := rfl
  rw [compared, decide_eq_true_iff]
  change Float.lt x (Float.ofBits 0x7ff0000000000000) = true ↔ _
  rw [Float.lt, decide_eq_true_iff]
  change x.toModel.unpack.lt (Float.ofBits 0x7ff0000000000000).toModel.unpack = true ↔ _
  rw [top]
  cases x.toModel.unpack with
  | infinity sign =>
      cases sign with
      | positive => simp [UnpackedFloat.lt, UnpackedFloat.compare]
      | negative => exact iff_of_true rfl ⟨nofun, nofun⟩
  | notANumber => simp [UnpackedFloat.lt, UnpackedFloat.compare]
  | zero sign => simp [UnpackedFloat.lt, UnpackedFloat.compare]
  | finite sign significand exponent positive => simp [UnpackedFloat.lt, UnpackedFloat.compare]

theorem isFinite_float_iff (x : Float) :
    isFinite x = true ↔
      x.toModel.unpack ≠ .notANumber ∧ ∀ sign, x.toModel.unpack ≠ .infinity sign := by
  simp only [isFinite, Bool.and_eq_true, belowCeiling_float_iff, unpack_neg,
    UnpackedFloat.Sign.forall_iff]
  cases x.toModel.unpack with
  | infinity sign =>
      cases sign with
      | positive => simp [UnpackedFloat.neg]
      | negative => simp [UnpackedFloat.neg, show (-.negative : UnpackedFloat.Sign) = .positive from rfl]
  | notANumber => simp [UnpackedFloat.neg]
  | zero sign => simp [UnpackedFloat.neg]
  | finite sign significand exponent positive => simp [UnpackedFloat.neg]

/-- The negative of a finite double is finite.  Of the laws of arithmetic this
is the one that a dual of a problem in doubles needs. -/
theorem isFinite_neg_float (x : Float) (finite : isFinite x = true) : isFinite (-x) = true := by
  rw [isFinite_float_iff] at finite ⊢
  rw [unpack_neg]
  cases shown : x.toModel.unpack with
  | infinity sign => exact absurd shown (finite.2 sign)
  | notANumber => exact absurd shown finite.1
  | zero sign => exact ⟨nofun, nofun⟩
  | finite sign significand exponent positive => exact ⟨nofun, nofun⟩

end Scalar
end Optimum

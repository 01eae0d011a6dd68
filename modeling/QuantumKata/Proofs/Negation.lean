import Mathlib
import QuantumKata.Proofs.Acceptance

/-!
# Negating a floating-point number

A number is negated by unpacking it, changing its sign and packing it again.  What is unpacked of
bits with the other sign is what is unpacked of the bits themselves, negated.  So packing it gives
the bits with the other sign, except for what is no number: that has only one form, and stays what
it is.

So a number that is negated twice is what it was.  It compares with itself unless it is no number.
-/

namespace QuantumKata

namespace RealNumber

open Float.Model
open Float.Model.UnpackedFloat

/-! ## The sign bit -/

/-- The bits of a number with the other sign. -/
def withOtherSign (bits : BitVec Format.binary64.numBits) : BitVec Format.binary64.numBits :=
  packComponents .binary64 (-Sign.ofBitVec (unpackSign bits)) (unpackExponent bits)
    (unpackMantissa bits)

variable (bits : BitVec Format.binary64.numBits)

theorem withOtherSign_twice : withOtherSign (withOtherSign bits) = bits := by
  have signs : ∀ sign : Sign, - -sign = sign := Sign.forall_iff.2 ⟨rfl, rfl⟩
  rw [withOtherSign, withOtherSign, unpackSign_packComponents, unpackExponent_packComponents,
    unpackMantissa_packComponents, Sign.ofBitVec_toBitVec, signs]
  exact packComponents_unpackSign_unpackExponent_unpackMantissa bits

theorem isNaNBits_withOtherSign : isNaNBits (withOtherSign bits) = isNaNBits bits := by
  rw [isNaNBits, isNaNBits, withOtherSign, unpackExponent_packComponents,
    unpackMantissa_packComponents]

/-- The number with the other sign is the negated one. -/
theorem unpack_withOtherSign : UnpackedFloat.unpack .binary64 (withOtherSign bits) =
    (UnpackedFloat.unpack .binary64 bits).neg := by
  unfold UnpackedFloat.unpack withOtherSign
  simp only [unpackSign_packComponents, unpackExponent_packComponents,
    unpackMantissa_packComponents, Sign.ofBitVec_toBitVec]
  -- Both sides read the same exponent and digits: the greatest exponent, the least, any other.
  split
  · split <;> rfl
  · split
    · split <;> rfl
    · rfl

/-- Negation changes the sign bit of what is a number, and nothing else. -/
theorem pack_neg_unpack : (UnpackedFloat.unpack .binary64 bits).neg.pack .binary64 =
    if isNaNBits bits then packedNaN .binary64 else withOtherSign bits := by
  rw [← unpack_withOtherSign, pack_unpack, isNaNBits_withOtherSign]

/-! ## Numbers that are negated twice -/

/-- The bits of a number. -/
def bitsOf (number : Float) : BitVec Format.binary64.numBits := number.toBits.toBitVec

theorem bitsOf_inj {left right : Float} : bitsOf left = bitsOf right ↔ left = right :=
  UInt64.toBitVec_inj.trans Float.toBits_inj

variable (number : Float)

theorem bitsOf_neg : bitsOf (-number) =
    if isNaNBits (bitsOf number) then packedNaN .binary64 else withOtherSign (bitsOf number) :=
  pack_neg_unpack (bitsOf number)

/-- What is no number has only one form. -/
theorem bitsOf_of_isNaNBits (undefined : isNaNBits (bitsOf number)) :
    bitsOf number = packedNaN .binary64 := by
  have unpacked := pack_unpack_of_valid number.toModel.valid
  rw [pack_unpack] at unpacked
  exact unpacked.symm.trans (if_pos undefined)

/-- A number that is negated twice is what it was. -/
protected theorem neg_neg : - -number = number := by
  rw [← bitsOf_inj, bitsOf_neg, bitsOf_neg]
  by_cases undefined : isNaNBits (bitsOf number)
  · rw [if_pos undefined, if_pos isNaNBits_packedNaN, bitsOf_of_isNaNBits number undefined]
  · rw [if_neg undefined, isNaNBits_withOtherSign, if_neg undefined, withOtherSign_twice]

/-- All that is a number, and nothing else, compares with itself. -/
theorem le_self_iff : number ≤ number ↔ number.isNaN = false := by
  constructor
  · intro ordered
    rcases le_iff.1 ordered with ⟨order, isOrder, -⟩
    have comparable := isSome_compare number.toModel.unpack number.toModel.unpack
    have defined : (!number.isNaN && !number.isNaN) = true :=
      comparable.symm.trans (Option.isSome_iff_exists.2 ⟨order, isOrder⟩)
    rw [Bool.and_self, Bool.not_eq_true'] at defined
    exact defined
  · intro defined
    rcases (isNaN_eq_false_iff defined).1 defined with ⟨order, isOrder⟩
    have swapped := order?_swap number number
    rw [isOrder] at swapped
    refine le_iff.2 ⟨order, isOrder, ?_⟩
    cases order with
    | lt => cases swapped
    | eq => rfl
    | gt => cases swapped

end RealNumber

end QuantumKata

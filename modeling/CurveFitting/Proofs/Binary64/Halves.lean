import CurveFitting.Proofs.Binary64.Order
import CurveFitting.Proofs.Halves

/-! # Halves of binary64 numbers

Rounding changes no number that fits, so halves are exact as long as a digit is left to
drop. The halves of one are the powers of two down to the smallest positive number, and
zero from there on.
-/

namespace CurveFitting

namespace Binary64

open Float.Model Float.Model.UnpackedFloat

variable {mantissa : Nat} {exponent : Int} {sign : Sign} {number : UnpackedFloat}

/-! ## Exact rounding -/

private theorem Fits.lastPlace_eq (fits : Fits mantissa exponent) (positive : 0 < mantissa) :
    lastPlace mantissa exponent = exponent := by
  have nonzero := Nat.ne_of_gt positive
  have digits := (Nat.log2_lt nonzero).mpr fits.short
  have least := fits.least
  rw [lastPlace]
  rcases fits.full with full | lowest
  · have leading := (Nat.le_log2 nonzero).mpr full
    omega
  · omega

private theorem Truncates.rounded_eq {dropped : Nat} {kept : ExtendedMantissa}
    (truncates : Truncates (mantissa * 2 ^ dropped) dropped kept) :
    kept.roundedMantissa = mantissa :=
  Nat.le_antisymm (truncates.rounded_le (Nat.le_refl _)) (truncates.le_rounded (Nat.le_refl _))

private theorem shift_of_lastPlace {dropped : Nat}
    (place : lastPlace mantissa exponent = exponent + dropped) :
    shiftToTargetExponent .binary64 mantissa exponent .exact =
      (ExtendedMantissa.ofMantissaAndAccuracy mantissa .exact >>> dropped, exponent + dropped) := by
  have all : (exponent + dropped - exponent).toNat = dropped := by omega
  rw [shiftToTargetExponent, targetExponent_eq, place, shiftToExponent, all]

/-- A number loses nothing if all digits that do not fit are zeros. -/
theorem roundWithAccuracy_eq_finite {dropped : Nat} (positive : 0 < mantissa)
    (fits : Fits mantissa (exponent + dropped)) :
    roundWithAccuracy .binary64 sign (mantissa * 2 ^ dropped) exponent .exact =
      .finite sign mantissa (exponent + dropped) positive := by
  have place : lastPlace (mantissa * 2 ^ dropped) exponent = exponent + dropped := by
    have shifted := fits.lastPlace_eq positive
    rwa [← lastPlace_shiftLeft positive dropped, Nat.shiftLeft_eq, Int.add_sub_cancel] at shifted
  have kept : lastPlace mantissa (exponent + dropped) = exponent + dropped + (0 : Nat) :=
    (fits.lastPlace_eq positive).trans (Int.add_zero _).symm
  rw [roundWithAccuracy_eq, shift_of_lastPlace place]
  dsimp only
  rw [(truncates_shift _ dropped).rounded_eq, shift_of_lastPlace kept]
  exact (assemble_of_pos positive).trans (finite_congr rfl (Int.add_zero _))

/-! ## Halves -/

private theorem unpack_half :
    (0.5 : Float).toModel.unpack = .finite .positive (2 ^ 52) (-53) (Nat.two_pow_pos 52) := rfl

theorem unpack_mul (left right : Float) : (left * right).toModel.unpack =
    restored (UnpackedFloat.mul .binary64 left.toModel.unpack right.toModel.unpack) := rfl

private theorem unpack_mul_half {value : Float} {kept dropped : Nat} {positive : 0 < mantissa}
    (some : 0 < kept) (unpacked : value.toModel.unpack = .finite sign mantissa exponent positive)
    (digits : mantissa * 2 ^ 52 = kept * 2 ^ dropped)
    (fits : Fits kept (exponent + -53 + dropped)) (small : exponent + -53 + dropped ≤ 971) :
    (value * 0.5).toModel.unpack = .finite sign kept (exponent + -53 + dropped) some := by
  have same : sign * .positive = sign := by cases sign <;> rfl
  rw [unpack_mul, unpacked, unpack_half]
  change restored (roundWithAccuracy .binary64 (sign * .positive) (mantissa * 2 ^ 52) _ .exact) = _
  rw [same, digits, roundWithAccuracy_eq_finite some fits, restored_finite fits small]

theorem unpack_halved {count : Nat} (normal : count ≤ 1022) :
    (Scalar.halved count : Float).toModel.unpack =
      .finite .positive (2 ^ 52) (-52 - count) (Nat.two_pow_pos 52) := by
  induction count with
  | zero => rfl
  | succ count induction =>
      have fits : Fits (2 ^ 52) (-52 - count + -53 + (52 : Nat)) :=
        ⟨by decide, by omega, .inl (Nat.le_refl _)⟩
      rw [Scalar.halved, unpack_mul_half (Nat.two_pow_pos 52) (induction (by omega)) rfl fits
        (by omega)]
      exact finite_congr rfl (by omega)

theorem unpack_halved_subnormal {count : Nat} (subnormal : count ≤ 52) :
    (Scalar.halved (1022 + count) : Float).toModel.unpack =
      .finite .positive (2 ^ (52 - count)) (-1074) (Nat.two_pow_pos _) := by
  induction count with
  | zero => exact unpack_halved (Nat.le_refl _)
  | succ count induction =>
      have shorter : 2 ^ (52 - (count + 1)) < 2 ^ 53 :=
        Nat.pow_lt_pow_right (by decide) (by omega)
      have fits : Fits (2 ^ (52 - (count + 1))) (-1074 + -53 + (53 : Nat)) :=
        ⟨shorter, by decide, .inr rfl⟩
      have digits : 2 ^ (52 - count) * 2 ^ 52 = 2 ^ (52 - (count + 1)) * 2 ^ 53 := by
        rw [← Nat.pow_add, ← Nat.pow_add]
        congr 1
        omega
      rw [← Nat.add_assoc, Scalar.halved, unpack_mul_half (Nat.two_pow_pos _)
        (induction (by omega)) digits fits (by decide)]
      exact finite_congr rfl rfl

theorem unpack_halved_zero (count : Nat) :
    (Scalar.halved (1075 + count) : Float).toModel.unpack = .zero .positive := by
  induction count with
  | zero =>
      rw [Nat.add_zero, Scalar.halved, unpack_mul,
        unpack_halved_subnormal (Nat.le_refl 52), unpack_half]
      rfl
  | succ count induction =>
      rw [← Nat.add_assoc, Scalar.halved, unpack_mul, induction, unpack_half]
      rfl

/-- Counted in units, the halves of one are halves of `2 ^ 1074`. -/
theorem level_halved (count : Nat) : level (Scalar.halved count : Float).toModel.unpack =
    some (2 ^ 1074 / 2 ^ count : Nat) := by
  rcases Nat.lt_or_ge count 1022 with normal | small
  · rw [unpack_halved (Nat.le_of_lt normal), Nat.pow_div (by omega) (by decide)]
    have power : 2 ^ 52 * 2 ^ (-52 - (count : Int) + 1074).toNat = 2 ^ (1074 - count) := by
      rw [← Nat.pow_add]
      congr 1
      omega
    exact congrArg (fun amount : Nat => some (amount : Int)) power
  · rcases Nat.lt_or_ge count 1075 with subnormal | zero
    · rcases Nat.exists_eq_add_of_le small with ⟨more, rfl⟩
      rw [unpack_halved_subnormal (by omega), Nat.pow_div (by omega) (by decide),
        Nat.sub_add_eq]
      exact congrArg (fun amount : Nat => some (amount : Int)) (Nat.mul_one _)
    · rcases Nat.exists_eq_add_of_le zero with ⟨more, rfl⟩
      rw [unpack_halved_zero, Nat.div_eq_of_lt (Nat.pow_lt_pow_right (by decide) (by omega))]
      rfl

end Binary64

/-- No half of one after the first 1075 reaches a positive binary64 number. -/
instance : Scalar.ExhaustsHalves Float where
  halves_fall {_ count} reached := by
    refine Binary64.le_trans reached (Binary64.le_iff.mpr ?_)
    refine ⟨_, _, Binary64.level_halved _, Binary64.level_halved _, Int.ofNat_le.mpr ?_⟩
    exact Nat.div_le_div_left (Nat.pow_le_pow_right (by decide) (Nat.le_succ count))
      (Nat.two_pow_pos count)
  halves_exhausted positive reached := by
    rcases Binary64.lt_iff.mp positive with ⟨low, high, zero, floor, below⟩
    rcases Binary64.le_iff.mp reached with ⟨first, second, same, last, within⟩
    cases floor.symm.trans same
    cases zero
    have nothing := Binary64.unpack_halved_zero 0
    change Binary64.level (Scalar.halved (1075 + 0) : Float).toModel.unpack = _ at last
    rw [nothing] at last
    cases last
    exact absurd below (Int.not_lt.mpr within)

end CurveFitting

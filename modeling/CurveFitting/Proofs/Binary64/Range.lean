import Mathlib.Tactic.Ring
import CurveFitting.Differences
import CurveFitting.Proofs.Binary64.Finite
import CurveFitting.Proofs.Binary64.Halves

/-! # Results that do not overflow

A number is rounded to a finite one if its leading digit is below the largest place. So a
product with a half of one is finite, and so is a quotient whose divisor is not too small.
The divisor of a central difference never is: the perturbation is at least the resolution.
-/

namespace CurveFitting.Binary64

open Float.Model Float.Model.UnpackedFloat

variable {sign : Sign} {number left right : UnpackedFloat} {mantissa bound low high : Nat}
  {exponent : Int}

/-! ## Rounding -/

/-- The digits that are kept of a number do not depend on what has been dropped before. -/
theorem mantissa_shift (mantissa : Nat) (accuracy : Accuracy) (dropped : Nat) :
    (ExtendedMantissa.ofMantissaAndAccuracy mantissa accuracy >>> dropped).mantissa =
      mantissa / 2 ^ dropped := by
  change (dropped.repeat ExtendedMantissa.shiftRightOne
    (ExtendedMantissa.ofMantissaAndAccuracy mantissa accuracy)).mantissa = _
  induction dropped with
  | zero =>
      rw [Nat.pow_zero, Nat.div_one]
      cases accuracy with
      | exact => rfl
      | inexact order => cases order <;> rfl
  | succ dropped induction =>
      rw [Nat.pow_succ, ← Nat.div_div_eq_div_mul, ← induction]
      rfl

private theorem isFinite_restored_finite {positive : 0 < mantissa} (small : exponent ≤ 971) :
    (restored (.finite sign mantissa exponent positive)).isFinite = true := by
  have finite {field digits : Nat} (within : field < 2047) :
      (decode sign field digits).isFinite = true := by
    rcases decode_cases sign field digits with
      ⟨special, _⟩ | ⟨_, equal | ⟨_, _, _, equal, _⟩⟩
    · exact absurd special (Nat.ne_of_lt within)
    · rw [equal]
      rfl
    · rw [equal]
      rfl
  rw [restored, pack_finite, if_neg (by omega)]
  split
  · rw [unpack_packed, BitVec.toNat_ofNat]
    exact finite (by omega)
  · rw [unpack_packed]
    exact finite (by decide)

private theorem isFinite_restored_zero (sign : Sign) : (restored (.zero sign)).isFinite = true := by
  cases sign <;> rfl

private theorem isFinite_restored_assemble {digits : ExtendedMantissa × Int}
    (low : digits.2 ≤ 971) :
    (restored (assemble sign digits)).isFinite = true := by
  rcases Nat.eq_zero_or_pos digits.1.mantissa with nothing | positive
  · rw [assemble_of_zero nothing]
    exact isFinite_restored_zero sign
  · rw [assemble_of_pos positive]
    exact isFinite_restored_finite low

private theorem div_lt_of_lastPlace (mantissa : Nat) (exponent : Int) :
    mantissa / 2 ^ (lastPlace mantissa exponent - exponent).toNat < 2 ^ 53 := by
  apply Nat.div_lt_of_lt_mul
  rw [← Nat.pow_add]
  refine Nat.lt_of_lt_of_le Nat.lt_log2_self (Nat.pow_le_pow_right (by decide) ?_)
  unfold lastPlace
  omega

private theorem log2_le_of_le {number digits : Nat} (below : number ≤ 2 ^ digits) :
    number.log2 ≤ digits := by
  rcases Nat.eq_zero_or_pos number with rfl | positive
  · exact Nat.zero_le digits
  · apply Nat.le_of_lt_succ
    apply (Nat.log2_lt (Nat.ne_of_gt positive)).mpr
    exact Nat.lt_of_le_of_lt below (Nat.pow_lt_pow_right (by decide) (Nat.lt_succ_self digits))

private theorem isFinite_restored_round {accuracy : Accuracy}
    (small : mantissa.log2 + exponent ≤ 1022) (low : exponent ≤ 970) :
    (restored (roundWithAccuracy .binary64 sign mantissa exponent accuracy)).isFinite = true := by
  have kept := mantissa_shift mantissa accuracy (lastPlace mantissa exponent - exponent).toNat
  have digits := div_lt_of_lastPlace mantissa exponent
  rw [← kept] at digits
  rw [roundWithAccuracy_eq]
  simp only [shiftToTargetExponent, targetExponent_eq, shiftToExponent]
  generalize ExtendedMantissa.ofMantissaAndAccuracy mantissa accuracy >>>
    (lastPlace mantissa exponent - exponent).toNat = kept at digits
  -- rounding up may have carried into one more digit
  have carry := log2_le_of_le (Nat.le_trans (rounded_bounds kept).2.1 digits)
  apply isFinite_restored_assemble
  unfold lastPlace
  omega

/-! ## Products with halves of one -/

private theorem unpack_halved_cases (count : Nat) :
    (Scalar.halved count : Float).toModel.unpack = .zero .positive ∨
      ∃ (zeros : Nat) (place : Int), zeros + place = -count ∧ place ≤ -52 ∧
        (Scalar.halved count : Float).toModel.unpack =
          .finite .positive (2 ^ zeros) place (Nat.two_pow_pos zeros) := by
  rcases Nat.lt_or_ge count 1022 with normal | small
  · exact .inr ⟨52, -52 - count, by omega, by omega, unpack_halved (Nat.le_of_lt normal)⟩
  · rcases Nat.lt_or_ge count 1075 with subnormal | zero
    · rcases Nat.exists_eq_add_of_le small with ⟨more, rfl⟩
      have within : more ≤ 52 := by omega
      exact .inr ⟨52 - more, -1074, by omega, by decide, unpack_halved_subnormal within⟩
    · rcases Nat.exists_eq_add_of_le zero with ⟨more, rfl⟩
      exact .inl (unpack_halved_zero more)

private theorem Fits.log2_le (fits : Fits mantissa exponent) : mantissa.log2 ≤ 52 := by
  rcases Nat.eq_zero_or_pos mantissa with rfl | positive
  · exact Nat.zero_le 52
  · exact Nat.le_of_lt_succ ((Nat.log2_lt (Nat.ne_of_gt positive)).mpr fits.short)

theorem isFinite_mul_halved {value : Float} (finite : Scalar.isFinite value = true)
    (count : Nat) : Scalar.isFinite (value * Scalar.halved count) = true := by
  change (restored (UnpackedFloat.mul .binary64 value.toModel.unpack
    (Scalar.halved count : Float).toModel.unpack)).isFinite = true
  change value.toModel.unpack.isFinite = true at finite
  have stored := isStored value
  generalize value.toModel.unpack = number at finite stored
  cases number with
  | notANumber => cases finite
  | infinity => cases finite
  | zero =>
      rcases unpack_halved_cases count with half | ⟨zeros, place, _, _, half⟩
      · rw [half]
        exact isFinite_restored_zero _
      · rw [half]
        exact isFinite_restored_zero _
  | finite sign mantissa exponent positive =>
      rcases unpack_halved_cases count with half | ⟨zeros, place, power, low, half⟩
      · rw [half]
        exact isFinite_restored_zero _
      · rw [half]
        have small := stored.2
        change (restored (roundWithAccuracy .binary64 _ (mantissa * 2 ^ zeros)
          (exponent + place) .exact)).isFinite = true
        -- One keeps even the largest numbers. Its halves leave room for rounding up.
        rcases Nat.eq_zero_or_pos count with rfl | halved
        · have same : exponent + place + zeros = exponent := by omega
          have fits : Fits mantissa (exponent + place + zeros) := same.symm ▸ stored.1
          rw [roundWithAccuracy_eq_finite positive fits]
          exact isFinite_restored_finite (by omega)
        · have digits := log2_shiftLeft positive zeros
          have short := stored.1.log2_le
          rw [Nat.shiftLeft_eq] at digits
          apply isFinite_restored_round
          · omega
          · omega

/-! ## Quotients -/

section

variable {limit first second : Nat} {firstPlace secondPlace : Int}
  (below : units first firstPlace < 2 ^ limit * units second secondPlace)

include below

private theorem log2_lt_of_units (positive : 0 < first) :
    first.log2 + (firstPlace + 1074).toNat <
      limit + (second.log2 + 1) + (secondPlace + 1074).toNat := by
  have leading := Nat.log2_self_le (Nat.ne_of_gt positive)
  have digits : second < 2 ^ (second.log2 + 1) := Nat.lt_log2_self
  apply (Nat.pow_lt_pow_iff_right Nat.one_lt_two).mp
  calc 2 ^ (first.log2 + (firstPlace + 1074).toNat)
      ≤ units first firstPlace := by
        rw [Nat.pow_add]
        exact Nat.mul_le_mul_right _ leading
    _ < 2 ^ limit * units second secondPlace := below
    _ ≤ 2 ^ (limit + (second.log2 + 1) + (secondPlace + 1074).toNat) := by
        rw [Nat.pow_add, Nat.pow_add, Nat.mul_assoc]
        exact Nat.mul_le_mul_left _ (Nat.mul_le_mul_right _ (Nat.le_of_lt digits))

private theorem log2_quotient_lt {count : Nat} (some : first <<< count / second ≠ 0) :
    (first <<< count / second).log2 + (firstPlace + 1074).toNat <
      limit + (secondPlace + 1074).toNat + count := by
  have leading := Nat.log2_self_le some
  apply (Nat.pow_lt_pow_iff_right Nat.one_lt_two).mp
  apply Nat.lt_of_mul_lt_mul_right (a := second)
  calc 2 ^ ((first <<< count / second).log2 + (firstPlace + 1074).toNat) * second
      ≤ first <<< count / second * second * 2 ^ (firstPlace + 1074).toNat := by
        rw [Nat.pow_add, Nat.mul_right_comm]
        exact Nat.mul_le_mul_right _ (Nat.mul_le_mul_right _ leading)
    _ ≤ first <<< count * 2 ^ (firstPlace + 1074).toNat :=
        Nat.mul_le_mul_right _ (Nat.div_mul_le_self ..)
    _ = units first firstPlace * 2 ^ count := by
        rw [Nat.shiftLeft_eq, units, Nat.mul_right_comm]
    _ < 2 ^ limit * units second secondPlace * 2 ^ count :=
        Nat.mul_lt_mul_of_pos_right below (Nat.two_pow_pos count)
    _ = 2 ^ (limit + (secondPlace + 1074).toNat + count) * second := by
        rw [units, Nat.pow_add, Nat.pow_add]
        ring

/-- A quotient below `2 ^ limit` has no digit at the place `limit`, and its last digit is well
below. -/
theorem divCore_lt (positive : 0 < first) (least : -1074 ≤ firstPlace)
    (alsoLeast : -1074 ≤ secondPlace) :
    let quotient := divCore .binary64 first firstPlace second secondPlace
    quotient.1.log2 + quotient.2.1 < (limit : Int) ∧ quotient.2.1 ≤ limit - 53 := by
  intro quotient
  have difference := log2_lt_of_units below positive
  have place : quotient.2.1 ≤ limit - 53 := by
    let total := first.log2 + 1 + firstPlace - (second.log2 + 1 + secondPlace)
    change min _ (max (total - 53) (-1074)) ≤ _
    omega
  refine ⟨?_, place⟩
  by_cases nothing : quotient.1 = 0
  · rw [nothing, Nat.log2_zero]
    omega
  · have digits := log2_quotient_lt below nothing
    have shifted : quotient.2.1 ≤ firstPlace - secondPlace := Int.min_le_left ..
    change quotient.1.log2 + _ < limit + _ + (firstPlace - secondPlace - quotient.2.1).toNat
      at digits
    omega

end

/-- A quotient is finite where its divisor is not too small for the number divided. -/
theorem isFinite_div {limit : Nat} (near : Within high left) (large : AtLeast low right)
    (stored : IsStored left) (alsoStored : IsStored right) (range : high < top)
    (below : high < 2 ^ limit * low) (small : limit ≤ 1023) :
    (restored (UnpackedFloat.div .binary64 left right)).isFinite = true := by
  have finite := near.isFinite range
  have some : 0 < low := Nat.pos_of_lt_mul_left below
  rcases large.finite_or_infinite with alsoFinite | rfl
  · cases right with
    | notANumber => cases alsoFinite
    | infinity => cases alsoFinite
    | zero => exact absurd large (AtLeast.not_zero some)
    | finite other second secondPlace =>
        cases left with
        | notANumber => cases finite
        | infinity => cases finite
        | zero => exact isFinite_restored_zero _
        | finite sign first firstPlace positive =>
            rcases near with ⟨_, stands, near⟩
            cases stands
            rw [natAbs_apply] at near
            have quotient : units first firstPlace < 2 ^ limit * units second secondPlace :=
              Nat.lt_of_le_of_lt near
                (Nat.lt_of_lt_of_le below (Nat.mul_le_mul_left _ large.le_units))
            rcases divCore_lt quotient positive stored.1.least alsoStored.1.least with
              ⟨digits, place⟩
            change (restored (roundWithAccuracy .binary64 _
              (divCore .binary64 first firstPlace second secondPlace).1
              (divCore .binary64 first firstPlace second secondPlace).2.1 _)).isFinite = true
            apply isFinite_restored_round
            · omega
            · omega
  · cases left with
    | notANumber => cases finite
    | infinity => cases finite
    | zero => exact isFinite_restored_zero _
    | finite => exact isFinite_restored_zero _

/-! ## Central differences -/

section

variable {n : Nat} (differences : Differences Float n) (i : Fin n) {value above below : Float}

private theorem unpack_resolution : (Differences.resolution : Float).toModel.unpack =
    .finite .positive (2 ^ 52) (-78) (Nat.two_pow_pos 52) := rfl

private theorem unpack_one :
    (1 : Float).toModel.unpack = .finite .positive (2 ^ 52) (-52) (Nat.two_pow_pos 52) := rfl

private theorem fits_power (least : -1074 ≤ exponent) : Fits (2 ^ 52) exponent :=
  ⟨by decide, least, .inl (Nat.le_refl _)⟩

theorem units_succ (least : -1074 ≤ exponent) :
    units mantissa (exponent + 1) = units mantissa exponent + units mantissa exponent := by
  have one : (exponent + 1 - exponent).toNat = 1 := by omega
  rw [units_eq least (Int.le_add_one (Int.le_refl exponent)), one, units]
  ring

private theorem atLeast_finite {positive : 0 < mantissa} (above : bound ≤ units mantissa exponent) :
    AtLeast bound (.finite .positive mantissa exponent positive) :=
  ⟨_, rfl, Int.ofNat_le.mpr above⟩

private theorem abs_atLeast (present : Scalar.isNaN value = false) :
    AtLeast 0 (Scalar.abs value).toModel.unpack := by
  change AtLeast 0 (restored value.toModel.unpack.abs)
  change value.toModel.unpack.isNaN = false at present
  have stored := isStored value
  generalize value.toModel.unpack = number at present stored
  cases number with
  | notANumber => cases present
  | infinity => exact atLeast_infinity (Nat.zero_le top)
  | zero =>
      change AtLeast 0 (restored (.zero .positive))
      exact ⟨0, rfl, Int.le_refl 0⟩
  | finite sign mantissa exponent =>
      change AtLeast 0 (restored (.finite .positive mantissa exponent _))
      rw [restored_finite stored.1 stored.2]
      exact atLeast_finite (Nat.zero_le _)

private theorem one_add_abs_atLeast (present : Scalar.isNaN value = false) :
    AtLeast (units (2 ^ 52) (-52)) (1 + Scalar.abs value).toModel.unpack := by
  have one : AtLeast (units (2 ^ 52) (-52)) (1 : Float).toModel.unpack := by
    rw [unpack_one]
    exact atLeast_finite (Nat.le_refl _)
  exact AtLeast.add (fits_power (by decide)) one (abs_atLeast present) (isStored _) (isStored _)
    (by decide) (Nat.le_add_right ..)

private theorem resolution_mul_atLeast {factor : Float}
    (large : AtLeast (units (2 ^ 52) (-52)) factor.toModel.unpack) :
    AtLeast (units (2 ^ 52) (-78)) (Differences.resolution * factor).toModel.unpack := by
  have stored := isStored factor
  rw [unpack_mul, unpack_resolution]
  generalize factor.toModel.unpack = number at large stored
  have some := units_pos (Nat.two_pow_pos 52) (-52)
  rcases large.finite_or_infinite with finite | rfl
  · cases number with
    | notANumber => cases finite
    | infinity => cases finite
    | zero => exact absurd large (AtLeast.not_zero some)
    | finite sign mantissa exponent positive =>
        cases large.sign_eq some
        have place : -52 ≤ exponent := by
          rcases Int.lt_or_le exponent (-52) with lower | higher
          · exact absurd (stored.1.units_lt lower) (Nat.not_lt.mpr large.le_units)
          · exact higher
        have full : 2 ^ 52 ≤ mantissa := stored.1.full.resolve_right (by omega)
        have fits : Fits mantissa (-78 + exponent + (52 : Nat)) :=
          ⟨stored.1.short, by omega, .inl full⟩
        have small := stored.2
        change AtLeast _ (restored (roundWithAccuracy .binary64 _ (2 ^ 52 * mantissa) _ .exact))
        rw [Nat.mul_comm, roundWithAccuracy_eq_finite positive fits,
          restored_finite fits (by omega)]
        apply atLeast_finite
        exact Nat.mul_le_mul full (Nat.pow_le_pow_right (by decide) (by omega))
  · exact atLeast_infinity (Nat.le_of_lt ((fits_power (by decide)).units_lt_top (by decide)))

private theorem larger_atLeast {left right : Float} (large : AtLeast bound right.toModel.unpack) :
    AtLeast bound (Scalar.larger left right).toModel.unpack := by
  rcases large with ⟨amount, stands, above⟩
  unfold Scalar.larger
  split
  · rename_i below
    rcases lt_iff.mp below with ⟨low, high, rightLow, leftHigh, less⟩
    cases stands.symm.trans rightLow
    exact ⟨high, leftHigh, by omega⟩
  · split
    · rename_i missing
      have present : Scalar.isNaN right = false := present_of_level stands
      rw [present] at missing
      cases missing
    · exact ⟨amount, stands, above⟩

private theorem perturbation_atLeast (present : Scalar.isNaN value = false) :
    AtLeast (units (2 ^ 52) (-78)) (differences.perturbation i value).toModel.unpack :=
  larger_atLeast (resolution_mul_atLeast (one_add_abs_atLeast present))

def Moderate (value : Float) : Prop := -1e300 ≤ value ∧ value ≤ 1e300

/-- The binary digits of `1e300`, the last of which stands at the place 944. -/
def largestModerate : Nat := 6724873095247260

theorem fits_largestModerate (least : -1074 ≤ exponent) : Fits largestModerate exponent :=
  ⟨by decide, least, .inl (by decide)⟩

theorem Moderate.within (moderate : Moderate value) :
    Within (units largestModerate 944) value.toModel.unpack := by
  have lower : level (-1e300 : Float).toModel.unpack =
      some (-(units largestModerate 944 : Nat) : Int) := by decide +kernel
  have upper : level (1e300 : Float).toModel.unpack =
      some ((units largestModerate 944 : Nat) : Int) := by decide +kernel
  generalize units largestModerate 944 = limit at lower upper ⊢
  rcases le_iff.mp moderate.1 with ⟨_, amount, low, stands, above⟩
  rcases le_iff.mp moderate.2 with ⟨_, _, alsoStands, high, below⟩
  cases lower.symm.trans low
  cases upper.symm.trans high
  cases stands.symm.trans alsoStands
  exact ⟨amount, stands, by omega⟩

private theorem difference_within (first : Moderate above) (second : Moderate below) :
    Within (units largestModerate (944 + 1)) (above - below).toModel.unpack := by
  change Within _ (restored (UnpackedFloat.sub .binary64 _ _))
  rw [sub_eq_add_neg]
  exact Within.add (fits_largestModerate (by decide)) first.within second.within.neg (isStored _)
    (isStored _).neg (by decide) (Nat.le_of_eq (units_succ (by decide)).symm)

private theorem divisor_atLeast (present : Scalar.isNaN value = false) :
    AtLeast (units (2 ^ 52) (-78 + 1))
      (Scalar.double (differences.perturbation i value)).toModel.unpack := by
  have large := perturbation_atLeast differences i present
  exact AtLeast.add (fits_power (by decide)) large large (isStored _) (isStored _) (by decide)
    (Nat.le_of_eq (units_succ (by decide)))

theorem isFinite_centralDifference (first : Moderate above) (second : Moderate below)
    (present : Scalar.isNaN value = false) :
    Scalar.isFinite ((above - below) / Scalar.double (differences.perturbation i value)) =
      true := by
  have range : units largestModerate (944 + 1) < top :=
    (fits_largestModerate (by decide)).units_lt_top (by decide)
  have quotient : units largestModerate (944 + 1) < 2 ^ 1023 * units (2 ^ 52) (-78 + 1) := by
    decide +kernel
  exact isFinite_div (difference_within first second) (divisor_atLeast differences i present)
    (isStored _) (isStored _) range quotient (Nat.le_refl 1023)

end

end CurveFitting.Binary64

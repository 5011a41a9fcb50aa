import Mathlib.Algebra.Order.Ring.Nat
import CurveFitting.Scalar

/-! # Rounding to binary64

The digits that do not fit are dropped, and what is kept may go up by one in its last place.
So rounding never crosses a number that fits.
-/

namespace CurveFitting.Binary64

open Float.Model Float.Model.UnpackedFloat

/-! ## Dropped digits -/

structure Truncates (number dropped : Nat) (kept : ExtendedMantissa) : Prop where
  mantissa : kept.mantissa = number / 2 ^ dropped
  residue : (kept.roundBit || kept.stickyBit) = decide (number % 2 ^ dropped ≠ 0)

theorem truncates_shift (number dropped : Nat) :
    Truncates number dropped
      (ExtendedMantissa.ofMantissaAndAccuracy number .exact >>> dropped) := by
  change Truncates number dropped
    (dropped.repeat ExtendedMantissa.shiftRightOne ⟨number, false, false⟩)
  induction dropped with
  | zero =>
      exact {
        mantissa := (Nat.div_one number).symm
        residue := by simp [Nat.repeat, Nat.mod_one] }
  | succ dropped induction =>
      rw [Nat.repeat]
      generalize dropped.repeat ExtendedMantissa.shiftRightOne ⟨number, false, false⟩ = kept
        at induction
      have lower := Nat.mod_mul (a := 2 ^ dropped) (b := 2) (x := number)
      constructor
      · change kept.mantissa / 2 = number / 2 ^ (dropped + 1)
        rw [induction.mantissa, Nat.div_div_eq_div_mul, Nat.pow_succ]
      · change (kept.mantissa % 2 != 0 || (kept.roundBit || kept.stickyBit)) = _
        rw [induction.mantissa, induction.residue, Nat.pow_succ, lower]
        rcases Nat.mod_two_eq_zero_or_one (number / 2 ^ dropped) with even | odd
        · simp [even]
        · simp [odd]

theorem rounded_bounds (kept : ExtendedMantissa) :
    kept.mantissa ≤ kept.roundedMantissa ∧ kept.roundedMantissa ≤ kept.mantissa + 1 ∧
      ((kept.roundBit || kept.stickyBit) = false → kept.roundedMantissa = kept.mantissa) := by
  rcases kept with ⟨mantissa, roundBit, stickyBit⟩
  cases roundBit <;> cases stickyBit <;>
    simp [ExtendedMantissa.roundedMantissa, ExtendedMantissa.accuracy,
      Accuracy.roundToNearestEven]
  omega

namespace Truncates

variable {number dropped bound : Nat} {kept : ExtendedMantissa}
  (truncates : Truncates number dropped kept)

include truncates

theorem rounded_le (below : number ≤ bound * 2 ^ dropped) : kept.roundedMantissa ≤ bound := by
  rcases rounded_bounds kept with ⟨_, upper, whole⟩
  rw [truncates.mantissa] at upper whole
  have parts := Nat.div_add_mod number (2 ^ dropped)
  by_cases residue : number % 2 ^ dropped = 0
  · rw [whole (by rw [truncates.residue]; simpa using residue)]
    exact Nat.div_le_of_le_mul (by rwa [Nat.mul_comm])
  · have strict : number < bound * 2 ^ dropped := by
      refine Nat.lt_of_le_of_ne below ?_
      intro equal
      exact residue (equal ▸ Nat.mul_mod_left ..)
    have short : number / 2 ^ dropped < bound := Nat.div_lt_of_lt_mul (by rwa [Nat.mul_comm])
    omega

theorem le_rounded (above : bound * 2 ^ dropped ≤ number) : bound ≤ kept.roundedMantissa := by
  rcases rounded_bounds kept with ⟨lower, _⟩
  rw [truncates.mantissa] at lower
  exact Nat.le_trans ((Nat.le_div_iff_mul_le (Nat.two_pow_pos dropped)).mpr above) lower

end Truncates

/-! ## Numbers that fit -/

/-- A magnitude counted in units of the smallest positive number, which is `2 ^ -1074`. -/
def units (mantissa : Nat) (exponent : Int) : Nat := mantissa * 2 ^ (exponent + 1074).toNat

/-- A mantissa with its exponent as a format of 53 binary digits holds them, were there no
largest exponent. -/
structure Fits (mantissa : Nat) (exponent : Int) : Prop where
  short : mantissa < 2 ^ 53
  least : -1074 ≤ exponent
  full : 2 ^ 52 ≤ mantissa ∨ exponent = -1074

variable {mantissa bound : Nat} {exponent place scale : Int}

private theorem two_pow_place (least : -1074 ≤ exponent) (within : exponent ≤ place) :
    2 ^ (place + 1074).toNat = 2 ^ (place - exponent).toNat * 2 ^ (exponent + 1074).toNat := by
  rw [← Nat.pow_add]
  congr 1
  omega

theorem units_eq (least : -1074 ≤ place) (within : place ≤ exponent) :
    units mantissa exponent =
      mantissa * 2 ^ (exponent - place).toNat * 2 ^ (place + 1074).toNat := by
  rw [units, two_pow_place least within, Nat.mul_assoc]

theorem Fits.units_lt (fits : Fits mantissa exponent) (below : exponent < place) :
    units mantissa exponent < 2 ^ 52 * 2 ^ (place + 1074).toNat := by
  have least := fits.least
  refine Nat.lt_of_lt_of_le (Nat.mul_lt_mul_of_pos_right fits.short (Nat.two_pow_pos _)) ?_
  rw [← Nat.pow_add, ← Nat.pow_add]
  exact Nat.pow_le_pow_right (by decide) (by omega)

/-! ## The last place -/

def lastPlace (mantissa : Nat) (exponent : Int) : Int :=
  max (mantissa.log2 + exponent - 52) (-1074)

theorem targetExponent_eq (mantissa : Nat) (exponent : Int) :
    Format.binary64.targetExponent (totalExponent mantissa exponent) =
      lastPlace mantissa exponent := by
  change max (mantissa.log2 + 1 + exponent - 53) (-1074) = lastPlace mantissa exponent
  unfold lastPlace
  omega

private theorem units_lt_lastPlace (least : -1074 ≤ exponent)
    (within : exponent ≤ lastPlace mantissa exponent) :
    units mantissa exponent < 2 ^ 53 * 2 ^ (lastPlace mantissa exponent + 1074).toNat := by
  unfold lastPlace at within ⊢
  refine Nat.lt_of_lt_of_le (Nat.mul_lt_mul_of_pos_right Nat.lt_log2_self (Nat.two_pow_pos _)) ?_
  rw [← Nat.pow_add, ← Nat.pow_add]
  exact Nat.pow_le_pow_right (by decide) (by omega)

private theorem lastPlace_le_units (positive : 0 < mantissa) (least : -1074 ≤ exponent)
    (above : -1074 < lastPlace mantissa exponent) :
    2 ^ 52 * 2 ^ (lastPlace mantissa exponent + 1074).toNat ≤ units mantissa exponent := by
  unfold lastPlace at above ⊢
  refine Nat.le_trans ?_ (Nat.mul_le_mul_right _ (Nat.log2_self_le (Nat.ne_of_gt positive)))
  rw [← Nat.pow_add, ← Nat.pow_add]
  exact Nat.pow_le_pow_right (by decide) (by omega)

private theorem lastPlace_least (mantissa : Nat) (exponent : Int) :
    -1074 ≤ lastPlace mantissa exponent := Int.le_max_right ..

/-! ## Rounding -/

/-- The whole number that an amount of units is rounded to at a place. Rounding does not
cross the whole numbers there. -/
structure RoundsAt (place : Int) (amount rounded : Nat) : Prop where
  rounded_le {bound : Nat} (below : amount ≤ bound * 2 ^ (place + 1074).toNat) : rounded ≤ bound
  le_rounded {bound : Nat} (above : bound * 2 ^ (place + 1074).toNat ≤ amount) : bound ≤ rounded

private theorem Truncates.roundsAt {kept : ExtendedMantissa} (least : -1074 ≤ exponent)
    (within : exponent ≤ place) (truncates : Truncates mantissa (place - exponent).toNat kept) :
    RoundsAt place (units mantissa exponent) kept.roundedMantissa where
  rounded_le below := by
    rw [two_pow_place least within, ← Nat.mul_assoc] at below
    exact truncates.rounded_le (Nat.le_of_mul_le_mul_right below (Nat.two_pow_pos _))
  le_rounded above := by
    rw [two_pow_place least within, ← Nat.mul_assoc] at above
    exact truncates.le_rounded (Nat.le_of_mul_le_mul_right above (Nat.two_pow_pos _))

/-- The number that an amount of units is rounded to. It fits, and no number that fits lies
between the two. -/
structure Rounds (amount mantissa : Nat) (exponent : Int) : Prop where
  fits : Fits mantissa exponent
  units_le {bound : Nat} {scale : Int} (held : Fits bound scale)
    (below : amount ≤ units bound scale) : units mantissa exponent ≤ units bound scale
  le_units {bound : Nat} {scale : Int} (held : Fits bound scale)
    (above : units bound scale ≤ amount) : units bound scale ≤ units mantissa exponent

namespace RoundsAt

variable {amount rounded : Nat} (rounds : RoundsAt place amount rounded)
  (heavy : -1074 < place → 2 ^ 52 * 2 ^ (place + 1074).toNat ≤ amount) (least : -1074 ≤ place)

include rounds heavy least

private theorem units_le (held : Fits bound scale) (below : amount ≤ units bound scale) :
    units rounded place ≤ units bound scale := by
  rcases Int.lt_or_le scale place with lower | higher
  · have light := held.units_lt lower
    have full := heavy (Int.lt_of_le_of_lt held.least lower)
    omega
  · rw [units_eq least higher] at below ⊢
    exact Nat.mul_le_mul_right _ (rounds.rounded_le below)

private theorem le_units (held : Fits bound scale) (above : units bound scale ≤ amount) :
    units bound scale ≤ units rounded place := by
  rcases Int.lt_or_le scale place with lower | higher
  · have light := held.units_lt lower
    have full := rounds.le_rounded (heavy (Int.lt_of_le_of_lt held.least lower))
    exact Nat.le_trans (Nat.le_of_lt light) (Nat.mul_le_mul_right _ full)
  · rw [units_eq least higher] at above ⊢
    exact Nat.mul_le_mul_right _ (rounds.le_rounded above)

end RoundsAt

/-- A mantissa that has got a digit too many when it was rounded up loses a zero. -/
theorem carried {rounded : Nat} (positive : 0 < rounded) (short : rounded ≤ 2 ^ 53)
    (least : -1074 ≤ place) (full : -1074 < place → 2 ^ 52 ≤ rounded) :
    ∃ mantissa exponent, 0 < mantissa ∧
      shiftToTargetExponent .binary64 rounded place .exact =
        (⟨mantissa, false, false⟩, exponent) ∧
      Fits mantissa exponent ∧ units mantissa exponent = units rounded place := by
  rw [shiftToTargetExponent, targetExponent_eq, shiftToExponent]
  rcases Nat.eq_or_lt_of_le short with rfl | shorter
  · have next : lastPlace (2 ^ 53) place = place + 1 := by
      rw [lastPlace, Nat.log2_two_pow]
      omega
    have one : (place + 1 - place).toNat = 1 := by omega
    refine ⟨2 ^ 52, place + 1, by decide, ?_, ⟨by decide, by omega, .inl (Nat.le_refl _)⟩, ?_⟩
    · rw [next, one]
      rfl
    · rw [units_eq least (Int.le_add_one (Int.le_refl place)), one]
      rfl
  · have digits : rounded.log2 < 53 := (Nat.log2_lt (Nat.ne_of_gt positive)).mpr shorter
    have none : (lastPlace rounded place - place).toNat = 0 := by
      rw [lastPlace]
      omega
    refine ⟨rounded, place, positive, ?_, ⟨shorter, least, by omega⟩, rfl⟩
    rw [none]
    exact congrArg (Prod.mk _) (Int.add_zero place)

def assemble (sign : Sign) (digits : ExtendedMantissa × Int) : UnpackedFloat :=
  if nothing : digits.1.mantissa = 0 then .zero sign
  else .finite sign digits.1.mantissa digits.2 (Nat.pos_of_ne_zero nothing)

theorem assemble_of_zero {sign : Sign} {digits : ExtendedMantissa × Int}
    (nothing : digits.1.mantissa = 0) : assemble sign digits = .zero sign :=
  dif_pos nothing

theorem assemble_of_pos {sign : Sign} {digits : ExtendedMantissa × Int}
    (positive : 0 < digits.1.mantissa) :
    assemble sign digits = .finite sign digits.1.mantissa digits.2 positive :=
  dif_neg (Nat.ne_of_gt positive)

theorem roundWithAccuracy_eq (format : Format) (sign : Sign) (mantissa : Nat) (exponent : Int)
    (accuracy : Accuracy) :
    let first := shiftToTargetExponent format mantissa exponent accuracy
    roundWithAccuracy format sign mantissa exponent accuracy =
      assemble sign (shiftToTargetExponent format first.1.roundedMantissa first.2 .exact) :=
  rfl

private theorem shift_to_lastPlace (least : -1074 ≤ exponent)
    (within : exponent ≤ lastPlace mantissa exponent) :
    ∃ kept, shiftToTargetExponent .binary64 mantissa exponent .exact =
        (kept, lastPlace mantissa exponent) ∧
      RoundsAt (lastPlace mantissa exponent) (units mantissa exponent) kept.roundedMantissa := by
  refine ⟨_, ?_, (truncates_shift mantissa _).roundsAt least within⟩
  rw [shiftToTargetExponent, targetExponent_eq, shiftToExponent]
  exact congrArg (Prod.mk _) (by omega)

/-- A number whose digits reach down to its last place is rounded there. -/
theorem rounds_roundWithAccuracy (sign : Sign) (positive : 0 < mantissa)
    (least : -1074 ≤ exponent) (within : exponent ≤ lastPlace mantissa exponent) :
    ∃ rounded place pos, roundWithAccuracy .binary64 sign mantissa exponent .exact =
        .finite sign rounded place pos ∧
      Rounds (units mantissa exponent) rounded place := by
  rcases shift_to_lastPlace least within with ⟨kept, first, rounds⟩
  have heavy := lastPlace_le_units positive least
  have lowest := lastPlace_least mantissa exponent
  have full (above : -1074 < lastPlace mantissa exponent) : 2 ^ 52 ≤ kept.roundedMantissa :=
    rounds.le_rounded (heavy above)
  have short : kept.roundedMantissa ≤ 2 ^ 53 :=
    rounds.rounded_le (Nat.le_of_lt (units_lt_lastPlace least within))
  have some : 0 < kept.roundedMantissa := by
    rcases Int.lt_or_eq_of_le lowest with above | equal
    · exact Nat.lt_of_lt_of_le (by decide) (full above)
    · apply rounds.le_rounded
      rw [← equal]
      exact Nat.mul_pos positive (Nat.two_pow_pos _)
  rcases carried some short lowest full with ⟨rounded, place, pos, second, fits, same⟩
  refine ⟨rounded, place, pos, ?_, fits, ?_, ?_⟩
  · rw [roundWithAccuracy_eq, first, second]
    exact assemble_of_pos pos
  · intro bound scale held below
    rw [same]
    exact rounds.units_le heavy lowest held below
  · intro bound scale held above
    rw [same]
    exact rounds.le_units heavy lowest held above

/-! ## Appended zeros -/

theorem log2_shiftLeft (positive : 0 < mantissa) (count : Nat) :
    (mantissa <<< count).log2 = mantissa.log2 + count := by
  have lower := Nat.log2_self_le (Nat.ne_of_gt positive)
  have upper : mantissa < 2 ^ (mantissa.log2 + 1) := Nat.lt_log2_self
  rw [Nat.shiftLeft_eq, Nat.log2_eq_iff
    (Nat.ne_of_gt (Nat.mul_pos positive (Nat.two_pow_pos count)))]
  constructor
  · rw [Nat.pow_add]
    exact Nat.mul_le_mul_right _ lower
  · rw [Nat.add_right_comm, Nat.pow_add]
    exact Nat.mul_lt_mul_of_pos_right upper (Nat.two_pow_pos count)

theorem lastPlace_shiftLeft (positive : 0 < mantissa) (count : Nat) :
    lastPlace (mantissa <<< count) (exponent - count) = lastPlace mantissa exponent := by
  rw [lastPlace, lastPlace, log2_shiftLeft positive]
  omega

private theorem units_shiftLeft {count : Nat} (least : -1074 ≤ exponent - count) :
    units (mantissa <<< count) (exponent - count) = units mantissa exponent := by
  have within : exponent - count ≤ exponent := by omega
  rw [units_eq least within, Nat.shiftLeft_eq, units]
  congr 3
  omega

/-- Rounding first appends zeros to a number whose digits end above its last place. -/
theorem rounds_round (sign : Sign) (positive : 0 < mantissa) (least : -1074 ≤ exponent) :
    ∃ rounded place pos,
      Float.Model.UnpackedFloat.round .binary64 sign mantissa exponent =
        .finite sign rounded place pos ∧
      Rounds (units mantissa exponent) rounded place := by
  rw [Float.Model.UnpackedFloat.round, targetExponent_eq, decreaseExponent]
  generalize zeros : (exponent - lastPlace mantissa exponent).toNat = count
  have lowest := lastPlace_least mantissa exponent
  have least : -1074 ≤ exponent - count := by omega
  rw [← units_shiftLeft least]
  apply rounds_roundWithAccuracy sign _ least
  · rw [lastPlace_shiftLeft positive]
    omega
  · rw [Nat.shiftLeft_eq]
    exact Nat.mul_pos positive (Nat.two_pow_pos count)

/-! ## Sums -/

section

variable {total : Int} (scale : Int) (zeroSign : Sign)

theorem normalize_of_neg (negative : total < 0) :
    UnpackedFloat.normalize .binary64 total scale zeroSign =
      UnpackedFloat.round .binary64 .negative (-total).toNat scale := by
  unfold UnpackedFloat.normalize
  rw [Int.compare_eq_lt.mpr negative]

theorem normalize_zero :
    UnpackedFloat.normalize .binary64 0 scale zeroSign = .zero zeroSign := rfl

theorem normalize_of_pos (positive : 0 < total) :
    UnpackedFloat.normalize .binary64 total scale zeroSign =
      UnpackedFloat.round .binary64 .positive total.toNat scale := by
  unfold UnpackedFloat.normalize
  rw [Int.compare_eq_gt.mpr positive]

end

end CurveFitting.Binary64

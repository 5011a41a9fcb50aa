import CurveFitting.Proofs.Binary64.Order
import CurveFitting.Proofs.Signs

/-! # Signs of binary64 numbers

Storing and rounding keep signs. And as rounding does not cross a number that fits, a sum
is not above its first number unless the second one is positive.
-/

namespace CurveFitting.Binary64

open Float.Model Float.Model.UnpackedFloat

/-- The numbers that are not strictly on the side of a sign. A missing one is on no side. -/
def Avoids (sign : Sign) : UnpackedFloat → Prop
  | .infinity other => other = -sign
  | .finite other _ _ _ => other = -sign
  | _ => True

variable {sign other : Sign} {number left right : UnpackedFloat}

/-! ## Storing -/

private theorem avoids_decode (sign : Sign) (field digits : Nat) :
    Avoids sign (decode (-sign) field digits) := by
  rcases decode_cases (-sign) field digits with
    ⟨_, equal | equal⟩ | ⟨_, equal | ⟨_, _, _, equal, _⟩⟩
  · rw [equal]
    rfl
  · rw [equal]
    trivial
  · rw [equal]
    trivial
  · rw [equal]
    rfl

private theorem Avoids.restored (avoids : Avoids sign number) : Avoids sign (restored number) := by
  cases number with
  | notANumber => trivial
  | infinity =>
      rw [restored_infinity]
      exact avoids
  | zero other =>
      have stored : IsStored (.zero other) := trivial
      rwa [stored.restored_eq]
  | finite other mantissa exponent positive =>
      cases avoids
      rw [Binary64.restored, pack_finite]
      split
      · exact unpack_packed .. ▸ avoids_decode ..
      · split
        · exact unpack_packed .. ▸ avoids_decode ..
        · exact unpack_packed .. ▸ avoids_decode ..

/-! ## Operations -/

private theorem Avoids.neg (avoids : Avoids sign number) : Avoids (-sign) number.neg := by
  cases number with
  | notANumber => trivial
  | infinity => exact congrArg (-·) avoids
  | zero => trivial
  | finite => exact congrArg (-·) avoids

private theorem neg_mul_neg (sign other : Sign) : -sign * -other = - -(sign * other) := by
  cases sign <;> cases other <;> rfl

private theorem avoids_assemble (sign : Sign) (digits : ExtendedMantissa × Int) :
    Avoids sign (assemble (-sign) digits) := by
  rcases Nat.eq_zero_or_pos digits.1.mantissa with nothing | positive
  · rw [assemble_of_zero nothing]
    trivial
  · rw [assemble_of_pos positive]
    rfl

private theorem avoids_roundWithAccuracy (sign : Sign) (mantissa : Nat) (exponent : Int) :
    Avoids sign (roundWithAccuracy .binary64 (-sign) mantissa exponent .exact) := by
  rw [roundWithAccuracy_eq]
  exact avoids_assemble ..

private theorem Avoids.mul (first : Avoids sign left) (second : Avoids other right) :
    Avoids (-(sign * other)) (UnpackedFloat.mul .binary64 left right) := by
  cases left with
  | notANumber => cases right <;> trivial
  | infinity =>
      cases right with
      | notANumber => trivial
      | infinity =>
          cases first
          cases second
          exact neg_mul_neg ..
      | zero => trivial
      | finite =>
          cases first
          cases second
          exact neg_mul_neg ..
  | zero => cases right <;> trivial
  | finite =>
      cases right with
      | notANumber => trivial
      | infinity =>
          cases first
          cases second
          exact neg_mul_neg ..
      | zero => trivial
      | finite =>
          cases first
          cases second
          change Avoids _ (roundWithAccuracy .binary64 (-sign * -other) _ _ .exact)
          rw [neg_mul_neg]
          exact avoids_roundWithAccuracy ..

private theorem avoids_normalize {total : Int} (against : sign.apply total ≤ 0) (exponent : Int)
    (zeroSign : Sign) :
    Avoids sign (UnpackedFloat.normalize .binary64 total exponent zeroSign) := by
  rcases Int.lt_trichotomy total 0 with falls | rfl | rises
  · rw [normalize_of_neg _ _ falls]
    cases sign with
    | negative =>
        simp only [Sign.apply] at against
        omega
    | positive => exact avoids_roundWithAccuracy .positive ..
  · trivial
  · rw [normalize_of_pos _ _ rises]
    cases sign with
    | negative => exact avoids_roundWithAccuracy .negative ..
    | positive =>
        simp only [Sign.apply] at against
        omega

private theorem apply_sum (sign : Sign) (first second : Nat) :
    sign.apply ((-sign).apply first + (-sign).apply second) ≤ 0 := by
  cases sign with
  | negative =>
      change -((first : Int) + second) ≤ 0
      omega
  | positive =>
      change -(first : Int) + -second ≤ 0
      omega

private theorem Avoids.add (first : Avoids sign left) (second : Avoids sign right) :
    Avoids sign (UnpackedFloat.add .binary64 left right) := by
  cases left with
  | notANumber => cases right <;> trivial
  | infinity =>
      cases right with
      | notANumber => trivial
      | infinity =>
          cases first
          cases second
          cases sign <;> rfl
      | zero => exact first
      | finite => exact first
  | zero =>
      cases right with
      | notANumber => trivial
      | infinity => exact second
      | zero other =>
          rename_i zeroSign
          cases zeroSign <;> cases other <;> trivial
      | finite => exact second
  | finite =>
      cases right with
      | notANumber => trivial
      | infinity => exact second
      | zero => exact first
      | finite =>
          cases first
          cases second
          exact avoids_normalize (apply_sum ..) ..

/-! ## Sums -/

section

variable {mantissa : Nat} {exponent scale total : Int} {positive : 0 < mantissa}

/-- What is stored of a number stands where the number does, or where the infinite ones do. -/
theorem level_restored (fits : Fits mantissa exponent) :
    level (restored (.finite sign mantissa exponent positive)) =
      some (sign.apply (min (units mantissa exponent) top : Nat)) := by
  rcases Int.lt_or_le 971 exponent with large | small
  · rw [restored_large large, Nat.min_eq_right (fits.top_le_units large)]
    rfl
  · rw [restored_finite fits small, Nat.min_eq_left (Nat.le_of_lt (fits.units_lt_top small))]
    rfl

private theorem cast_units (nonnegative : 0 ≤ total) (scale : Int) :
    (units total.toNat scale : Int) = total * (2 ^ (scale + 1074).toNat : Nat) := by
  rw [units, Int.natCast_mul, Int.toNat_of_nonneg nonnegative]

/-- A sum that is not above a stored number is not above it when it has been rounded. -/
theorem normalize_atMost (stored : IsStored (.finite sign mantissa exponent positive))
    (least : -1074 ≤ scale)
    (below : total * (2 ^ (scale + 1074).toNat : Nat) ≤ sign.apply (units mantissa exponent)) :
    AtMost (restored (UnpackedFloat.normalize .binary64 total scale .positive))
      (.finite sign mantissa exponent positive) := by
  have within := stored.1.units_lt_top stored.2
  -- Rounding keeps the sign, so only a bound of the same sign is compared in units.
  rcases Int.lt_trichotomy total 0 with falls | rfl | rises
  · rw [normalize_of_neg _ _ falls]
    have magnitude := cast_units (by omega : 0 ≤ -total) scale
    rcases rounds_round .negative (by omega : 0 < (-total).toNat) least with
      ⟨rounded, place, pos, equal, rounds⟩
    rw [equal, AtMost, level_restored rounds.fits]
    refine ⟨_, _, rfl, rfl, ?_⟩
    cases sign with
    | negative =>
        simp only [Sign.apply, Int.neg_mul] at below magnitude ⊢
        have above := rounds.le_units stored.1 (by omega)
        omega
    | positive =>
        simp only [Sign.apply]
        omega
  · rw [Int.zero_mul] at below
    rw [normalize_zero]
    exact ⟨0, _, rfl, rfl, below⟩
  · rw [normalize_of_pos _ _ rises]
    have magnitude := cast_units (Int.le_of_lt rises) scale
    have some := units_pos (by omega : 0 < total.toNat) scale
    rcases rounds_round .positive (by omega : 0 < total.toNat) least with
      ⟨rounded, place, pos, equal, rounds⟩
    rw [equal, AtMost, level_restored rounds.fits]
    refine ⟨_, _, rfl, rfl, ?_⟩
    cases sign with
    | negative =>
        simp only [Sign.apply] at below
        omega
    | positive =>
        simp only [Sign.apply] at below ⊢
        have lower := rounds.units_le stored.1 (by omega)
        omega

end

theorem apply_mul (sign : Sign) (left right : Int) :
    sign.apply (left * right) = sign.apply left * right := by
  cases sign with
  | negative => exact (Int.neg_mul ..).symm
  | positive => rfl

theorem sum_eq (sign other : Sign) {first second : Nat} {low high scale : Int}
    (least : -1074 ≤ scale) (below : scale ≤ low) (alsoBelow : scale ≤ high) :
    (sign.apply (first <<< (low - scale).toNat : Nat) +
        other.apply (second <<< (high - scale).toNat : Nat)) *
          (2 ^ (scale + 1074).toNat : Nat) =
      sign.apply (units first low) + other.apply (units second high) := by
  rw [Int.add_mul, ← apply_mul, ← apply_mul, ← Int.natCast_mul, ← Int.natCast_mul,
    Nat.shiftLeft_eq, Nat.shiftLeft_eq, ← units_eq least below, ← units_eq least alsoBelow]

private theorem atMost_refl (present : number.isNaN = false) : AtMost number number := by
  cases number with
  | notANumber => cases present
  | _ => exact ⟨_, _, rfl, rfl, Int.le_refl _⟩

private theorem negativeInfinity_atMost (stored : IsStored number)
    (present : number.isNaN = false) :
    AtMost (.infinity .negative) number := by
  have above := top_pos
  cases number with
  | notANumber => cases present
  | infinity sign =>
      refine ⟨_, _, rfl, rfl, ?_⟩
      cases sign <;> simp only [Sign.apply] <;> omega
  | zero => exact ⟨_, _, rfl, rfl, Int.le_of_lt (negative_neg top_pos)⟩
  | finite sign =>
      have within := stored.1.units_lt_top stored.2
      refine ⟨_, _, rfl, rfl, ?_⟩
      cases sign <;> simp only [Sign.apply] <;> omega

private theorem restored_missing : (restored .notANumber).isNaN = true := rfl

private theorem add_atMost (stored : IsStored left) (alsoStored : IsStored right)
    (falls : Avoids .positive right)
    (present : (restored (UnpackedFloat.add .binary64 left right)).isNaN = false) :
    AtMost (restored (UnpackedFloat.add .binary64 left right)) left := by
  -- Infinite summands and zeros leave one of the summands as it is.
  have same : UnpackedFloat.add .binary64 left right = left →
      AtMost (restored (UnpackedFloat.add .binary64 left right)) left := by
    intro equal
    rw [equal, stored.restored_eq] at present ⊢
    exact atMost_refl present
  cases left with
  | notANumber => exact same (by cases right <;> rfl)
  | infinity sign =>
      cases right with
      | notANumber => cases restored_missing.symm.trans present
      | infinity other =>
          cases falls
          cases sign with
          | negative => exact same rfl
          | positive => cases restored_missing.symm.trans present
      | zero => exact same rfl
      | finite => exact same rfl
  | zero sign =>
      cases right with
      | notANumber => cases restored_missing.symm.trans present
      | infinity other =>
          cases falls
          exact restored_infinity ▸ negativeInfinity_atMost stored rfl
      | zero other => cases sign <;> cases other <;> exact ⟨0, 0, rfl, rfl, Int.le_refl 0⟩
      | finite other second high alsoPositive =>
          have below : other = .negative := falls
          subst below
          have magnitude := negative_neg (units_pos alsoPositive high)
          exact ⟨_, 0, congrArg level alsoStored.restored_eq, rfl, Int.le_of_lt magnitude⟩
  | finite sign first low positive =>
      cases right with
      | notANumber => cases restored_missing.symm.trans present
      | infinity other =>
          cases falls
          exact restored_infinity ▸ negativeInfinity_atMost stored rfl
      | zero => exact same rfl
      | finite other second high alsoPositive =>
          have below : other = .negative := falls
          subst below
          have magnitude := negative_neg (units_pos alsoPositive high)
          have least : -1074 ≤ min low high := Int.le_min.mpr ⟨stored.1.least, alsoStored.1.least⟩
          apply normalize_atMost stored least
          rw [sum_eq sign _ least (Int.min_le_left ..) (Int.min_le_right ..)]
          omega

/-! ## Signs of stored numbers -/

variable {value : Float}

private theorem not_neg_iff : ¬value < 0 ↔ Avoids .negative value.toModel.unpack := by
  change ¬decide (value.toModel.unpack.lt (.zero .positive) = true) = true ↔ _
  rw [decide_eq_true_iff]
  cases value.toModel.unpack with
  | notANumber => exact iff_of_true Bool.false_ne_true trivial
  | infinity sign =>
      cases sign with
      | negative => exact iff_of_false (not_not_intro rfl) nofun
      | positive => exact iff_of_true Bool.false_ne_true rfl
  | zero => exact iff_of_true Bool.false_ne_true trivial
  | finite sign =>
      cases sign with
      | negative => exact iff_of_false (not_not_intro rfl) nofun
      | positive => exact iff_of_true Bool.false_ne_true rfl

private theorem not_pos_iff : ¬0 < value ↔ Avoids .positive value.toModel.unpack := by
  change ¬decide (UnpackedFloat.lt (.zero .positive) value.toModel.unpack = true) = true ↔ _
  rw [decide_eq_true_iff]
  cases value.toModel.unpack with
  | notANumber => exact iff_of_true Bool.false_ne_true trivial
  | infinity sign =>
      cases sign with
      | negative => exact iff_of_true Bool.false_ne_true rfl
      | positive => exact iff_of_false (not_not_intro rfl) nofun
  | zero => exact iff_of_true Bool.false_ne_true trivial
  | finite sign =>
      cases sign with
      | negative => exact iff_of_true Bool.false_ne_true rfl
      | positive => exact iff_of_false (not_not_intro rfl) nofun

instance : Scalar.RespectsSigns Float where
  lt_asymm := lt_asymm
  le_trans := le_trans
  one_pos := by decide +kernel
  half_pos := by decide +kernel
  neg_not_pos nonnegative := not_pos_iff.mpr (not_neg_iff.mp nonnegative).neg.restored
  neg_not_neg nonpositive := not_neg_iff.mpr (not_pos_iff.mp nonpositive).neg.restored
  mul_not_neg first second :=
    not_neg_iff.mpr ((not_neg_iff.mp first).mul (not_neg_iff.mp second)).restored
  mul_not_neg_of_not_pos first second :=
    not_neg_iff.mpr ((not_pos_iff.mp first).mul (not_pos_iff.mp second)).restored
  mul_not_pos first second :=
    not_pos_iff.mpr ((not_neg_iff.mp first).mul (not_pos_iff.mp second)).restored
  mul_not_pos_of_not_pos first second :=
    not_pos_iff.mpr ((not_pos_iff.mp first).mul (not_neg_iff.mp second)).restored
  add_not_pos first second :=
    not_pos_iff.mpr ((not_pos_iff.mp first).add (not_pos_iff.mp second)).restored
  add_not_neg first second :=
    not_neg_iff.mpr ((not_neg_iff.mp first).add (not_neg_iff.mp second)).restored
  add_le {number change} nonpositive present :=
    le_iff.mpr (add_atMost (isStored number) (isStored change) (not_pos_iff.mp nonpositive) present)

end CurveFitting.Binary64

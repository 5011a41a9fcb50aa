import CurveFitting.Proofs.Binary64.Packing

/-! # The order of binary64 numbers

Stored numbers are compared by their exponents, then by their mantissas. As each of them
fits, that is the order of what they stand for.
-/

namespace CurveFitting.Binary64

open Float.Model Float.Model.UnpackedFloat

/-- Where the infinite numbers stand, in units: after the largest exponent. -/
def top : Nat := units (2 ^ 52) 972

/-- Where a number stands, in units. -/
def level : UnpackedFloat → Option Int
  | .notANumber => none
  | .infinity sign => some (sign.apply top)
  | .zero _ => some 0
  | .finite sign mantissa exponent _ => some (sign.apply (units mantissa exponent))

variable {mantissa other : Nat} {exponent scale : Int}

theorem units_pos (positive : 0 < mantissa) (exponent : Int) : 0 < units mantissa exponent :=
  Nat.mul_pos positive (Nat.two_pow_pos _)

theorem top_pos : 0 < top := units_pos (by decide) 972

theorem Fits.units_lt_top (fits : Fits mantissa exponent) (small : exponent ≤ 971) :
    units mantissa exponent < top := fits.units_lt (by omega)

theorem Fits.top_le_units (fits : Fits mantissa exponent) (large : 971 < exponent) :
    top ≤ units mantissa exponent := by
  have full : 2 ^ 52 ≤ mantissa := fits.full.resolve_right (by omega)
  exact Nat.mul_le_mul full (Nat.pow_le_pow_right (by decide) (by omega))

private theorem Fits.units_lt_units (fits : Fits mantissa exponent) (held : Fits other scale)
    (below : exponent < scale) : units mantissa exponent < units other scale := by
  have least := fits.least
  have full : 2 ^ 52 ≤ other := held.full.resolve_right (by omega)
  exact Nat.lt_of_lt_of_le (fits.units_lt below) (Nat.mul_le_mul_right _ full)

private theorem compare_units :
    compare mantissa other = compare (units mantissa scale) (units other scale) := by
  rw [Nat.compare_eq_ite_lt, Nat.compare_eq_ite_lt]
  simp only [units, Nat.mul_lt_mul_right (Nat.two_pow_pos _)]

private theorem Fits.compare_eq (fits : Fits mantissa exponent) (held : Fits other scale) :
    (compare exponent scale).then (compare mantissa other) =
      compare (units mantissa exponent) (units other scale) := by
  rcases Int.lt_trichotomy exponent scale with below | rfl | above
  · rw [Int.compare_eq_lt.mpr below, Nat.compare_eq_lt.mpr (fits.units_lt_units held below)]
    rfl
  · rw [Int.compare_eq_eq.mpr rfl]
    exact compare_units
  · rw [Int.compare_eq_gt.mpr above, Nat.compare_eq_gt.mpr (held.units_lt_units fits above)]
    rfl

/-! ## Signs -/

section

variable {left right : Nat}

private theorem positive_pos (positive : 0 < left) : 0 < Sign.positive.apply left :=
  Int.natCast_pos.mpr positive

theorem negative_neg (positive : 0 < left) : Sign.negative.apply left < 0 :=
  Int.neg_neg_of_pos (positive_pos positive)

private theorem negative_lt_positive (positive : 0 < left) (alsoPositive : 0 < right) :
    Sign.negative.apply left < Sign.positive.apply right :=
  Int.lt_trans (negative_neg positive) (positive_pos alsoPositive)

private theorem positive_lt (below : left < right) :
    Sign.positive.apply left < Sign.positive.apply right :=
  Int.ofNat_lt.mpr below

private theorem negative_lt (below : left < right) :
    Sign.negative.apply right < Sign.negative.apply left :=
  Int.neg_lt_neg (positive_lt below)

private theorem compare_positive :
    compare (Sign.positive.apply left) (Sign.positive.apply right) = compare left right := by
  rw [Int.compare_eq_ite_lt, Nat.compare_eq_ite_lt]
  simp only [Sign.apply, Int.ofNat_lt]

private theorem compare_negative :
    compare (Sign.negative.apply left) (Sign.negative.apply right) = (compare left right).swap := by
  rw [Nat.compare_swap, Int.compare_eq_ite_lt, Nat.compare_eq_ite_lt]
  simp only [Sign.apply, Int.neg_lt_neg_iff, Int.ofNat_lt]

end

/-! ## Comparing -/

private theorem some_lt {low high : Int} (below : low < high) :
    some Ordering.lt = some (compare low high) :=
  congrArg some (Int.compare_eq_lt.mpr below).symm

private theorem some_gt {low high : Int} (above : high < low) :
    some Ordering.gt = some (compare low high) :=
  congrArg some (Int.compare_eq_gt.mpr above).symm

private theorem some_eq (value : Int) : some Ordering.eq = some (compare value value) :=
  congrArg some (Int.compare_eq_eq.mpr rfl).symm

/-- Stored numbers are compared as the places where they stand. -/
theorem compare_eq {left right : UnpackedFloat} (stored : IsStored left)
    (alsoStored : IsStored right) :
    left.compare right =
      (level left).bind fun low => (level right).map fun high => compare low high := by
  cases left with
  | notANumber => rfl
  | infinity sign =>
      cases right with
      | notANumber => cases sign <;> rfl
      | infinity other =>
          cases sign <;> cases other
          · exact some_eq _
          · exact some_lt (negative_lt_positive top_pos top_pos)
          · exact some_gt (negative_lt_positive top_pos top_pos)
          · exact some_eq _
      | zero =>
          cases sign
          · exact some_lt (negative_neg top_pos)
          · exact some_gt (positive_pos top_pos)
      | finite other mantissa exponent positive =>
          have below := alsoStored.1.units_lt_top alsoStored.2
          have magnitude := units_pos positive exponent
          cases sign <;> cases other
          · exact some_lt (negative_lt below)
          · exact some_lt (negative_lt_positive top_pos magnitude)
          · exact some_gt (negative_lt_positive magnitude top_pos)
          · exact some_gt (positive_lt below)
  | zero =>
      cases right with
      | notANumber => rfl
      | infinity other =>
          cases other
          · exact some_gt (negative_neg top_pos)
          · exact some_lt (positive_pos top_pos)
      | zero => exact some_eq 0
      | finite other mantissa exponent positive =>
          have magnitude := units_pos positive exponent
          cases other
          · exact some_gt (negative_neg magnitude)
          · exact some_lt (positive_pos magnitude)
  | finite sign mantissa exponent positive =>
      have magnitude := units_pos positive exponent
      cases right with
      | notANumber => cases sign <;> rfl
      | infinity other =>
          have below := stored.1.units_lt_top stored.2
          cases sign <;> cases other
          · exact some_gt (negative_lt below)
          · exact some_lt (negative_lt_positive magnitude top_pos)
          · exact some_gt (negative_lt_positive top_pos magnitude)
          · exact some_lt (positive_lt below)
      | zero =>
          cases sign
          · exact some_lt (negative_neg magnitude)
          · exact some_gt (positive_pos magnitude)
      | finite other secondMantissa secondExponent alsoPositive =>
          have second := units_pos alsoPositive secondExponent
          have order := stored.1.compare_eq alsoStored.1
          cases sign <;> cases other
          · exact congrArg some ((congrArg Ordering.swap order).trans compare_negative.symm)
          · exact some_lt (negative_lt_positive magnitude second)
          · exact some_gt (negative_lt_positive second magnitude)
          · exact congrArg some (order.trans compare_positive.symm)

/-- A number that is not above another one, where none of the two is missing. -/
def AtMost (left right : UnpackedFloat) : Prop :=
  ∃ low high, level left = some low ∧ level right = some high ∧ low ≤ high

/-! ## Comparing binary64 numbers -/

theorem isStored (number : Float) : IsStored number.toModel.unpack :=
  stored_unpack number.toModel.toBits.toBitVec

variable {left right : Float}

theorem le_iff : left ≤ right ↔ AtMost left.toModel.unpack right.toModel.unpack := by
  change decide (left.toModel.unpack.le right.toModel.unpack = true) = true ↔ _
  rw [decide_eq_true_iff, UnpackedFloat.le, compare_eq (isStored left) (isStored right), AtMost]
  cases level left.toModel.unpack with
  | none => simp
  | some low =>
      cases level right.toModel.unpack with
      | none => simp
      | some high => simp [Int.isLE_compare]

theorem lt_iff : left < right ↔
    ∃ low high, level left.toModel.unpack = some low ∧ level right.toModel.unpack = some high ∧
      low < high := by
  change decide (left.toModel.unpack.lt right.toModel.unpack = true) = true ↔ _
  rw [decide_eq_true_iff, UnpackedFloat.lt, compare_eq (isStored left) (isStored right)]
  cases level left.toModel.unpack with
  | none => simp
  | some low =>
      cases level right.toModel.unpack with
      | none => simp
      | some high => simp [Int.compare_eq_lt]

theorem lt_asymm (below : left < right) : ¬right < left := by
  intro above
  rcases lt_iff.mp below with ⟨low, high, leftLow, rightHigh, less⟩
  rcases lt_iff.mp above with ⟨first, second, rightFirst, leftSecond, more⟩
  cases leftLow.symm.trans leftSecond
  cases rightHigh.symm.trans rightFirst
  omega

theorem le_trans {low middle high : Float} (below : low ≤ middle) (above : middle ≤ high) :
    low ≤ high := by
  rcases le_iff.mp below with ⟨first, second, lowFirst, middleSecond, less⟩
  rcases le_iff.mp above with ⟨third, fourth, middleThird, highFourth, more⟩
  cases middleSecond.symm.trans middleThird
  exact le_iff.mpr ⟨first, fourth, lowFirst, highFourth, Int.le_trans less more⟩

end CurveFitting.Binary64

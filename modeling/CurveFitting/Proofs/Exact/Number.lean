import Mathlib.Analysis.Real.Sqrt
import Mathlib.Tactic.Positivity
import Mathlib.Tactic.NormNum
import CurveFitting.Proofs.Halves

/-! # Exact numbers

Real numbers as scalars. An operation that has no real result, such as a division
by zero, gives the mark of a missing value, and so may an objective.
-/

namespace CurveFitting

/-- A real number, or the mark of a missing value. -/
inductive Exact where
  | real (value : ℝ)
  | missing

namespace Exact

def lift (operation : ℝ → ℝ → ℝ) : Exact → Exact → Exact
  | real left, real right => real (operation left right)
  | _, _ => missing

def holds (relation : ℝ → ℝ → Prop) : Exact → Exact → Prop
  | real left, real right => relation left right
  | _, _ => False

noncomputable def divide : Exact → Exact → Exact
  | real left, real right => if right = 0 then missing else real (left / right)
  | _, _ => missing

noncomputable def root : Exact → Exact
  | real value => if value < 0 then missing else real √value
  | missing => missing

noncomputable def magnitude : Exact → Exact
  | real value => real |value|
  | missing => missing

noncomputable def negative : Exact → Exact
  | real value => real (-value)
  | missing => missing

def isReal : Exact → Bool
  | real _ => true
  | missing => false

def toReal : Exact → ℝ
  | real value => value
  | missing => 0

/-- The halves of one stay below `1 / floor` in number as long as they reach the
floor. -/
noncomputable def halvingsTo : Exact → Nat
  | real floor => ⌈1 / floor⌉₊
  | missing => 0

open Classical in
noncomputable instance : Scalar Exact where
  zero := real 0
  one := real 1
  ofScientific mantissa negative exponent :=
    real (OfScientific.ofScientific mantissa negative exponent)
  add := lift (· + ·)
  sub := lift (· - ·)
  mul := lift (· * ·)
  div := divide
  neg := negative
  lt := holds (· < ·)
  le := holds (· ≤ ·)
  beq left right := decide (holds (· = ·) left right)
  sqrt := root
  abs := magnitude
  isFinite := isReal
  isNaN value := !value.isReal
  halvings := halvingsTo

variable {left right value : ℝ}

/-! ## Operations on real numbers -/

@[simp] theorem zero_eq : (0 : Exact) = real 0 := rfl

@[simp] theorem one_eq : (1 : Exact) = real 1 := rfl

@[simp] theorem ofScientific_eq (mantissa : Nat) (negative : Bool) (exponent : Nat) :
    (OfScientific.ofScientific mantissa negative exponent : Exact) =
      real (OfScientific.ofScientific mantissa negative exponent) := rfl

@[simp] theorem add_eq : real left + real right = real (left + right) := rfl

@[simp] theorem sub_eq : real left - real right = real (left - right) := rfl

@[simp] theorem mul_eq : real left * real right = real (left * right) := rfl

@[simp] theorem neg_eq : -real value = real (-value) := rfl

theorem div_eq (nonzero : right ≠ 0) : real left / real right = real (left / right) :=
  if_neg nonzero

theorem sqrt_eq (nonnegative : 0 ≤ value) : Scalar.sqrt (real value) = real √value :=
  if_neg (not_lt.mpr nonnegative)

@[simp] theorem abs_eq : Scalar.abs (real value) = real |value| := rfl

@[simp] theorem lt_iff : real left < real right ↔ left < right := Iff.rfl

@[simp] theorem le_iff : real left ≤ real right ↔ left ≤ right := Iff.rfl

open Classical in
theorem beq_iff : (real left == real right) = true ↔ left = right := decide_eq_true_iff

@[simp] theorem not_lt_missing {number : Exact} : ¬number < missing := by
  cases number <;> exact id

@[simp] theorem isFinite_real : Scalar.isFinite (real value) = true := rfl

@[simp] theorem isNaN_real : Scalar.isNaN (real value) = false := rfl

theorem isFinite_iff {number : Exact} :
    Scalar.isFinite number = true ↔ ∃ value, number = real value := by
  cases number with
  | real value => exact ⟨fun _ => ⟨value, rfl⟩, fun _ => rfl⟩
  | missing => exact ⟨nofun, nofun⟩

theorem real_toReal {number : Exact} (finite : Scalar.isFinite number = true) :
    real number.toReal = number := by
  rcases isFinite_iff.mp finite with ⟨value, rfl⟩
  rfl

@[simp] theorem double_eq : Scalar.double (real value) = real (2 * value) := by
  rw [Scalar.double, add_eq, two_mul]

theorem larger_eq : Scalar.larger (real left) (real right) = real (max left right) := by
  unfold Scalar.larger
  simp only [lt_iff, isNaN_real, Bool.false_eq_true, if_false]
  rcases lt_or_ge right left with above | below
  · rw [if_pos above, max_eq_left (le_of_lt above)]
  · rw [if_neg (not_lt.mpr below), max_eq_right below]

theorem larger_real {number : Exact} (positive : 0 < value) :
    ∃ larger, 0 < larger ∧ Scalar.larger number (real value) = real larger := by
  cases number with
  | missing => exact ⟨value, positive, if_neg not_lt_missing⟩
  | real other => exact ⟨max other value, lt_max_of_lt_right positive, larger_eq⟩

@[simp] theorem half_eq : (0.5 : Exact) = real (1 / 2) := by
  rw [ofScientific_eq]
  norm_num

instance : Scalar.HasUsualSettings Exact where
  thousandth_finite := rfl
  thousandth_positive := lt_iff.mpr (by norm_num)
  armijo_positive := lt_iff.mpr (by norm_num)
  armijo_lt_one := lt_iff.mpr (by norm_num)
  minStep_positive := lt_iff.mpr (by norm_num)
  minStep_le_one := le_iff.mpr (by norm_num)

/-! ## Multipliers -/

instance : Scalar.Halving Exact where
  halvings_pos {floor} positive within := by
    cases floor with
    | missing => exact absurd positive not_lt_missing
    | real floor =>
        have enough : (0 : ℝ) < 1 / floor := one_div_pos.mpr (lt_iff.mp positive)
        exact Nat.ceil_pos.mpr enough

private theorem halved_eq (count : Nat) : Scalar.halved count = real ((1 / 2) ^ count) := by
  induction count with
  | zero => rw [Scalar.halved, one_eq, pow_zero]
  | succ count induction => rw [Scalar.halved, induction, half_eq, mul_eq, pow_succ]

instance : Scalar.ExhaustsHalves Exact where
  halves_fall {floor count} reached := by
    cases floor with
    | missing => exact reached.elim
    | real floor =>
        rw [halved_eq, le_iff] at reached ⊢
        exact reached.trans (pow_le_pow_of_le_one (by norm_num) (by norm_num) (Nat.le_succ count))
  halves_exhausted {floor} positive := by
    cases floor with
    | missing => exact absurd positive not_lt_missing
    | real floor =>
        rw [zero_eq, lt_iff] at positive
        rw [halved_eq, le_iff, not_le, one_div_pow]
        have exceeds : 1 / floor < 2 ^ ⌈1 / floor⌉₊ :=
          (Nat.le_ceil _).trans_lt (mod_cast Nat.lt_two_pow_self)
        exact (one_div_lt positive (by positivity)).mp exceeds

end Exact

end CurveFitting

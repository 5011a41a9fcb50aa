import Mathlib.Tactic.Linarith
import CurveFitting.Proofs.Exact.Number
import CurveFitting.Proofs.Signs

/-! # Signs of exact numbers -/

namespace CurveFitting.Exact

@[simp] theorem not_missing_lt {number : Exact} : ¬missing < number := by
  cases number <;> exact id

private theorem real_of_le {left right : Exact} (below : left ≤ right) :
    ∃ low high, left = real low ∧ right = real high ∧ low ≤ high := by
  cases left with
  | missing => exact below.elim
  | real low =>
      cases right with
      | missing => exact below.elim
      | real high => exact ⟨low, high, rfl, rfl, below⟩

instance : Scalar.ComparesPresent Exact where
  isNaN_notANumber := by
    have undefined : (Scalar.notANumber : Exact) = missing := if_pos rfl
    rw [undefined]
    rfl
  isNaN_of_isFinite finite := by
    rcases isFinite_iff.mp finite with ⟨value, rfl⟩
    rfl
  present_of_le below := by
    rcases real_of_le below with ⟨low, high, rfl, rfl, _⟩
    exact ⟨rfl, rfl⟩

variable {left right : Exact}

private theorem not_neg_iff : ¬left < 0 ↔ ∀ value, left = real value → 0 ≤ value := by
  cases left with
  | missing => simp
  | real value => simp

private theorem not_pos_iff : ¬0 < left ↔ ∀ value, left = real value → value ≤ 0 := by
  cases left with
  | missing => simp
  | real value => simp

private theorem lift_not_neg (operation : ℝ → ℝ → ℝ)
    (nonnegative : ∀ first second, left = real first → right = real second →
      0 ≤ operation first second) : ¬lift operation left right < 0 := by
  rw [not_neg_iff]
  intro value equal
  cases left with
  | missing => cases equal
  | real first =>
      cases right with
      | missing => cases equal
      | real second =>
          cases equal
          exact nonnegative first second rfl rfl

private theorem lift_not_pos (operation : ℝ → ℝ → ℝ)
    (nonpositive : ∀ first second, left = real first → right = real second →
      operation first second ≤ 0) : ¬0 < lift operation left right := by
  rw [not_pos_iff]
  intro value equal
  cases left with
  | missing => cases equal
  | real first =>
      cases right with
      | missing => cases equal
      | real second =>
          cases equal
          exact nonpositive first second rfl rfl

instance : Scalar.RespectsSigns Exact where
  lt_asymm {left right} below above := by
    cases left with
    | missing => exact not_missing_lt below
    | real low =>
        cases right with
        | missing => exact not_lt_missing below
        | real high => exact lt_asymm (lt_iff.mp below) (lt_iff.mp above)
  le_trans below above := by
    rcases real_of_le below with ⟨low, middle, rfl, rfl, lower⟩
    rcases real_of_le above with ⟨_, high, equal, rfl, upper⟩
    cases equal
    exact le_iff.mpr (le_trans lower upper)
  one_pos := lt_iff.mpr one_pos
  half_pos := by
    rw [half_eq]
    exact lt_iff.mpr one_half_pos
  neg_not_pos {number} nonnegative := by
    cases number with
    | missing => exact not_lt_missing
    | real value => simpa using nonnegative
  neg_not_neg {number} nonpositive := by
    cases number with
    | missing => exact not_missing_lt
    | real value => simpa using nonpositive
  mul_not_neg first second := by
    apply lift_not_neg (· * ·)
    intro left right leftReal rightReal
    exact mul_nonneg (not_neg_iff.mp first left leftReal) (not_neg_iff.mp second right rightReal)
  mul_not_neg_of_not_pos first second := by
    apply lift_not_neg (· * ·)
    intro left right leftReal rightReal
    exact mul_nonneg_of_nonpos_of_nonpos (not_pos_iff.mp first left leftReal)
      (not_pos_iff.mp second right rightReal)
  mul_not_pos first second := by
    apply lift_not_pos (· * ·)
    intro left right leftReal rightReal
    exact mul_nonpos_of_nonneg_of_nonpos (not_neg_iff.mp first left leftReal)
      (not_pos_iff.mp second right rightReal)
  mul_not_pos_of_not_pos first second := by
    apply lift_not_pos (· * ·)
    intro left right leftReal rightReal
    exact mul_nonpos_of_nonpos_of_nonneg (not_pos_iff.mp first left leftReal)
      (not_neg_iff.mp second right rightReal)
  add_not_pos first second := by
    apply lift_not_pos (· + ·)
    intro left right leftReal rightReal
    exact add_nonpos (not_pos_iff.mp first left leftReal) (not_pos_iff.mp second right rightReal)
  add_not_neg first second := by
    apply lift_not_neg (· + ·)
    intro left right leftReal rightReal
    exact add_nonneg (not_neg_iff.mp first left leftReal) (not_neg_iff.mp second right rightReal)
  add_le {number change} nonpositive present := by
    cases number with
    | missing => cases present
    | real number =>
        cases change with
        | missing => cases present
        | real change =>
            have falling : change ≤ 0 := not_pos_iff.mp nonpositive change rfl
            rw [add_eq, le_iff]
            linarith

end CurveFitting.Exact

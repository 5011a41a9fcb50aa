import CurveFitting.Proofs.Exact.Quadratic

/-! # Newton steps on exact numbers

The inverse Hessian of a strictly convex quadratic leads from any point to the minimum in
one step, just within what a line search demands at most. The step teaches the inverse
Hessian nothing new.
-/

namespace CurveFitting.Exact

open Matrix

variable {n : Nat} {function : (Fin n → ℝ) → ℝ} {slope : (Fin n → ℝ) → Fin n → ℝ}
  {hessian : Matrix (Fin n) (Fin n) ℝ}

namespace IsQuadratic

variable (quadratic : IsQuadratic function slope hessian)

include quadratic

private theorem slope_add (x v : Fin n → ℝ) : slope (x + v) = slope x + hessian *ᵥ v := by
  apply dotProduct_eq
  intro w
  have once := quadratic.expand x (v + w)
  have twice := quadratic.expand (x + v) w
  rw [add_assoc, once, quadratic.expand x v] at twice
  have crossed : w ⬝ᵥ hessian *ᵥ v = v ⬝ᵥ hessian *ᵥ w :=
    dotProduct_mulVec_comm w v quadratic.symmetric
  have image : (hessian *ᵥ v) ⬝ᵥ w = v ⬝ᵥ hessian *ᵥ w := by
    rw [dotProduct_comm, crossed]
  simp only [mulVec_add, dotProduct_add, add_dotProduct, crossed] at twice
  rw [add_dotProduct, image]
  linarith

variable {minimum : Fin n → ℝ}

private theorem eq_above_minimum (zero : slope minimum = 0) (x : Fin n → ℝ) :
    function x =
      function minimum + 1 / 2 * ((x - minimum) ⬝ᵥ hessian *ᵥ (x - minimum)) := by
  have expanded := quadratic.expand minimum (x - minimum)
  rwa [add_sub_cancel, zero, zero_dotProduct, add_zero] at expanded

theorem lt_of_ne_minimum (posDef : hessian.PosDef) (zero : slope minimum = 0)
    {x : Fin n → ℝ} (other : x ≠ minimum) : function minimum < function x := by
  have positive := posDef.dotProduct_mulVec_pos (sub_ne_zero.mpr other)
  rw [star_trivial] at positive
  rw [quadratic.eq_above_minimum zero x]
  linarith

private theorem slope_eq (zero : slope minimum = 0) (x : Fin n → ℝ) :
    slope x = hessian *ᵥ (x - minimum) := by
  have moved := quadratic.slope_add minimum (x - minimum)
  rwa [add_sub_cancel, zero, zero_add] at moved

/-- The predicted decrease of a full step is twice the decrease that it achieves. -/
theorem decrease_eq (zero : slope minimum = 0) (x : Fin n → ℝ) :
    function minimum = function x + 1 / 2 * (slope x ⬝ᵥ (minimum - x)) := by
  have opposite : minimum - x = -(x - minimum) := (neg_sub _ _).symm
  rw [quadratic.eq_above_minimum zero x, quadratic.slope_eq zero, opposite, dotProduct_neg,
    dotProduct_comm]
  ring

variable (posDef : hessian.PosDef)

include posDef

theorem slope_nonpos (zero : slope minimum = 0) (x : Fin n → ℝ) :
    slope x ⬝ᵥ (minimum - x) ≤ 0 := by
  have square := quadratic_nonneg posDef (x - minimum)
  have decrease := quadratic.decrease_eq zero x
  rw [quadratic.eq_above_minimum zero x] at decrease
  linarith

theorem inv_mulVec_slope (zero : slope minimum = 0) (x : Fin n → ℝ) :
    hessian⁻¹ *ᵥ slope x = x - minimum := by
  have invertible := (isUnit_iff_isUnit_det _).mp posDef.isUnit
  rw [quadratic.slope_eq zero, mulVec_mulVec, nonsing_inv_mul _ invertible, one_mulVec]

end IsQuadratic

theorem learned_eq_self {approximation : Matrix (Fin n) (Fin n) ℝ} {s y : Fin n → ℝ}
    (explained : approximation *ᵥ y = s) (curved : y ⬝ᵥ s ≠ 0) :
    learned approximation s y = approximation := by
  have growth : 1 / (y ⬝ᵥ s) * (1 / (y ⬝ᵥ s)) * (y ⬝ᵥ s) + 1 / (y ⬝ᵥ s) = 1 / (y ⬝ᵥ s) * 2 := by
    field_simp
    norm_num
  rw [learned]
  simp only [explained, growth]
  rw [← two_smul ℝ (vecMulVec s s), smul_smul, sub_add_cancel]

end CurveFitting.Exact

import CurveFitting.Proofs.Exact.Derivatives
import CurveFitting.Proofs.Exact.Approximation
import Mathlib.Order.Bounds.Basic
import Mathlib.Tactic.Linarith

/-! # Quadratic objectives on exact numbers

Differences are exact on a quadratic function, and where its Hessian is positive
definite, the gradient and the inverse Hessian at any point tell its minimum.
-/

namespace CurveFitting.Exact

open Matrix

variable {σ ε : Type} {n : Nat} {function : (Fin n → ℝ) → ℝ}
  {slope : (Fin n → ℝ) → Fin n → ℝ} {hessian : Matrix (Fin n) (Fin n) ℝ}

/-- A function with a gradient everywhere and the same Hessian everywhere. -/
structure IsQuadratic (function : (Fin n → ℝ) → ℝ) (slope : (Fin n → ℝ) → Fin n → ℝ)
    (hessian : Matrix (Fin n) (Fin n) ℝ) : Prop where
  symmetric : hessian.IsSymm
  expand : ∀ x v, function (x + v) = function x + slope x ⬝ᵥ v + 1 / 2 * (v ⬝ᵥ hessian *ᵥ v)

namespace IsQuadratic

variable {objective : Objective Exact σ ε} {x h : Fin n → ℝ}

/-! ## Differences -/

private theorem expand_single (quadratic : IsQuadratic function slope hessian) (x : Fin n → ℝ)
    (i : Fin n) (a : ℝ) :
    function (x + Pi.single i a) = function x + slope x i * a + 1 / 2 * (hessian i i * a ^ 2) := by
  rw [quadratic.expand, dotProduct_single, single_dotProduct, mulVec_single]
  simp only [op_smul_eq_smul, Pi.smul_apply, col_apply, smul_eq_mul]
  ring

private theorem expand_pair (quadratic : IsQuadratic function slope hessian) (x : Fin n → ℝ)
    (i j : Fin n) (a b : ℝ) :
    function (x + Pi.single i a + Pi.single j b) =
      function x + slope x i * a + slope x j * b +
        1 / 2 * (hessian i i * a ^ 2 + 2 * (hessian i j * a * b) + hessian j j * b ^ 2) := by
  have crossed : hessian j i = hessian i j := quadratic.symmetric.apply i j
  rw [add_assoc, quadratic.expand]
  simp only [dotProduct_add, add_dotProduct, mulVec_add, dotProduct_single, single_dotProduct,
    mulVec_single, op_smul_eq_smul, Pi.smul_apply, col_apply, smul_eq_mul, crossed]
  ring

theorem centralDifference (quadratic : IsQuadratic function slope hessian) (x : Fin n → ℝ)
    (i : Fin n) {a : ℝ} (nonzero : a ≠ 0) :
    (function (x + Pi.single i a) - function (x + Pi.single i (-a))) / (a + a) = slope x i := by
  rw [quadratic.expand_single, quadratic.expand_single]
  field_simp
  ring

theorem secondDifference (quadratic : IsQuadratic function slope hessian) (x : Fin n → ℝ)
    (i : Fin n) {a : ℝ} (nonzero : a ≠ 0) :
    (function (x + Pi.single i a) + function (x + Pi.single i (-a)) - 2 * function x) / (a * a) =
      hessian i i := by
  rw [quadratic.expand_single, quadratic.expand_single]
  field_simp
  ring

theorem mixedDifference (quadratic : IsQuadratic function slope hessian) (x : Fin n → ℝ)
    (i j : Fin n) {a b : ℝ} (nonzero : a ≠ 0) (alsoNonzero : b ≠ 0) :
    (function (x + Pi.single i a + Pi.single j b) -
      function (x + Pi.single i a + Pi.single j (-b)) -
      function (x + Pi.single i (-a) + Pi.single j b) +
      function (x + Pi.single i (-a) + Pi.single j (-b))) / (2 * (2 * a) * b) = hessian i j := by
  rw [quadratic.expand_pair, quadratic.expand_pair, quadratic.expand_pair, quadratic.expand_pair]
  field_simp
  ring

theorem gradient_eq (quadratic : IsQuadratic function slope hessian)
    (computes : Computes objective function) (positive : ∀ i, 0 < h i) {gradient : Fin n → ℝ}
    (differences : IsGradient objective x h gradient) : gradient = slope x := by
  funext i
  rcases differences i with ⟨above, below, fromAbove, fromBelow, equal⟩
  rw [equal, computes _ _ fromAbove, computes _ _ fromBelow]
  exact quadratic.centralDifference x i (ne_of_gt (positive i))

private theorem secondDerivative_eq (quadratic : IsQuadratic function slope hessian)
    (computes : Computes objective function) (positive : ∀ i, 0 < h i) {i j : Fin n} {value : ℝ}
    (derivative : IsSecondDerivative objective x (function x) h i j value) :
    value = hessian i j := by
  cases derivative with
  | single fromAbove fromBelow =>
      rw [computes _ _ fromAbove, computes _ _ fromBelow]
      exact quadratic.secondDifference x i (ne_of_gt (positive i))
  | mixed _ first second third fourth =>
      rw [computes _ _ first, computes _ _ second, computes _ _ third, computes _ _ fourth]
      exact quadratic.mixedDifference x i j (ne_of_gt (positive i)) (ne_of_gt (positive j))

theorem hessian_eq (quadratic : IsQuadratic function slope hessian)
    (computes : Computes objective function) (positive : ∀ i, 0 < h i)
    {entries : Matrix (Fin n) (Fin n) ℝ} (symmetric : entries.IsSymm)
    (derivatives : ∀ i j, i ≤ j →
      IsSecondDerivative objective x (function x) h i j (entries i j)) : entries = hessian := by
  ext i j
  rcases le_total i j with above | below
  · exact quadratic.secondDerivative_eq computes positive (derivatives i j above)
  · rw [← symmetric.apply, ← quadratic.symmetric.apply]
    exact quadratic.secondDerivative_eq computes positive (derivatives j i below)

/-! ## The minimum -/

/-- Completing the square. -/
theorem expand_minimum (quadratic : IsQuadratic function slope hessian) (posDef : hessian.PosDef)
    (x v : Fin n → ℝ) :
    let w := v + hessian⁻¹ *ᵥ slope x
    function (x + v) = function x - 1 / 2 * (slope x ⬝ᵥ hessian⁻¹ *ᵥ slope x) +
      1 / 2 * (w ⬝ᵥ hessian *ᵥ w) := by
  intro w
  have invertible := (isUnit_iff_isUnit_det _).mp posDef.isUnit
  have undone : hessian *ᵥ hessian⁻¹ *ᵥ slope x = slope x := by
    rw [mulVec_mulVec, mul_nonsing_inv _ invertible, one_mulVec]
  have crossed : (hessian⁻¹ *ᵥ slope x) ⬝ᵥ hessian *ᵥ v = slope x ⬝ᵥ v := by
    rw [dotProduct_mulVec_comm _ _ quadratic.symmetric, undone, dotProduct_comm]
  rw [quadratic.expand]
  simp only [w, mulVec_add, dotProduct_add, add_dotProduct, undone, crossed]
  rw [dotProduct_comm v (slope x), dotProduct_comm (hessian⁻¹ *ᵥ slope x) (slope x)]
  ring

theorem isLeast (quadratic : IsQuadratic function slope hessian) (posDef : hessian.PosDef)
    (x : Fin n → ℝ) :
    IsLeast (Set.range function)
      (function x - 1 / 2 * (slope x ⬝ᵥ hessian⁻¹ *ᵥ slope x)) := by
  constructor
  · refine ⟨x + -(hessian⁻¹ *ᵥ slope x), ?_⟩
    rw [quadratic.expand_minimum posDef, neg_add_cancel, zero_dotProduct, mul_zero, add_zero]
  · intro value reached
    rcases reached with ⟨other, rfl⟩
    have square := quadratic_nonneg posDef (other - x + hessian⁻¹ *ᵥ slope x)
    rw [← add_sub_cancel x other, quadratic.expand_minimum posDef]
    linarith

end IsQuadratic

end CurveFitting.Exact

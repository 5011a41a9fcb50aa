import CurveFitting.Proofs.Exact.Inverse

/-! # Approximations on exact numbers

The seed is positive definite, and what is learned from a step of positive curvature
keeps an approximation positive definite.
-/

namespace CurveFitting.Exact

open Matrix

variable {n : Nat} {approximation : Matrix (Fin n) (Fin n) ℝ} {s y : Fin n → ℝ}

/-! ## The seed -/

theorem seed_real (steps : Fin n → ℝ) :
    InverseHessian.seed (vector steps) = matrix (diagonal (steps * steps)) := by
  have squares : (vector steps).map (fun step => step * step) = vector (steps * steps) := by
    ext i within
    simp
  rw [InverseHessian.seed, squares, diagonal_vector]

theorem seed_posDef {steps : Fin n → ℝ} (positive : ∀ i, 0 < steps i) :
    (diagonal (steps * steps)).PosDef :=
  posDef_diagonal_iff.mpr fun i => mul_pos (positive i) (positive i)

/-! ## Learning from a step -/

/-- The approximation after a step `s` over which the gradient changed by `y`. -/
noncomputable def learned (approximation : Matrix (Fin n) (Fin n) ℝ) (s y : Fin n → ℝ) :
    Matrix (Fin n) (Fin n) ℝ :=
  let rho := 1 / (y ⬝ᵥ s)
  let image := approximation *ᵥ y
  approximation - rho • (vecMulVec s image + vecMulVec image s) +
    (rho * rho * (y ⬝ᵥ image) + rho) • vecMulVec s s

theorem learned_isSymm (symmetric : approximation.IsSymm) :
    (learned approximation s y).IsSymm := by
  ext i j
  simp only [learned, transpose_apply, Matrix.add_apply, Matrix.sub_apply, Matrix.smul_apply,
    vecMulVec_apply, smul_eq_mul, symmetric.apply i j]
  ring

/-- Learning changes a quadratic form to that of a projected vector and one square. -/
theorem quadratic_learned (symmetric : approximation.IsSymm)
    (v : Fin n → ℝ) :
    let rho := 1 / (y ⬝ᵥ s)
    let w := v - (rho * (s ⬝ᵥ v)) • y
    v ⬝ᵥ learned approximation s y *ᵥ v =
      w ⬝ᵥ approximation *ᵥ w + rho * (s ⬝ᵥ v) ^ 2 := by
  have crossed : v ⬝ᵥ approximation *ᵥ y = y ⬝ᵥ approximation *ᵥ v :=
    dotProduct_mulVec_comm v y symmetric
  have image : (approximation *ᵥ y) ⬝ᵥ v = y ⬝ᵥ approximation *ᵥ v := by
    rw [dotProduct_comm, crossed]
  simp only [learned, add_mulVec, sub_mulVec, smul_mulVec, mulVec_sub, mulVec_smul,
    dotProduct_add, dotProduct_sub, dotProduct_smul, sub_dotProduct, smul_dotProduct,
    dotProduct_vecMulVec_mulVec, smul_eq_mul, crossed, image, dotProduct_comm v s]
  ring

theorem learned_posDef (posDef : approximation.PosDef) (curved : 0 < y ⬝ᵥ s) :
    (learned approximation s y).PosDef := by
  have symmetric := isHermitian_iff_isSymm.mp posDef.isHermitian
  refine .of_dotProduct_mulVec_pos (isHermitian_iff_isSymm.mpr (learned_isSymm symmetric)) ?_
  intro v nonzero
  rw [star_trivial, quadratic_learned symmetric]
  have rho : 0 < 1 / (y ⬝ᵥ s) := one_div_pos.mpr curved
  rcases eq_or_ne (v - (1 / (y ⬝ᵥ s) * (s ⬝ᵥ v)) • y) 0 with projected | projected
  · -- The vector is a multiple of `y`, so it is not perpendicular to `s`.
    have oblique : s ⬝ᵥ v ≠ 0 := by
      intro perpendicular
      rw [perpendicular, mul_zero, zero_smul, sub_zero] at projected
      exact nonzero projected
    rw [projected, zero_dotProduct, zero_add]
    positivity
  · have first := posDef.dotProduct_mulVec_pos projected
    rw [star_trivial] at first
    exact add_pos_of_pos_of_nonneg first (mul_nonneg (le_of_lt rho) (sq_nonneg _))

theorem update_real (symmetric : approximation.IsSymm) :
    InverseHessian.update (matrix approximation) (vector s) (vector y) =
      if 0 < y ⬝ᵥ s then some (matrix (learned approximation s y)) else none := by
  rw [InverseHessian.update]
  simp only [dot_vector, isFinite_real, zero_eq, lt_iff, true_and]
  split
  · rename_i curved
    rw [one_eq, div_eq (ne_of_gt curved)]
    simp only [mulVector_matrix, outer_vector, matrix_add, scale_matrix, matrix_sub, mul_eq, add_eq,
      dot_vector, isFinite_matrix, if_true]
    rw [symmetrize_matrix]
    · rfl
    · exact learned_isSymm symmetric
  · rfl

/-! ## The estimated distance -/

theorem edm_real (posDef : approximation.PosDef) (gradient : Fin n → ℝ) {errorDefinition : ℝ}
    (positive : 0 < errorDefinition) :
    InverseHessian.edm (vector gradient) (matrix approximation) (real errorDefinition) =
      real (1 / 2 * (gradient ⬝ᵥ approximation *ᵥ gradient) / errorDefinition) := by
  have quadratic := posDef.posSemidef.dotProduct_mulVec_nonneg gradient
  rw [star_trivial] at quadratic
  rw [InverseHessian.edm]
  simp only [mulVector_matrix, dot_vector, half_eq, mul_eq, div_eq (ne_of_gt positive), isNaN_real,
    zero_eq, larger_eq, Bool.false_eq_true, if_false]
  rw [max_eq_left (by positivity)]

theorem quadratic_eq_zero_iff (posDef : approximation.PosDef) (gradient : Fin n → ℝ) :
    gradient ⬝ᵥ approximation *ᵥ gradient = 0 ↔ gradient = 0 := by
  constructor
  · intro zero
    by_contra nonzero
    have positive := posDef.dotProduct_mulVec_pos nonzero
    rw [star_trivial, zero] at positive
    exact lt_irrefl 0 positive
  · intro equal
    subst equal
    exact zero_dotProduct _

theorem quadratic_nonneg (posDef : approximation.PosDef) (gradient : Fin n → ℝ) :
    0 ≤ gradient ⬝ᵥ approximation *ᵥ gradient := by
  have nonnegative := posDef.posSemidef.dotProduct_mulVec_nonneg gradient
  rwa [star_trivial] at nonnegative

end CurveFitting.Exact

import Mathlib.Tactic.Module
import CurveFitting.Proofs.Exact.Approximation

/-! # Secant equations on exact numbers

What is learned from a step explains the change of the gradient over it: the approximation
takes the change back to the step. It still explains all earlier steps that are conjugate to
this one. And what explains as many conjugate steps as there are parameters is an inverse.
-/

namespace CurveFitting.Exact

open Matrix

variable {n : Nat} {approximation hessian : Matrix (Fin n) (Fin n) ℝ} {s y v : Fin n → ℝ}

/-! ## Learning from a step -/

/-- Learning projects an approximation from both sides, and adds a square. -/
theorem learned_eq_projected (symmetric : approximation.IsSymm) :
    learned approximation s y =
      (1 - (1 / (y ⬝ᵥ s)) • vecMulVec s y) * approximation *
        (1 - (1 / (y ⬝ᵥ s)) • vecMulVec y s) + (1 / (y ⬝ᵥ s)) • vecMulVec s s := by
  have row : y ᵥ* approximation = approximation *ᵥ y := by
    rw [← mulVec_transpose, symmetric]
  have twice : vecMulVec s (approximation *ᵥ y) * vecMulVec y s =
      (y ⬝ᵥ approximation *ᵥ y) • vecMulVec s s := by
    rw [vecMulVec_mul_vecMulVec, vecMulVec_smul, dotProduct_comm]
  rw [learned, sub_mul, one_mul, smul_mul_assoc, vecMulVec_mul, row, mul_sub, mul_one,
    mul_smul_comm, sub_mul, mul_vecMulVec, smul_mul_assoc, twice]
  module

private theorem projection_mulVec (factor : ℝ) (left right v : Fin n → ℝ) :
    (1 - factor • vecMulVec left right) *ᵥ v = v - (factor * (right ⬝ᵥ v)) • left := by
  rw [sub_mulVec, one_mulVec, smul_mulVec, vecMulVec_mulVec, op_smul_eq_smul, smul_smul]

private theorem learned_mulVec (symmetric : approximation.IsSymm) :
    learned approximation s y *ᵥ v =
      (1 - (1 / (y ⬝ᵥ s)) • vecMulVec s y) *ᵥ
          approximation *ᵥ (v - (1 / (y ⬝ᵥ s) * (s ⬝ᵥ v)) • y) +
        (1 / (y ⬝ᵥ s) * (s ⬝ᵥ v)) • s := by
  rw [learned_eq_projected symmetric, add_mulVec, ← mulVec_mulVec, ← mulVec_mulVec,
    projection_mulVec _ y s v, smul_mulVec, vecMulVec_mulVec, op_smul_eq_smul, smul_smul]

theorem learned_mulVec_self (symmetric : approximation.IsSymm) (curved : y ⬝ᵥ s ≠ 0) :
    learned approximation s y *ᵥ y = s := by
  have whole : 1 / (y ⬝ᵥ s) * (s ⬝ᵥ y) = 1 := by
    rw [dotProduct_comm s y, one_div_mul_cancel curved]
  rw [learned_mulVec symmetric, whole, one_smul, sub_self, mulVec_zero, mulVec_zero, zero_add,
    one_smul]

private theorem learned_mulVec_of_perpendicular (symmetric : approximation.IsSymm)
    (step : s ⬝ᵥ v = 0) (change : y ⬝ᵥ approximation *ᵥ v = 0) :
    learned approximation s y *ᵥ v = approximation *ᵥ v := by
  rw [learned_mulVec symmetric, step, mul_zero, zero_smul, zero_smul, sub_zero, add_zero,
    projection_mulVec, change, mul_zero, zero_smul, sub_zero]

/-! ## Conjugate steps -/

/-- Steps that are not zero, any two of which are conjugate with respect to a matrix. -/
structure AreConjugate (hessian : Matrix (Fin n) (Fin n) ℝ) (steps : Fin n → Fin n → ℝ) :
    Prop where
  nonzero : ∀ i, steps i ≠ 0
  conjugate : ∀ i j, i ≠ j → steps i ⬝ᵥ hessian *ᵥ steps j = 0

namespace AreConjugate

variable {steps : Fin n → Fin n → ℝ} (conjugate : AreConjugate hessian steps)
  (posDef : hessian.PosDef)

include conjugate posDef

private theorem curvature_pos (i : Fin n) : 0 < steps i ⬝ᵥ hessian *ᵥ steps i := by
  have form := posDef.dotProduct_mulVec_pos (conjugate.nonzero i)
  rwa [star_trivial] at form

theorem change_curved (i : Fin n) : 0 < (hessian *ᵥ steps i) ⬝ᵥ steps i := by
  rw [dotProduct_comm]
  exact conjugate.curvature_pos posDef i

/-- Conjugate steps take a matrix to a diagonal one, so they span all directions. -/
theorem isUnit : IsUnit (Matrix.of steps) := by
  have diagonal : Matrix.of steps * (hessian * (Matrix.of steps)ᵀ) =
      Matrix.diagonal fun i => steps i ⬝ᵥ hessian *ᵥ steps i := by
    ext i j
    have entry : (Matrix.of steps * (hessian * (Matrix.of steps)ᵀ)) i j =
        steps i ⬝ᵥ hessian *ᵥ steps j := rfl
    rw [entry]
    rcases eq_or_ne i j with rfl | different
    · rw [diagonal_apply_eq]
    · rw [diagonal_apply_ne _ different, conjugate.conjugate i j different]
  have invertible : IsUnit (Matrix.of steps * (hessian * (Matrix.of steps)ᵀ)) := by
    rw [diagonal, isUnit_iff_isUnit_det, det_diagonal, isUnit_iff_ne_zero, Finset.prod_ne_zero_iff]
    exact fun i _ => ne_of_gt (conjugate.curvature_pos posDef i)
  rw [isUnit_iff_isUnit_det, det_mul] at invertible
  exact (isUnit_iff_isUnit_det _).mpr (isUnit_of_mul_isUnit_left invertible)

theorem eq_inv (explained : ∀ i, approximation *ᵥ hessian *ᵥ steps i = steps i) :
    approximation = hessian⁻¹ := by
  have columns : approximation * hessian * (Matrix.of steps)ᵀ = 1 * (Matrix.of steps)ᵀ := by
    rw [one_mul]
    ext j i
    have entry : (approximation * hessian * (Matrix.of steps)ᵀ) j i =
        ((approximation * hessian) *ᵥ steps i) j := rfl
    rw [entry, ← mulVec_mulVec, explained]
    rfl
  have spanning : IsUnit (Matrix.of steps)ᵀ := (isUnit_transpose _).mpr (conjugate.isUnit posDef)
  exact (inv_eq_left_inv (spanning.mul_right_cancel columns)).symm

end AreConjugate

/-! ## Explained steps -/

/-- A positive definite approximation that explains the first steps over which a gradient
changes as a Hessian tells. -/
structure Explains (approximation hessian : Matrix (Fin n) (Fin n) ℝ)
    (steps : Fin n → Fin n → ℝ) (count : Nat) : Prop where
  posDef : approximation.PosDef
  secant : ∀ i : Fin n, i < count → approximation *ᵥ hessian *ᵥ steps i = steps i

theorem Explains.learned {steps : Fin n → Fin n → ℝ} {i : Fin n}
    (explains : Explains approximation hessian steps i) (posDef : hessian.PosDef)
    (conjugate : AreConjugate hessian steps) :
    Explains (learned approximation (steps i) (hessian *ᵥ steps i)) hessian steps (i + 1) := by
  have symmetric := isHermitian_iff_isSymm.mp explains.posDef.isHermitian
  have curved := conjugate.change_curved posDef i
  refine ⟨learned_posDef explains.posDef curved, ?_⟩
  intro j within
  rcases eq_or_ne j i with rfl | different
  · exact learned_mulVec_self symmetric (ne_of_gt curved)
  · have earlier : approximation *ᵥ hessian *ᵥ steps j = steps j :=
      explains.secant j (by omega)
    have perpendicular : (hessian *ᵥ steps i) ⬝ᵥ approximation *ᵥ hessian *ᵥ steps j = 0 := by
      rw [earlier, dotProduct_comm, conjugate.conjugate j i different]
    rw [learned_mulVec_of_perpendicular symmetric (conjugate.conjugate i j different.symm)
      perpendicular, earlier]

end CurveFitting.Exact

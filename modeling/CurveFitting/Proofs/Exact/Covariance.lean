import Mathlib.Analysis.Matrix.PosDef
import CurveFitting.Covariance
import CurveFitting.Proofs.Exact.Linear

/-! # Covariances of exact approximations

A positive semidefinite approximation has a covariance, and an entry of it is never larger
than the product of the two standard errors it belongs to. So correlations are normalized.
-/

namespace CurveFitting

open Exact Matrix

variable {n : Nat} {entries : Matrix (Fin n) (Fin n) ℝ}

namespace Exact

/-! ## Normalized entries -/

private theorem entry_comm (semidefinite : entries.PosSemidef) (i j : Fin n) :
    entries j i = entries i j :=
  (isHermitian_iff_isSymm.mp semidefinite.isHermitian).apply i j

/-- No minor of two rows is negative. -/
theorem sq_entry_le (semidefinite : entries.PosSemidef) (i j : Fin n) :
    entries i j ^ 2 ≤ entries i i * entries j j := by
  have minor := (semidefinite.submatrix ![i, j]).det_nonneg
  rw [det_fin_two] at minor
  simp only [submatrix_apply, cons_val_zero, cons_val_one, entry_comm semidefinite i j] at minor
  rw [sq]
  exact sub_nonneg.mp minor

/-- An entry in units of the roots of the two entries on the diagonal that it belongs to. -/
noncomputable def normalized (entries : Matrix (Fin n) (Fin n) ℝ) (i j : Fin n) : ℝ :=
  entries i j / (√(entries i i) * √(entries j j))

theorem abs_normalized_le_one (semidefinite : entries.PosSemidef) (i j : Fin n) :
    |normalized entries i j| ≤ 1 := by
  have bounded : |entries i j| ≤ √(entries i i) * √(entries j j) := by
    rw [← Real.sqrt_mul semidefinite.diag_nonneg]
    exact Real.abs_le_sqrt (sq_entry_le semidefinite i j)
  rw [normalized, abs_div, abs_of_nonneg (by positivity : 0 ≤ √(entries i i) * √(entries j j))]
  exact div_le_one_of_le₀ bounded (by positivity)

theorem normalized_comm (semidefinite : entries.PosSemidef) (i j : Fin n) :
    normalized entries j i = normalized entries i j := by
  rw [normalized, normalized, entry_comm semidefinite, mul_comm]

theorem normalized_self {i : Fin n} (positive : 0 < entries i i) :
    normalized entries i i = 1 := by
  rw [normalized, Real.mul_self_sqrt (le_of_lt positive), div_self (ne_of_gt positive)]

theorem normalized_mul_sqrt {i j : Fin n} (first : 0 < entries i i) (second : 0 < entries j j) :
    normalized entries i j * √(entries i i) * √(entries j j) = entries i j := by
  have nonzero : √(entries i i) * √(entries j j) ≠ 0 :=
    (mul_pos (Real.sqrt_pos.mpr first) (Real.sqrt_pos.mpr second)).ne'
  rw [mul_assoc, normalized, div_mul_cancel₀ _ nonzero]

theorem normalized_smul {factor : ℝ} (positive : 0 < factor) (i j : Fin n) :
    normalized (factor • entries) i j = normalized entries i j := by
  have square : √factor * √factor = factor := Real.mul_self_sqrt (le_of_lt positive)
  simp only [normalized, Matrix.smul_apply, smul_eq_mul, Real.sqrt_mul (le_of_lt positive)]
  rw [mul_mul_mul_comm, square, mul_div_mul_left _ _ (ne_of_gt positive)]

/-! ## Covariances -/

noncomputable def covariance (entries : Matrix (Fin n) (Fin n) ℝ) : Covariance Exact n :=
  ⟨matrix entries⟩

theorem estimate_of_posSemidef (semidefinite : entries.PosSemidef) {errorDefinition : ℝ}
    (positive : 0 < errorDefinition) :
    Covariance.estimate (matrix entries) (real errorDefinition) =
      some (covariance ((2 * errorDefinition) • entries)) := by
  have variances (i : Fin n) : ¬(2 * errorDefinition) • entries i i < 0 :=
    not_lt.mpr (mul_nonneg (by positivity) semidefinite.diag_nonneg)
  rw [Covariance.estimate]
  simp only [double_eq, scale_matrix, isFinite_matrix, get_matrix, get_vector, zero_eq, lt_iff,
    Matrix.smul_apply, Bool.true_and]
  rw [if_pos, covariance]
  exact List.all_eq_true.mpr fun i _ => by simpa using variances i

section

variable (semidefinite : entries.PosSemidef)

include semidefinite

private theorem error_covariance (i : Fin n) :
    (covariance entries).error i = real √(entries i i) := by
  rw [Covariance.error, covariance, get_matrix, get_vector, sqrt_eq semidefinite.diag_nonneg]

theorem get_errors_covariance (i : Fin n) :
    (covariance entries).errors.get i = real √(entries i i) := by
  rw [← error_covariance semidefinite]
  exact Vector.getElem_ofFn ..

theorem correlation_covariance_of_zero {i j : Fin n} (zero : entries i i = 0 ∨ entries j j = 0) :
    (covariance entries).correlation i j = none := by
  unfold Covariance.correlation
  rw [dif_pos ⟨i.isLt, j.isLt⟩]
  dsimp only
  rw [error_covariance semidefinite, error_covariance semidefinite]
  refine if_pos (Bool.or_eq_true_iff.mpr (zero.imp ?_ ?_))
  · intro zero
    rw [zero_eq, beq_iff, zero, Real.sqrt_zero]
  · intro zero
    rw [zero_eq, beq_iff, zero, Real.sqrt_zero]

theorem correlation_covariance {i j : Fin n} (first : 0 < entries i i) (second : 0 < entries j j) :
    (covariance entries).correlation i j = some (real (normalized entries i j)) := by
  have firstRoot := (Real.sqrt_pos.mpr first).ne'
  have secondRoot := (Real.sqrt_pos.mpr second).ne'
  unfold Covariance.correlation
  rw [dif_pos ⟨i.isLt, j.isLt⟩]
  dsimp only
  rw [error_covariance semidefinite, error_covariance semidefinite, if_neg]
  · rw [covariance, get_matrix, get_vector, mul_eq, div_eq (mul_ne_zero firstRoot secondRoot),
      normalized]
  · rw [Bool.or_eq_true, zero_eq, beq_iff, beq_iff]
    exact not_or.mpr ⟨firstRoot, secondRoot⟩

theorem correlation_covariance_cases (i j : Fin n) :
    ((entries i i = 0 ∨ entries j j = 0) ∧
      (covariance entries).correlation i j = none) ∨
    (0 < entries i i ∧ 0 < entries j j ∧
      (covariance entries).correlation i j =
        some (real (normalized entries i j))) := by
  rcases semidefinite.diag_nonneg.eq_or_lt' with zero | first
  · exact .inl ⟨.inl zero, correlation_covariance_of_zero semidefinite (.inl zero)⟩
  rcases semidefinite.diag_nonneg.eq_or_lt' with zero | second
  · exact .inl ⟨.inr zero, correlation_covariance_of_zero semidefinite (.inr zero)⟩
  exact .inr ⟨first, second, correlation_covariance semidefinite first second⟩

end

end Exact

theorem Covariance.correlation_of_out_of_range {α : Type} [Scalar α] (covariance : Covariance α n)
    {i j : Nat} (outside : ¬(i < n ∧ j < n)) : covariance.correlation i j = none :=
  dif_neg outside

end CurveFitting

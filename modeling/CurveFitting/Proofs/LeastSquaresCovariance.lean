import CurveFitting.Proofs.Exact.Covariance
import CurveFitting.Proofs.LeastSquaresFit

/-! # The covariance of fits by least squares

The sum of squared residuals has the same Hessian everywhere, twice the normal matrix of
the data. A fit that converges has checked its approximation against it, so its
covariance is that of ordinary least squares, whatever steps led there.
-/

namespace CurveFitting

open Exact Matrix

variable {n : Nat}

namespace Exact

/-! ## Normal equations -/

/-- The powers of all abscissas of a dataset, one row for each point. -/
def design (points : List (ℝ × ℝ)) : Matrix (Fin points.length) (Fin n) ℝ :=
  Matrix.of fun k j => (points.get k).1 ^ j.val

def normalMatrix (points : List (ℝ × ℝ)) : Matrix (Fin n) (Fin n) ℝ :=
  (design points)ᵀ * design points

theorem squaresHessian_eq (points : List (ℝ × ℝ)) :
    squaresHessian points = (2 : ℝ) • (normalMatrix points : Matrix (Fin n) (Fin n) ℝ) := by
  rw [squaresHessian, ← Fin.sum_univ_fun_getElem, normalMatrix]
  ext i j
  rw [Matrix.sum_apply, Matrix.smul_apply, mul_apply, Finset.smul_sum]
  exact Finset.sum_congr rfl fun k _ => rfl

theorem normalMatrix_posDef {points : List (ℝ × ℝ)}
    (distinct : n ≤ (points.map Prod.fst).toFinset.card) :
    (normalMatrix points : Matrix (Fin n) (Fin n) ℝ).PosDef := by
  have halved := (squaresHessian_posDef distinct).smul (one_half_pos (α := ℝ))
  rw [squaresHessian_eq, smul_smul] at halved
  norm_num at halved
  exact halved

theorem inv_squaresHessian {points : List (ℝ × ℝ)}
    (distinct : n ≤ (points.map Prod.fst).toFinset.card) :
    (squaresHessian points : Matrix (Fin n) (Fin n) ℝ)⁻¹ =
      (1 / 2 : ℝ) • (normalMatrix points)⁻¹ := by
  have invertible := (isUnit_iff_isUnit_det _).mp (normalMatrix_posDef distinct).isUnit
  rw [squaresHessian_eq]
  apply inv_eq_left_inv
  rw [smul_mul_smul_comm, nonsing_inv_mul _ invertible]
  norm_num

/-! ## The covariance of an approximation -/

private theorem estimate_real {approximation : Matrix (Fin n) (Fin n) ℝ}
    (posDef : approximation.PosDef) {errorDefinition : ℝ} (positive : 0 < errorDefinition) :
    Covariance.estimate (matrix approximation) (real errorDefinition) =
      some ⟨matrix ((2 * errorDefinition) • approximation)⟩ :=
  estimate_of_posSemidef posDef.posSemidef positive

end Exact

/-! ## Converged fits -/

/-- A converged fit of a polynomial has the covariance of ordinary least squares: the error
definition times the inverse of the normal matrix, which is invertible. -/
theorem covariance_of_converged_fit {ω : Type} {degree : Nat} {points : List (ℝ × ℝ)}
    {errorDefinition : ℝ} {parameters : ParameterSet Exact} {config : Config Exact}
    {observer : Observer Exact ω} {origin final : Session Exact Unit ω}
    {minimum : Minimum Exact parameters.size}
    (distinct : degree + 1 ≤ (points.map Prod.fst).toFinset.card)
    (checking : config.refineHessian = true)
    (fitted : minimize (polynomialFit degree points errorDefinition).objective parameters config
      observer origin = (.ok minimum, final))
    (converged : minimum.status = .converged) :
    parameters.size = degree + 1 ∧
    IsUnit (normalMatrix points : Matrix (Fin parameters.size) (Fin parameters.size) ℝ) ∧
    minimum.covariance = some ⟨matrix (errorDefinition • (normalMatrix points)⁻¹)⟩ := by
  have minimizes := minimizes_minimize (polynomialFit degree points errorDefinition).objective
    parameters config observer origin
  rw [fitted] at minimizes
  cases minimizes with
  | @ended problem ending _ prepared ran =>
      have valid := Problem.validate_of_prepare prepared
      rcases Problem.prepare_eq_ok prepared with ⟨configured, given, _, defined⟩
      have size := size_of_validate valid
      have enough := size ▸ distinct
      have posDef := squaresHessian_posDef enough
      have confirmed := Problem.confirmed_of_run (configured ▸ checking) converged ran
      rcases confirmed.knowsAll (isQuadratic_squares points) posDef
          (given ▸ (total_objective valid).computes) (Problem.isPositive_of_prepare prepared)
          parameters.values_real with ⟨definition, _, definedReal, definitionPositive, knows⟩
      have equal : definition = errorDefinition := real.inj (definedReal.symm.trans defined)
      have estimated : (problem.result ending.status ending.state).covariance =
          Covariance.estimate ending.state.inverseHessian problem.errorDefinition := rfl
      have scaled : 2 * definition * (1 / 2) = errorDefinition := by linarith
      refine ⟨size, (normalMatrix_posDef enough).isUnit, ?_⟩
      rw [estimated, knows.inverseHessian, definedReal, estimate_real posDef.inv definitionPositive,
        inv_squaresHessian enough, smul_smul, scaled]

theorem OnePoint.normalMatrix_eq : (normalMatrix [(0, 1)] : Matrix (Fin 1) (Fin 1) ℝ) = 1 := by
  ext i j
  rw [Subsingleton.elim j i]
  simp [normalMatrix, design, mul_apply]

theorem covariance_of_fit_to_one_point : ∃ minimum final,
    minimize (polynomialFit 0 [(0, 1)] 1).objective singleParameter OnePoint.config
      OnePoint.insistent (Session.start () ()) = (.ok minimum, final) ∧
    minimum.status = .converged ∧ minimum.covariance = some ⟨matrix 1⟩ := by
  rcases OnePoint.converges with ⟨ending, last, ran, converged⟩
  have fitted := (minimize_of_prepare OnePoint.prepared).trans (Computation.bind_of_ok ran)
  rcases covariance_of_converged_fit (by decide) rfl fitted converged with ⟨_, _, covariance⟩
  have same : matrix ((1 : ℝ) • (normalMatrix [(0, 1)] : Matrix (Fin 1) (Fin 1) ℝ)⁻¹) =
      matrix 1 := by
    rw [OnePoint.normalMatrix_eq, inv_one, one_smul]
  exact ⟨_, _, fitted, converged,
    covariance.trans (congrArg (fun entries => some (Covariance.mk entries)) same)⟩

end CurveFitting

import CurveFitting.Proofs.Exact.Estimates
import CurveFitting.Proofs.LeastSquaresStep
import CurveFitting.Proofs.SecantEquations

/-! # Differences of quadratic functions

Central differences leave nothing out of a quadratic function. The gradient, the curvature and
the Hessian that they estimate are its own, whatever the perturbations.
-/

namespace CurveFitting

open Exact Matrix

variable {σ ε : Type} {n : Nat}

namespace Exact

noncomputable def quadratic (A : Matrix (Fin n) (Fin n) ℝ) (b : Fin n → ℝ) (c : ℝ)
    (x : Fin n → ℝ) : ℝ :=
  0.5 * (x ⬝ᵥ A *ᵥ x) + b ⬝ᵥ x + c

theorem isQuadratic_quadratic {A : Matrix (Fin n) (Fin n) ℝ} (symmetric : A.IsSymm)
    (b : Fin n → ℝ) (c : ℝ) : IsQuadratic (quadratic A b c) (fun x => A *ᵥ x + b) A where
  symmetric := symmetric
  expand x v := by
    have crossed : x ⬝ᵥ A *ᵥ v = v ⬝ᵥ A *ᵥ x := dotProduct_mulVec_comm x v symmetric
    simp only [quadratic, mulVec_add, dotProduct_add, add_dotProduct, crossed,
      dotProduct_comm (A *ᵥ x) v]
    ring

variable {objective : Objective Exact σ ε} {function : (Fin n → ℝ) → ℝ}
  {slope : (Fin n → ℝ) → Fin n → ℝ} {hessian : Matrix (Fin n) (Fin n) ℝ} {h : Fin n → ℝ}

namespace IsQuadratic

variable (quadratic : IsQuadratic function slope hessian) (positive : ∀ i, 0 < h i)
  (x : Fin n → ℝ)

include quadratic positive

private theorem firstDerivatives_eq :
    firstDerivatives h (fun probe => function (place x h probe)) = slope x :=
  funext fun i => quadratic.centralDifference x i (ne_of_gt (positive i))

private theorem secondDerivative_place (i j : Fin n) :
    secondDerivative (function x) h (fun probe => function (place x h probe)) i j =
      hessian i j := by
  unfold secondDerivative
  split
  · rename_i same
    rw [← same, ← two_mul]
    exact quadratic.secondDifference x i (ne_of_gt (positive i))
  · rw [← two_mul, ← two_mul]
    exact quadratic.mixedDifference x i j (ne_of_gt (positive i)) (ne_of_gt (positive j))

private theorem secondDerivatives_eq :
    secondDerivatives (function x) h (fun probe => function (place x h probe)) = hessian := by
  ext i j
  rw [secondDerivatives, of_apply, quadratic.secondDerivative_place positive,
    quadratic.secondDerivative_place positive, quadratic.symmetric.apply, ite_self]

end IsQuadratic

theorem AnswersWith.derivatives (answers : AnswersWith objective function)
    (quadratic : IsQuadratic function slope hessian) (differences : Differences Exact n)
    (x : Fin n → ℝ) (memory : σ) :
    (differences.gradient objective (vector x) (real (function x)) memory).1 =
        .ok ⟨vector (slope x), vector hessian.diag, 2 * n⟩ ∧
      (differences.hessian objective (vector x) (real (function x)) memory).1 =
        .ok ⟨matrix hessian, 2 * (n * n)⟩ := by
  rcases perturbations_real differences x with ⟨h, positive, perturbed⟩
  have samples := answers.sample_ensures x h
  rw [← perturbed] at samples
  constructor
  · rcases Differences.gradient_of_values trivial fun probe _ => samples probe with ⟨_, found, _⟩
    rw [found, perturbed, gradientOf_real positive, quadratic.firstDerivatives_eq positive]
    simp only [quadratic.secondDerivative_place positive]
    rfl
  · rcases Differences.hessian_of_values trivial fun probe _ => samples probe with ⟨_, found, _⟩
    rw [found, perturbed, hessianOf_real positive, quadratic.secondDerivatives_eq positive]

end Exact

/-- Central differences are exact on quadratic functions, whatever the steps. The gradient of
a least-squares cost is that of the normal equations, and its Hessian twice their matrix. -/
theorem differences_exact_on_quadratics (objective : Objective Exact σ ε)
    {A : Matrix (Fin n) (Fin n) ℝ} (symmetric : A.IsSymm) (b : Fin n → ℝ) (c : ℝ)
    (answers : AnswersWith objective (quadratic A b c)) (differences : Differences Exact n)
    (x : Fin n → ℝ) (memory : σ) :
    (differences.gradient objective (vector x) (real (quadratic A b c x)) memory).1 =
        .ok ⟨vector (A *ᵥ x + b), vector A.diag, 2 * n⟩ ∧
    (differences.hessian objective (vector x) (real (quadratic A b c x)) memory).1 =
        .ok ⟨matrix A, 2 * (n * n)⟩ ∧
    ∀ (degree : Nat) (points : List (ℝ × ℝ)) (errorDefinition : ℝ), points ≠ [] →
      ∀ (differences : Differences Exact (degree + 1)) (p : Fin (degree + 1) → ℝ),
      let problem := polynomialFit degree points errorDefinition
      let X := design points
      let Y := ordinates points
      ∃ cost, problem.cost (vector p).toList = .ok cost ∧
        ((differences.gradient problem.objective (vector p) cost ()).1.map
          (·.gradient)) = .ok (vector ((2 : ℝ) • (Xᵀ *ᵥ (X *ᵥ p - Y)))) ∧
        ((differences.hessian problem.objective (vector p) cost ()).1.map
          (·.hessian)) = .ok (matrix ((2 : ℝ) • (Xᵀ * X))) := by
  have estimated := answers.derivatives (isQuadratic_quadratic symmetric b c) differences x memory
  refine ⟨estimated.1, estimated.2, fun degree points errorDefinition nonempty differences p => ?_⟩
  have valid : (polynomialFit degree points errorDefinition).validate (degree + 1) = .ok () := by
    rcases List.exists_cons_of_ne_nil nonempty with ⟨first, rest, rfl⟩
    exact if_pos rfl
  have exact := (total_objective valid).answersWith.derivatives (isQuadratic_squares points)
    differences p ()
  refine ⟨_, cost_of_validate valid, ?_, ?_⟩
  · rw [exact.1, ← squaresSlope_eq]
    rfl
  · rw [exact.2, ← normalMatrix, ← squaresHessian_eq]
    rfl

noncomputable def tiltedCost : Objective Exact Unit Empty :=
  .ofFunction (fun point => match point with
    | [p, q] => p * p + p * q + q * q + p
    | _ => 0) 1

theorem tiltedCost_answersWith : AnswersWith tiltedCost (quadratic !![2, 1; 1, 2] ![1, 0] 0) := by
  intro point memory
  have entries : (vector point).toList = [real (point 0), real (point 1)] := rfl
  rw [entries]
  refine congrArg (fun value => Except.ok (real value)) ?_
  simp [quadratic, dotProduct, mulVec, Fin.sum_univ_two]
  ring

theorem tiltedCost_value : quadratic !![2, 1; 1, 2] ![1, 0] 0 ![1, 1] = 4 := by
  norm_num [quadratic, dotProduct, mulVec, Fin.sum_univ_two]

/-- Differences with unlike steps find the derivatives of the tilted cost, and those of a line
through two points. -/
theorem tiltedCost_differences_exact :
    let differences : Differences Exact 2 :=
      { steps := vector ![1, 3], relativeStep := real 2 }
    (differences.gradient tiltedCost (vector ![1, 1]) (real 4) ()).1 =
        .ok ⟨vector ![4, 3], vector ![2, 2], 4⟩ ∧
      (differences.hessian tiltedCost (vector ![1, 1]) (real 4) ()).1 =
        .ok ⟨matrix !![2, 1; 1, 2], 8⟩ ∧
      ∃ cost, (differences.hessian (polynomialFit 1 [(0, 1), (1, 3)] 1).objective
        (vector 0) cost ()).1.map (·.hessian) = .ok (matrix !![4, 2; 2, 2]) := by
  intro differences
  have symmetric := isHermitian_iff_isSymm.mp tilted_posDef.isHermitian
  rcases differences_exact_on_quadratics tiltedCost symmetric ![1, 0] 0 tiltedCost_answersWith
    differences ![1, 1] () with ⟨gradient, hessian, squares⟩
  have slope : !![2, 1; 1, 2] *ᵥ ![1, 1] + ![1, 0] = (![4, 3] : Fin 2 → ℝ) := by
    ext i
    fin_cases i <;> norm_num [mulVec, dotProduct, Fin.sum_univ_two]
  have curvature : (!![2, 1; 1, 2] : Matrix (Fin 2) (Fin 2) ℝ).diag = ![2, 2] := by
    ext i
    fin_cases i <;> rfl
  have normal : (2 : ℝ) • ((design [(0, 1), (1, 3)] : Matrix _ (Fin 2) ℝ)ᵀ *
      design [(0, 1), (1, 3)]) = !![4, 2; 2, 2] := by
    rw [← normalMatrix, ← squaresHessian_eq]
    ext i j
    fin_cases i <;> fin_cases j <;> norm_num [squaresHessian, vecMulVec_apply, powers]
  rw [tiltedCost_value, slope, curvature] at gradient
  rw [tiltedCost_value] at hessian
  rcases squares 1 [(0, 1), (1, 3)] 1 (by simp) differences 0 with ⟨atZero, _, _, second⟩
  rw [normal] at second
  exact ⟨gradient, hessian, atZero, second⟩

end CurveFitting

import CurveFitting.Linear.Cholesky

/-! # Approximations of the inverse Hessian

A fit keeps a symmetric approximation of the inverse Hessian of its cost. It
starts from the steps of the parameters, learns from the change of the gradient
over each step, and may be replaced by the inverse of a full Hessian.
-/

namespace CurveFitting.InverseHessian

variable {α : Type} [Scalar α] {n : Nat}

/-- The diagonal matrix of the squared steps. -/
def seed (steps : Vector α n) : RowMatrix α n n :=
  RowMatrix.diagonal (steps.map fun step => step * step)

/-- The symmetric rank-two update after a step `s` over which the gradient
changed by `y`. There is none unless the curvature `y · s` is positive and the
result is finite. -/
def update (inverseHessian : RowMatrix α n n) (s y : Vector α n) :
    Option (RowMatrix α n n) :=
  let curvature := dot y s
  if Scalar.isFinite curvature ∧ 0 < curvature then
    let rho := 1 / curvature
    let image := inverseHessian.mulVector y
    let cross := RowMatrix.outer s image + RowMatrix.outer image s
    let growth := RowMatrix.scale (RowMatrix.outer s s)
      (rho * rho * dot y image + rho)
    let next : RowMatrix α n n := inverseHessian - RowMatrix.scale cross rho + growth
    if next.isFinite then some next.symmetrize else none
  else
    none

/-- The inverse of a Hessian, if that is positive definite. -/
def ofHessian (hessian : RowMatrix α n n) : Option (RowMatrix α n n) :=
  (Cholesky.ofMatrix hessian).map fun factor => factor.inverse.symmetrize

/-- The estimated distance to the minimum: half the quadratic form of the
gradient in units of the error definition. A form that has no value counts as
infinitely far, a negative one as no distance. -/
def edm (gradient : Vector α n) (inverseHessian : RowMatrix α n n)
    (errorDefinition : α) : α :=
  let quadratic := dot gradient (inverseHessian.mulVector gradient)
  let distance := 0.5 * quadratic / errorDefinition
  if Scalar.isNaN distance then Scalar.infinity else Scalar.larger distance 0

end CurveFitting.InverseHessian

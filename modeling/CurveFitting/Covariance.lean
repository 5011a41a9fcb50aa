import CurveFitting.Linear.RowMatrix

/-! # Covariance

The covariance of fitted parameters is twice the error definition times the
inverse Hessian of the cost. Standard errors are the square roots of its
diagonal.
-/

namespace CurveFitting

structure Covariance (α : Type) (n : Nat) where
  matrix : RowMatrix α n n

namespace Covariance

variable {α : Type} [Scalar α] {n : Nat}

/-- There is no covariance if an entry is not finite or a variance is negative. -/
def estimate (inverseHessian : RowMatrix α n n) (errorDefinition : α) :
    Option (Covariance α n) :=
  let matrix := inverseHessian.scale (Scalar.double errorDefinition)
  if matrix.isFinite && (List.finRange n).all fun i => !decide ((matrix.get i).get i < 0) then
    some ⟨matrix⟩
  else
    none

/-- The standard error of a parameter. -/
def error (covariance : Covariance α n) (i : Fin n) : α :=
  Scalar.sqrt ((covariance.matrix.get i).get i)

/-- The standard errors in parameter order. -/
def errors (covariance : Covariance α n) : Vector α n :=
  Vector.ofFn covariance.error

/-- The correlation of two parameters. There is none if an index is out of
range or one of the two errors is zero. -/
def correlation (covariance : Covariance α n) (i j : Nat) : Option α :=
  if inRange : i < n ∧ j < n then
    let row : Fin n := ⟨i, inRange.1⟩
    let column : Fin n := ⟨j, inRange.2⟩
    if covariance.error row == 0 || covariance.error column == 0 then
      none
    else
      some ((covariance.matrix.get row).get column /
        (covariance.error row * covariance.error column))
  else
    none

/-- The correlations of all pairs of parameters, row by row. -/
def correlations (covariance : Covariance α n) : List (List (Option α)) :=
  (List.range n).map fun i => (List.range n).map fun j => covariance.correlation i j

/-- The covariance from a matrix of any shape, which must be square. -/
def ofRectangular {rows columns : Nat} (inverseHessian : RowMatrix α rows columns)
    (errorDefinition : α) : Option (Covariance α rows) :=
  if square : columns = rows then
    estimate (square ▸ inverseHessian) errorDefinition
  else
    none

end Covariance

end CurveFitting

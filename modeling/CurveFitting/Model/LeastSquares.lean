import CurveFitting.Objective

/-! # Least squares

A model predicts `y` from `x` and a vector of parameters. The polynomial of a
degree has its coefficients as parameters, lowest order first. The sum of the
squared residuals of a model over a dataset is an objective.
-/

namespace CurveFitting

structure CurveModel (α : Type) where
  parameterCount : Nat
  predict : (parameters : List α) → (x : α) → α

/-- The polynomial with the given coefficients, evaluated from the highest
order down. -/
def polynomialValue {α : Type} [Scalar α] (coefficients : List α) (x : α) : α :=
  coefficients.foldr (fun coefficient higher => higher * x + coefficient) 0

def polynomialModel {α : Type} [Scalar α] (degree : Nat) : CurveModel α where
  parameterCount := degree + 1
  predict := polynomialValue

structure DataPoint (α : Type) where
  x : α
  y : α

structure LeastSquares (α : Type) where
  model : CurveModel α
  points : List (DataPoint α)
  errorDefinition : α

/-- Why a least-squares cost has no value. -/
inductive LeastSquaresError where
  | emptyDataset
  | parameterCount (expected found : Nat)
  deriving DecidableEq

namespace LeastSquaresError

def message : LeastSquaresError → String
  | emptyDataset => "dataset is empty"
  | parameterCount expected found =>
      s!"model expects {expected} parameters, got {found}"

end LeastSquaresError

namespace LeastSquares

variable {α : Type} [Scalar α]

def residual (problem : LeastSquares α) (parameters : List α)
    (point : DataPoint α) : α :=
  problem.model.predict parameters point.x - point.y

def checkCount (problem : LeastSquares α) (found : Nat) :
    Except LeastSquaresError Unit :=
  if found = problem.model.parameterCount then
    .ok ()
  else
    .error (.parameterCount problem.model.parameterCount found)

/-- The residuals in the order of the dataset, which may be empty. -/
def residuals (problem : LeastSquares α) (parameters : List α) :
    Except LeastSquaresError (List α) := do
  problem.checkCount parameters.length
  return problem.points.map (problem.residual parameters)

/-- An empty dataset is reported before a wrong number of parameters. -/
def validate (problem : LeastSquares α) (count : Nat) :
    Except LeastSquaresError Unit :=
  if problem.points.isEmpty then .error .emptyDataset else problem.checkCount count

section

variable {problem : LeastSquares α} {count : Nat}

omit [Scalar α]

theorem validate_eq_ok_iff : problem.validate count = .ok () ↔
    problem.points ≠ [] ∧ count = problem.model.parameterCount := by
  rw [validate, checkCount, ne_eq, ← List.isEmpty_iff]
  split
  · rename_i empty
    exact iff_of_false nofun fun ⟨filled, _⟩ => filled empty
  · rename_i filled
    split
    · rename_i same
      exact iff_of_true rfl ⟨filled, same⟩
    · rename_i different
      exact iff_of_false nofun fun ⟨_, same⟩ => different same

theorem validate_eq_error_iff {cause : LeastSquaresError} :
    problem.validate count = .error cause ↔
      problem.points = [] ∧ cause = .emptyDataset ∨
      problem.points ≠ [] ∧ count ≠ problem.model.parameterCount ∧
        cause = .parameterCount problem.model.parameterCount count := by
  rw [validate, checkCount, ne_eq, ← List.isEmpty_iff]
  split
  · rename_i empty
    simp [empty, eq_comm]
  · rename_i filled
    split
    · rename_i same
      simp [filled, same]
    · rename_i different
      simp [filled, different, eq_comm]

end

/-- The sum of the squared residuals, in the order of the dataset. -/
def cost (problem : LeastSquares α) (parameters : List α) :
    Except LeastSquaresError α := do
  problem.validate parameters.length
  return problem.points.foldl (fun total point =>
    let residual := problem.residual parameters point
    total + residual * residual) 0

def objective (problem : LeastSquares α) : Objective α Unit LeastSquaresError where
  evaluate parameters := ExceptT.mk (pure (problem.cost parameters))
  validate := problem.validate
  errorDefinition := problem.errorDefinition

end LeastSquares

end CurveFitting

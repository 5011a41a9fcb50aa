import CurveFitting.Covariance

/-! # Results of a fit -/

namespace CurveFitting

/-- How a fit ended. -/
inductive Status where
  | converged
  /-- The limit on iterations or on evaluations came first. -/
  | reachedCallLimit
  /-- No lower cost was found while the distance was above tolerance. -/
  | aboveMaxEdm
  /-- The objective had a value that is not finite. -/
  | numericalFailure
  | stoppedByObserver
  deriving DecidableEq

namespace Status

def name : Status → String
  | converged => "Converged"
  | reachedCallLimit => "ReachedCallLimit"
  | aboveMaxEdm => "AboveMaxEdm"
  | numericalFailure => "NumericalFailure"
  | stoppedByObserver => "StoppedByObserver"

/-- Whether the values of the fit may be used. -/
def isValid (status : Status) : Bool := status = converged

end Status

/-- A parameter with its standard error, if the fit has a covariance. -/
structure FittedParameter (α : Type) where
  name : String
  value : α
  error : Option α

/-- The point at which a fit of `n` parameters ended. A fit that did not
converge still gives its best point. -/
structure Minimum (α : Type) (n : Nat) where
  status : Status
  parameters : Vector (FittedParameter α) n
  cost : α
  edm : α
  gradient : Vector α n
  covariance : Option (Covariance α n)
  errorDefinition : α
  iterations : Nat
  calls : Nat

/-- Why a fit has no result. Not to converge is no error. -/
inductive FitError (α ε : Type) where
  | noParameters
  | errorDefinition (value : α)
  | configuration (cause : ε)
  | objective (cause : ε)

namespace Minimum

variable {α : Type} {n : Nat}

def values (minimum : Minimum α n) : Vector α n := minimum.parameters.map (·.value)

def errors [Scalar α] (minimum : Minimum α n) : Option (Vector α n) :=
  minimum.covariance.map Covariance.errors

def parameter? (minimum : Minimum α n) (name : String) : Option (FittedParameter α) :=
  minimum.parameters.toList.find? (·.name == name)

end Minimum

end CurveFitting

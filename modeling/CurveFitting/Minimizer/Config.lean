import CurveFitting.Differences

/-! # Settings of a fit -/

namespace CurveFitting

/-- The schedules of a pool of threads, for derivatives by `n` parameters that are
begun after some number of calls. -/
abbrev Pool := (calls n : Nat) → Schedule n

/-- The pool with one thread. -/
def Pool.inOrder : Pool := fun _ _ => .inOrder

/-- Settings that have passed their checks. -/
structure Config (α : Type) [Scalar α] where
  /-- A fit has converged when its estimated distance to the minimum is below. -/
  tolerance : α
  maxIterations : Nat
  maxCalls : Option Nat
  /-- The share of the predicted decrease that a step must achieve. -/
  armijo : α
  /-- The smallest multiplier of a direction that the line search tries. -/
  minStep : α
  relativeStep : α
  /-- Whether convergence is confirmed by a full Hessian. -/
  refineHessian : Bool
  /-- Whether independent evaluations are made at the same time, on the pool. -/
  parallel : Bool
  /-- What the threads happen to do. Fits with the same settings differ in it. -/
  pool : Pool
  tolerance_finite : Scalar.isFinite tolerance = true
  tolerance_positive : 0 < tolerance
  armijo_positive : 0 < armijo
  armijo_lt_one : armijo < 1
  minStep_positive : 0 < minStep
  minStep_le_one : minStep ≤ 1
  relativeStep_finite : Scalar.isFinite relativeStep = true
  relativeStep_positive : 0 < relativeStep

inductive ConfigError where
  | tolerance
  | armijo
  | minStep
  | relativeStep
  deriving DecidableEq

namespace ConfigError

def message : ConfigError → String
  | tolerance => "tolerance must be finite and positive"
  | armijo => "armijo constant must lie in (0, 1)"
  | minStep => "minimum step multiplier must lie in (0, 1]"
  | relativeStep => "relative finite-difference step must be finite and positive"

end ConfigError

/-- Scalars among which the usual settings are valid. -/
class Scalar.HasUsualSettings (α : Type) [Scalar α] : Prop where
  thousandth_finite : Scalar.isFinite (1e-3 : α) = true
  thousandth_positive : 0 < (1e-3 : α)
  armijo_positive : 0 < (1e-4 : α)
  armijo_lt_one : (1e-4 : α) < 1
  minStep_positive : 0 < (1e-10 : α)
  minStep_le_one : (1e-10 : α) ≤ 1

instance : Scalar.HasUsualSettings Float where
  thousandth_finite := by decide +kernel
  thousandth_positive := by decide +kernel
  armijo_positive := by decide +kernel
  armijo_lt_one := by decide +kernel
  minStep_positive := by decide +kernel
  minStep_le_one := by decide +kernel

namespace Config

variable {α : Type} [Scalar α]

theorem finite_of_valid {value : α} (valid : Scalar.isFinite value = true ∧ 0 < value) :
    Scalar.isFinite value = true := valid.1

theorem positive_of_valid {value : α} (valid : Scalar.isFinite value = true ∧ 0 < value) :
    0 < value := valid.2

section

variable [Scalar.HasUsualSettings α]

/-- The given tolerance and limits, and the usual values of all else. -/
def standard (tolerance : α) (maxIterations : Nat) (maxCalls : Option Nat)
    (finite : Scalar.isFinite tolerance = true) (positive : 0 < tolerance) : Config α where
  tolerance := tolerance
  maxIterations := maxIterations
  maxCalls := maxCalls
  armijo := 1e-4
  minStep := 1e-10
  relativeStep := Differences.defaultRelativeStep
  refineHessian := true
  parallel := false
  pool := Pool.inOrder
  tolerance_finite := finite
  tolerance_positive := positive
  armijo_positive := Scalar.HasUsualSettings.armijo_positive
  armijo_lt_one := Scalar.HasUsualSettings.armijo_lt_one
  minStep_positive := Scalar.HasUsualSettings.minStep_positive
  minStep_le_one := Scalar.HasUsualSettings.minStep_le_one
  relativeStep_finite := Scalar.HasUsualSettings.thousandth_finite
  relativeStep_positive := Scalar.HasUsualSettings.thousandth_positive

protected def default : Config α :=
  standard 1e-3 1000 none Scalar.HasUsualSettings.thousandth_finite
    Scalar.HasUsualSettings.thousandth_positive

def new (tolerance : α) (maxIterations : Nat) (maxCalls : Option Nat) :
    Except ConfigError (Config α) :=
  if valid : Scalar.isFinite tolerance = true ∧ 0 < tolerance then
    .ok (standard tolerance maxIterations maxCalls (finite_of_valid valid)
      (positive_of_valid valid))
  else
    .error .tolerance

end

/-- Sets the decrease that a step must achieve and the smallest multiplier. -/
def withLineSearch (config : Config α) (armijo minStep : α) :
    Except ConfigError (Config α) :=
  if armijoValid : 0 < armijo ∧ armijo < 1 then
    if minStepValid : 0 < minStep ∧ minStep ≤ 1 then
      .ok { config with
        armijo := armijo
        minStep := minStep
        armijo_positive := armijoValid.1
        armijo_lt_one := armijoValid.2
        minStep_positive := minStepValid.1
        minStep_le_one := minStepValid.2 }
    else
      .error .minStep
  else
    .error .armijo

def withRelativeStep (config : Config α) (relativeStep : α) :
    Except ConfigError (Config α) :=
  if valid : Scalar.isFinite relativeStep = true ∧ 0 < relativeStep then
    .ok { config with
      relativeStep := relativeStep
      relativeStep_finite := finite_of_valid valid
      relativeStep_positive := positive_of_valid valid }
  else
    .error .relativeStep

/-- How many evaluations a fit of `n` parameters may make. -/
def callLimit (config : Config α) (n : Nat) : Nat :=
  config.maxCalls.getD (200 + 100 * n + 5 * (n * n))

end Config

end CurveFitting

import CurveFitting.Minimizer.Config
import CurveFitting.Minimizer.InverseHessian
import CurveFitting.Minimizer.LineSearch
import CurveFitting.Minimizer.Minimum
import CurveFitting.ParameterSet

/-! # Problems and states

What stays fixed during a fit, and what changes from step to step.
-/

namespace CurveFitting

/-- A fit of `n` parameters that has passed all checks. -/
structure Problem (α σ ε : Type) [Scalar α] (n : Nat) where
  objective : Objective α σ ε
  config : Config α
  names : Vector String n
  steps : Vector α n
  errorDefinition : α

/-- A point of a fit, with all that is known about the cost there. -/
structure State (α : Type) (n : Nat) where
  x : Vector α n
  cost : α
  gradient : Vector α n
  inverseHessian : RowMatrix α n n
  edm : α
  iterations : Nat
  calls : Nat

namespace State

variable {α : Type} [Scalar α] {n : Nat}

/-- The state with the distance that follows from its gradient and its
approximation. -/
def refreshEdm (state : State α n) (errorDefinition : α) : State α n :=
  { state with
    edm := InverseHessian.edm state.gradient state.inverseHessian errorDefinition }

def addCalls (state : State α n) (calls : Nat) : State α n :=
  { state with calls := state.calls + calls }

/-- The ray along which the approximation expects the minimum. -/
def ray (state : State α n) : Ray α n :=
  let direction := -(state.inverseHessian.mulVector state.gradient)
  { origin := state.x
    cost := state.cost
    direction := direction
    slope := dot state.gradient direction }

end State

namespace Problem

variable {α σ ε : Type} [Scalar α] {n : Nat}

def differences (problem : Problem α σ ε n) : Differences α n where
  steps := problem.steps
  relativeStep := problem.config.relativeStep
  parallel := problem.config.parallel

/-- The differences with the schedule that the pool has after some number of calls. -/
def differencesAfter (problem : Problem α σ ε n) (calls : Nat) : Differences α n :=
  { problem.differences with schedule := problem.config.pool calls n }

def seed (problem : Problem α σ ε n) : RowMatrix α n n :=
  InverseHessian.seed problem.steps

def callLimit (problem : Problem α σ ε n) : Nat := problem.config.callLimit n

/-- Checks that there are parameters, then the error definition, then that the
objective accepts the number of parameters. -/
def prepare (objective : Objective α σ ε) (parameters : ParameterSet α)
    (config : Config α) : Except (FitError α ε) (Problem α σ ε parameters.size) :=
  if parameters.isEmpty then
    .error .noParameters
  else if Scalar.isFinite objective.errorDefinition ∧ 0 < objective.errorDefinition then
    match objective.validate parameters.size with
    | .error cause => .error (.configuration cause)
    | .ok () => .ok {
        objective := objective
        config := config
        names := parameters.nameVector
        steps := parameters.steps
        errorDefinition := objective.errorDefinition }
  else
    .error (.errorDefinition objective.errorDefinition)

/-- The state with its approximation taken back to the seed. -/
def reset (problem : Problem α σ ε n) (state : State α n) : State α n :=
  { state with inverseHessian := problem.seed }

/-- The result of a fit that ends in a state. -/
def result (problem : Problem α σ ε n) (status : Status) (state : State α n) :
    Minimum α n :=
  let covariance := Covariance.estimate state.inverseHessian problem.errorDefinition
  { status := status
    parameters := Vector.ofFn fun i => {
      name := problem.names.get i
      value := state.x.get i
      error := covariance.map fun covariance => covariance.error i }
    cost := state.cost
    edm := state.edm
    gradient := state.gradient
    covariance := covariance
    errorDefinition := problem.errorDefinition
    iterations := state.iterations
    calls := state.calls }

end Problem

end CurveFitting

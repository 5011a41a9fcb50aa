import CurveFitting.Minimizer.State

/-! # Iterations

The moves of a fit: evaluating the starting point, a step to a lower cost, and
the replacement of the approximation by the inverse of a full Hessian. Each move
charges the calls that it makes when all goes well, also when it breaks off.
-/

namespace CurveFitting

/-- A state after the starting point, or after its cost or gradient turned out
not to be finite. -/
inductive Start (α : Type) (n : Nat) where
  | ready (state : State α n)
  | failed (state : State α n)

/-- How the search for a lower cost ends. The state is that before the step. -/
inductive Descent (α : Type) (n : Nat) where
  | accepted (trial : Trial α n) (state : State α n)
  | stalled (state : State α n)
  | outOfCalls (state : State α n)

/-- What an iteration comes to. All states but the first are those before the
step. -/
inductive Step (α : Type) (n : Nat) where
  | advanced (state : State α n) (multiplier : α) (updated : Bool)
  /-- No multiplier lowers the cost, not even along the direction of the seed. -/
  | stalled (state : State α n)
  | outOfCalls (state : State α n)
  /-- The gradient at the accepted point is not finite. -/
  | failed (state : State α n)

/-- What a full Hessian says about the approximation. -/
inductive Refinement (α : Type) (n : Nat) where
  | checked (state : State α n) (positiveDefinite : Bool)
  /-- A value around the point is not finite. -/
  | failed (state : State α n)

namespace Problem

variable {α σ ε : Type} [Scalar α] {n : Nat}

/-- The gradient at a point, if it is finite, after some number of calls. -/
def gradient? (problem : Problem α σ ε n) (calls : Nat) (x : Vector α n) (cost : α) :
    Evaluation σ ε (Option (GradientEstimate α n)) :=
  Differences.finiteOnly ((problem.differencesAfter calls).gradient problem.objective x cost)

/-- The Hessian at a point, if it is finite, after some number of calls. -/
def hessian? (problem : Problem α σ ε n) (calls : Nat) (x : Vector α n) (cost : α) :
    Evaluation σ ε (Option (HessianEstimate α n)) :=
  Differences.finiteOnly ((problem.differencesAfter calls).hessian problem.objective x cost)

/-- The state at the starting values, before their gradient is known. -/
def initialState (problem : Problem α σ ε n) (x : Vector α n) (cost : α) : State α n where
  x := x
  cost := cost
  gradient := Vector.replicate n 0
  inverseHessian := problem.seed
  edm := Scalar.infinity
  iterations := 0
  calls := 1

/-- Evaluates cost and gradient at the starting values. -/
def start (problem : Problem α σ ε n) (x : Vector α n) :
    Evaluation σ ε (Start α n) := do
  let cost ← problem.objective.evaluate x.toList
  let state := problem.initialState x cost
  if Scalar.isFinite cost then
    match ← problem.gradient? state.calls x cost with
    | none => return .failed (state.addCalls (2 * n))
    | some estimate =>
        let state := { state.addCalls estimate.calls with gradient := estimate.gradient }
        return .ready (state.refreshEdm problem.errorDefinition)
  else
    return .failed state

/-- One line search from a state, along its own ray. -/
def lineSearch (problem : Problem α σ ε n) (state : State α n) :
    Evaluation σ ε (Descent α n) := do
  let found ← LineSearch.backtrack problem.objective state.ray problem.config.armijo
    problem.config.minStep problem.callLimit state.calls
  let state := { state with calls := found.calls }
  match found.outcome with
  | .error error => throw error
  | .ok (.accepted trial) => return .accepted trial state
  | .ok .stalled => return .stalled state
  | .ok .outOfCalls => return .outOfCalls state

/-- Searches for a lower cost. The approximation is taken back to the seed, at
most once, if it points uphill or if no multiplier lowers the cost. -/
def descend (problem : Problem α σ ε n) (state : State α n) :
    Evaluation σ ε (Descent α n) :=
  if 0 < state.ray.slope then
    problem.lineSearch (problem.reset state)
  else do
    match ← problem.lineSearch state with
    | .stalled state =>
        if state.inverseHessian == problem.seed then
          return .stalled state
        else
          problem.lineSearch (problem.reset state)
    | descent => return descent

/-- The state after a step to an accepted point, and whether the approximation
learned from it. -/
def moveTo (problem : Problem α σ ε n) (state : State α n) (trial : Trial α n)
    (estimate : GradientEstimate α n) : State α n × Bool :=
  let learned := InverseHessian.update state.inverseHessian (trial.x - state.x)
    (estimate.gradient - state.gradient)
  let next : State α n := {
    x := trial.x
    cost := trial.cost
    gradient := estimate.gradient
    inverseHessian := learned.getD state.inverseHessian
    edm := state.edm
    iterations := state.iterations + 1
    calls := state.calls + estimate.calls }
  (next.refreshEdm problem.errorDefinition, learned.isSome)

/-- Takes one step. -/
def iterate (problem : Problem α σ ε n) (state : State α n) :
    Evaluation σ ε (Step α n) := do
  match ← problem.descend state with
  | .stalled state => return .stalled state
  | .outOfCalls state => return .outOfCalls state
  | .accepted trial state =>
      match ← problem.gradient? state.calls trial.x trial.cost with
      | none => return .failed (state.addCalls (2 * n))
      | some estimate =>
          let (next, updated) := problem.moveTo state trial estimate
          return .advanced next trial.step updated

/-- Puts the inverse of the full Hessian in place of the approximation, if the
Hessian is positive definite. -/
def refine (problem : Problem α σ ε n) (state : State α n) :
    Evaluation σ ε (Refinement α n) := do
  match ← problem.hessian? state.calls state.x state.cost with
  | none => return .failed (state.addCalls (2 * (n * n)))
  | some estimate =>
      let state := state.addCalls estimate.calls
      match InverseHessian.ofHessian estimate.hessian with
      | none => return .checked state false
      | some inverse =>
          let state := { state with inverseHessian := inverse }
          return .checked (state.refreshEdm problem.errorDefinition) true

end Problem

end CurveFitting

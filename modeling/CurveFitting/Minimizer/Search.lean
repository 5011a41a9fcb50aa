import CurveFitting.Minimizer.Iteration
import CurveFitting.Minimizer.Run

/-! # Minimization

The loop of a fit. It takes steps until the estimated distance to the minimum is
below tolerance and a full Hessian agrees, or until a limit, a failure or the
observer ends it.
-/

namespace CurveFitting

/-- The state in which a fit ends, and why. -/
structure Ending (α : Type) (n : Nat) where
  status : Status
  state : State α n

/-- A check against a full Hessian lets the fit go on or ends it. -/
inductive Check (α : Type) (n : Nat) where
  | passed (state : State α n)
  | ended (ending : Ending α n)

namespace Problem

variable {α σ ω ε : Type} [Scalar α] {n : Nat}

/-- Whether the estimated distance of a state is below tolerance. -/
def isClose (problem : Problem α σ ε n) (state : State α n) : Bool :=
  state.edm < problem.config.tolerance

/-- Checks the approximation against a full Hessian and tells the observer,
unless the evaluations do not fit the limit. Of the answers of the observer only
the one that stops the fit has an effect. -/
def check (problem : Problem α σ ε n) (observer : Observer α ω) (state : State α n) :
    Run α σ ω ε (Check α n) := do
  if problem.callLimit < state.calls + 2 * (n * n) then
    Run.note (.noRoomForCheck state.calls state.edm)
    return .ended ⟨.reachedCallLimit, state⟩
  else
    match ← Run.evaluate (problem.refine state) with
    | .failed failed =>
        Run.note (.nonFiniteHessian failed.calls)
        return .ended ⟨.numericalFailure, failed⟩
    | .checked next positiveDefinite =>
        if !positiveDefinite then
          Run.note (.notPositiveDefinite next.edm)
        Run.note (.refined state.edm next.edm next.calls)
        let answer ← Run.emit observer (.refined next.iterations next.calls
          next.x.toList state.edm next.edm positiveDefinite)
        if answer = some .stopEarly then
          return .ended ⟨.stoppedByObserver, next⟩
        else
          return .passed next

/-- Decides how a fit ends that finds no lower cost. Close to a minimum rounding
alone can defeat the line search, so a close state that passes the check counts
as converged. -/
def settle (problem : Problem α σ ε n) (observer : Observer α ω) (state : State α n) :
    Run α σ ω ε (Ending α n) := do
  let checked ←
    if problem.isClose state && problem.config.refineHessian then
      problem.check observer state
    else
      pure (.passed state)
  match checked with
  | .ended ending => return ending
  | .passed state =>
      if problem.isClose state then
        return ⟨.converged, state⟩
      else
        Run.note (.stalled state.edm state.cost)
        return ⟨.aboveMaxEdm, state⟩

/-- Ends a fit that has used up its iterations or its calls. -/
def limitReached (state : State α n) : Run α σ ω ε (Ending α n) := do
  Run.note (.limitReached state.iterations state.calls state.edm)
  return ⟨.reachedCallLimit, state⟩

/-- Tells the observer of a step, and checks the approximation where it asks for
that or where the fit seems to have converged. -/
def afterStep (problem : Problem α σ ε n) (observer : Observer α ω)
    (state : State α n) (multiplier : α) (updated : Bool) :
    Run α σ ω ε (Check α n) := do
  Run.note (.iterated state.iterations state.calls state.cost state.edm multiplier updated)
  let answer ← Run.emit observer (.iterated state.iterations state.calls
    state.x.toList state.cost state.edm multiplier updated)
  if answer = some .stopEarly then
    return .ended ⟨.stoppedByObserver, state⟩
  else if answer = some .refineHessian ||
      problem.isClose state && problem.config.refineHessian then
    problem.check observer state
  else
    return .passed state

/-- Takes steps from a state, at most as many as `remaining`. -/
def search (problem : Problem α σ ε n) (observer : Observer α ω) :
    (remaining : Nat) → State α n → Run α σ ω ε (Ending α n)
  | 0, state => limitReached state
  | remaining + 1, state =>
      if problem.callLimit ≤ state.calls then
        limitReached state
      else do
        match ← Run.evaluate (problem.iterate state) with
        | .stalled state => problem.settle observer state
        | .outOfCalls state =>
            Run.note (.limitReachedInLineSearch state.calls)
            return ⟨.reachedCallLimit, state⟩
        | .failed state =>
            Run.note (.nonFiniteGradient state.calls)
            return ⟨.numericalFailure, state⟩
        | .advanced state multiplier updated =>
            match ← problem.afterStep observer state multiplier updated with
            | .ended ending => return ending
            | .passed state =>
                if problem.isClose state then
                  return ⟨.converged, state⟩
                else
                  problem.search observer remaining state

/-- Runs a fit from its starting values to its end. -/
def run (problem : Problem α σ ε n) (observer : Observer α ω) (x : Vector α n) :
    Run α σ ω ε (Ending α n) := do
  match ← Run.evaluate (problem.start x) with
  | .failed state =>
      Run.note (.nonFiniteStart state.cost)
      return ⟨.numericalFailure, state⟩
  | .ready state =>
      Run.note (.started state.cost state.edm state.calls)
      problem.search observer problem.config.maxIterations state

end Problem

/-- Minimizes an objective over a set of parameters. -/
def minimize {α σ ω ε : Type} [Scalar α] (objective : Objective α σ ε)
    (parameters : ParameterSet α) (config : Config α) (observer : Observer α ω) :
    Run α σ ω ε (Minimum α parameters.size) := do
  let problem ← liftM (Problem.prepare objective parameters config)
  let ending ← problem.run observer parameters.values
  let state := ending.state
  Run.note (.finished ending.status state.iterations state.calls state.cost state.edm)
  return problem.result ending.status state

end CurveFitting

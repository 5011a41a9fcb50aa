import CurveFitting.Objective

/-! # Objectives that break down

An objective that answers for a while and then no longer does, to see how a fit
copes with it.
-/

namespace CurveFitting

/-- How many evaluations an objective answers before it refuses every further
one, and before it answers with no number. -/
structure FaultPlan where
  refusesAfter : Option Nat
  missingAfter : Option Nat

/-- The errors of an objective that may refuse to answer. -/
inductive Fault (ε : Type) where
  | refused
  | inner (error : ε)

namespace Fault

def message {ε : Type} (describe : ε → String) : Fault ε → String
  | refused => "refused"
  | inner error => describe error

end Fault

namespace Objective

variable {α σ ε : Type} [Scalar α]

/-- The objective with a count of its evaluations, which breaks down as planned.
Past the breakdown the objective inside is no longer evaluated. -/
def withFaults (objective : Objective α σ ε) (plan : FaultPlan) :
    Objective α (Nat × σ) (Fault ε) where
  evaluate point := fun (count, memory) =>
    if plan.refusesAfter.any (· ≤ count) then
      (.error .refused, count + 1, memory)
    else if plan.missingAfter.any (· ≤ count) then
      (.ok Scalar.notANumber, count + 1, memory)
    else
      let (answer, memory) := objective.evaluate point memory
      (answer.mapError .inner, count + 1, memory)
  validate count := (objective.validate count).mapError .inner
  errorDefinition := objective.errorDefinition

end Objective

end CurveFitting

import CurveFitting.Scalar

/-! # Events of a fit

A fit tells of every accepted step and of every check against a full Hessian.
The answer to an event may end the fit or ask for such a check.
-/

namespace CurveFitting

inductive Event (α : Type) where
  /-- A step was accepted. The numbers are those after the step. -/
  | iterated (iteration calls : Nat) (x : List α) (cost edm step : α) (updated : Bool)
  /-- The approximation was checked against a full Hessian, and kept if that was
  not positive definite. -/
  | refined (iteration calls : Nat) (x : List α) (edmBefore edm : α)
      (positiveDefinite : Bool)

inductive Action where
  | stopEarly
  | refineHessian
  deriving DecidableEq

namespace Event

variable {α : Type}

def iteration : Event α → Nat
  | iterated iteration .. => iteration
  | refined iteration .. => iteration

def calls : Event α → Nat
  | iterated _ calls .. => calls
  | refined _ calls .. => calls

def x : Event α → List α
  | iterated _ _ x .. => x
  | refined _ _ x .. => x

def edm : Event α → α
  | iterated _ _ _ _ edm .. => edm
  | refined _ _ _ _ edm _ => edm

/-- The cost after a step. A check does not change it and tells none. -/
def cost? : Event α → Option α
  | iterated _ _ _ cost .. => some cost
  | refined .. => none

/-- The cost, or the mark of a missing value. -/
def cost [Scalar α] (event : Event α) : α := event.cost?.getD Scalar.notANumber

end Event

end CurveFitting

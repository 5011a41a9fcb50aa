import CurveFitting.Linear.RowMatrix
import CurveFitting.Objective

/-! # Line search

Along a direction the multipliers `1, 1/2, 1/4, …` are tried in turn, until one
of them lowers the cost by enough.
-/

namespace CurveFitting

/-- A point with its cost, a direction from it, and the slope of the cost along
that direction. -/
structure Ray (α : Type) (n : Nat) where
  origin : Vector α n
  cost : α
  direction : Vector α n
  slope : α

/-- A point that the line search has accepted. -/
structure Trial (α : Type) (n : Nat) where
  step : α
  x : Vector α n
  cost : α

namespace LineSearch

/-- How a line search ends: with a point, with no multiplier left, or with no
evaluation left to make. -/
inductive Outcome (α : Type) (n : Nat) where
  | accepted (trial : Trial α n)
  | stalled
  | outOfCalls

/-- What a line search comes to, and the number of calls made by then. A call
that the objective refused is not counted. -/
structure Result (α : Type) (n : Nat) (ε : Type) where
  calls : Nat
  outcome : Except ε (Outcome α n)

end LineSearch

namespace Ray

variable {α σ ε : Type} [Scalar α] {n : Nat}

def point (ray : Ray α n) (step : α) : Vector α n :=
  ray.origin + scaleVector ray.direction step

/-- Whether a cost found at `step` is finite and low enough. -/
def accepts (ray : Ray α n) (armijo step value : α) : Bool :=
  Scalar.isFinite value && decide (value ≤ ray.cost + armijo * step * ray.slope)

end Ray

namespace LineSearch

variable {α σ ε : Type} [Scalar α] {n : Nat}

/-- At most `count` multipliers, each half of the one before, from `step` on as
long as they reach the floor. -/
def halvingsFrom (floor : α) : (count : Nat) → (step : α) → List α
  | 0, _ => []
  | count + 1, step =>
      if floor ≤ step then step :: halvingsFrom floor count (step * 0.5) else []

/-- All multipliers that reach the floor. -/
def multipliers (floor : α) : List α := halvingsFrom floor (Scalar.halvings floor) 1

/-- Tries the multipliers of a list in turn. -/
def tryEach (objective : Objective α σ ε) (ray : Ray α n) (armijo : α)
    (callLimit : Nat) : (steps : List α) → (calls : Nat) → StateM σ (Result α n ε)
  | [], calls => pure ⟨calls, .ok .stalled⟩
  | step :: steps, calls =>
      if callLimit ≤ calls then
        pure ⟨calls, .ok .outOfCalls⟩
      else do
        let x := ray.point step
        match ← (objective.evaluate x.toList).run with
        | .error error => pure ⟨calls, .error error⟩
        | .ok value =>
            if ray.accepts armijo step value then
              pure ⟨calls + 1, .ok (.accepted ⟨step, x, value⟩)⟩
            else
              tryEach objective ray armijo callLimit steps (calls + 1)

/-- Searches along a ray, after `calls` evaluations have been made. -/
def backtrack (objective : Objective α σ ε) (ray : Ray α n) (armijo minStep : α)
    (callLimit calls : Nat) : StateM σ (Result α n ε) :=
  tryEach objective ray armijo callLimit (multipliers minStep) calls

end LineSearch

end CurveFitting

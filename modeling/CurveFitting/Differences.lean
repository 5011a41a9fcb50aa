import CurveFitting.Linear.RowMatrix
import CurveFitting.Objective

/-! # Central differences

Derivatives of an objective from its values at pairs and quadruples of points
around a point. The evaluations for one derivative are a job. Jobs are done in a
fixed order, or at the same time, when they take turns at the objective. The
first value that cannot be used ends the estimate, or the first one reported.
-/

namespace CurveFitting

/-- The turns of jobs that are done at the same time. With its turn a job makes
one evaluation, or reports that its last one has failed, which ends the others.
What they still evaluate after a report comes before it in the schedule. What the
turns leave is done in order. -/
structure Schedule (n : Nat) where
  gradient : List (Fin n)
  hessian : List (Fin n × Fin n)

/-- The schedule without turns, by which all jobs are done in order. -/
def Schedule.inOrder {n : Nat} : Schedule n := ⟨[], []⟩

/-- How far each parameter is moved, a fraction of its step, but never less
than the resolution of the arithmetic at its value, and whether the evaluations
are made at the same time. The schedule is not chosen. It stands for what the
threads happen to do. -/
structure Differences (α : Type) (n : Nat) where
  steps : Vector α n
  relativeStep : α
  parallel : Bool := false
  schedule : Schedule n := .inOrder

/-- Why a derivative has no estimate. -/
inductive DifferenceError (α ε : Type) where
  | objective (cause : ε)
  | nonFinite (index : Nat) (value : α)

structure GradientEstimate (α : Type) (n : Nat) where
  gradient : Vector α n
  /-- The second derivatives by each parameter alone. -/
  curvature : Vector α n
  calls : Nat

structure HessianEstimate (α : Type) (n : Nat) where
  hessian : RowMatrix α n n
  calls : Nat

namespace Differences

variable {α σ ε : Type} [Scalar α] {n : Nat}

def defaultRelativeStep : α := 1e-3

/-- The square root of the distance from one to the next binary64 number,
`2^-26`. -/
def resolution : α := 1.490116119384765625e-8

def perturbation (differences : Differences α n) (i : Fin n) (value : α) : α :=
  Scalar.larger (differences.relativeStep * differences.steps.get i)
    (resolution * (1 + Scalar.abs value))

/-- The perturbation of every parameter at a point. -/
def perturbations (differences : Differences α n) (x : Vector α n) : Vector α n :=
  Vector.ofFn fun i => differences.perturbation i (x.get i)

def shift (x : Vector α n) (i : Fin n) (distance : α) : Vector α n :=
  x.set i (x.get i + distance) i.isLt

/-- The value at a point near the one that is differenced, while parameter `i`
is perturbed. -/
def sample (objective : Objective α σ ε) (i : Fin n) (point : Vector α n) :
    Evaluation σ (DifferenceError α ε) α := do
  let value ← ExceptT.adapt .objective (objective.evaluate point.toList)
  if Scalar.isFinite value then pure value else throw (.nonFinite i value)

/-! ## Jobs -/

/-- Evaluations that follow one another, up to a result. -/
inductive Job (α : Type) (n : Nat) (β : Type) where
  | done (result : β)
  | asks (i : Fin n) (point : Vector α n) (next : α → Job α n β)

/-- What is left of a job, or the error that it has met and not yet reported. -/
abbrev Progress (α ε : Type) (n : Nat) (β : Type) := Except (DifferenceError α ε) (Job α n β)

section

variable {β : Type} (objective : Objective α σ ε)

/-- Does all of a job. -/
def Job.run : Job α n β → Evaluation σ (DifferenceError α ε) β
  | done result => pure result
  | asks i point next => do
      let value ← sample objective i point
      (next value).run

/-- One turn of a job. -/
def advance : Progress α ε n β → Evaluation σ (DifferenceError α ε) (Progress α ε n β)
  | .error error => throw error
  | .ok (.done result) => pure (.ok (.done result))
  | .ok (.asks i point next) => fun memory =>
      let (answer, memory) := sample objective i point memory
      (.ok (answer.map next), memory)

/-- Does what is left of a job. -/
def finish : Progress α ε n β → Evaluation σ (DifferenceError α ε) β
  | .error error => throw error
  | .ok job => job.run objective

/-- Lets jobs take turns. -/
def takeTurns {ι : Type} [DecidableEq ι] :
    List ι → (ι → Progress α ε n β) →
      Evaluation σ (DifferenceError α ε) (ι → Progress α ε n β)
  | [], jobs => pure jobs
  | turn :: turns, jobs => do
      let moved ← advance objective (jobs turn)
      takeTurns turns fun i => if i = turn then moved else jobs i

end

/-! ## Derivatives -/

/-- The values one perturbation above and below a point. -/
def pair (x h : Vector α n) (i : Fin n) : Job α n (α × α) :=
  .asks i (shift x i (h.get i)) fun above =>
    .asks i (shift x i (-h.get i)) fun below => .done (above, below)

/-- The second difference along one parameter. -/
def secondDifference (cost h : α) (pair : α × α) : α :=
  (pair.1 + pair.2 - Scalar.double cost) / (h * h)

/-- The second derivative by parameters `i` and `j`, from two values if they are
the same and from the four corners around the point otherwise. -/
def entry (x : Vector α n) (cost : α) (h : Vector α n) (i j : Fin n) : Job α n α :=
  if i = j then
    .asks i (shift x i (h.get i)) fun above =>
      .asks i (shift x i (-h.get i)) fun below =>
        .done (secondDifference cost (h.get i) (above, below))
  else
    let corner (left right : α) := Job.asks i (shift (shift x i left) j right)
    corner (h.get i) (h.get j) fun aboveAbove =>
      corner (h.get i) (-h.get j) fun aboveBelow =>
        corner (-h.get i) (h.get j) fun belowAbove =>
          corner (-h.get i) (-h.get j) fun belowBelow =>
            .done ((aboveAbove - aboveBelow - belowAbove + belowBelow) /
              (Scalar.double (Scalar.double (h.get i)) * h.get j))

/-- Gradient and curvature at a point where the objective has the value `cost`. -/
def gradient (differences : Differences α n) (objective : Objective α σ ε)
    (x : Vector α n) (cost : α) :
    Evaluation σ (DifferenceError α ε) (GradientEstimate α n) := do
  let h := differences.perturbations x
  let turns := if differences.parallel then differences.schedule.gradient else []
  let jobs ← takeTurns objective turns fun i => .ok (pair x h i)
  let pairs ← Vector.ofFnM fun i => finish objective (jobs i)
  return {
    gradient := Vector.ofFn fun i =>
      ((pairs.get i).1 - (pairs.get i).2) / Scalar.double (h.get i)
    curvature := Vector.ofFn fun i => secondDifference cost (h.get i) (pairs.get i)
    calls := 2 * n }

/-- The Hessian at a point where the objective has the value `cost`. Only the
entries on and above the diagonal are evaluated, row by row in order. -/
def hessian (differences : Differences α n) (objective : Objective α σ ε)
    (x : Vector α n) (cost : α) :
    Evaluation σ (DifferenceError α ε) (HessianEstimate α n) := do
  let h := differences.perturbations x
  let turns := if differences.parallel then differences.schedule.hessian else []
  let jobs ← takeTurns objective turns fun (place : Fin n × Fin n) =>
    .ok (if place.1 ≤ place.2 then entry x cost h place.1 place.2 else .done 0)
  let upper : RowMatrix α n n ← Vector.ofFnM fun i => Vector.ofFnM fun j =>
    finish objective (jobs (i, j))
  return {
    hessian := RowMatrix.ofEntries fun i j =>
      if i ≤ j then (upper.get i).get j else (upper.get j).get i
    calls := 2 * n + 2 * (n * (n - 1)) }

/-- Takes a value that is not finite for an answer, and passes on the errors of
the objective itself. -/
def finiteOnly {β : Type} (estimate : Evaluation σ (DifferenceError α ε) β) :
    Evaluation σ ε (Option β) := fun memory =>
  match estimate memory with
  | (.ok result, memory) => (.ok (some result), memory)
  | (.error (.nonFinite _ _), memory) => (.ok none, memory)
  | (.error (.objective cause), memory) => (.error cause, memory)

end Differences

end CurveFitting

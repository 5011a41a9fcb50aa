import CurveFitting.Proofs.PositiveDefinite
import CurveFitting.Proofs.Exact.Quadratic

/-! # Fits of quadratic objectives

A fit of a quadratic objective knows the gradient at every point it comes to, and a full
Hessian tells it all second derivatives. So where it converges, the estimated distance
is the distance to the minimum.
-/

namespace CurveFitting

open Exact Matrix

variable {σ ω ε : Type} {n : Nat}

def State.Knows (state : State Exact n) (function : (Fin n → ℝ) → ℝ)
    (slope : (Fin n → ℝ) → Fin n → ℝ) : Prop :=
  ∃ x, state.x = vector x ∧ state.cost = real (function x) ∧ state.gradient = vector (slope x)

/-- A state at the point `x` has the cost and all derivatives of a function there, and so
the exact distance. -/
structure State.KnowsAll (state : State Exact n) (function : (Fin n → ℝ) → ℝ)
    (slope : (Fin n → ℝ) → Fin n → ℝ) (hessian : Matrix (Fin n) (Fin n) ℝ) (definition : ℝ)
    (x : Fin n → ℝ) : Prop where
  point : state.x = vector x
  cost : state.cost = real (function x)
  gradient : state.gradient = vector (slope x)
  inverseHessian : state.inverseHessian = matrix hessian⁻¹
  edm : state.edm = real (1 / 2 * (slope x ⬝ᵥ hessian⁻¹ *ᵥ slope x) / definition)

namespace Problem

variable {problem : Problem Exact σ ε n} {state : State Exact n} {memory after : σ}
  {function : (Fin n → ℝ) → ℝ} {slope : (Fin n → ℝ) → Fin n → ℝ}
  {hessian : Matrix (Fin n) (Fin n) ℝ}

private theorem knows_of_descend {descent : Descent Exact n} (knows : state.Knows function slope)
    (search : problem.descend state memory = (.ok descent, after)) :
    descent.state.Knows function slope := by
  rcases descend_eq_ok search with ⟨first, middle, last, rfl | ⟨calls, rfl⟩⟩
  · rcases lineSearch_eq_ok last with ⟨outcome, _, rfl, _⟩
    rw [Descent.state_ofOutcome]
    exact knows
  · rcases lineSearch_eq_ok last with ⟨outcome, _, rfl, _⟩
    rw [Descent.state_ofOutcome]
    exact knows

theorem gradient_of_some (quadratic : IsQuadratic function slope hessian)
    (computes : Computes problem.objective function) {calls : Nat}
    {x : Fin n → ℝ} {cost : Exact} {estimate : GradientEstimate Exact n}
    (found : problem.gradient? calls (vector x) cost memory = (.ok (some estimate), after)) :
    estimate.gradient = vector (slope x) := by
  rcases gradient_real (Differences.finiteOnly_eq_some found) with
    ⟨h, gradient, positive, equal, differences⟩
  rw [equal, quadratic.gradient_eq computes positive differences]

theorem knows_of_start {x : Fin n → ℝ} (quadratic : IsQuadratic function slope hessian)
    (computes : Computes problem.objective function)
    (started : problem.start (vector x) memory = (.ok (.ready state), after)) :
    state.Knows function slope := by
  have starts := problem.starts_start memory (vector x)
  rw [started] at starts
  cases starts with
  | ready value finite gradient =>
      rcases isFinite_iff.mp finite with ⟨cost, rfl⟩
      have equal := computes x cost ⟨_, _, value⟩
      exact ⟨x, rfl, congrArg real equal, gradient_of_some quadratic computes gradient⟩

private theorem knows_of_iterate {step : Step Exact n}
    (quadratic : IsQuadratic function slope hessian)
    (computes : Computes problem.objective function) (positive : problem.IsPositive)
    (definite : state.IsDefinite) (knows : state.Knows function slope)
    (iteration : problem.iterate state memory = (.ok step, after)) :
    step.state.Knows function slope := by
  have iterates := problem.iterates_iterate state memory
  rw [iteration] at iterates
  cases iterates with
  | stalled descent => exact (knows_of_descend knows descent :)
  | outOfCalls descent => exact (knows_of_descend knows descent :)
  | failed descent => exact (knows_of_descend knows descent :)
  | advanced descent gradient =>
      rcases (isDefinite_of_descend positive definite descent).2 _ _ rfl with
        ⟨x, cost, xEqual, costEqual, answers⟩
      rw [xEqual] at gradient
      rw [computes x cost answers] at costEqual
      exact ⟨x, xEqual, costEqual, gradient_of_some quadratic computes gradient⟩

private theorem knows_of_refine {refinement : Refinement Exact n}
    (knows : state.Knows function slope)
    (refined : problem.refine state memory = (.ok refinement, after)) :
    refinement.state.Knows function slope := by
  have refines := problem.refines_refine state memory
  rw [refined] at refines
  cases refines with
  | failed => exact knows
  | indefinite => exact knows
  | definite => exact knows

theorem Reaches.knows {x : Fin n → ℝ} (quadratic : IsQuadratic function slope hessian)
    (computes : Computes problem.objective function) (positive : problem.IsPositive)
    (reaches : problem.Reaches (vector x) state) : state.Knows function slope := by
  induction reaches with
  | started started => exact knows_of_start quadratic computes started
  | searched _ search induction =>
      rcases lineSearch_eq_ok search with ⟨outcome, _, rfl, _⟩
      rw [Descent.state_ofOutcome]
      exact induction
  | reset _ induction => exact induction
  | iterated before iteration induction =>
      exact knows_of_iterate quadratic computes positive (before.isDefinite positive) induction
        iteration
  | refined _ refinement induction => exact knows_of_refine induction refinement

theorem refine_knowsAll {next : State Exact n} {positiveDefinite : Bool}
    (quadratic : IsQuadratic function slope hessian) (posDef : hessian.PosDef)
    (computes : Computes problem.objective function) {x : Fin n → ℝ}
    (xEqual : state.x = vector x) (costEqual : state.cost = real (function x))
    (gradientEqual : state.gradient = vector (slope x)) {definition : ℝ}
    (defined : problem.errorDefinition = real definition) (positive : 0 < definition)
    (refined : problem.refine state memory = (.ok (.checked next positiveDefinite), after)) :
    positiveDefinite = true ∧ next.KnowsAll function slope hessian definition x := by
  have exactly {estimate : HessianEstimate Exact n} {memory after : σ}
      (found : problem.hessian? state.calls state.x state.cost memory =
        (.ok (some estimate), after)) :
      InverseHessian.ofHessian estimate.hessian = some (matrix hessian⁻¹) := by
    rw [xEqual, costEqual] at found
    rcases hessian_real (Differences.finiteOnly_eq_some found) with
      ⟨h, entries, small, symmetric, equal, derivatives⟩
    rw [equal, quadratic.hessian_eq computes small symmetric derivatives]
    exact (ofHessian_eq_some quadratic.symmetric).mpr ⟨posDef, rfl⟩
  have refines := problem.refines_refine state memory
  rw [refined] at refines
  cases refines with
  | indefinite found singular => cases singular.symm.trans (exactly found)
  | definite found inverted =>
      cases inverted.symm.trans (exactly found)
      refine ⟨rfl, xEqual, costEqual, gradientEqual, rfl, ?_⟩
      change InverseHessian.edm state.gradient (matrix hessian⁻¹) problem.errorDefinition = _
      rw [gradientEqual, defined]
      exact edm_real posDef.inv (slope x) positive

/-- A fit of a strictly convex quadratic that a check has confirmed knows all of it. -/
theorem Confirmed.knowsAll {x : Vector Exact n} (quadratic : IsQuadratic function slope hessian)
    (posDef : hessian.PosDef) (computes : Computes problem.objective function)
    (positive : problem.IsPositive) (starts : ∃ values : Fin n → ℝ, x = vector values)
    (confirmed : problem.Confirmed x state) :
    ∃ (definition : ℝ) (p : Fin n → ℝ), problem.errorDefinition = real definition ∧
      0 < definition ∧ state.KnowsAll function slope hessian definition p := by
  rcases positive.errorDefinition with ⟨definition, defined, definitionPositive⟩
  rcases starts with ⟨values, rfl⟩
  rcases confirmed with ⟨_, before, _, _, _, reaches, refined⟩
  rcases reaches.knows quadratic computes positive with ⟨p, xEqual, costEqual, gradientEqual⟩
  exact ⟨definition, p, defined, definitionPositive, (refine_knowsAll quadratic posDef computes
    xEqual costEqual gradientEqual defined definitionPositive refined).2⟩

/-- Where a fit of a strictly convex quadratic converges, the distance it reports is that
of its cost to the minimum, in units of the error definition. -/
theorem distance_of_converged {x : Vector Exact n} {observer : Observer Exact ω}
    {origin final : Session Exact σ ω} {ending : Ending Exact n}
    (quadratic : IsQuadratic function slope hessian) (posDef : hessian.PosDef)
    (computes : Computes problem.objective function) (positive : problem.IsPositive)
    (starts : ∃ values : Fin n → ℝ, x = vector values)
    (checking : problem.config.refineHessian = true)
    (ran : problem.run observer x origin = (.ok ending, final))
    (converged : ending.status = .converged) :
    ∃ (p : Fin n → ℝ) (edm definition tolerance : ℝ), ending.state.x = vector p ∧
      ending.state.cost = real (function p) ∧ ending.state.edm = real edm ∧
      problem.errorDefinition = real definition ∧ 0 < definition ∧
      problem.config.tolerance = real tolerance ∧ edm < tolerance ∧
      IsLeast (Set.range function) (function p - definition * edm) := by
  have confirmed := confirmed_of_run checking converged ran
  rcases confirmed.knowsAll quadratic posDef computes positive starts with
    ⟨definition, p, defined, definitionPositive, knows⟩
  have below := of_decide_eq_true confirmed.1
  rw [knows.edm] at below
  have finite : ∃ tolerance, problem.config.tolerance = real tolerance := by
    cases limit : problem.config.tolerance with
    | missing => exact absurd (limit ▸ below) not_lt_missing
    | real tolerance => exact ⟨tolerance, rfl⟩
  rcases finite with ⟨tolerance, tolerated⟩
  rw [tolerated, lt_iff] at below
  refine ⟨p, _, definition, tolerance, knows.point, knows.cost, knows.edm, defined,
    definitionPositive, tolerated, below, ?_⟩
  rw [mul_div_cancel₀ _ (ne_of_gt definitionPositive)]
  exact quadratic.isLeast posDef p

end Problem

end CurveFitting

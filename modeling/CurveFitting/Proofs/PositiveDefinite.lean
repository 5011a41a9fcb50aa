import CurveFitting.Proofs.Exact.Approximation
import CurveFitting.Proofs.Run.Reach
import CurveFitting.Proofs.TotalFit

/-! # Approximations stay positive definite

On exact numbers the approximation of the inverse Hessian is symmetric and positive
definite in every state of a fit, whatever the objective answers. So every direction
points downhill, and the estimated distance is zero only where the gradient is.
-/

namespace CurveFitting

open Exact Matrix

variable {σ ω ε : Type} {n : Nat}

structure Problem.IsPositive (problem : Problem Exact σ ε n) : Prop where
  steps : ∃ steps : Fin n → ℝ, problem.steps = vector steps ∧ ∀ i, 0 < steps i
  errorDefinition : ∃ definition : ℝ, problem.errorDefinition = real definition ∧
    0 < definition

/-- What is known of every state of a fit that has its first gradient: its numbers are
real, its approximation is positive definite, and its estimated distance is zero
exactly where its gradient is. -/
structure State.IsDefinite (state : State Exact n) : Prop where
  x : ∃ x : Fin n → ℝ, state.x = vector x
  cost : ∃ cost : ℝ, state.cost = real cost
  inverseHessian : ∃ approximation : Matrix (Fin n) (Fin n) ℝ,
    state.inverseHessian = matrix approximation ∧ approximation.PosDef
  gradient : ∃ (gradient : Fin n → ℝ) (edm : ℝ), state.gradient = vector gradient ∧
    state.edm = real edm ∧ (edm = 0 ↔ gradient = 0)

namespace Problem

variable {problem : Problem Exact σ ε n} {state : State Exact n} {memory after : σ}

theorem seed_isPosDef (positive : problem.IsPositive) :
    ∃ approximation : Matrix (Fin n) (Fin n) ℝ,
      problem.seed = matrix approximation ∧ approximation.PosDef := by
  rcases positive.steps with ⟨steps, equal, stepsPositive⟩
  exact ⟨_, by rw [seed, equal, seed_real], seed_posDef stepsPositive⟩

private theorem isDefinite_refreshEdm (positive : problem.IsPositive)
    (x : ∃ x : Fin n → ℝ, state.x = vector x) (cost : ∃ cost : ℝ, state.cost = real cost)
    (gradient : ∃ gradient : Fin n → ℝ, state.gradient = vector gradient)
    (inverseHessian : ∃ approximation : Matrix (Fin n) (Fin n) ℝ,
      state.inverseHessian = matrix approximation ∧ approximation.PosDef) :
    (state.refreshEdm problem.errorDefinition).IsDefinite := by
  rcases positive.errorDefinition with ⟨definition, defined, definitionPositive⟩
  rcases gradient with ⟨gradient, gradientEqual⟩
  rcases inverseHessian with ⟨approximation, approximationEqual, posDef⟩
  have distance : (state.refreshEdm problem.errorDefinition).edm =
      real (1 / 2 * (gradient ⬝ᵥ approximation *ᵥ gradient) / definition) := by
    rw [State.refreshEdm, gradientEqual, approximationEqual, defined,
      edm_real posDef gradient definitionPositive]
  refine ⟨x, cost, ⟨approximation, approximationEqual, posDef⟩, gradient, _, gradientEqual,
    distance, ?_⟩
  rw [← quadratic_eq_zero_iff posDef]
  constructor
  · intro zero
    simpa [ne_of_gt definitionPositive] using zero
  · intro zero
    rw [zero, mul_zero, zero_div]

private theorem isDefinite_reset (positive : problem.IsPositive) (definite : state.IsDefinite) :
    (problem.reset state).IsDefinite :=
  { definite with inverseHessian := seed_isPosDef positive }

private theorem isDefinite_withCalls (definite : state.IsDefinite) (calls : Nat) :
    ({ state with calls := calls } : State Exact n).IsDefinite :=
  { definite with }

/-! ## Searches -/

theorem real_of_mem_multipliers {floor step : Exact}
    (member : step ∈ LineSearch.multipliers floor) : ∃ value, step = real value := by
  have halvings (count : Nat) (first : ℝ) :
      step ∈ LineSearch.halvingsFrom floor count (real first) → ∃ value, step = real value := by
    induction count generalizing first with
    | zero => exact fun member => absurd member List.not_mem_nil
    | succ count induction =>
        intro member
        rw [LineSearch.halvingsFrom] at member
        split at member
        · rcases List.mem_cons.mp member with rfl | member
          · exact ⟨first, rfl⟩
          · rw [half_eq, mul_eq] at member
            exact induction _ member
        · cases member
  exact halvings _ 1 member

private theorem point_real {step : Exact} (definite : state.IsDefinite)
    (real_step : ∃ value, step = real value) :
    ∃ x : Fin n → ℝ, state.ray.point step = vector x := by
  rcases definite.x with ⟨x, xEqual⟩
  rcases definite.gradient with ⟨gradient, _, gradientEqual, _⟩
  rcases definite.inverseHessian with ⟨approximation, approximationEqual, _⟩
  rcases real_step with ⟨value, rfl⟩
  exact ⟨x + value • -(approximation *ᵥ gradient), by
    simp [State.ray, Ray.point, xEqual, gradientEqual, approximationEqual]⟩

def Evaluated (problem : Problem Exact σ ε n) (trial : Trial Exact n) : Prop :=
  ∃ x cost, trial.x = vector x ∧ trial.cost = real cost ∧ Answers problem.objective x cost

private theorem isDefinite_of_lineSearch {descent : Descent Exact n} (definite : state.IsDefinite)
    (search : problem.lineSearch state memory = (.ok descent, after)) :
    descent.state.IsDefinite ∧ ∀ trial searched, descent = .accepted trial searched →
      problem.Evaluated trial := by
  rcases lineSearch_eq_ok search with ⟨outcome, answered, rfl, _⟩
  refine ⟨?_, fun trial searched accepted => ?_⟩
  · rw [Descent.state_ofOutcome]
    exact isDefinite_withCalls definite _
  · cases outcome with
    | accepted found =>
        cases accepted
        rcases (problem.tries_found state memory).of_accepted answered with
          ⟨member, point, accepts, before, after, evaluates⟩
        rw [Ray.accepts, Bool.and_eq_true] at accepts
        rcases isFinite_iff.mp accepts.1 with ⟨cost, costEqual⟩
        rcases point_real definite (real_of_mem_multipliers member) with ⟨x, xEqual⟩
        rw [← point] at xEqual
        rw [xEqual, costEqual] at evaluates
        exact ⟨x, cost, xEqual, costEqual, before, after, evaluates⟩
    | stalled => cases accepted
    | outOfCalls => cases accepted

theorem isDefinite_of_descend {descent : Descent Exact n} (positive : problem.IsPositive)
    (definite : state.IsDefinite)
    (search : problem.descend state memory = (.ok descent, after)) :
    descent.state.IsDefinite ∧ ∀ trial searched, descent = .accepted trial searched →
      problem.Evaluated trial := by
  rcases descend_eq_ok search with ⟨first, middle, last, rfl | ⟨calls, rfl⟩⟩
  · exact isDefinite_of_lineSearch definite last
  · exact isDefinite_of_lineSearch
      (isDefinite_reset positive (isDefinite_withCalls definite calls)) last

/-! ## Steps and checks -/

private theorem gradient_real_of_some {calls : Nat} {x : Fin n → ℝ} {cost : Exact}
    {estimate : GradientEstimate Exact n}
    (found : problem.gradient? calls (vector x) cost memory = (.ok (some estimate), after)) :
    ∃ gradient : Fin n → ℝ, estimate.gradient = vector gradient := by
  rcases gradient_real (Differences.finiteOnly_eq_some found) with ⟨_, gradient, _, equal, _⟩
  exact ⟨gradient, equal⟩

private theorem isDefinite_moveTo {trial : Trial Exact n} {estimate : GradientEstimate Exact n}
    (positive : problem.IsPositive) (definite : state.IsDefinite)
    (x : ∃ x : Fin n → ℝ, trial.x = vector x) (cost : ∃ cost : ℝ, trial.cost = real cost)
    (gradient : ∃ gradient : Fin n → ℝ, estimate.gradient = vector gradient) :
    (problem.moveTo state trial estimate).1.IsDefinite := by
  apply isDefinite_refreshEdm positive x cost gradient
  rcases definite.x with ⟨before, beforeEqual⟩
  rcases definite.gradient with ⟨slope, _, slopeEqual, _⟩
  rcases definite.inverseHessian with ⟨approximation, equal, posDef⟩
  rcases x with ⟨x, xEqual⟩
  rcases gradient with ⟨gradient, gradientEqual⟩
  simp only [beforeEqual, slopeEqual, xEqual, gradientEqual, equal, vector_sub]
  rw [update_real (isHermitian_iff_isSymm.mp posDef.isHermitian)]
  split
  · rename_i curved
    exact ⟨_, rfl, learned_posDef posDef curved⟩
  · exact ⟨approximation, rfl, posDef⟩

private theorem isDefinite_of_iterate {step : Step Exact n} (positive : problem.IsPositive)
    (definite : state.IsDefinite) (iteration : problem.iterate state memory = (.ok step, after)) :
    step.state.IsDefinite := by
  have iterates := problem.iterates_iterate state memory
  rw [iteration] at iterates
  cases iterates with
  | stalled descent => exact (isDefinite_of_descend positive definite descent).1
  | outOfCalls descent => exact (isDefinite_of_descend positive definite descent).1
  | failed descent =>
      exact isDefinite_withCalls (isDefinite_of_descend positive definite descent).1 _
  | advanced descent gradient =>
      rcases isDefinite_of_descend positive definite descent with ⟨searched, found⟩
      rcases found _ _ rfl with ⟨x, cost, xEqual, costEqual, _⟩
      rw [xEqual] at gradient
      exact isDefinite_moveTo positive searched ⟨x, xEqual⟩ ⟨cost, costEqual⟩
        (gradient_real_of_some gradient)

private theorem isDefinite_of_refine {refinement : Refinement Exact n}
    (positive : problem.IsPositive) (definite : state.IsDefinite)
    (refined : problem.refine state memory = (.ok refinement, after)) :
    refinement.state.IsDefinite := by
  have refines := problem.refines_refine state memory
  rw [refined] at refines
  cases refines with
  | failed => exact isDefinite_withCalls definite _
  | indefinite => exact isDefinite_withCalls definite _
  | definite hessian inverted =>
      rcases definite.x with ⟨x, xEqual⟩
      rcases definite.cost with ⟨cost, costEqual⟩
      rcases definite.gradient with ⟨gradient, _, gradientEqual, _⟩
      rw [xEqual, costEqual] at hessian
      rcases hessian_real (Differences.finiteOnly_eq_some hessian) with
        ⟨_, entries, _, symmetric, equal, _⟩
      rw [equal, ofHessian_eq_some symmetric] at inverted
      exact isDefinite_refreshEdm positive definite.x definite.cost ⟨gradient, gradientEqual⟩
        ⟨entries⁻¹, inverted.2, inverted.1.inv⟩

/-! ## Every state -/

private theorem isDefinite_of_start {x : Fin n → ℝ} (positive : problem.IsPositive)
    (started : problem.start (vector x) memory = (.ok (.ready state), after)) :
    state.IsDefinite := by
  have starts := problem.starts_start memory (vector x)
  rw [started] at starts
  cases starts with
  | ready _ finite gradient =>
      exact isDefinite_refreshEdm positive ⟨x, rfl⟩ (isFinite_iff.mp finite)
        (gradient_real_of_some gradient) (seed_isPosDef positive)

theorem Reaches.isDefinite {x : Fin n → ℝ} (positive : problem.IsPositive)
    (reaches : problem.Reaches (vector x) state) : state.IsDefinite := by
  induction reaches with
  | started started => exact isDefinite_of_start positive started
  | searched _ search induction => exact (isDefinite_of_lineSearch induction search).1
  | reset _ induction => exact isDefinite_reset positive induction
  | iterated _ iteration induction => exact isDefinite_of_iterate positive induction iteration
  | refined _ refinement induction => exact isDefinite_of_refine positive induction refinement

end Problem

/-! ## Directions and distances -/

/-- A state with a symmetric and positive definite approximation. Its direction points
downhill or nowhere, and its estimated distance needs no clamp. -/
structure State.IsDirected (state : State Exact n) (errorDefinition : Exact) : Prop where
  positiveDefinite : ∃ approximation : Matrix (Fin n) (Fin n) ℝ,
    state.inverseHessian = matrix approximation ∧ approximation.IsSymm ∧
      ∀ v, v ≠ 0 → 0 < v ⬝ᵥ approximation *ᵥ v
  slope_le : state.ray.slope ≤ 0
  gradient_of_slope : state.ray.slope = 0 → state.gradient = Vector.replicate n 0
  not_uphill : ¬0 < state.ray.slope
  unclamped :
    let distance := 0.5 *
      dot state.gradient (state.inverseHessian.mulVector state.gradient) / errorDefinition
    0 ≤ distance ∧
      InverseHessian.edm state.gradient state.inverseHessian errorDefinition = distance

theorem vector_eq_zero_iff {gradient : Fin n → ℝ} :
    vector gradient = Vector.replicate n 0 ↔ gradient = 0 := by
  have zero : (Vector.replicate n 0 : Vector Exact n) = vector 0 := by
    ext i within
    simp
  rw [zero, vector_injective.eq_iff]

private theorem State.isDirected {state : State Exact n} {definition : ℝ}
    (positive : 0 < definition)
    (gradient : ∃ gradient : Fin n → ℝ, state.gradient = vector gradient)
    (inverseHessian : ∃ approximation : Matrix (Fin n) (Fin n) ℝ,
      state.inverseHessian = matrix approximation ∧ approximation.PosDef) :
    state.IsDirected (real definition) := by
  rcases gradient with ⟨gradient, gradientEqual⟩
  rcases inverseHessian with ⟨approximation, equal, posDef⟩
  have nonnegative := quadratic_nonneg posDef gradient
  have slope : state.ray.slope = real (-(gradient ⬝ᵥ approximation *ᵥ gradient)) := by
    simp [State.ray, gradientEqual, equal]
  refine ⟨⟨approximation, equal, isHermitian_iff_isSymm.mp posDef.isHermitian,
    fun v nonzero => ?_⟩, ?_, ?_, ?_, ?_⟩
  · simpa using posDef.dotProduct_mulVec_pos nonzero
  · rw [slope, zero_eq, le_iff]
    exact neg_nonpos.mpr nonnegative
  · intro flat
    rw [slope] at flat
    have zero := neg_eq_zero.mp (real.inj flat)
    rw [gradientEqual, vector_eq_zero_iff]
    exact (quadratic_eq_zero_iff posDef gradient).mp zero
  · rw [slope, zero_eq, lt_iff]
    exact not_lt.mpr (neg_nonpos.mpr nonnegative)
  · rw [gradientEqual, equal, edm_real posDef gradient positive]
    simp only [mulVector_matrix, dot_vector, half_eq, mul_eq, div_eq (ne_of_gt positive), zero_eq,
      le_iff, and_true]
    positivity

private theorem State.IsDefinite.edm_eq_zero_iff {state : State Exact n}
    (definite : state.IsDefinite) :
    state.edm = 0 ↔ state.gradient = Vector.replicate n 0 := by
  rcases definite.gradient with ⟨gradient, edm, gradientEqual, edmEqual, zero⟩
  rw [gradientEqual, edmEqual, vector_eq_zero_iff, ← zero, zero_eq]
  exact ⟨fun equal => real.inj equal, fun equal => congrArg real equal⟩

section

variable {objective : Objective Exact σ ε} {parameters : ParameterSet Exact}
  {config : Config Exact} {problem : Problem Exact σ ε parameters.size}

theorem ParameterSet.values_real (parameters : ParameterSet Exact) :
    ∃ x : Fin parameters.size → ℝ, parameters.values = vector x := by
  have reals (i : Nat) (within : i < parameters.size) :
      ∃ value, parameters.values[i] = real value ∧ True := by
    rcases isFinite_iff.mp (parameters.entries.get ⟨i, within⟩).value_finite with ⟨value, equal⟩
    exact ⟨value, (List.getElem_map ..).trans equal, trivial⟩
  rcases exists_vector reals with ⟨x, equal, _⟩
  exact ⟨x, equal⟩

theorem ParameterSet.steps_real (parameters : ParameterSet Exact) :
    ∃ steps : Fin parameters.size → ℝ, parameters.steps = vector steps ∧ ∀ i, 0 < steps i :=
  exists_vector fun i within => by
    have positive := (parameters.entries.get ⟨i, within⟩).step_positive
    rcases isFinite_iff.mp (parameters.entries.get ⟨i, within⟩).step_finite with ⟨step, equal⟩
    rw [equal] at positive
    exact ⟨step, (List.getElem_map ..).trans equal, positive⟩

theorem Problem.isPositive_of_prepare
    (prepared : Problem.prepare objective parameters config = .ok problem) :
    problem.IsPositive := by
  rcases errorDefinition_of_prepare prepared with ⟨finite, positive⟩
  rcases isFinite_iff.mp finite with ⟨definition, equal⟩
  rw [equal] at positive
  refine ⟨?_, definition, equal, positive⟩
  rw [(prepare_eq_ok prepared).2.2.1]
  exact parameters.steps_real

private theorem Problem.isDirected_of_failed {memory after : σ}
    {state : State Exact parameters.size} (positive : problem.IsPositive)
    (started : problem.start parameters.values memory = (.ok (.failed state), after)) :
    state.IsDirected problem.errorDefinition := by
  rcases positive.errorDefinition with ⟨definition, defined, definitionPositive⟩
  have flat : ∃ gradient : Fin parameters.size → ℝ,
      Vector.replicate parameters.size 0 = vector gradient :=
    ⟨0, (vector_eq_zero_iff.mpr rfl).symm⟩
  have starts := problem.starts_start memory parameters.values
  rw [started] at starts
  rw [defined]
  cases starts with
  | nonFinite => exact State.isDirected definitionPositive flat (seed_isPosDef positive)
  | failed => exact State.isDirected definitionPositive flat (seed_isPosDef positive)

noncomputable def Exact.singleParameter : ParameterSet Exact where
  entries := [{
    name := "a"
    value := real 0
    step := real 0.5
    bounds := Bounds.unlimited
    value_finite := rfl
    step_finite := rfl
    step_positive := lt_iff.mpr (by norm_num)
    bounds_ordered := rfl
    value_within := rfl }]
  distinct := by simp

noncomputable def Exact.endlessCost : Objective Exact Unit Empty :=
  .ofFunction (fun point => point.headD 0) (real 1)

/-- Whatever the objective and the observer answer, the approximation is symmetric and
positive definite in every state that a fit comes to and in the one in which it ends.
So no direction points uphill, and once there is a gradient, the estimated distance is
zero exactly where the gradient is. -/
theorem approximation_stays_posDef (observer : Observer Exact ω) (origin : Session Exact σ ω)
    (prepared : Problem.prepare objective parameters config = .ok problem) :
    (∀ state, problem.Reaches parameters.values state →
      state.IsDirected problem.errorDefinition ∧
        (state.edm = 0 ↔ state.gradient = Vector.replicate parameters.size 0)) ∧
    (∀ memory state after,
      problem.start parameters.values memory = (.ok (.failed state), after) →
        state.IsDirected problem.errorDefinition) ∧
    (∀ remaining state session,
      problem.AtHead observer parameters.values origin remaining state session →
        problem.Reaches parameters.values state) ∧
    ∀ ending final, problem.run observer parameters.values origin = (.ok ending, final) →
      ending.state.IsDirected problem.errorDefinition ∧
        (problem.Reaches parameters.values ending.state ∨ ∃ memory,
          problem.start parameters.values origin.objectiveMemory =
            (.ok (.failed ending.state), memory)) := by
  have positive := Problem.isPositive_of_prepare prepared
  rcases parameters.values_real with ⟨x, started⟩
  rcases positive.errorDefinition with ⟨definition, defined, definitionPositive⟩
  have reached (state : State Exact parameters.size)
      (reaches : problem.Reaches parameters.values state) :
      state.IsDirected problem.errorDefinition ∧
        (state.edm = 0 ↔ state.gradient = Vector.replicate parameters.size 0) := by
    have definite := Problem.Reaches.isDefinite positive (started ▸ reaches)
    rcases definite.gradient with ⟨gradient, _, gradientEqual, _⟩
    rw [defined]
    exact ⟨State.isDirected definitionPositive ⟨gradient, gradientEqual⟩
      definite.inverseHessian, definite.edm_eq_zero_iff⟩
  refine ⟨reached, fun _ _ _ failed => Problem.isDirected_of_failed positive failed,
    fun _ _ _ head => head.reaches, fun ending final ran => ?_⟩
  rcases Problem.reaches_of_run ran with reaches | ⟨memory, failed⟩
  · exact ⟨(reached _ reaches).1, .inl reaches⟩
  · exact ⟨Problem.isDirected_of_failed positive failed, .inr ⟨memory, failed⟩⟩

theorem approximation_of_endlessCost_posDef : ∃ problem state,
    Problem.prepare endlessCost singleParameter Config.default = .ok problem ∧
    problem.Reaches singleParameter.values state ∧ state.IsDirected (real 1) ∧
    (state.edm = 0 ↔ state.gradient = Vector.replicate singleParameter.size 0) := by
  have accepted : ∃ problem,
      Problem.prepare endlessCost singleParameter Config.default = .ok problem :=
    ⟨_, Problem.prepare_eq_ok_iff.mpr ⟨rfl, ⟨rfl, lt_iff.mpr one_pos⟩, rfl, rfl⟩⟩
  rcases accepted with ⟨problem, prepared⟩
  rcases Problem.prepare_eq_ok prepared with ⟨_, objective, _, definition⟩
  have total : Total problem.objective
      fun point : Fin singleParameter.size → ℝ => point ⟨0, Nat.one_pos⟩ := by
    intro point memory
    rw [objective, vector, Vector.toList_ofFn]
    rfl
  rcases singleParameter.values_real with ⟨x, values⟩
  rcases Problem.start_of_total total x () with ⟨state, started, _⟩
  rw [← values] at started
  have reaches := Problem.Reaches.started started
  have every := approximation_stays_posDef Observer.silent (Session.start () ()) prepared
  rcases every.1 state reaches with ⟨directed, distance⟩
  rw [definition] at directed
  exact ⟨problem, state, prepared, reaches, directed, distance⟩

end

end CurveFitting

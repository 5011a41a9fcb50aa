import CurveFitting.Proofs.Exact.Estimates
import CurveFitting.Proofs.Run.Calls

/-! # Fits of objectives that always answer

Where an objective answers everywhere with a real number, a fit finds every gradient and
every full Hessian that it looks for.
-/

namespace CurveFitting

open Exact Matrix

variable {σ ε : Type} {n : Nat}

namespace Problem

variable {problem : Problem Exact σ ε n} {function : (Fin n → ℝ) → ℝ} {state : State Exact n}
  {memory : σ}

private theorem gradient?_of_total (total : Total problem.objective function) (calls : Nat)
    (x : Fin n → ℝ) (cost : Exact) (memory : σ) : ∃ estimate,
      problem.gradient? calls (vector x) cost memory = (.ok (some estimate), memory) := by
  rcases perturbations_real (problem.differencesAfter calls) x with ⟨h, _, perturbed⟩
  have steady : Responds problem.objective fun point => real (function point) := total
  have found : problem.gradient? calls (vector x) cost memory = _ :=
    Differences.finiteOnly_gradient (steady.steady perturbed)
  rw [Differences.unlessMissing_of_finite fun _ _ => isFinite_real] at found
  exact ⟨_, found⟩

private theorem hessian?_of_total (total : Total problem.objective function) (calls : Nat)
    (x : Fin n → ℝ) (cost : Exact) (memory : σ) : ∃ estimate,
      problem.hessian? calls (vector x) cost memory = (.ok (some estimate), memory) := by
  rcases perturbations_real (problem.differencesAfter calls) x with ⟨h, _, perturbed⟩
  have steady : Responds problem.objective fun point => real (function point) := total
  have found : problem.hessian? calls (vector x) cost memory = _ :=
    Differences.finiteOnly_hessian (steady.steady perturbed)
  rw [Differences.unlessMissing_of_finite fun _ _ => isFinite_real] at found
  exact ⟨_, found⟩

theorem start_of_total (total : Total problem.objective function) (x : Fin n → ℝ) (memory : σ) :
    ∃ state, problem.start (vector x) memory = (.ok (.ready state), memory) ∧
      state.x = vector x ∧ state.inverseHessian = problem.seed := by
  rcases gradient?_of_total total (problem.initialState (vector x) (real (function x))).calls x
    (real (function x)) memory with ⟨estimate, found⟩
  have finite : Scalar.isFinite (real (function x)) = true := rfl
  unfold start
  rw [Computation.bind_of_ok (total x memory)]
  simp only [Computation.if_apply, finite, if_true]
  rw [Computation.bind_of_ok found]
  exact ⟨_, rfl, rfl, rfl⟩

section

variable {rest : List Exact} {step : Exact} {x : Fin n → ℝ} (falling : ¬0 < state.ray.slope)
  (room : state.calls < problem.callLimit)
  (multipliers : LineSearch.multipliers problem.config.minStep = step :: rest)
  (point : state.ray.point step = vector x)
  (accepts : state.ray.accepts problem.config.armijo step (real (function x)) = true)

include falling room multipliers point accepts

/-- A step goes to the point of the first multiplier if the cost there is low enough. -/
theorem iterate_eq_moveTo (total : Total problem.objective function) (memory : σ) :
    ∃ estimate,
      problem.gradient? (state.calls + 1) (vector x) (real (function x)) memory =
        (.ok (some estimate), memory) ∧
      let moved := problem.moveTo { state with calls := state.calls + 1 }
        ⟨step, vector x, real (function x)⟩ estimate
      problem.iterate state memory = (.ok (.advanced moved.1 step moved.2), memory) := by
  rcases gradient?_of_total total (state.calls + 1) x (real (function x)) memory with
    ⟨estimate, found⟩
  have tried : problem.found state memory =
      (⟨state.calls + 1, .ok (.accepted ⟨step, vector x, real (function x)⟩)⟩, memory) := by
    have evaluated := total x memory
    rw [← point] at evaluated
    rw [Problem.found, LineSearch.backtrack, multipliers,
      LineSearch.tryEach_of_ok room evaluated, if_pos accepts, point]
  have search := problem.lineSearch_apply state memory
  rw [tried] at search
  have descent : problem.descend state memory =
      (.ok (.accepted ⟨step, vector x, real (function x)⟩
        { state with calls := state.calls + 1 }), memory) := by
    unfold descend
    rw [if_neg falling, Computation.bind_of_ok search]
    rfl
  refine ⟨estimate, found, ?_⟩
  unfold iterate
  rw [Computation.bind_of_ok descent]
  simp only
  rw [Computation.bind_of_ok found]
  rfl

theorem iterate_of_total (total : Total problem.objective function) (memory : σ) :
    ∃ next updated, problem.iterate state memory = (.ok (.advanced next step updated), memory) ∧
      next.x = vector x ∧ next.calls = state.calls + 1 + 2 * n := by
  rcases iterate_eq_moveTo falling room multipliers point accepts total memory with
    ⟨estimate, found, moves⟩
  exact ⟨_, _, moves, rfl, congrArg _ (gradient?_calls found)⟩

end

theorem refine_of_total (total : Total problem.objective function) {x : Fin n → ℝ}
    (point : state.x = vector x) (memory : σ) :
    ∃ next positiveDefinite,
      problem.refine state memory = (.ok (.checked next positiveDefinite), memory) := by
  rcases hessian?_of_total total state.calls x state.cost memory with ⟨estimate, found⟩
  rw [← point] at found
  unfold refine
  rw [Computation.bind_of_ok found]
  rcases inverted : InverseHessian.ofHessian estimate.hessian with _ | inverse
  · simp only [inverted]
    exact ⟨_, _, rfl⟩
  · simp only [inverted]
    exact ⟨_, _, rfl⟩

/-! ## An observer that asks for every check -/

section

variable {ω : Type} {observer : Observer Exact ω} {session : Session Exact σ ω}
  {next : State Exact n} {positiveDefinite : Bool} {after : σ}
  (asks : ∀ event memory, (observer.observe event memory).action = some .refineHessian)

include asks

private theorem check_of_refine (session : Session Exact σ ω)
    (room : state.calls + 2 * (n * n) ≤ problem.callLimit)
    (refined : problem.refine state session.objectiveMemory =
      (.ok (.checked next positiveDefinite), after)) :
    ∃ final, problem.check observer state session = (.ok (.passed next), final) ∧
      final.events = session.events.push (next.refinedEvent state.edm positiveDefinite) := by
  have checks := problem.checks_check observer state session
  generalize problem.check observer state session = outcome at checks ⊢
  rcases outcome with ⟨answer, final⟩
  cases checks with
  | noRoom full => exact absurd room (Nat.not_le_of_lt full)
  | refused _ other => cases refined.symm.trans other
  | failed _ other => cases refined.symm.trans other
  | stopped _ _ _ stop => cases (asks _ _).symm.trans stop
  | passed _ other telling =>
      cases refined.symm.trans other
      subst telling
      exact ⟨_, rfl, rfl⟩

private theorem afterStep_of_refine (session : Session Exact σ ω) {multiplier : Exact}
    {updated : Bool} (room : state.calls + 2 * (n * n) ≤ problem.callLimit)
    (refined : problem.refine state session.objectiveMemory =
      (.ok (.checked next positiveDefinite), after)) :
    ∃ final, problem.afterStep observer state multiplier updated session =
        (.ok (.passed next), final) ∧
      final.events = (session.events.push (state.iteratedEvent multiplier updated)).push
        (next.refinedEvent state.edm positiveDefinite) := by
  have follows := problem.follows_afterStep observer state session multiplier updated
  generalize problem.afterStep observer state multiplier updated session = outcome
    at follows ⊢
  rcases outcome with ⟨answer, final⟩
  cases follows with
  | stopped _ stop => cases (asks _ _).symm.trans stop
  | unchecked _ quiet => cases (asks _ _).symm.trans quiet
  | checked telling _ checked =>
      subst telling
      rcases check_of_refine asks (({ session with notes := _ } : Session Exact σ ω).shown
          observer (state.iteratedEvent multiplier updated)) room refined with
        ⟨last, passed, told⟩
      cases checked.symm.trans passed
      exact ⟨_, rfl, told⟩

theorem turn_of_iterate {first : State Exact n} {multiplier : Exact} {updated : Bool} {middle : σ}
    (step : problem.iterate state session.objectiveMemory =
      (.ok (.advanced first multiplier updated), middle))
    (room : first.calls + 2 * (n * n) ≤ problem.callLimit)
    (refined : problem.refine first middle = (.ok (.checked next positiveDefinite), after)) :
    ∃ final, problem.turn observer state session =
        (.ok (problem.convergeIfClose (.passed next)), final) ∧
      final.events = (session.events.push (first.iteratedEvent multiplier updated)).push
        (next.refinedEvent first.edm positiveDefinite) := by
  rcases afterStep_of_refine asks { session with objectiveMemory := middle } room refined with
    ⟨final, followed, told⟩
  rw [turn_of_advanced step, Computation.bind_of_ok followed]
  exact ⟨final, rfl, told⟩

end

end Problem

end CurveFitting

import CurveFitting.Proofs.Exact.Newton
import CurveFitting.Proofs.QuadraticFit
import CurveFitting.Proofs.Run.CheckedHeads

/-! # The step after a check

A fit of a strictly convex quadratic that goes on after a check knows the inverse Hessian,
so its next step is a Newton step. It comes to the minimum, and the fit ends there.
-/

namespace CurveFitting

open Exact Matrix

variable {σ ω ε : Type} {n : Nat} {state : State Exact n} {function : (Fin n → ℝ) → ℝ}
  {slope : (Fin n → ℝ) → Fin n → ℝ} {hessian : Matrix (Fin n) (Fin n) ℝ} {definition : ℝ}
  {x minimum : Fin n → ℝ}

/-! ## The ray to the minimum -/

namespace State.KnowsAll

variable (knows : state.KnowsAll function slope hessian definition x)

include knows

theorem edm_eq_zero (zero : slope x = 0) : state.edm = real 0 := by
  rw [knows.edm, zero, zero_dotProduct, mul_zero, zero_div]

variable (quadratic : IsQuadratic function slope hessian) (posDef : hessian.PosDef)
  (zero : slope minimum = 0)

include quadratic posDef zero

private theorem ray_eq : state.ray =
    ⟨vector x, real (function x), vector (minimum - x), real (slope x ⬝ᵥ (minimum - x))⟩ := by
  rw [State.ray, knows.point, knows.cost, knows.gradient, knows.inverseHessian]
  simp only [mulVector_matrix, quadratic.inv_mulVec_slope posDef zero, vector_neg, neg_sub,
    dot_vector]

private theorem point_one : state.ray.point 1 = vector minimum := by
  rw [knows.ray_eq quadratic posDef zero, Ray.point, one_eq, scaleVector_vector, vector_add,
    one_smul, add_sub_cancel]

/-- A line search along the ray can only demand half of the predicted decrease, which is
what the full step achieves. -/
theorem accepts_minimum {armijo : ℝ} (modest : armijo ≤ 1 / 2) :
    state.ray.accepts (real armijo) 1 (real (function minimum)) = true := by
  have falling := quadratic.slope_nonpos posDef zero x
  have decrease := quadratic.decrease_eq zero x
  have demanded := mul_le_mul_of_nonpos_right modest falling
  rw [knows.ray_eq quadratic posDef zero]
  refine decide_eq_true ?_
  rw [one_eq, mul_eq, mul_eq, add_eq, le_iff, mul_one]
  linarith

end State.KnowsAll

namespace Problem

variable {problem : Problem Exact σ ε n} {observer : Observer Exact ω}
  {session final : Session Exact σ ω}
  (total : Total problem.objective function) (quadratic : IsQuadratic function slope hessian)
  (posDef : hessian.PosDef) (defined : problem.errorDefinition = real definition)
  (positive : 0 < definition)

/-! ## The Newton step -/

private theorem isClose_of_edm_zero (problem : Problem Exact σ ε n) (none : state.edm = real 0) :
    problem.isClose state = true := by
  rw [isClose, none]
  exact decide_eq_true problem.config.tolerance_positive

include total quadratic posDef defined positive

private theorem iterate_of_knowsAll (zero : slope minimum = 0)
    (modest : problem.config.armijo ≤ real (1 / 2))
    (knows : state.KnowsAll function slope hessian definition x)
    (far : problem.isClose state = false) (room : state.calls < problem.callLimit)
    (memory : σ) : ∃ next,
      problem.iterate state memory = (.ok (.advanced next 1 true), memory) ∧
        next.KnowsAll function slope hessian definition minimum := by
  have inclined : slope x ≠ 0 := by
    intro level
    have close := isClose_of_edm_zero problem (knows.edm_eq_zero level)
    cases close.symm.trans far
  have falling : ¬0 < state.ray.slope := by
    rw [knows.ray_eq quadratic posDef zero, zero_eq, lt_iff]
    exact not_lt.mpr (quadratic.slope_nonpos posDef zero x)
  rcases LineSearch.multipliers_eq_cons problem.config.minStep_positive
      problem.config.minStep_le_one with
    ⟨rest, multipliers⟩
  have accepts : state.ray.accepts problem.config.armijo 1 (real (function minimum)) = true := by
    cases armijo : problem.config.armijo with
    | missing => exact absurd (armijo ▸ problem.config.armijo_positive) not_lt_missing
    | real share =>
        rw [armijo] at modest
        exact knows.accepts_minimum quadratic posDef zero modest
  rcases iterate_eq_moveTo falling room multipliers (knows.point_one quadratic posDef zero)
      accepts total memory with ⟨estimate, found, moves⟩
  have gradient : estimate.gradient = vector (slope minimum) :=
    gradient_of_some quadratic total.computes found
  -- The full step already agrees with the inverse Hessian, so the update confirms it.
  have explained : hessian⁻¹ *ᵥ (slope minimum - slope x) = minimum - x := by
    rw [zero, zero_sub, mulVec_neg, quadratic.inv_mulVec_slope posDef zero, neg_sub]
  have curved : 0 < (slope minimum - slope x) ⬝ᵥ (minimum - x) := by
    have form := posDef.inv.dotProduct_mulVec_pos inclined
    rw [star_trivial, quadratic.inv_mulVec_slope posDef zero] at form
    rw [zero, zero_sub, neg_dotProduct, ← dotProduct_neg, neg_sub]
    exact form
  have learns : InverseHessian.update state.inverseHessian (vector minimum - state.x)
      (estimate.gradient - state.gradient) = some (matrix hessian⁻¹) := by
    rw [knows.inverseHessian, knows.point, knows.gradient, gradient, vector_sub, vector_sub,
      update_real (isHermitian_iff_isSymm.mp posDef.inv.isHermitian), if_pos curved,
      learned_eq_self explained (ne_of_gt curved)]
  unfold moveTo at moves
  simp only [learns, Option.getD_some, Option.isSome_some] at moves
  refine ⟨_, moves, rfl, rfl, gradient, rfl, ?_⟩
  change InverseHessian.edm estimate.gradient (matrix hessian⁻¹) problem.errorDefinition = _
  rw [gradient, defined]
  exact edm_real posDef.inv (slope minimum) positive

/-! ## The last turn -/

private theorem check_knowsAll {check : Check Exact n}
    (knows : state.KnowsAll function slope hessian definition x)
    (checked : problem.check observer state session = (.ok check, final)) :
    check.state.KnowsAll function slope hessian definition x := by
  have refines {next : State Exact n} {positiveDefinite : Bool} {memory after : σ}
      (refined : problem.refine state memory = (.ok (.checked next positiveDefinite), after)) :
      next.KnowsAll function slope hessian definition x :=
    (refine_knowsAll quadratic posDef total.computes knows.point knows.cost knows.gradient
      defined positive refined).2
  have checks := problem.checks_check observer state session
  rw [checked] at checks
  cases checks with
  | noRoom => exact knows
  | failed _ refinement =>
      rcases refine_eq_failed refinement with ⟨_, rfl⟩
      exact ⟨knows.point, knows.cost, knows.gradient, knows.inverseHessian, knows.edm⟩
  | stopped _ refinement => exact refines refinement
  | passed _ refinement => exact refines refinement

private theorem turn_knowsAll {next : State Exact n} {multiplier : Exact} {updated : Bool}
    {memory : σ} {check : Check Exact n} (knows : next.KnowsAll function slope hessian definition x)
    (step : problem.iterate state session.objectiveMemory =
      (.ok (.advanced next multiplier updated), memory))
    (turned : problem.turn observer state session = (.ok check, final)) :
    check.state.KnowsAll function slope hessian definition x := by
  rcases turn_eq_ok turned with ⟨other, _, iterated, same | ⟨checked, _, _, found, same⟩⟩
  · cases step.symm.trans iterated
    exact same ▸ knows
  · cases step.symm.trans iterated
    exact same ▸ check_knowsAll total quadratic posDef defined positive knows found

theorem AtHead.tells_of_minimum {remaining : Nat} {origin : Session Exact σ ω}
    {first : Vector Exact n} {next : State Exact n} {multiplier : Exact} {updated : Bool}
    {memory : σ} (zero : slope minimum = 0)
    (head : problem.AtHead observer first origin (remaining + 1) state session)
    (room : state.calls < problem.callLimit)
    (knows : next.KnowsAll function slope hessian definition minimum)
    (step : problem.iterate state session.objectiveMemory =
      (.ok (.advanced next multiplier updated), memory)) :
    ∃ rest, (problem.run observer first origin).2.events.toList =
        session.events.toList ++ next.iteratedEvent multiplier updated :: rest ∧
      ∀ event ∈ rest, event.step? = none := by
  have ended (passed : State Exact n) (final : Session Exact σ ω) :
      problem.turn observer state session ≠ (.ok (.passed passed), final) := by
    intro turned
    have still := turn_knowsAll total quadratic posDef defined positive knows step turned
    have close := isClose_of_edm_zero problem (still.edm_eq_zero zero)
    cases close.symm.trans (turn_far turned)
  rw [head.run_eq_search, search_succ, if_neg (Nat.not_le_of_lt room)]
  have tells : ∃ rest, (problem.turn observer state session).2.events.toList = _ ∧ _ :=
    turn_tells_one_step step
  rcases turned : problem.turn observer state session with ⟨cause | passed | ending, final⟩
  · rw [turned] at tells
    exact tells
  · exact absurd turned (ended passed final)
  · rw [turned] at tells
    exact tells

/-- Where a fit goes on after the check of a step, its next event tells of the step to the
minimum, and no later one of any step. -/
theorem run_after_check {origin : Session Exact σ ω} {first : ω} {start : Vector Exact n}
    {before after : List (Event Exact)} {check : Event Exact} {step : Nat}
    (zero : slope minimum = 0)
    (modest : problem.config.armijo ≤ real (1 / 2)) (isPositive : problem.IsPositive)
    (starts : ∃ values : Fin n → ℝ, start = vector values)
    (untold : origin.events = #[]) (remembers : origin.Remembers observer first)
    (told : (problem.run observer start origin).2.events.toList = before ++ check :: after)
    (checking : check.check? = some (step + 1))
    (unstopped : observer.answerTo first before check ≠ some .stopEarly)
    (far : ¬check.edm < problem.config.tolerance)
    (stepsLeft : step + 1 < problem.config.maxIterations)
    (callsLeft : check.calls < problem.callLimit) :
    ∃ remaining head session next rest,
      problem.AtHead observer start origin (remaining + 1) head session ∧
      session.events.toList = before ++ [check] ∧
      problem.iterate head session.objectiveMemory =
        (.ok (.advanced next 1 true), session.objectiveMemory) ∧
      next.iterations = step + 2 ∧ next.KnowsAll function slope hessian definition minimum ∧
      after = next.iteratedEvent 1 true :: rest ∧ ∀ event ∈ rest, event.step? = none := by
  rcases run_check_told checking unstopped far untold remembers rfl told with
    ⟨remaining, head, session, atHead, events, checked, _, _, _, reaches, refined, rfl⟩
  rcases starts with ⟨values, rfl⟩
  rcases reaches.knows quadratic total.computes isPositive with
    ⟨x, xEqual, costEqual, gradientEqual⟩
  have knows := (refine_knowsAll quadratic posDef total.computes xEqual costEqual gradientEqual
    defined positive refined).2
  have iterations : head.iterations = step + 1 := Option.some.inj checking
  have sum := atHead.remaining_eq
  rcases Nat.exists_eq_succ_of_ne_zero (by omega : remaining ≠ 0) with ⟨fewer, rfl⟩
  rcases iterate_of_knowsAll total quadratic posDef defined positive zero modest knows
      (decide_eq_false far) callsLeft session.objectiveMemory with ⟨next, moves, nextKnows⟩
  rcases atHead.tells_of_minimum total quadratic posDef defined positive zero callsLeft
      nextKnows moves with ⟨rest, tells, alone⟩
  have counted : next.iterations = step + 2 := by
    rw [iterate_iterations moves, iterations]
  refine ⟨fewer, head, session, next, rest, atHead, events, moves, counted, nextKnows, ?_, alone⟩
  rw [told, events, List.append_assoc, List.singleton_append] at tells
  exact (List.cons.inj (List.append_cancel_left tells)).2

end Problem

end CurveFitting

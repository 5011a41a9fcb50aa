import CurveFitting.Proofs.Run.Course

/-! # Counting evaluations

How many evaluations the moves of a fit charge, and when the limit on them stops
one. A line search never passes the limit; only a gradient may, and a check against
a full Hessian is not begun unless it fits.
-/

namespace CurveFitting

variable {α σ ω ε : Type} [Scalar α] {n : Nat}

/-! ## Derivatives -/

namespace Differences

/-- What an estimate comes to where a value that is not finite is an answer. -/
def finite {β : Type} : Except (DifferenceError α ε) β → Except ε (Option β)
  | .ok result => .ok (some result)
  | .error (.nonFinite _ _) => .ok none
  | .error (.objective cause) => .error cause

omit [Scalar α] in
theorem finiteOnly_apply {β : Type} (estimate : Evaluation σ (DifferenceError α ε) β)
    (memory : σ) :
    finiteOnly estimate memory = (finite (estimate memory).1, (estimate memory).2) := by
  unfold finiteOnly
  rcases estimate memory with ⟨(cause | ⟨index, value⟩) | found, after⟩ <;> rfl

omit [Scalar α] in
theorem finiteOnly_eq_some {β : Type} {estimate : Evaluation σ (DifferenceError α ε) β}
    {memory after : σ} {result : β}
    (finite : finiteOnly estimate memory = (.ok (some result), after)) :
    estimate memory = (.ok result, after) := by
  unfold finiteOnly at finite
  rcases equal : estimate memory with ⟨cause | found, middle⟩
  · rw [equal] at finite
    cases cause <;> cases finite
  · rw [equal] at finite
    cases finite
    rfl

omit [Scalar α] in
theorem finiteOnly_eq_none {β : Type} {estimate : Evaluation σ (DifferenceError α ε) β}
    {memory after : σ} (missing : finiteOnly estimate memory = (.ok none, after)) :
    ∃ index value, estimate memory = (.error (.nonFinite index value), after) := by
  unfold finiteOnly at missing
  rcases equal : estimate memory with ⟨cause | found, middle⟩
  · rw [equal] at missing
    cases cause with
    | objective => cases missing
    | nonFinite index value =>
        cases missing
        exact ⟨index, value, rfl⟩
  · rw [equal] at missing
    cases missing

variable (differences : Differences α n) (objective : Objective α σ ε) {x : Vector α n}
  {cost : α} {memory after : σ}

private theorem gradient_calls {estimate : GradientEstimate α n}
    (found : differences.gradient objective x cost memory = (.ok estimate, after)) :
    estimate.calls = 2 * n := by
  unfold gradient at found
  rcases Computation.bind_eq_ok found with ⟨jobs, _, _, finished⟩
  rcases Computation.bind_eq_ok finished with ⟨pairs, _, _, rest⟩
  cases rest
  rfl

omit [Scalar α] in
theorem hessian_charge (n : Nat) : 2 * n + 2 * (n * (n - 1)) = 2 * (n * n) := by
  cases n with
  | zero => rfl
  | succ size =>
      simp only [Nat.add_sub_cancel, Nat.mul_add, Nat.mul_one]
      omega

private theorem hessian_calls {estimate : HessianEstimate α n}
    (found : differences.hessian objective x cost memory = (.ok estimate, after)) :
    estimate.calls = 2 * (n * n) := by
  unfold hessian at found
  rcases Computation.bind_eq_ok found with ⟨jobs, _, _, finished⟩
  rcases Computation.bind_eq_ok finished with ⟨upper, _, _, rest⟩
  cases rest
  exact hessian_charge n

end Differences

/-! ## Line search -/

/-- Evaluations within a limit take the count of calls from `before` to `after`. -/
structure Spends (limit before after : Nat) : Prop where
  le : before ≤ after
  within : before ≤ limit → after ≤ limit

namespace Spends

private theorem refl (limit calls : Nat) : Spends limit calls calls := ⟨Nat.le_refl _, id⟩

private theorem one {limit calls : Nat} (room : calls < limit) : Spends limit calls (calls + 1) :=
  ⟨Nat.le_succ _, fun _ => room⟩

private theorem trans {limit first second third : Nat} (earlier : Spends limit first second)
    (later : Spends limit second third) : Spends limit first third :=
  ⟨Nat.le_trans earlier.le later.le, fun within => later.within (earlier.within within)⟩

end Spends

namespace LineSearch.Tries

variable {objective : Objective α σ ε} {ray : Ray α n} {armijo : α} {callLimit : Nat}
  {steps : List α} {calls : Nat} {memory after : σ} {found : Result α n ε}

theorem spends (tries : Tries objective ray armijo callLimit steps calls memory found after) :
    Spends callLimit calls found.calls := by
  induction tries with
  | stalled => exact .refl _ _
  | outOfCalls => exact .refl _ _
  | refused => exact .refl _ _
  | accepted room => exact .one room
  | rejected room _ _ _ induction => exact (Spends.one room).trans induction

private theorem calls_lt
    (tries : Tries objective ray armijo callLimit steps calls memory found after)
    (given : steps ≠ []) (room : calls < callLimit) {outcome : Outcome α n}
    (answered : found.outcome = .ok outcome) : calls < found.calls := by
  cases tries with
  | stalled => exact absurd rfl given
  | outOfCalls full => exact absurd room (Nat.not_lt_of_le full)
  | refused => cases answered
  | accepted => exact Nat.lt_succ_self _
  | rejected _ _ _ rest => exact rest.spends.le

private theorem limit_le_calls
    (tries : Tries objective ray armijo callLimit steps calls memory found after)
    (out : found.outcome = .ok .outOfCalls) : callLimit ≤ found.calls := by
  induction tries with
  | stalled => cases out
  | outOfCalls full => exact full
  | refused => cases out
  | accepted => cases out
  | rejected _ _ _ _ induction => exact induction out

end LineSearch.Tries

namespace Problem

variable {problem : Problem α σ ε n} {observer : Observer α ω} {state : State α n}
  {session final : Session α σ ω} {memory after : σ}

theorem tries_found (problem : Problem α σ ε n) (state : State α n) (memory : σ) :
    LineSearch.Tries problem.objective state.ray problem.config.armijo problem.callLimit
      (LineSearch.multipliers problem.config.minStep) state.calls memory
      (problem.found state memory).1 (problem.found state memory).2 :=
  LineSearch.tries_tryEach _ _ _ _ _ _ _

theorem lineSearch_eq_ok {descent : Descent α n}
    (search : problem.lineSearch state memory = (.ok descent, after)) :
    ∃ outcome, (problem.found state memory).1.outcome = .ok outcome ∧
      descent = Descent.ofOutcome
        { state with calls := (problem.found state memory).1.calls } outcome ∧
      after = (problem.found state memory).2 := by
  rw [lineSearch_apply] at search
  rcases answered : (problem.found state memory).1.outcome with cause | outcome
  · rw [answered] at search
    cases search
  · rw [answered] at search
    cases search
    exact ⟨outcome, rfl, rfl, rfl⟩

theorem lineSearch_spends {descent : Descent α n}
    (search : problem.lineSearch state memory = (.ok descent, after)) :
    Spends problem.callLimit state.calls descent.state.calls := by
  rcases lineSearch_eq_ok search with ⟨outcome, _, rfl, _⟩
  rw [Descent.state_ofOutcome]
  exact (problem.tries_found state memory).spends

private theorem lineSearch_calls_lt {descent : Descent α n}
    (given : LineSearch.multipliers problem.config.minStep ≠ [])
    (room : state.calls < problem.callLimit)
    (search : problem.lineSearch state memory = (.ok descent, after)) :
    state.calls < descent.state.calls := by
  rcases lineSearch_eq_ok search with ⟨outcome, answered, rfl, _⟩
  rw [Descent.state_ofOutcome]
  exact (problem.tries_found state memory).calls_lt given room answered

private theorem lineSearch_limit_le {searched : State α n}
    (search : problem.lineSearch state memory = (.ok (.outOfCalls searched), after)) :
    problem.callLimit ≤ searched.calls := by
  rcases lineSearch_eq_ok search with ⟨outcome, answered, equal, _⟩
  cases outcome with
  | accepted => cases equal
  | stalled => cases equal
  | outOfCalls =>
      cases equal
      exact (problem.tries_found state memory).limit_le_calls answered

/-! ## Steps -/

theorem descend_eq_ok {descent : Descent α n}
    (search : problem.descend state memory = (.ok descent, after)) :
    ∃ first middle, problem.lineSearch first middle = (.ok descent, after) ∧
      (first = state ∨ ∃ calls, first = problem.reset { state with calls := calls }) := by
  have descends := problem.descends_descend state memory
  rw [search] at descends
  cases descends with
  | uphill _ search => exact ⟨_, _, search, .inr ⟨state.calls, rfl⟩⟩
  | direct _ search => exact ⟨_, _, search, .inl rfl⟩
  | retried _ first _ second =>
      rcases lineSearch_eq_ok first with ⟨outcome, _, equal, _⟩
      cases outcome with
      | accepted => cases equal
      | stalled =>
          cases equal
          exact ⟨_, _, second, .inr ⟨_, rfl⟩⟩
      | outOfCalls => cases equal

theorem descend_spends {descent : Descent α n}
    (search : problem.descend state memory = (.ok descent, after)) :
    Spends problem.callLimit state.calls descent.state.calls := by
  have descends := problem.descends_descend state memory
  rw [search] at descends
  cases descends with
  | uphill _ search => exact (lineSearch_spends search : Spends _ (problem.reset state).calls _)
  | direct _ search => exact lineSearch_spends search
  | retried _ first _ second =>
      exact (lineSearch_spends first).trans
        (lineSearch_spends second : Spends _ (problem.reset _).calls _)

theorem descend_calls_lt {descent : Descent α n}
    (given : LineSearch.multipliers problem.config.minStep ≠ [])
    (room : state.calls < problem.callLimit)
    (search : problem.descend state memory = (.ok descent, after)) :
    state.calls < descent.state.calls := by
  have descends := problem.descends_descend state memory
  rw [search] at descends
  cases descends with
  | uphill _ search =>
      exact (lineSearch_calls_lt given room search : (problem.reset state).calls < _)
  | direct _ search => exact lineSearch_calls_lt given room search
  | retried _ first _ second =>
      exact Nat.lt_of_lt_of_le (lineSearch_calls_lt given room first)
        (lineSearch_spends second : Spends _ (problem.reset _).calls _).le

private theorem descend_limit_le {searched : State α n}
    (search : problem.descend state memory = (.ok (.outOfCalls searched), after)) :
    problem.callLimit ≤ searched.calls := by
  rcases descend_eq_ok search with ⟨_, _, last, _⟩
  exact lineSearch_limit_le last

theorem gradient?_calls {calls : Nat} {x : Vector α n} {cost : α}
    {estimate : GradientEstimate α n}
    (gradient : problem.gradient? calls x cost memory = (.ok (some estimate), after)) :
    estimate.calls = 2 * n :=
  Differences.gradient_calls _ _ (Differences.finiteOnly_eq_some gradient)

theorem hessian?_calls {calls : Nat} {x : Vector α n} {cost : α}
    {estimate : HessianEstimate α n}
    (hessian : problem.hessian? calls x cost memory = (.ok (some estimate), after)) :
    estimate.calls = 2 * (n * n) :=
  Differences.hessian_calls _ _ (Differences.finiteOnly_eq_some hessian)

private theorem iterate_calls {step : Step α n}
    (stepped : problem.iterate state memory = (.ok step, after)) :
    ∃ descent middle, problem.descend state memory = (.ok descent, middle) ∧
      (step.state.calls = descent.state.calls ∨
        step.state.calls = descent.state.calls + 2 * n) := by
  have iterates := problem.iterates_iterate state memory
  rw [stepped] at iterates
  cases iterates with
  | stalled descent => exact ⟨_, _, descent, .inl rfl⟩
  | outOfCalls descent => exact ⟨_, _, descent, .inl rfl⟩
  | failed descent => exact ⟨_, _, descent, .inr rfl⟩
  | advanced descent gradient =>
      refine ⟨_, _, descent, .inr ?_⟩
      rw [← gradient?_calls gradient]
      rfl

theorem iterate_le {step : Step α n}
    (stepped : problem.iterate state memory = (.ok step, after)) :
    state.calls ≤ step.state.calls := by
  rcases iterate_calls stepped with ⟨descent, _, descended, calls⟩
  have spent := (descend_spends descended).le
  omega

private theorem iterate_lt {step : Step α n}
    (given : LineSearch.multipliers problem.config.minStep ≠ [])
    (room : state.calls < problem.callLimit)
    (stepped : problem.iterate state memory = (.ok step, after)) :
    state.calls < step.state.calls := by
  rcases iterate_calls stepped with ⟨descent, _, descended, calls⟩
  have spent := descend_calls_lt given room descended
  omega

private theorem iterate_le_limit {step : Step α n} (within : state.calls ≤ problem.callLimit)
    (stepped : problem.iterate state memory = (.ok step, after)) :
    step.state.calls ≤ problem.callLimit + 2 * n := by
  rcases iterate_calls stepped with ⟨descent, _, descended, calls⟩
  have spent := (descend_spends descended).within within
  omega

theorem iterate_outOfCalls {searched : State α n} (within : state.calls ≤ problem.callLimit)
    (stepped : problem.iterate state memory = (.ok (.outOfCalls searched), after)) :
    searched.calls = problem.callLimit := by
  have iterates := problem.iterates_iterate state memory
  rw [stepped] at iterates
  cases iterates with
  | outOfCalls descent =>
      exact Nat.le_antisymm ((descend_spends descent).within within)
        (descend_limit_le descent)

/-! ## Checks -/

theorem refine_calls {refinement : Refinement α n}
    (refined : problem.refine state memory = (.ok refinement, after)) :
    refinement.state.calls = state.calls + 2 * (n * n) := by
  have refines := problem.refines_refine state memory
  rw [refined] at refines
  cases refines with
  | failed => rfl
  | indefinite hessian =>
      rw [← hessian?_calls hessian]
      rfl
  | definite hessian =>
      rw [← hessian?_calls hessian]
      rfl

theorem check_calls {check : Check α n}
    (room : state.calls + 2 * (n * n) ≤ problem.callLimit)
    (checked : problem.check observer state session = (.ok check, final)) :
    check.state.calls = state.calls + 2 * (n * n) := by
  have checks := problem.checks_check observer state session
  rw [checked] at checks
  cases checks with
  | noRoom full => exact absurd room (Nat.not_le_of_lt full)
  | failed _ refinement => exact (refine_calls refinement :)
  | stopped _ refinement => exact (refine_calls refinement :)
  | passed _ refinement => exact (refine_calls refinement :)

theorem check_of_full (observer : Observer α ω) (session : Session α σ ω)
    (full : problem.callLimit < state.calls + 2 * (n * n)) :
    ∃ notes, problem.check observer state session =
      (.ok (.ended ⟨.reachedCallLimit, state⟩), { session with notes := notes }) := by
  rw [check, if_pos full]
  exact ⟨_, rfl⟩

private theorem check_calls_cases {check : Check α n}
    (checked : problem.check observer state session = (.ok check, final)) :
    check.state.calls = state.calls ∨
      check.state.calls = state.calls + 2 * (n * n) ∧
        check.state.calls ≤ problem.callLimit := by
  by_cases full : problem.callLimit < state.calls + 2 * (n * n)
  · rcases check_of_full observer session full with ⟨notes, ended⟩
    cases ended.symm.trans checked
    exact .inl rfl
  · have room := Nat.le_of_not_lt full
    have charged := check_calls room checked
    exact .inr ⟨charged, charged ▸ room⟩

theorem check_le {check : Check α n}
    (checked : problem.check observer state session = (.ok check, final)) :
    state.calls ≤ check.state.calls := by
  rcases check_calls_cases checked with same | ⟨charged, _⟩
  · exact Nat.le_of_eq same.symm
  · omega

private theorem check_le_bound {check : Check α n} {bound : Nat}
    (limit : problem.callLimit ≤ bound) (within : state.calls ≤ bound)
    (checked : problem.check observer state session = (.ok check, final)) :
    check.state.calls ≤ bound := by
  rcases check_calls_cases checked with same | ⟨_, room⟩
  · exact same ▸ within
  · exact Nat.le_trans room limit

/-! ## Turns -/

private theorem settle_eq_ok {ending : Ending α n}
    (settled : problem.settle observer state session = (.ok ending, final)) :
    ending.state = state ∨ ∃ check middle,
      problem.check observer state session = (.ok check, middle) ∧
        ending.state = check.state := by
  have settles := problem.settles_settle observer state session
  rw [settled] at settles
  cases settles with
  | unchecked => exact .inl rfl
  | far => exact .inl rfl
  | ended _ _ checked => exact .inr ⟨_, _, checked, rfl⟩
  | confirmed _ _ checked => exact .inr ⟨_, _, checked, rfl⟩
  | refuted _ _ checked => exact .inr ⟨_, _, checked, rfl⟩

theorem afterStep_eq_ok {multiplier : α} {updated : Bool} {check : Check α n}
    (followed : problem.afterStep observer state multiplier updated session =
      (.ok check, final)) :
    check.state = state ∨ ∃ middle,
      problem.check observer state middle = (.ok check, final) := by
  have follows := problem.follows_afterStep observer state session multiplier updated
  rw [followed] at follows
  cases follows with
  | stopped => exact .inl rfl
  | unchecked => exact .inl rfl
  | checked _ _ checked => exact .inr ⟨_, checked⟩

theorem settle_le {ending : Ending α n}
    (settled : problem.settle observer state session = (.ok ending, final)) :
    state.calls ≤ ending.state.calls := by
  rcases settle_eq_ok settled with same | ⟨check, middle, checked, same⟩
  · exact Nat.le_of_eq (same ▸ rfl)
  · exact same ▸ check_le checked

theorem afterStep_le {multiplier : α} {updated : Bool} {check : Check α n}
    (followed : problem.afterStep observer state multiplier updated session =
      (.ok check, final)) : state.calls ≤ check.state.calls := by
  rcases afterStep_eq_ok followed with same | ⟨middle, checked⟩
  · exact Nat.le_of_eq (same ▸ rfl)
  · exact check_le checked

@[simp] theorem state_convergeIfClose (check : Check α n) :
    (problem.convergeIfClose check).state = check.state := by
  cases check with
  | ended => rfl
  | passed state =>
      rw [convergeIfClose]
      cases problem.isClose state <;> rfl

theorem turn_eq_ok {check : Check α n}
    (turned : problem.turn observer state session = (.ok check, final)) :
    ∃ step memory, problem.iterate state session.objectiveMemory = (.ok step, memory) ∧
      (check.state = step.state ∨ ∃ checked middle last,
        problem.check observer step.state middle = (.ok checked, last) ∧
          check.state = checked.state) := by
  have turns := problem.turns_turn observer state session
  rw [turned] at turns
  cases turns with
  | stalled step settled =>
      refine ⟨_, _, step, ?_⟩
      rcases settle_eq_ok settled with same | ⟨checked, middle, found, same⟩
      · exact .inl same
      · exact .inr ⟨checked, _, middle, found, same⟩
  | outOfCalls step => exact ⟨_, _, step, .inl rfl⟩
  | failed step => exact ⟨_, _, step, .inl rfl⟩
  | advanced step followed =>
      refine ⟨_, _, step, ?_⟩
      rw [state_convergeIfClose]
      rcases afterStep_eq_ok followed with same | ⟨middle, found⟩
      · exact .inl same
      · exact .inr ⟨_, middle, _, found, rfl⟩

theorem turn_le {check : Check α n}
    (turned : problem.turn observer state session = (.ok check, final)) :
    state.calls ≤ check.state.calls := by
  rcases turn_eq_ok turned with ⟨step, memory, stepped, same | ⟨checked, middle, last, found, same⟩⟩
  · exact same ▸ iterate_le stepped
  · exact same ▸ Nat.le_trans (iterate_le stepped) (check_le found)

theorem turn_lt {check : Check α n}
    (given : LineSearch.multipliers problem.config.minStep ≠ [])
    (room : state.calls < problem.callLimit)
    (turned : problem.turn observer state session = (.ok check, final)) :
    state.calls < check.state.calls := by
  rcases turn_eq_ok turned with ⟨step, memory, stepped, same | ⟨checked, middle, last, found, same⟩⟩
  · exact same ▸ iterate_lt given room stepped
  · exact same ▸ Nat.lt_of_lt_of_le (iterate_lt given room stepped) (check_le found)

private theorem turn_le_limit {check : Check α n} (within : state.calls ≤ problem.callLimit)
    (turned : problem.turn observer state session = (.ok check, final)) :
    check.state.calls ≤ problem.callLimit + 2 * n := by
  rcases turn_eq_ok turned with ⟨step, memory, stepped, same | ⟨checked, middle, last, found, same⟩⟩
  · exact same ▸ iterate_le_limit within stepped
  · exact same ▸ check_le_bound (Nat.le_add_right _ _) (iterate_le_limit within stepped) found

/-! ## The whole fit -/

theorem start_calls {x : Vector α n} {state : State α n}
    (started : problem.start x memory = (.ok (.ready state), after)) :
    state.calls = 1 + 2 * n := by
  have starts := problem.starts_start memory x
  rw [started] at starts
  cases starts with
  | ready _ _ gradient =>
      rw [← gradient?_calls gradient]
      rfl

private theorem start_failed_calls {x : Vector α n} {state : State α n}
    (started : problem.start x memory = (.ok (.failed state), after)) :
    state.calls ≤ 1 + 2 * n := by
  have starts := problem.starts_start memory x
  rw [started] at starts
  cases starts with
  | nonFinite => exact Nat.le_add_right _ _
  | failed => exact Nat.le_refl _

variable {x : Vector α n} {origin : Session α σ ω}

theorem AtHead.calls_le {remaining : Nat}
    (head : problem.AtHead observer x origin remaining state session) :
    state.calls ≤ max problem.callLimit 1 + 2 * n := by
  cases head with
  | first started =>
      have charged := start_calls started
      omega
  | next before room turned =>
      have charged := turn_le_limit (Nat.le_of_lt room) turned
      change (Check.passed state).state.calls ≤ _
      omega

/-- Only the gradient at the start or at the last accepted point takes the calls of
a fit past their limit. -/
theorem run_calls {ending : Ending α n}
    (ends : problem.run observer x origin = (.ok ending, final)) :
    ending.state.calls ≤ max problem.callLimit 1 + 2 * n := by
  have ways := problem.ends_run observer x origin
  rw [ends] at ways
  cases ways with
  | failedStart started =>
      exact Nat.le_trans (start_failed_calls started) (by omega)
  | limit head => exact head.calls_le
  | ended _ room turned =>
      have charged := turn_le_limit (Nat.le_of_lt room) turned
      change (Check.ended ending).state.calls ≤ _
      omega

end Problem

end CurveFitting

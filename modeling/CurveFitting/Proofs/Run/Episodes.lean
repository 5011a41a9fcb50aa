import CurveFitting.Proofs.Run.Points

/-! # Episodes

A turn with everything in it: the step, what is told of it, the check that follows and
why it does. What holds of every turn is proved with one case for each episode, and
with one for each way a check can end.
-/

namespace CurveFitting

variable {α σ ω ε : Type} [Scalar α] {n : Nat}

namespace Problem

variable (problem : Problem α σ ε n) (observer : Observer α ω) (state : State α n)
  (session : Session α σ ω)

/-- How a fit ends after a step of which nothing is told. -/
def EndsQuietly : Step α n → Ending α n → Prop
  | .advanced .., _ => False
  | .stalled searched, ending =>
      problem.isClose searched = false ∧ ending = ⟨.aboveMaxEdm, searched⟩ ∨
        problem.isClose searched = true ∧ problem.config.refineHessian = false ∧
          ending = ⟨.converged, searched⟩
  | .outOfCalls searched, ending => ending = ⟨.reachedCallLimit, searched⟩
  | .failed searched, ending => ending = ⟨.numericalFailure, searched⟩

/-- Ends a fit after a check, as converged only if it is still close. -/
def settleCheck : Check α n → Check α n
  | .ended ending => .ended ending
  | .passed state =>
      .ended ⟨if problem.isClose state then .converged else .aboveMaxEdm, state⟩

inductive Episode : Except (FitError α ε) (Check α n) → Session α σ ω → Prop
  | refused {cause memory}
      (step : problem.iterate state session.objectiveMemory = (.error cause, memory)) :
      Episode (.error (.objective cause)) { session with objectiveMemory := memory }
  | quiet {step ending memory notes}
      (stepped : problem.iterate state session.objectiveMemory = (.ok step, memory))
      (ends : problem.EndsQuietly step ending) :
      Episode (.ok (.ended ending))
        { session with objectiveMemory := memory, notes := notes }
  | settled {searched memory answer final notes}
      (step : problem.iterate state session.objectiveMemory = (.ok (.stalled searched), memory))
      (close : problem.isClose searched = true)
      (checking : problem.config.refineHessian = true)
      (checks : problem.Checks observer searched { session with objectiveMemory := memory }
        answer final) :
      Episode (answer.map problem.settleCheck) { final with notes := notes }
  | stopped {next multiplier updated memory notes} {told : Session α σ ω}
      (step : problem.iterate state session.objectiveMemory =
        (.ok (.advanced next multiplier updated), memory))
      (telling : told = { session with objectiveMemory := memory, notes := notes })
      (stop : told.answer observer (next.iteratedEvent multiplier updated) = some .stopEarly) :
      Episode (.ok (.ended ⟨.stoppedByObserver, next⟩))
        (told.shown observer (next.iteratedEvent multiplier updated))
  | unchecked {next multiplier updated memory notes} {told : Session α σ ω}
      (step : problem.iterate state session.objectiveMemory =
        (.ok (.advanced next multiplier updated), memory))
      (telling : told = { session with objectiveMemory := memory, notes := notes })
      (quiet : told.answer observer (next.iteratedEvent multiplier updated) = none)
      (far : (problem.isClose next && problem.config.refineHessian) = false) :
      Episode (.ok (problem.convergeIfClose (.passed next)))
        (told.shown observer (next.iteratedEvent multiplier updated))
  | checked {next multiplier updated memory notes} {told : Session α σ ω} {answer final}
      (step : problem.iterate state session.objectiveMemory =
        (.ok (.advanced next multiplier updated), memory))
      (telling : told = { session with objectiveMemory := memory, notes := notes })
      (reason : told.answer observer (next.iteratedEvent multiplier updated) =
          some .refineHessian ∨
        problem.config.refineHessian = true ∧ problem.isClose next = true)
      (checks : problem.Checks observer next
        (told.shown observer (next.iteratedEvent multiplier updated)) answer final) :
      Episode (answer.map problem.convergeIfClose) final

variable {problem observer state session} {final : Session α σ ω}

/-! ## Quiet endings -/

section

variable {step : Step α n} {ending : Ending α n} {memory after : σ}

theorem EndsQuietly.state_eq (ends : problem.EndsQuietly step ending) :
    ending.state = step.state := by
  cases step with
  | advanced => exact ends.elim
  | stalled =>
      rcases ends with ⟨_, rfl⟩ | ⟨_, _, rfl⟩
      · rfl
      · rfl
  | outOfCalls =>
      rcases ends with rfl
      rfl
  | failed =>
      rcases ends with rfl
      rfl

theorem EndsQuietly.stands (ends : problem.EndsQuietly step ending)
    (stepped : problem.iterate state memory = (.ok step, after)) :
    state.Stands ending.state := by
  have stands := iterate_standsAt stepped
  rw [ends.state_eq]
  cases step with
  | advanced => exact ends.elim
  | stalled => exact stands
  | outOfCalls => exact stands
  | failed => exact stands

theorem EndsQuietly.unstopped (ends : problem.EndsQuietly step ending) :
    ending.status ≠ .stoppedByObserver := by
  intro status
  cases step with
  | advanced => exact ends.elim
  | stalled =>
      rcases ends with ⟨_, rfl⟩ | ⟨_, _, rfl⟩
      · cases status
      · cases status
  | outOfCalls =>
      rcases ends with rfl
      cases status
  | failed =>
      rcases ends with rfl
      cases status

end

/-! ## The episode of a turn -/

private theorem episode_of_stalled {searched : State α n} {memory : σ}
    {answer : Except (FitError α ε) (Ending α n)}
    (step : problem.iterate state session.objectiveMemory = (.ok (.stalled searched), memory))
    (settled : problem.settle observer searched { session with objectiveMemory := memory } =
      (answer, final)) :
    problem.Episode observer state session (answer.map .ended) final := by
  have checks := problem.checks_check observer searched { session with objectiveMemory := memory }
  have settles := problem.settles_settle observer searched
    { session with objectiveMemory := memory }
  rw [settled] at settles
  cases settles with
  | unchecked close trusting => exact .quiet step (.inr ⟨close, trusting, rfl⟩)
  | far far => exact .quiet step (.inl ⟨far, rfl⟩)
  | refused close checking checked =>
      rw [checked] at checks
      exact .settled step close checking checks
  | ended close checking checked =>
      rw [checked] at checks
      exact .settled step close checking checks
  | @confirmed next _ close checking checked still =>
      rw [checked] at checks
      have converges : problem.settleCheck (.passed next) = .ended ⟨.converged, next⟩ := by
        rw [settleCheck, if_pos still]
      rw [Except.map, ← converges]
      exact .settled step close checking checks
  | @refuted next _ _ close checking checked far =>
      rw [checked] at checks
      have fails : problem.settleCheck (.passed next) = .ended ⟨.aboveMaxEdm, next⟩ := by
        rw [settleCheck, if_neg (Bool.eq_false_iff.mp far)]
      rw [Except.map, ← fails]
      exact .settled step close checking checks

private theorem episode_of_advanced {next : State α n} {multiplier : α} {updated : Bool}
    {memory : σ} {answer : Except (FitError α ε) (Check α n)}
    (step : problem.iterate state session.objectiveMemory =
      (.ok (.advanced next multiplier updated), memory))
    (followed : problem.afterStep observer next multiplier updated
      { session with objectiveMemory := memory } = (answer, final)) :
    problem.Episode observer state session (answer.map problem.convergeIfClose) final := by
  have follows := problem.follows_afterStep observer next
    { session with objectiveMemory := memory } multiplier updated
  rw [followed] at follows
  cases follows with
  | stopped telling stop => exact .stopped step telling stop
  | unchecked telling quiet far => exact .unchecked step telling quiet far
  | @checked notes told _ _ telling reason checked =>
      have checks := problem.checks_check observer next
        (told.shown observer (next.iteratedEvent multiplier updated))
      rw [checked] at checks
      refine .checked step telling (reason.imp_right fun trusted => ?_) checks
      exact (Bool.and_eq_true_iff.mp trusted.2).symm

theorem episode_turn (problem : Problem α σ ε n) (observer : Observer α ω) (state : State α n)
    (session : Session α σ ω) :
    problem.Episode observer state session (problem.turn observer state session).1
      (problem.turn observer state session).2 := by
  rcases turned : problem.turn observer state session with ⟨answer, final⟩
  have turns := problem.turns_turn observer state session
  rw [turned] at turns
  cases turns with
  | refused step => exact .refused step
  | refusedStalled step settled => exact episode_of_stalled step settled
  | stalled step settled => exact episode_of_stalled step settled
  | outOfCalls step => exact .quiet step rfl
  | failed step => exact .quiet step rfl
  | refusedAdvanced step followed => exact episode_of_advanced step followed
  | advanced step followed => exact episode_of_advanced step followed

end Problem

end CurveFitting

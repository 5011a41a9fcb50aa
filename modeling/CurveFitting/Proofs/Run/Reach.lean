import CurveFitting.Proofs.Run.Calls

/-! # The states of a fit

A fit that has its first gradient comes to its states by five kinds of moves: a line
search, a step back to the seed, a whole step, and a check against a full Hessian. What
every move preserves holds in all of its states, up to the one in which it ends.
-/

namespace CurveFitting

variable {α σ ω ε : Type} [Scalar α] {n : Nat}

namespace Problem

/-- The states that a fit from the values `x` may come to. The memory of the
objective may be any at each move, and any move may follow any other. -/
inductive Reaches (problem : Problem α σ ε n) (x : Vector α n) : State α n → Prop
  | started {memory state after}
      (started : problem.start x memory = (.ok (.ready state), after)) :
      Reaches problem x state
  | searched {state memory descent after} (before : Reaches problem x state)
      (search : problem.lineSearch state memory = (.ok descent, after)) :
      Reaches problem x descent.state
  | reset {state} (before : Reaches problem x state) :
      Reaches problem x (problem.reset state)
  | iterated {state memory step after} (before : Reaches problem x state)
      (iteration : problem.iterate state memory = (.ok step, after)) :
      Reaches problem x step.state
  | refined {state memory next after} (before : Reaches problem x state)
      (refinement : problem.refine state memory = (.ok next, after)) :
      Reaches problem x next.state

variable {problem : Problem α σ ε n} {observer : Observer α ω} {x : Vector α n}
  {state : State α n} {session final origin : Session α σ ω}

namespace Reaches

theorem checked {check : Check α n} (reaches : problem.Reaches x state)
    (checked : problem.check observer state session = (.ok check, final)) :
    problem.Reaches x check.state := by
  have checks := problem.checks_check observer state session
  rw [checked] at checks
  generalize answered : (.ok check : Except (FitError α ε) (Check α n)) = answer at checks
  cases checks with
  | noRoom =>
      cases answered
      exact reaches
  | refused => cases answered
  | failed _ refinement =>
      cases answered
      exact reaches.refined refinement
  | stopped _ refinement =>
      cases answered
      exact reaches.refined refinement
  | passed _ refinement =>
      cases answered
      exact reaches.refined refinement

theorem turned {check : Check α n} (reaches : problem.Reaches x state)
    (turned : problem.turn observer state session = (.ok check, final)) :
    problem.Reaches x check.state := by
  rcases turn_eq_ok turned with
    ⟨step, memory, iteration, same | ⟨checked, middle, last, found, same⟩⟩
  · exact same ▸ reaches.iterated iteration
  · exact same ▸ (reaches.iterated iteration).checked found

end Reaches

theorem AtHead.reaches {remaining : Nat}
    (head : problem.AtHead observer x origin remaining state session) :
    problem.Reaches x state := by
  induction head with
  | first started => exact .started started
  | next _ _ turned induction => exact (induction.turned turned :)

/-- A fit ends in a state that it may come to, unless it has no first gradient. -/
theorem reaches_of_run {ending : Ending α n}
    (ran : problem.run observer x origin = (.ok ending, final)) :
    problem.Reaches x ending.state ∨ ∃ memory,
      problem.start x origin.objectiveMemory = (.ok (.failed ending.state), memory) := by
  have ends := problem.ends_run observer x origin
  rw [ran] at ends
  cases ends with
  | failedStart started => exact .inr ⟨_, started⟩
  | limit head => exact .inl head.reaches
  | ended head _ turned => exact .inl (head.reaches.turned turned :)

/-! ## Convergence -/

private theorem check_eq_passed {next : State α n}
    (checked : problem.check observer state session = (.ok (.passed next), final)) :
    ∃ positiveDefinite memory, problem.refine state session.objectiveMemory =
      (.ok (.checked next positiveDefinite), memory) := by
  have checks := problem.checks_check observer state session
  rw [checked] at checks
  cases checks with
  | passed _ refinement => exact ⟨_, _, refinement⟩

/-- A state that has just been checked against a full Hessian and is close. -/
def Confirmed (problem : Problem α σ ε n) (x : Vector α n) (state : State α n) : Prop :=
  problem.isClose state = true ∧ ∃ before memory positiveDefinite after,
    problem.Reaches x before ∧
      problem.refine before memory = (.ok (.checked state positiveDefinite), after)

theorem Reaches.confirmed {next : State α n} (reaches : problem.Reaches x state)
    (close : problem.isClose next = true)
    (checked : problem.check observer state session = (.ok (.passed next), final)) :
    problem.Confirmed x next := by
  rcases check_eq_passed checked with ⟨positiveDefinite, memory, refinement⟩
  exact ⟨close, state, _, positiveDefinite, memory, reaches, refinement⟩

private theorem check_not_converged {ending : Ending α n}
    (checked : problem.check observer state session = (.ok (.ended ending), final)) :
    ending.status ≠ .converged := by
  have checks := problem.checks_check observer state session
  rw [checked] at checks
  cases checks with
  | noRoom => nofun
  | failed => nofun
  | stopped => nofun

theorem Reaches.confirmed_of_settle {ending : Ending α n} (reaches : problem.Reaches x state)
    (checking : problem.config.refineHessian = true) (converged : ending.status = .converged)
    (settled : problem.settle observer state session = (.ok ending, final)) :
    problem.Confirmed x ending.state := by
  have settles := problem.settles_settle observer state session
  rw [settled] at settles
  cases settles with
  | unchecked _ trusting => cases checking.symm.trans trusting
  | far => cases converged
  | ended _ _ checked => exact absurd converged (check_not_converged checked)
  | confirmed _ _ checked still => exact reaches.confirmed still checked
  | refuted => cases converged

theorem Reaches.confirmed_of_afterStep {ending : Ending α n} {multiplier : α} {updated : Bool}
    {check : Check α n} (reaches : problem.Reaches x state)
    (checking : problem.config.refineHessian = true) (converged : ending.status = .converged)
    (followed : problem.afterStep observer state multiplier updated session = (.ok check, final))
    (ended : problem.convergeIfClose check = .ended ending) :
    problem.Confirmed x ending.state := by
  have follows := problem.follows_afterStep observer state session multiplier updated
  rw [followed] at follows
  cases check with
  | ended last =>
      cases ended
      cases follows with
      | stopped => cases converged
      | checked _ _ checked => exact absurd converged (check_not_converged checked)
  | passed next =>
      rw [convergeIfClose] at ended
      split at ended
      · rename_i close
        cases ended
        cases follows with
        | unchecked _ _ far =>
            rw [close, checking] at far
            cases far
        | checked _ _ checked => exact reaches.confirmed close checked
      · cases ended

/-- With checks against full Hessians a fit only converges in a state that has just
passed one. -/
theorem confirmed_of_run {ending : Ending α n}
    (checking : problem.config.refineHessian = true) (converged : ending.status = .converged)
    (ran : problem.run observer x origin = (.ok ending, final)) :
    problem.Confirmed x ending.state := by
  have ends := problem.ends_run observer x origin
  rw [ran] at ends
  cases ends with
  | failedStart => cases converged
  | limit => cases converged
  | @ended remaining state session _ _ head _ turned =>
      have turns := problem.turns_turn observer state session
      rw [turned] at turns
      generalize answered : (.ok (.ended ending) : Except (FitError α ε) (Check α n)) = answer
        at turns
      cases turns with
      | refused => cases answered
      | refusedStalled => cases answered
      | stalled step settled =>
          cases answered
          exact (head.reaches.iterated step).confirmed_of_settle checking converged settled
      | outOfCalls =>
          cases answered
          cases converged
      | failed =>
          cases answered
          cases converged
      | refusedAdvanced => cases answered
      | advanced step followed =>
          exact (head.reaches.iterated step).confirmed_of_afterStep checking converged followed
            (Except.ok.inj answered).symm

end Problem

end CurveFitting

import CurveFitting.Proofs.Run.Episodes
import CurveFitting.Proofs.Run.Points

/-! # Status and estimated distance

How a fit ends and how far it is from the minimum by its own estimate go together. A fit
goes on after a step only while it is not close, so that a close fit which has not
converged was stopped, made no step, or could not check its last one.
-/

namespace CurveFitting

variable {α σ ω ε : Type} [Scalar α] {n : Nat}

namespace Problem

variable (problem : Problem α σ ε n)

/-- A fit ends at the check of its last step, which does not fit the limit or meets a
value that is not finite. -/
inductive EndsAtCheck : Ending α n → Session α σ ω → Prop
  | noRoom {state : State α n} {session multiplier updated}
      (told : session.events.back? = some (state.iteratedEvent multiplier updated))
      (full : problem.callLimit < state.calls + 2 * (n * n)) :
      EndsAtCheck ⟨.reachedCallLimit, state⟩ session
  | failed {state : State α n} {session multiplier updated memory}
      (told : session.events.back? = some (state.iteratedEvent multiplier updated))
      (room : state.calls + 2 * (n * n) ≤ problem.callLimit)
      (hessian : problem.hessian? state.calls state.x state.cost memory =
        (.ok none, session.objectiveMemory)) :
      EndsAtCheck ⟨.numericalFailure, state.addCalls (2 * (n * n))⟩ session

def LastChecked (state : State α n) (session : Session α σ ω) : Prop :=
  ∃ edmBefore positiveDefinite,
    session.events.back? = some (state.refinedEvent edmBefore positiveDefinite)

structure Agrees (ending : Ending α n) (final : Session α σ ω) : Prop where
  converged : ending.status = .converged → problem.isClose ending.state = true ∧
    (problem.config.refineHessian = true → LastChecked ending.state final)
  aboveMaxEdm : ending.status = .aboveMaxEdm → problem.isClose ending.state = false
  close : problem.isClose ending.state = true → ending.status = .converged ∨
    ending.status = .stoppedByObserver ∨ ending.state.iterations = 0 ∨
      problem.EndsAtCheck ending final

variable {problem} {observer : Observer α ω} {state next : State α n}
  {session final origin : Session α σ ω} {ending : Ending α n} {x : Vector α n}

/-! ## Endings -/

namespace Agrees

private theorem of_goesOn (goesOn : problem.GoesOn ending.state)
    (unconverged : ending.status ≠ .converged) (undecided : ending.status ≠ .aboveMaxEdm) :
    problem.Agrees ending final where
  converged equal := absurd equal unconverged
  aboveMaxEdm equal := absurd equal undecided
  close close := by
    rcases goesOn with first | far
    · exact .inr (.inr (.inl first))
    · cases far.symm.trans close

private theorem stopped : problem.Agrees ⟨.stoppedByObserver, state⟩ final where
  converged equal := by cases equal
  aboveMaxEdm equal := by cases equal
  close _ := .inr (.inl rfl)

private theorem far (far : problem.isClose state = false) :
    problem.Agrees ⟨.aboveMaxEdm, state⟩ final where
  converged equal := by cases equal
  aboveMaxEdm _ := far
  close close := by cases far.symm.trans close

private theorem confirmed (close : problem.isClose state = true)
    (checked : problem.config.refineHessian = true → LastChecked state final) :
    problem.Agrees ⟨.converged, state⟩ final where
  converged _ := ⟨close, checked⟩
  aboveMaxEdm equal := by cases equal
  close _ := .inl rfl

private theorem of_endsAtCheck (ends : problem.EndsAtCheck ending final) :
    problem.Agrees ending final where
  converged equal := by cases ends <;> cases equal
  aboveMaxEdm equal := by cases ends <;> cases equal
  close _ := .inr (.inr (.inr ends))

end Agrees

/-! ## Turns -/

theorem convergeIfClose_eq_ended
    (ended : problem.convergeIfClose (.passed state) = .ended ending) :
    problem.isClose state = true ∧ ending = ⟨.converged, state⟩ := by
  rw [convergeIfClose] at ended
  split at ended
  · rename_i close
    cases ended
    exact ⟨close, rfl⟩
  · cases ended

private theorem Checks.agrees_of_settled {answer : Except (FitError α ε) (Check α n)}
    (goesOn : problem.GoesOn state) (checks : problem.Checks observer state session answer final)
    (ended : answer.map problem.settleCheck = .ok (.ended ending)) {notes : Array (Note α)} :
    problem.Agrees ending { final with notes := notes } := by
  cases checks with
  | noRoom =>
      cases ended
      exact .of_goesOn goesOn nofun nofun
  | refused => cases ended
  | failed _ refinement =>
      cases ended
      rcases refine_eq_failed refinement with ⟨_, rfl⟩
      exact .of_goesOn (goesOn.of_stands (state.stands_calls _)) nofun nofun
  | stopped =>
      cases ended
      exact .stopped
  | @passed next =>
      cases ended
      cases close : problem.isClose next with
      | true => exact .confirmed close fun _ => ⟨_, _, Array.back?_push⟩
      | false => exact .far close

private theorem Checks.agrees_of_advanced {answer : Except (FitError α ε) (Check α n)}
    {multiplier : α} {updated : Bool}
    (told : session.events.back? = some (state.iteratedEvent multiplier updated))
    (checks : problem.Checks observer state session answer final)
    (ended : answer.map problem.convergeIfClose = .ok (.ended ending)) :
    problem.Agrees ending final := by
  cases checks with
  | noRoom full =>
      cases ended
      exact .of_endsAtCheck (.noRoom told full)
  | refused => cases ended
  | failed room refinement =>
      cases ended
      rcases refine_eq_failed refinement with ⟨hessian, rfl⟩
      exact .of_endsAtCheck (.failed told room hessian)
  | stopped =>
      cases ended
      exact .stopped
  | @passed next =>
      rcases convergeIfClose_eq_ended (Except.ok.inj ended) with ⟨close, rfl⟩
      exact .confirmed close fun _ => ⟨_, _, Array.back?_push⟩

private theorem Episode.agrees {answer : Except (FitError α ε) (Check α n)}
    (goesOn : problem.GoesOn state) (episode : problem.Episode observer state session answer final)
    (ended : answer = .ok (.ended ending)) : problem.Agrees ending final := by
  cases episode with
  | refused => cases ended
  | @quiet step _ _ _ stepped ends =>
      cases ended
      have stands := iterate_standsAt stepped
      cases step with
      | advanced => exact ends.elim
      | stalled searched =>
          rcases ends with ⟨far, rfl⟩ | ⟨close, trusting, rfl⟩
          · exact .far far
          · exact .confirmed close fun checking => by cases trusting.symm.trans checking
      | outOfCalls searched =>
          rcases ends with rfl
          exact .of_goesOn (goesOn.of_stands stands) nofun nofun
      | failed searched =>
          rcases ends with rfl
          exact .of_goesOn (goesOn.of_stands stands) nofun nofun
  | settled step _ _ checks =>
      exact checks.agrees_of_settled (goesOn.of_stands (iterate_standsAt step)) ended
  | stopped =>
      cases ended
      exact .stopped
  | unchecked _ _ _ far =>
      rcases convergeIfClose_eq_ended (Except.ok.inj ended) with ⟨close, rfl⟩
      refine .confirmed close fun checking => ?_
      rw [close, checking] at far
      cases far
  | checked _ _ _ checks =>
      exact checks.agrees_of_advanced Array.back?_push ended

private theorem agrees_of_run (ran : problem.run observer x origin = (.ok ending, final)) :
    problem.Agrees ending final := by
  have ends := problem.ends_run observer x origin
  rw [ran] at ends
  cases ends with
  | failedStart started =>
      exact .of_goesOn (.inl (start_failed started).1) nofun nofun
  | limit head => exact .of_goesOn head.goesOn nofun nofun
  | @ended remaining state session _ _ head _ turned =>
      have episode := problem.episode_turn observer state session
      rw [turned] at episode
      exact episode.agrees head.goesOn rfl

end Problem

/-! ## Results -/

/-- The point of a result is one that a check against a full Hessian could not be made at:
it does not fit the limit, or meets a value that is not finite. The last event is that of
the step to this point. -/
def Minimum.Unchecked (minimum : Minimum α n) (problem : Problem α σ ε n)
    (final : Session α σ ω) : Prop :=
  ∃ calls multiplier updated,
    final.events.back? = some (.iterated minimum.iterations calls minimum.values.toList
      minimum.cost minimum.edm multiplier updated) ∧
    (minimum.status = .reachedCallLimit ∧ minimum.calls = calls ∧
        problem.callLimit < calls + 2 * (n * n) ∨
      minimum.status = .numericalFailure ∧ minimum.calls = calls + 2 * (n * n) ∧
        calls + 2 * (n * n) ≤ problem.callLimit ∧
        ∃ memory, problem.hessian? calls minimum.values minimum.cost memory =
          (.ok none, final.objectiveMemory))

private theorem Problem.EndsAtCheck.unchecked {problem : Problem α σ ε n} {ending : Ending α n}
    {final : Session α σ ω} (ends : problem.EndsAtCheck ending final) :
    (problem.result ending.status ending.state).Unchecked problem final := by
  have values := problem.values_result ending.status ending.state
  rw [← Minimum.values] at values
  cases ends with
  | @noRoom state _ multiplier updated told full =>
      refine ⟨state.calls, multiplier, updated, ?_, .inl ⟨rfl, rfl, full⟩⟩
      rw [values]
      exact told
  | @failed state _ multiplier updated memory told room hessian =>
      refine ⟨state.calls, multiplier, updated, ?_, .inr ⟨rfl, rfl, room, memory, ?_⟩⟩
      · rw [values]
        exact told
      · rw [values]
        exact hessian

/-- Status and estimated distance agree however a fit ends. A converged fit is below
tolerance and, where it checks against full Hessians, ends with the check that says so. A
fit without a lower cost is not below tolerance. Any other fit below tolerance was stopped
by the observer, made no step, or could not check its last one. The reason is that a
fit which has made a step goes on only while it is not below tolerance. -/
theorem status_agrees_with_edm (objective : Objective α σ ε) (parameters : ParameterSet α)
    (config : Config α) (observer : Observer α ω) (objectiveMemory : σ)
    (observerMemory : ω) :
    let origin := Session.start objectiveMemory observerMemory
    let outcome := minimize objective parameters config observer origin
    (∀ minimum, outcome.1 = .ok minimum →
      (minimum.status = .converged → minimum.edm < config.tolerance ∧
        (config.refineHessian = true → ∃ edmBefore positiveDefinite,
          outcome.2.events.back? = some (.refined minimum.iterations minimum.calls
            minimum.values.toList edmBefore minimum.edm positiveDefinite))) ∧
      (minimum.status = .aboveMaxEdm → ¬minimum.edm < config.tolerance) ∧
      (minimum.edm < config.tolerance → minimum.status ≠ .converged →
        minimum.status = .stoppedByObserver ∨ minimum.iterations = 0 ∨
        ∃ problem, Problem.prepare objective parameters config = .ok problem ∧
          minimum.Unchecked problem outcome.2)) ∧
    ∀ problem remaining state session,
      Problem.prepare objective parameters config = .ok problem →
      problem.AtHead observer parameters.values origin remaining state session →
      state.iterations = 0 ∨ ¬state.edm < config.tolerance := by
  intro origin outcome
  refine ⟨?_, ?_⟩
  · intro minimum answered
    have minimizes : Minimizes objective parameters config observer origin outcome.1 outcome.2 :=
      minimizes_minimize objective parameters config observer origin
    rw [answered] at minimizes
    generalize outcome.2 = final at minimizes
    cases minimizes with
    | @ended problem ending last prepared ran =>
        have agrees := Problem.agrees_of_run ran
        rcases Problem.prepare_eq_ok prepared with ⟨rfl, _⟩
        refine ⟨?_, ?_, ?_⟩
        · intro converged
          rcases agrees.converged converged with ⟨close, checked⟩
          refine ⟨of_decide_eq_true close, fun checking => ?_⟩
          rw [Minimum.values, Problem.values_result]
          exact checked checking
        · intro undecided
          exact of_decide_eq_false (agrees.aboveMaxEdm undecided)
        · intro close unconverged
          rcases agrees.close (decide_eq_true close) with
            converged | stopped | first | ends
          · exact absurd converged unconverged
          · exact .inl stopped
          · exact .inr (.inl first)
          · exact .inr (.inr ⟨problem, prepared, ends.unchecked⟩)
  · intro problem remaining state session prepared head
    rcases Problem.prepare_eq_ok prepared with ⟨rfl, _⟩
    exact head.goesOn.imp_right of_decide_eq_false

end CurveFitting

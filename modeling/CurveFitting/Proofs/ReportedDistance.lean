import CurveFitting.Proofs.Limits
import CurveFitting.Proofs.Run.Consistency
import CurveFitting.Proofs.Run.Telling

/-! # The distance of a result

Every step and every check against a full Hessian estimates the distance anew, so wherever a
fit goes on the distance belongs to the approximation. Taking the approximation back to
the seed does not. A fit that ends right after that reports the distance of the
approximation from before, next to the covariance of the seed.
-/

namespace CurveFitting

variable {α σ ω ε : Type} [Scalar α] {n : Nat}

/-- A fit has given up for want of a lower cost, of calls, or of a finite value. -/
def Status.GaveUp (status : Status) : Prop :=
  status = .aboveMaxEdm ∨ status = .reachedCallLimit ∨ status = .numericalFailure

namespace Problem

/-- The estimated distance of a state is that of its gradient and its approximation. -/
def Current (problem : Problem α σ ε n) (state : State α n) : Prop :=
  state.edm =
    InverseHessian.edm state.gradient state.inverseHessian problem.errorDefinition

/-- A later state has only been taken back to the seed. It still has the distance of the
approximation from before. -/
structure TakenBack (problem : Problem α σ ε n) (before after : State α n) : Prop where
  stands : before.Stands after
  seeded : after.inverseHessian = problem.seed

variable {problem : Problem α σ ε n} {state next : State α n} {memory after : σ}

private theorem Current.of_stands (current : problem.Current state) (stands : state.Stands next)
    (kept : next.inverseHessian = state.inverseHessian) : problem.Current next := by
  rw [Current, stands.edm, stands.gradient, kept]
  exact current

/-! ## Moves -/

private theorem start_current {x : Vector α n}
    (started : problem.start x memory = (.ok (.ready state), after)) :
    problem.Current state := by
  have starts := problem.starts_start memory x
  rw [started] at starts
  cases starts with
  | ready => rfl

private theorem descend_inverseHessian {descent : Descent α n}
    (search : problem.descend state memory = (.ok descent, after)) :
    descent.state.inverseHessian = state.inverseHessian ∨
      descent.state.inverseHessian = problem.seed := by
  rcases descend_eq_ok search with ⟨first, middle, last, begun⟩
  rcases lineSearch_eq_ok last with ⟨outcome, _, rfl, _⟩
  rw [Descent.state_ofOutcome]
  rcases begun with rfl | ⟨calls, rfl⟩
  · exact .inl rfl
  · exact .inr rfl

private theorem iterate_current {multiplier : α} {updated : Bool}
    (stepped : problem.iterate state memory = (.ok (.advanced next multiplier updated), after)) :
    problem.Current next := by
  rcases iterate_eq_advanced stepped with ⟨trial, searched, middle, estimate, _, _, rfl⟩
  rfl

private theorem iterate_takesBack {step : Step α n} (current : problem.Current state)
    (stepped : problem.iterate state memory = (.ok step, after)) :
    problem.Current step.state ∨ problem.TakenBack state step.state := by
  have stands := iterate_standsAt stepped
  have iterates := problem.iterates_iterate state memory
  rw [stepped] at iterates
  cases iterates with
  | stalled descent =>
      exact (descend_inverseHessian descent).imp (current.of_stands stands) (.mk stands)
  | outOfCalls descent =>
      exact (descend_inverseHessian descent).imp (current.of_stands stands) (.mk stands)
  | failed descent =>
      exact (descend_inverseHessian descent).imp (current.of_stands stands) (.mk stands)
  | advanced => exact .inl (iterate_current stepped)

private theorem TakenBack.current (back : problem.TakenBack state next)
    (current : problem.Current state) (seeded : problem.reset state = state) :
    problem.Current next := by
  apply current.of_stands back.stands
  rw [back.seeded, ← seeded]
  rfl

private theorem refine_current {refinement : Refinement α n} (current : problem.Current state)
    (refined : problem.refine state memory = (.ok refinement, after)) :
    problem.Current refinement.state := by
  have refines := problem.refines_refine state memory
  rw [refined] at refines
  cases refines with
  | failed => exact current
  | indefinite => exact current
  | definite => rfl

/-! ## Turns -/

variable {observer : Observer α ω} {x : Vector α n} {session final origin : Session α σ ω}
  {answer : Except (FitError α ε) (Check α n)} {check : Check α n}

private theorem Checks.current (current : problem.Current state)
    (checks : problem.Checks observer state session answer final) (left : answer = .ok check) :
    problem.Current check.state := by
  cases checks with
  | noRoom =>
      cases left
      exact current
  | refused => cases left
  | failed _ refinement =>
      cases left
      exact (refine_current current refinement :)
  | stopped _ refinement =>
      cases left
      exact (refine_current current refinement :)
  | passed _ refinement =>
      cases left
      exact (refine_current current refinement :)

/-- A turn leaves a current distance, unless it ends the fit right after a step back to the
seed. -/
theorem Episode.distance (current : problem.Current state) (goesOn : problem.GoesOn state)
    (seeded : state.iterations = 0 → problem.reset state = state)
    (episode : problem.Episode observer state session answer final) (left : answer = .ok check) :
    problem.Current check.state ∨
      ∃ ending, check = .ended ending ∧ problem.TakenBack state ending.state ∧
        ending.status.GaveUp := by
  -- A close fit that finds no lower cost has made no step and is still at its seed.
  have stalled_current {searched : State α n} {after : σ}
      (step : problem.iterate state session.objectiveMemory = (.ok (.stalled searched), after))
      (close : problem.isClose searched = true) : problem.Current searched := by
    have stands : state.Stands searched := iterate_standsAt step
    rcases iterate_takesBack current step with kept | back
    · exact kept
    · rcases goesOn.of_stands stands with first | far
      · exact back.current current (seeded (stands.iterations.symm.trans first))
      · cases far.symm.trans close
  cases episode with
  | refused => cases left
  | @quiet step ending _ _ stepped ends =>
      cases left
      have either := iterate_takesBack current stepped
      cases step with
      | advanced => exact ends.elim
      | stalled searched =>
          rcases ends with ⟨_, rfl⟩ | ⟨close, _, rfl⟩
          · exact either.imp_right fun back => ⟨_, rfl, back, .inl rfl⟩
          · exact .inl (stalled_current stepped close)
      | outOfCalls searched =>
          rcases ends with rfl
          exact either.imp_right fun back => ⟨_, rfl, back, .inr (.inl rfl)⟩
      | failed searched =>
          rcases ends with rfl
          exact either.imp_right fun back => ⟨_, rfl, back, .inr (.inr rfl)⟩
  | @settled searched _ given last notes step close _ checks =>
      cases given with
      | error => cases left
      | ok settled =>
          cases left
          rw [state_settleCheck]
          exact .inl (checks.current (stalled_current step close) rfl)
  | stopped step =>
      cases left
      exact .inl (iterate_current step)
  | unchecked step =>
      cases left
      rw [state_convergeIfClose]
      exact .inl (iterate_current step)
  | @checked _ _ _ _ _ _ given last step _ _ checks =>
      cases given with
      | error => cases left
      | ok passed =>
          cases left
          rw [state_convergeIfClose]
          exact .inl (checks.current (iterate_current step) rfl)

theorem AtHead.seeded {remaining : Nat}
    (head : problem.AtHead observer x origin remaining state session) :
    state.iterations = 0 → problem.reset state = state :=
  fun fresh => start_reset (head.started fresh)

theorem AtHead.current {remaining : Nat}
    (head : problem.AtHead observer x origin remaining state session) :
    problem.Current state := by
  induction head with
  | first started => exact start_current started
  | @next _ state session _ _ before _ turned induction =>
      have episode := problem.episode_turn observer state session
      rw [turned] at episode
      rcases episode.distance induction before.goesOn before.seeded rfl with
        current | ⟨_, ended, _⟩
      · exact current
      · cases ended

variable (problem observer x origin)

/-- How the distance of the state in which a fit ends came about: there is none for want
of a first gradient, it is current, or the approximation was taken back after the
last loop head, to no avail. -/
inductive EndsWithDistance : Ending α n → Prop
  | unstarted {failed : State α n} {middle : σ}
      (started : problem.start x origin.objectiveMemory = (.ok (.failed failed), middle)) :
      EndsWithDistance ⟨.numericalFailure, failed⟩
  | current {ending} (current : problem.Current ending.state) : EndsWithDistance ending
  | takenBack {remaining head ending} {told : Session α σ ω}
      (atHead : problem.AtHead observer x origin remaining head told)
      (headCurrent : problem.Current head) (back : problem.TakenBack head ending.state)
      (gaveUp : ending.status.GaveUp) : EndsWithDistance ending

variable {problem observer x origin}

theorem run_distance {ending : Ending α n}
    (ran : problem.run observer x origin = (.ok ending, final)) :
    problem.EndsWithDistance observer x origin ending := by
  have ends := problem.ends_run observer x origin
  rw [ran] at ends
  cases ends with
  | failedStart started => exact .unstarted started
  | limit head => exact .current head.current
  | @ended remaining state session _ _ head _ turned =>
      have episode := problem.episode_turn observer state session
      rw [turned] at episode
      rcases episode.distance head.current head.goesOn head.seeded rfl with
        current | ⟨_, ended, back, gaveUp⟩
      · exact .current current
      · cases ended
        exact .takenBack head head.current back gaveUp

end Problem

/-! ## Results -/

/-- The distance of a result is that of its gradient in the approximation of its covariance,
except in two cases. A fit without a first gradient has no distance. And where the
approximation was taken back to the seed and no step came of it, the covariance
is that of the seed and the distance the one from before, of the last loop head. Such a fit
has given up. -/
theorem distance_belongs_to_covariance (objective : Objective α σ ε)
    (parameters : ParameterSet α) (config : Config α) (observer : Observer α ω)
    (objectiveMemory : σ) (observerMemory : ω) :
    let origin := Session.start objectiveMemory observerMemory
    let outcome := minimize objective parameters config observer origin
    ∀ minimum, outcome.1 = .ok minimum →
      ∃ problem ending, Problem.prepare objective parameters config = .ok problem ∧
        minimum = problem.result ending.status ending.state ∧
        problem.EndsWithDistance observer parameters.values origin ending ∧
        (minimum.status = .converged ∨ minimum.status = .stoppedByObserver →
          minimum.covariance =
              Covariance.estimate ending.state.inverseHessian minimum.errorDefinition ∧
            minimum.edm = InverseHessian.edm minimum.gradient ending.state.inverseHessian
              minimum.errorDefinition) := by
  intro origin outcome minimum answered
  have minimizes : Minimizes objective parameters config observer origin outcome.1 outcome.2 :=
    minimizes_minimize objective parameters config observer origin
  rw [answered] at minimizes
  generalize outcome.2 = final at minimizes
  cases minimizes with
  | @ended problem ending _ prepared ran =>
      have distance := Problem.run_distance ran
      refine ⟨problem, ending, prepared, rfl, distance, fun done => ⟨rfl, ?_⟩⟩
      cases distance with
      | unstarted => rcases done with status | status <;> cases status
      | current current => exact current
      | takenBack _ _ _ gaveUp =>
          have status : (problem.result ending.status ending.state).status = ending.status := rfl
          rw [status] at done
          rcases gaveUp with equal | equal | equal
          all_goals
            rw [equal] at done
            rcases done with status | status <;> cases status

/-- A cost with a kink at zero, three times as steep above it as below. -/
def kinkedCost : Objective Float Unit Empty :=
  Expression.objective (.ifLess (.parameter 0) (.constant 0) (.neg (.parameter 0))
    (.mul (.constant 3) (.parameter 0))) 1

private theorem kinkStep_isFinite : Scalar.isFinite (0.5 : Float) = true := by decide +kernel

private theorem kinkStep_pos : (0 : Float) < 0.5 := by decide +kernel

def kinkParameter : ParameterSet Float where
  entries := [{
    name := "a"
    value := 0.75
    step := 0.5
    bounds := Bounds.unlimited
    value_finite := by decide +kernel
    step_finite := kinkStep_isFinite
    step_positive := kinkStep_pos
    bounds_ordered := Bounds.ordered_unlimited
    value_within := Bounds.contains_unlimited _ }]
  distinct := by decide

/-- The first step to the kink teaches the approximation. The second finds no lower cost,
neither with it nor with the seed, and the distance that is left belongs to neither the
seed nor its covariance. -/
theorem kinkedCost_distance_outdated : ∃ problem ending final,
    Problem.prepare kinkedCost kinkParameter Config.default = .ok problem ∧
    problem.run Observer.silent kinkParameter.values (Session.start () ()) =
      (.ok ending, final) ∧
    ending.status = .aboveMaxEdm ∧ ending.state.iterations = 1 ∧ ¬problem.Current ending.state := by
  let problem : Problem Float Unit Empty kinkParameter.size :=
    ⟨kinkedCost, Config.default, kinkParameter.nameVector, kinkParameter.steps, 1⟩
  have prepared : Problem.prepare kinkedCost kinkParameter Config.default = .ok problem :=
    Problem.prepare_eq_ok_iff.mpr ⟨rfl, by decide +kernel, rfl, rfl⟩
  let outcome := problem.run Observer.silent kinkParameter.values (Session.start () ())
  let distance (state : State Float kinkParameter.size) : Float :=
    InverseHessian.edm state.gradient state.inverseHessian 1
  have reported : (outcome.1.toOption.map fun ending =>
      (ending.status, ending.state.iterations, ending.state.edm == distance ending.state,
        distance ending.state == distance ending.state)) =
      some (.aboveMaxEdm, 1, false, true) := by decide +kernel
  rcases ran : outcome with ⟨cause | ending, final⟩
  · rw [ran] at reported
    cases reported
  · rw [ran] at reported
    rcases Prod.mk.inj (Option.some.inj reported) with ⟨status, rest⟩
    rcases Prod.mk.inj rest with ⟨iterations, rest⟩
    rcases Prod.mk.inj rest with ⟨different, same⟩
    refine ⟨problem, ending, final, prepared, ran, status, iterations, fun current => ?_⟩
    have equal : ending.state.edm = distance ending.state := current
    rw [equal, same] at different
    cases different

end CurveFitting

import CurveFitting.Proofs.Run.Events

/-! # The budget of a fit

A fit keeps to its limit on evaluations up to one gradient. Full Hessians are told
of only within the limit, and a line search that runs out of evaluations has used
exactly as many as the limit allows.
-/

namespace CurveFitting

variable {α σ ω ε : Type} [Scalar α] {n : Nat}

/-- An event that tells of a full Hessian does so within the limit. -/
def Event.RefinedWithin (limit : Nat) : Event α → Prop
  | .iterated .. => True
  | .refined _ calls .. => calls ≤ limit

namespace Problem

variable {problem : Problem α σ ε n} {observer : Observer α ω} {state : State α n}
  {memory : σ} {events told : Array (Event α)}

private theorem ChecksTell.refinedWithin
    (tells : problem.ChecksTell state memory events told)
    (before : ∀ event ∈ events, event.RefinedWithin problem.callLimit) :
    ∀ event ∈ told, event.RefinedWithin problem.callLimit := by
  cases tells with
  | silent => exact before
  | refined room refinement =>
      intro event member
      rcases Array.mem_push.mp member with earlier | rfl
      · exact before event earlier
      · exact Nat.le_trans (Nat.le_of_eq (refine_calls refinement)) room

private theorem TurnsTell.refinedWithin
    (tells : problem.TurnsTell state memory events told)
    (before : ∀ event ∈ events, event.RefinedWithin problem.callLimit) :
    ∀ event ∈ told, event.RefinedWithin problem.callLimit := by
  cases tells with
  | silent => exact before
  | stalled _ checked => exact checked.refinedWithin before
  | advanced _ checked =>
      apply checked.refinedWithin
      intro event member
      rcases Array.mem_push.mp member with earlier | rfl
      · exact before event earlier
      · trivial

variable {x : Vector α n} {origin : Session α σ ω}

theorem AtHead.refinedWithin {remaining : Nat} {session : Session α σ ω}
    (before : ∀ event ∈ origin.events, event.RefinedWithin problem.callLimit)
    (head : problem.AtHead observer x origin remaining state session) :
    ∀ event ∈ session.events, event.RefinedWithin problem.callLimit := by
  induction head with
  | first => exact before
  | next _ _ turned induction => exact (turn_tells turned).refinedWithin induction

theorem run_refinedWithin {answer : Except (FitError α ε) (Ending α n)}
    {final : Session α σ ω}
    (before : ∀ event ∈ origin.events, event.RefinedWithin problem.callLimit)
    (ran : problem.run observer x origin = (answer, final)) :
    ∀ event ∈ final.events, event.RefinedWithin problem.callLimit := by
  have ends := problem.ends_run observer x origin
  rw [ran] at ends
  cases ends with
  | refusedStart => exact before
  | failedStart => exact before
  | limit head => exact (head.refinedWithin before :)
  | refused head _ turned => exact (turn_tells turned).refinedWithin (head.refinedWithin before)
  | ended head _ turned => exact (turn_tells turned).refinedWithin (head.refinedWithin before)

/-- A fit ends at the loop head from which a line search runs out of evaluations,
with as many calls as the limit allows. -/
theorem AtHead.run_of_outOfCalls {remaining : Nat} {session : Session α σ ω}
    {searched : State α n} {after : σ}
    (head : problem.AtHead observer x origin (remaining + 1) state session)
    (room : state.calls < problem.callLimit)
    (stepped : problem.iterate state session.objectiveMemory =
      (.ok (.outOfCalls searched), after)) :
    searched.calls = problem.callLimit ∧
      ∃ final, problem.run observer x origin = (.ok ⟨.reachedCallLimit, searched⟩, final) := by
  refine ⟨iterate_outOfCalls (Nat.le_of_lt room) stepped, ?_⟩
  rw [head.run_eq_search, search_succ, if_neg (Nat.not_le_of_lt room), turn_of_outOfCalls stepped]
  exact ⟨_, rfl⟩

end Problem

section

variable {objective : Objective α σ ε} {parameters : ParameterSet α} {config : Config α}
  {observer : Observer α ω} {origin final : Session α σ ω}

theorem Problem.callLimit_of_prepare {problem : Problem α σ ε parameters.size}
    (prepared : Problem.prepare objective parameters config = .ok problem) :
    problem.callLimit = config.callLimit parameters.size := by
  rw [Problem.callLimit, (Problem.prepare_eq_ok prepared).1]

namespace Minimizes

private theorem calls_le {minimum : Minimum α parameters.size}
    (minimizes : Minimizes objective parameters config observer origin (.ok minimum) final) :
    minimum.calls ≤ max (config.callLimit parameters.size) 1 + 2 * parameters.size := by
  cases minimizes with
  | ended prepared ran =>
      rw [← Problem.callLimit_of_prepare prepared]
      exact Problem.run_calls ran

private theorem refinedWithin {answer : Except (FitError α ε) (Minimum α parameters.size)}
    (minimizes : Minimizes objective parameters config observer origin answer final)
    (before : ∀ event ∈ origin.events,
      event.RefinedWithin (config.callLimit parameters.size)) :
    ∀ event ∈ final.events, event.RefinedWithin (config.callLimit parameters.size) := by
  cases minimizes with
  | invalid => exact before
  | refused prepared ran =>
      rw [← Problem.callLimit_of_prepare prepared] at before ⊢
      exact Problem.run_refinedWithin before ran
  | ended prepared ran =>
      rw [← Problem.callLimit_of_prepare prepared] at before ⊢
      exact (Problem.run_refinedWithin before ran :)

private theorem calls_of_outOfCalls {problem : Problem α σ ε parameters.size} {remaining : Nat}
    {state searched : State α parameters.size} {session : Session α σ ω} {after : σ}
    {answer : Except (FitError α ε) (Minimum α parameters.size)}
    (minimizes : Minimizes objective parameters config observer origin answer final)
    (prepared : Problem.prepare objective parameters config = .ok problem)
    (head : problem.AtHead observer parameters.values origin (remaining + 1) state session)
    (room : state.calls < problem.callLimit)
    (stepped : problem.iterate state session.objectiveMemory =
      (.ok (.outOfCalls searched), after)) :
    ∃ minimum, answer = .ok minimum ∧ minimum.status = .reachedCallLimit ∧
      minimum.calls = problem.callLimit := by
  rcases head.run_of_outOfCalls room stepped with ⟨charged, last, ran⟩
  cases minimizes with
  | invalid invalid => cases prepared.symm.trans invalid
  | refused again failed =>
      cases prepared.symm.trans again
      cases ran.symm.trans failed
  | ended again ended =>
      cases prepared.symm.trans again
      cases ran.symm.trans ended
      exact ⟨_, rfl, rfl, charged⟩

end Minimizes

end

/-- Whatever the objective and the observer answer, the calls of a result pass the
limit by at most one gradient, every full Hessian is told of within the limit, and
a fit that ends because a line search ran out of evaluations has made exactly as
many as the limit allows. -/
theorem minimize_keeps_budget (objective : Objective α σ ε) (parameters : ParameterSet α)
    (config : Config α) (observer : Observer α ω) (objectiveMemory : σ)
    (observerMemory : ω) :
    let limit := config.callLimit parameters.size
    let origin := Session.start objectiveMemory observerMemory
    let outcome := minimize objective parameters config observer origin
    (∀ minimum, outcome.1 = .ok minimum →
      minimum.calls ≤ max limit 1 + 2 * parameters.size) ∧
    (∀ iteration calls x edmBefore edm positiveDefinite,
      .refined iteration calls x edmBefore edm positiveDefinite ∈ outcome.2.events →
        calls ≤ limit) ∧
    ∀ problem remaining state session searched after,
      Problem.prepare objective parameters config = .ok problem →
      problem.AtHead observer parameters.values origin (remaining + 1) state session →
      state.calls < limit →
      problem.iterate state session.objectiveMemory = (.ok (.outOfCalls searched), after) →
      ∃ minimum, outcome.1 = .ok minimum ∧ minimum.status = .reachedCallLimit ∧
        minimum.calls = limit := by
  intro limit origin outcome
  have minimizes : Minimizes objective parameters config observer origin outcome.1 outcome.2 :=
    minimizes_minimize objective parameters config observer origin
  refine ⟨?_, ?_, ?_⟩
  · intro minimum answered
    rw [answered] at minimizes
    exact minimizes.calls_le
  · intro _ _ _ _ _ _ member
    exact minimizes.refinedWithin (by simp [origin, Session.start]) _ member
  · intro problem remaining state session searched after prepared head room stepped
    have limits : problem.callLimit = limit := Problem.callLimit_of_prepare prepared
    rw [← limits] at room ⊢
    exact minimizes.calls_of_outOfCalls prepared head room stepped

end CurveFitting

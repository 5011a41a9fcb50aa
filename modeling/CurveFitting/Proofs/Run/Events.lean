import CurveFitting.Proofs.Run.Calls

/-! # What a fit tells

The events of a turn: none, that of its step, that of a check, or both. Every other
statement about the events of a fit is read off from these four cases.
-/

namespace CurveFitting

variable {α σ ω ε : Type} [Scalar α] {n : Nat}

namespace Problem

variable (problem : Problem α σ ε n) (observer : Observer α ω) (state : State α n)
  (session : Session α σ ω)

/-- The events after a check of a state, when `events` have been told before. -/
inductive ChecksTell (memory : σ) (events : Array (Event α)) : Array (Event α) → Prop
  | silent : ChecksTell memory events events
  | refined {next positiveDefinite after}
      (room : state.calls + 2 * (n * n) ≤ problem.callLimit)
      (refinement : problem.refine state memory =
        (.ok (.checked next positiveDefinite), after)) :
      ChecksTell memory events
        (events.push (next.refinedEvent state.edm positiveDefinite))

inductive TurnsTell (memory : σ) (events : Array (Event α)) : Array (Event α) → Prop
  | silent : TurnsTell memory events events
  | stalled {searched middle told}
      (step : problem.iterate state memory = (.ok (.stalled searched), middle))
      (checked : problem.ChecksTell searched middle events told) :
      TurnsTell memory events told
  | advanced {next multiplier updated middle told}
      (step : problem.iterate state memory =
        (.ok (.advanced next multiplier updated), middle))
      (checked : problem.ChecksTell next middle
        (events.push (next.iteratedEvent multiplier updated)) told) :
      TurnsTell memory events told

variable {problem observer state session} {final : Session α σ ω}

theorem check_tells {answer : Except (FitError α ε) (Check α n)}
    (checked : problem.check observer state session = (answer, final)) :
    problem.ChecksTell state session.objectiveMemory session.events final.events := by
  have checks := problem.checks_check observer state session
  rw [checked] at checks
  cases checks with
  | noRoom => exact .silent
  | refused => exact .silent
  | failed => exact .silent
  | stopped room refinement telling =>
      subst telling
      exact .refined room refinement
  | passed room refinement telling =>
      subst telling
      exact .refined room refinement

private theorem settle_tells {answer : Except (FitError α ε) (Ending α n)}
    (settled : problem.settle observer state session = (answer, final)) :
    problem.ChecksTell state session.objectiveMemory session.events final.events := by
  have settles := problem.settles_settle observer state session
  rw [settled] at settles
  cases settles with
  | unchecked => exact .silent
  | far => exact .silent
  | refused _ _ checked => exact check_tells checked
  | ended _ _ checked => exact check_tells checked
  | confirmed _ _ checked => exact check_tells checked
  | refuted _ _ checked => exact (check_tells checked :)

theorem afterStep_tells {multiplier : α} {updated : Bool}
    {answer : Except (FitError α ε) (Check α n)}
    (followed : problem.afterStep observer state multiplier updated session =
      (answer, final)) :
    problem.ChecksTell state session.objectiveMemory
      (session.events.push (state.iteratedEvent multiplier updated)) final.events := by
  have follows := problem.follows_afterStep observer state session multiplier updated
  rw [followed] at follows
  cases follows with
  | stopped telling =>
      subst telling
      exact .silent
  | unchecked telling =>
      subst telling
      exact .silent
  | checked telling _ checked =>
      subst telling
      exact (check_tells checked :)

theorem turn_tells {answer : Except (FitError α ε) (Check α n)}
    (turned : problem.turn observer state session = (answer, final)) :
    problem.TurnsTell state session.objectiveMemory session.events final.events := by
  have turns := problem.turns_turn observer state session
  rw [turned] at turns
  cases turns with
  | refused => exact .silent
  | refusedStalled step settled => exact .stalled step (settle_tells settled :)
  | stalled step settled => exact .stalled step (settle_tells settled :)
  | outOfCalls => exact .silent
  | failed => exact .silent
  | refusedAdvanced step followed => exact .advanced step (afterStep_tells followed :)
  | advanced step followed => exact .advanced step (afterStep_tells followed :)

/-! ## Events stay told -/

theorem ChecksTell.grows {memory : σ} {events told : Array (Event α)}
    (tells : problem.ChecksTell state memory events told) :
    events.toList <+: told.toList := by
  cases tells with
  | silent => exact List.prefix_refl _
  | refined => exact Array.toList_push ▸ List.prefix_append _ _

private theorem TurnsTell.grows {memory : σ} {events told : Array (Event α)}
    (tells : problem.TurnsTell state memory events told) :
    events.toList <+: told.toList := by
  cases tells with
  | silent => exact List.prefix_refl _
  | stalled _ checked => exact checked.grows
  | advanced _ checked =>
      refine List.IsPrefix.trans ?_ checked.grows
      exact Array.toList_push ▸ List.prefix_append _ _

theorem turn_grows (observer : Observer α ω) (state : State α n) (session : Session α σ ω) :
    session.events.toList <+: (problem.turn observer state session).2.events.toList := by
  rcases turned : problem.turn observer state session with ⟨answer, final⟩
  exact (turn_tells turned).grows

theorem search_grows (remaining : Nat) (state : State α n) (session : Session α σ ω) :
    session.events.toList <+:
      (problem.search observer remaining state session).2.events.toList := by
  induction remaining generalizing state session with
  | zero => exact List.prefix_refl _
  | succ remaining induction =>
      rw [search_succ]
      split
      · exact List.prefix_refl _
      · rcases turned : problem.turn observer state session with
          ⟨cause | next | ending, middle⟩
        · exact (turn_tells turned).grows
        · exact (turn_tells turned).grows.trans (induction next middle)
        · exact (turn_tells turned).grows

end Problem

end CurveFitting

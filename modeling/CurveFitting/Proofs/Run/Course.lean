import CurveFitting.Proofs.Run.Moves

/-! # The course of a fit

Between its loop heads a fit makes turns: a step, the events that tell of it, and
the checks that follow. A fit is a chain of turns from its start to its ending,
so that what every turn preserves holds at every loop head.
-/

namespace CurveFitting

variable {α σ ω ε : Type} [Scalar α] {n : Nat}

namespace State

def iteratedEvent (state : State α n) (multiplier : α) (updated : Bool) : Event α :=
  .iterated state.iterations state.calls state.x.toList state.cost state.edm
    multiplier updated

def refinedEvent (state : State α n) (edmBefore : α) (positiveDefinite : Bool) :
    Event α :=
  .refined state.iterations state.calls state.x.toList edmBefore state.edm
    positiveDefinite

end State

def Check.state : Check α n → State α n
  | .passed state => state
  | .ended ending => ending.state

namespace Session

def shown (session : Session α σ ω) (observer : Observer α ω) (event : Event α) :
    Session α σ ω where
  objectiveMemory := session.objectiveMemory
  observerMemory := (observer.observe event session.observerMemory).memory
  events := session.events.push event
  notes := session.notes ++ (observer.observe event session.observerMemory).notes

def answer (session : Session α σ ω) (observer : Observer α ω) (event : Event α) :
    Option Action :=
  (observer.observe event session.observerMemory).action

end Session

omit [Scalar α] in
theorem Run.emit_apply (observer : Observer α ω) (event : Event α)
    (session : Session α σ ω) :
    (Run.emit observer event : Run α σ ω ε (Option Action)) session =
      (.ok (session.answer observer event), session.shown observer event) := rfl

namespace Problem

variable (problem : Problem α σ ε n) (observer : Observer α ω) (state : State α n)
  (session : Session α σ ω)

/-! ## Checks -/

/-- What a check of a state comes to, together with its telling. -/
inductive Checks : Except (FitError α ε) (Check α n) → Session α σ ω → Prop
  | noRoom {notes} (full : problem.callLimit < state.calls + 2 * (n * n)) :
      Checks (.ok (.ended ⟨.reachedCallLimit, state⟩)) { session with notes := notes }
  | refused {cause memory} (room : state.calls + 2 * (n * n) ≤ problem.callLimit)
      (refinement : problem.refine state session.objectiveMemory = (.error cause, memory)) :
      Checks (.error (.objective cause)) { session with objectiveMemory := memory }
  | failed {next memory notes} (room : state.calls + 2 * (n * n) ≤ problem.callLimit)
      (refinement : problem.refine state session.objectiveMemory =
        (.ok (.failed next), memory)) :
      Checks (.ok (.ended ⟨.numericalFailure, next⟩))
        { session with objectiveMemory := memory, notes := notes }
  | stopped {next positiveDefinite memory notes} {told : Session α σ ω}
      (room : state.calls + 2 * (n * n) ≤ problem.callLimit)
      (refinement : problem.refine state session.objectiveMemory =
        (.ok (.checked next positiveDefinite), memory))
      (telling : told = { session with objectiveMemory := memory, notes := notes })
      (stop : told.answer observer (next.refinedEvent state.edm positiveDefinite) =
        some .stopEarly) :
      Checks (.ok (.ended ⟨.stoppedByObserver, next⟩))
        (told.shown observer (next.refinedEvent state.edm positiveDefinite))
  | passed {next positiveDefinite memory notes} {told : Session α σ ω}
      (room : state.calls + 2 * (n * n) ≤ problem.callLimit)
      (refinement : problem.refine state session.objectiveMemory =
        (.ok (.checked next positiveDefinite), memory))
      (telling : told = { session with objectiveMemory := memory, notes := notes })
      (goOn : told.answer observer (next.refinedEvent state.edm positiveDefinite) ≠
        some .stopEarly) :
      Checks (.ok (.passed next))
        (told.shown observer (next.refinedEvent state.edm positiveDefinite))

theorem checks_check :
    problem.Checks observer state session (problem.check observer state session).1
      (problem.check observer state session).2 := by
  unfold check
  by_cases full : problem.callLimit < state.calls + 2 * (n * n)
  · rw [if_pos full]
    exact .noRoom full
  · have room := Nat.le_of_not_lt full
    rw [if_neg full, Computation.bind_apply]
    rcases refinement : problem.refine state session.objectiveMemory with
      ⟨cause | ⟨next, positiveDefinite⟩ | next, memory⟩
    · rw [Run.evaluate_of_error refinement]
      exact .refused room refinement
    · rw [Run.evaluate_of_ok refinement]
      -- The two ways differ in one note, which the relation leaves open.
      cases positiveDefinite with
      | true =>
          simp only [Bool.not_true, Bool.false_eq_true, if_false, Computation.bind_apply,
            Run.note_apply, Run.emit_apply, Computation.if_apply]
          split
          · rename_i stop
            exact .stopped room refinement rfl stop
          · rename_i goOn
            exact .passed room refinement rfl goOn
      | false =>
          simp only [Bool.not_false, if_true, Computation.bind_apply, Run.note_apply,
            Run.emit_apply, Computation.if_apply]
          split
          · rename_i stop
            exact .stopped room refinement rfl stop
          · rename_i goOn
            exact .passed room refinement rfl goOn
    · rw [Run.evaluate_of_ok refinement]
      exact .failed room refinement

/-! ## Endings without a lower cost -/

inductive Settles : Except (FitError α ε) (Ending α n) → Session α σ ω → Prop
  | unchecked (close : problem.isClose state = true)
      (trusting : problem.config.refineHessian = false) :
      Settles (.ok ⟨.converged, state⟩) session
  | far {notes} (far : problem.isClose state = false) :
      Settles (.ok ⟨.aboveMaxEdm, state⟩) { session with notes := notes }
  | refused {cause final} (close : problem.isClose state = true)
      (checking : problem.config.refineHessian = true)
      (checked : problem.check observer state session = (.error cause, final)) :
      Settles (.error cause) final
  | ended {ending final} (close : problem.isClose state = true)
      (checking : problem.config.refineHessian = true)
      (checked : problem.check observer state session = (.ok (.ended ending), final)) :
      Settles (.ok ending) final
  | confirmed {next final} (close : problem.isClose state = true)
      (checking : problem.config.refineHessian = true)
      (checked : problem.check observer state session = (.ok (.passed next), final))
      (still : problem.isClose next = true) :
      Settles (.ok ⟨.converged, next⟩) final
  | refuted {next final notes} (close : problem.isClose state = true)
      (checking : problem.config.refineHessian = true)
      (checked : problem.check observer state session = (.ok (.passed next), final))
      (far : problem.isClose next = false) :
      Settles (.ok ⟨.aboveMaxEdm, next⟩) { final with notes := notes }

theorem settles_settle :
    problem.Settles observer state session (problem.settle observer state session).1
      (problem.settle observer state session).2 := by
  unfold settle
  cases close : problem.isClose state with
  | false =>
      simp only [Bool.false_and, Bool.false_eq_true, if_false, Computation.bind_apply,
        Computation.pure_apply, close]
      exact .far close
  | true =>
      cases checking : problem.config.refineHessian with
      | false =>
          simp only [Bool.and_false, Bool.false_eq_true, if_false, Computation.bind_apply,
            Computation.pure_apply, close, if_true]
          exact .unchecked close checking
      | true =>
          simp only [Bool.and_self, if_true, Computation.bind_apply]
          rcases checked : problem.check observer state session with
            ⟨cause | next | ending, final⟩
          · exact .refused close checking checked
          · cases again : problem.isClose next with
            | false =>
                simp only [again, Bool.false_eq_true, if_false, Computation.bind_apply,
                  Computation.pure_apply]
                exact .refuted close checking checked again
            | true =>
                simp only [again, if_true, Computation.pure_apply]
                exact .confirmed close checking checked again
          · exact .ended close checking checked

/-! ## After a step -/

inductive Follows (multiplier : α) (updated : Bool) :
    Except (FitError α ε) (Check α n) → Session α σ ω → Prop
  | stopped {notes} {told : Session α σ ω}
      (telling : told = { session with notes := notes })
      (stop : told.answer observer (state.iteratedEvent multiplier updated) =
        some .stopEarly) :
      Follows multiplier updated (.ok (.ended ⟨.stoppedByObserver, state⟩))
        (told.shown observer (state.iteratedEvent multiplier updated))
  | unchecked {notes} {told : Session α σ ω}
      (telling : told = { session with notes := notes })
      (quiet : told.answer observer (state.iteratedEvent multiplier updated) = none)
      (far : (problem.isClose state && problem.config.refineHessian) = false) :
      Follows multiplier updated (.ok (.passed state))
        (told.shown observer (state.iteratedEvent multiplier updated))
  | checked {notes} {told : Session α σ ω} {answer final}
      (telling : told = { session with notes := notes })
      (reason : told.answer observer (state.iteratedEvent multiplier updated) =
          some .refineHessian ∨
        told.answer observer (state.iteratedEvent multiplier updated) = none ∧
          (problem.isClose state && problem.config.refineHessian) = true)
      (checked : problem.check observer state
        (told.shown observer (state.iteratedEvent multiplier updated)) = (answer, final)) :
      Follows multiplier updated answer final

theorem follows_afterStep (multiplier : α) (updated : Bool) :
    problem.Follows observer state session multiplier updated
      (problem.afterStep observer state multiplier updated session).1
      (problem.afterStep observer state multiplier updated session).2 := by
  unfold afterStep
  simp only [Computation.bind_apply, Run.note_apply, Run.emit_apply]
  rw [← State.iteratedEvent]
  generalize telling : ({ session with notes := session.notes.push _ } : Session α σ ω) = told
  rcases answer : told.answer observer (state.iteratedEvent multiplier updated) with
    _ | _ | _
  · cases reason : problem.isClose state && problem.config.refineHessian with
    | false => exact .unchecked telling.symm answer reason
    | true => exact .checked telling.symm (.inr ⟨answer, reason⟩) rfl
  · exact .stopped telling.symm answer
  · exact .checked telling.symm (.inl answer) rfl

/-! ## Turns -/

/-- Ends a fit at a state whose estimated distance is still below tolerance after
all checks. -/
def convergeIfClose : Check α n → Check α n
  | .ended ending => .ended ending
  | .passed state =>
      if problem.isClose state then .ended ⟨.converged, state⟩ else .passed state

/-- What a fit does from one loop head on, up to the next or to its ending. -/
def turn (state : State α n) : Run α σ ω ε (Check α n) := do
  match ← Run.evaluate (problem.iterate state) with
  | .stalled searched => return .ended (← problem.settle observer searched)
  | .outOfCalls searched =>
      Run.note (.limitReachedInLineSearch searched.calls)
      return .ended ⟨.reachedCallLimit, searched⟩
  | .failed searched =>
      Run.note (.nonFiniteGradient searched.calls)
      return .ended ⟨.numericalFailure, searched⟩
  | .advanced next multiplier updated =>
      return problem.convergeIfClose
        (← problem.afterStep observer next multiplier updated)

variable {problem observer state session}

theorem turn_of_error {cause : ε} {memory : σ}
    (step : problem.iterate state session.objectiveMemory = (.error cause, memory)) :
    problem.turn observer state session =
      (.error (.objective cause), { session with objectiveMemory := memory }) := by
  unfold turn
  rw [Computation.bind_of_error (Run.evaluate_of_error step)]

theorem turn_of_advanced {next : State α n} {multiplier : α} {updated : Bool} {memory : σ}
    (step : problem.iterate state session.objectiveMemory =
      (.ok (.advanced next multiplier updated), memory)) :
    problem.turn observer state session =
      (problem.afterStep observer next multiplier updated >>= fun check =>
        pure (problem.convergeIfClose check)) { session with objectiveMemory := memory } := by
  unfold turn
  rw [Computation.bind_of_ok (Run.evaluate_of_ok step)]

theorem turn_of_stalled {searched : State α n} {memory : σ}
    (step : problem.iterate state session.objectiveMemory = (.ok (.stalled searched), memory)) :
    problem.turn observer state session =
      (problem.settle observer searched >>= fun ending => pure (.ended ending))
        { session with objectiveMemory := memory } := by
  unfold turn
  rw [Computation.bind_of_ok (Run.evaluate_of_ok step)]

theorem turn_of_outOfCalls {searched : State α n} {memory : σ}
    (step : problem.iterate state session.objectiveMemory =
      (.ok (.outOfCalls searched), memory)) :
    problem.turn observer state session =
      (.ok (.ended ⟨.reachedCallLimit, searched⟩), { session with
        objectiveMemory := memory
        notes := session.notes.push (.limitReachedInLineSearch searched.calls) }) := by
  unfold turn
  rw [Computation.bind_of_ok (Run.evaluate_of_ok step)]
  rfl

theorem turn_of_failed {searched : State α n} {memory : σ}
    (step : problem.iterate state session.objectiveMemory = (.ok (.failed searched), memory)) :
    problem.turn observer state session =
      (.ok (.ended ⟨.numericalFailure, searched⟩), { session with
        objectiveMemory := memory
        notes := session.notes.push (.nonFiniteGradient searched.calls) }) := by
  unfold turn
  rw [Computation.bind_of_ok (Run.evaluate_of_ok step)]
  rfl

variable (problem observer state session)

inductive Turns : Except (FitError α ε) (Check α n) → Session α σ ω → Prop
  | refused {cause memory}
      (step : problem.iterate state session.objectiveMemory = (.error cause, memory)) :
      Turns (.error (.objective cause)) { session with objectiveMemory := memory }
  | refusedStalled {searched memory cause final}
      (step : problem.iterate state session.objectiveMemory =
        (.ok (.stalled searched), memory))
      (settled : problem.settle observer searched
        { session with objectiveMemory := memory } = (.error cause, final)) :
      Turns (.error cause) final
  | stalled {searched memory ending final}
      (step : problem.iterate state session.objectiveMemory =
        (.ok (.stalled searched), memory))
      (settled : problem.settle observer searched
        { session with objectiveMemory := memory } = (.ok ending, final)) :
      Turns (.ok (.ended ending)) final
  | outOfCalls {searched memory notes}
      (step : problem.iterate state session.objectiveMemory =
        (.ok (.outOfCalls searched), memory)) :
      Turns (.ok (.ended ⟨.reachedCallLimit, searched⟩))
        { session with objectiveMemory := memory, notes := notes }
  | failed {searched memory notes}
      (step : problem.iterate state session.objectiveMemory =
        (.ok (.failed searched), memory)) :
      Turns (.ok (.ended ⟨.numericalFailure, searched⟩))
        { session with objectiveMemory := memory, notes := notes }
  | refusedAdvanced {next multiplier updated memory cause final}
      (step : problem.iterate state session.objectiveMemory =
        (.ok (.advanced next multiplier updated), memory))
      (followed : problem.afterStep observer next multiplier updated
        { session with objectiveMemory := memory } = (.error cause, final)) :
      Turns (.error cause) final
  | advanced {next multiplier updated memory check final}
      (step : problem.iterate state session.objectiveMemory =
        (.ok (.advanced next multiplier updated), memory))
      (followed : problem.afterStep observer next multiplier updated
        { session with objectiveMemory := memory } = (.ok check, final)) :
      Turns (.ok (problem.convergeIfClose check)) final

theorem turns_turn :
    problem.Turns observer state session (problem.turn observer state session).1
      (problem.turn observer state session).2 := by
  rcases step : problem.iterate state session.objectiveMemory with
    ⟨cause | ⟨next, multiplier, updated⟩ | searched | searched | searched, memory⟩
  · rw [turn_of_error step]
    exact .refused step
  · rw [turn_of_advanced step, Computation.bind_apply]
    rcases followed : problem.afterStep observer next multiplier updated
      { session with objectiveMemory := memory } with ⟨cause | check, final⟩
    · exact .refusedAdvanced step followed
    · exact .advanced step followed
  · rw [turn_of_stalled step, Computation.bind_apply]
    rcases settled : problem.settle observer searched
      { session with objectiveMemory := memory } with ⟨cause | ending, final⟩
    · exact .refusedStalled step settled
    · exact .stalled step settled
  · rw [turn_of_outOfCalls step]
    exact .outOfCalls step
  · rw [turn_of_failed step]
    exact .failed step

theorem search_succ (remaining : Nat) :
    problem.search observer (remaining + 1) state session =
      if problem.callLimit ≤ state.calls then limitReached state session
      else match problem.turn observer state session with
        | (.error cause, final) => (.error cause, final)
        | (.ok (.ended ending), final) => (.ok ending, final)
        | (.ok (.passed next), middle) => problem.search observer remaining next middle := by
  rw [search, Computation.if_apply]
  split
  · rfl
  · unfold turn
    simp only [Computation.bind_apply]
    rcases Run.evaluate (problem.iterate state) session with
      ⟨cause | ⟨next, multiplier, updated⟩ | searched | searched | searched, middle⟩
    · rfl
    · simp only [Computation.bind_apply]
      rcases problem.afterStep observer next multiplier updated middle with
        ⟨cause | passed | ending, final⟩
      · rfl
      · simp only [Computation.pure_apply, convergeIfClose, Computation.if_apply]
        cases problem.isClose passed <;> rfl
      · rfl
    · simp only [Computation.bind_apply]
      rcases problem.settle observer searched middle with ⟨cause | ending, final⟩ <;> rfl
    · rfl
    · rfl

/-! ## Loop heads -/

variable (x : Vector α n) (origin : Session α σ ω)

/-- The loop heads that a fit from the values `x` comes to, each with the number of
steps that are still allowed and with the session at that time. -/
inductive AtHead : Nat → State α n → Session α σ ω → Prop
  | first {state memory}
      (started : problem.start x origin.objectiveMemory = (.ok (.ready state), memory)) :
      AtHead problem.config.maxIterations state
        { origin with
          objectiveMemory := memory
          notes := origin.notes.push (.started state.cost state.edm state.calls) }
  | next {remaining state session next middle}
      (before : AtHead (remaining + 1) state session)
      (room : state.calls < problem.callLimit)
      (turned : problem.turn observer state session = (.ok (.passed next), middle)) :
      AtHead remaining next middle

/-- How a fit from the values `x` ends: at its start, by a limit at a loop head, or
in the turn from a loop head. -/
inductive Ends : Except (FitError α ε) (Ending α n) → Session α σ ω → Prop
  | refusedStart {cause memory}
      (started : problem.start x origin.objectiveMemory = (.error cause, memory)) :
      Ends (.error (.objective cause)) { origin with objectiveMemory := memory }
  | failedStart {state memory notes}
      (started : problem.start x origin.objectiveMemory = (.ok (.failed state), memory)) :
      Ends (.ok ⟨.numericalFailure, state⟩)
        { origin with objectiveMemory := memory, notes := notes }
  | limit {remaining state session notes}
      (head : problem.AtHead observer x origin remaining state session)
      (reached : remaining = 0 ∨ problem.callLimit ≤ state.calls) :
      Ends (.ok ⟨.reachedCallLimit, state⟩) { session with notes := notes }
  | refused {remaining state session cause final}
      (head : problem.AtHead observer x origin (remaining + 1) state session)
      (room : state.calls < problem.callLimit)
      (turned : problem.turn observer state session = (.error cause, final)) :
      Ends (.error cause) final
  | ended {remaining state session ending final}
      (head : problem.AtHead observer x origin (remaining + 1) state session)
      (room : state.calls < problem.callLimit)
      (turned : problem.turn observer state session = (.ok (.ended ending), final)) :
      Ends (.ok ending) final

variable {problem observer x origin}

theorem AtHead.ends_search {remaining : Nat} {state : State α n} {session : Session α σ ω}
    (head : problem.AtHead observer x origin remaining state session) :
    problem.Ends observer x origin (problem.search observer remaining state session).1
      (problem.search observer remaining state session).2 := by
  induction remaining generalizing state session with
  | zero => exact .limit head (.inl rfl)
  | succ remaining induction =>
      rw [search_succ]
      by_cases full : problem.callLimit ≤ state.calls
      · rw [if_pos full]
        exact .limit head (.inr full)
      · have room := Nat.lt_of_not_le full
        rw [if_neg full]
        rcases turned : problem.turn observer state session with
          ⟨cause | next | ending, final⟩
        · exact .refused head room turned
        · exact induction (.next head room turned)
        · exact .ended head room turned

theorem ends_run (problem : Problem α σ ε n) (observer : Observer α ω) (x : Vector α n)
    (origin : Session α σ ω) :
    problem.Ends observer x origin (problem.run observer x origin).1
      (problem.run observer x origin).2 := by
  unfold run
  rw [Computation.bind_apply]
  rcases started : problem.start x origin.objectiveMemory with
    ⟨cause | state | state, memory⟩
  · rw [Run.evaluate_of_error started]
    exact .refusedStart started
  · rw [Run.evaluate_of_ok started]
    exact AtHead.ends_search (.first started)
  · rw [Run.evaluate_of_ok started]
    exact .failedStart started

/-- Searching on from any loop head gives what the whole fit gives. -/
theorem AtHead.run_eq_search {remaining : Nat} {state : State α n}
    {session : Session α σ ω}
    (head : problem.AtHead observer x origin remaining state session) :
    problem.run observer x origin = problem.search observer remaining state session := by
  induction head with
  | first started =>
      unfold run
      rw [Computation.bind_of_ok (Run.evaluate_of_ok started)]
      rfl
  | next before room turned induction =>
      rw [induction, search_succ, if_neg (Nat.not_le_of_lt room), turned]

end Problem

/-! ## Minimization -/

section

variable (objective : Objective α σ ε) (parameters : ParameterSet α) (config : Config α)
  (observer : Observer α ω) (origin : Session α σ ω)

/-- What a minimization comes to: it is refused before any evaluation, an error of
the objective breaks it off, or it gives the result of an ending. -/
inductive Minimizes :
    Except (FitError α ε) (Minimum α parameters.size) → Session α σ ω → Prop
  | invalid {cause}
      (prepared : Problem.prepare objective parameters config = .error cause) :
      Minimizes (.error cause) origin
  | refused {problem cause final}
      (prepared : Problem.prepare objective parameters config = .ok problem)
      (ran : problem.run observer parameters.values origin = (.error cause, final)) :
      Minimizes (.error cause) final
  | ended {problem ending final}
      (prepared : Problem.prepare objective parameters config = .ok problem)
      (ran : problem.run observer parameters.values origin = (.ok ending, final)) :
      Minimizes (.ok (problem.result ending.status ending.state))
        { final with notes := final.notes.push (.finished ending.status
          ending.state.iterations ending.state.calls ending.state.cost ending.state.edm) }

theorem minimizes_minimize :
    Minimizes objective parameters config observer origin
      (minimize objective parameters config observer origin).1
      (minimize objective parameters config observer origin).2 := by
  unfold minimize
  rcases prepared : Problem.prepare objective parameters config with cause | problem
  · exact .invalid prepared
  · change Minimizes _ _ _ _ _ ((problem.run observer parameters.values >>= _) origin).1
      ((problem.run observer parameters.values >>= _) origin).2
    simp only [Computation.bind_apply]
    rcases ran : problem.run observer parameters.values origin with ⟨cause | ending, final⟩
    · exact .refused prepared ran
    · exact .ended prepared ran

variable {objective parameters config observer origin}

theorem minimize_of_prepare_error {cause : FitError α ε}
    (prepared : Problem.prepare objective parameters config = .error cause) :
    minimize objective parameters config observer origin = (.error cause, origin) := by
  unfold minimize
  rw [prepared]
  rfl

theorem minimize_of_prepare {problem : Problem α σ ε parameters.size}
    (prepared : Problem.prepare objective parameters config = .ok problem) :
    minimize objective parameters config observer origin =
      (problem.run observer parameters.values >>= fun ending => do
        Run.note (.finished ending.status ending.state.iterations ending.state.calls
          ending.state.cost ending.state.edm)
        return problem.result ending.status ending.state) origin := by
  unfold minimize
  rw [prepared]
  rfl

theorem Problem.values_result (problem : Problem α σ ε n) (status : Status)
    (state : State α n) : (problem.result status state).parameters.map (·.value) = state.x := by
  ext i within
  rw [result, Vector.getElem_map, Vector.getElem_ofFn]
  rfl

theorem Problem.prepare_eq_ok_iff {problem : Problem α σ ε parameters.size} :
    Problem.prepare objective parameters config = .ok problem ↔
      parameters.isEmpty = false ∧
      (Scalar.isFinite objective.errorDefinition = true ∧ 0 < objective.errorDefinition) ∧
      objective.validate parameters.size = .ok () ∧
      problem = ⟨objective, config, parameters.nameVector, parameters.steps,
        objective.errorDefinition⟩ := by
  unfold Problem.prepare
  constructor
  · intro prepared
    repeat' split at prepared
    all_goals cases prepared
    rename_i nonempty defined _ valid
    exact ⟨Bool.eq_false_iff.mpr nonempty, defined, valid, rfl⟩
  · intro passes
    rcases passes with ⟨nonempty, defined, valid, rfl⟩
    rw [nonempty, if_neg Bool.false_ne_true, if_pos defined, valid]

theorem Problem.prepare_eq_ok {problem : Problem α σ ε parameters.size}
    (prepared : Problem.prepare objective parameters config = .ok problem) :
    problem.config = config ∧ problem.objective = objective ∧
      problem.steps = parameters.steps ∧
      problem.errorDefinition = objective.errorDefinition := by
  rcases prepare_eq_ok_iff.mp prepared with ⟨_, _, _, rfl⟩
  exact ⟨rfl, rfl, rfl, rfl⟩

theorem Problem.errorDefinition_of_prepare {problem : Problem α σ ε parameters.size}
    (prepared : Problem.prepare objective parameters config = .ok problem) :
    Scalar.isFinite problem.errorDefinition = true ∧ 0 < problem.errorDefinition := by
  rcases prepare_eq_ok_iff.mp prepared with ⟨_, defined, _, rfl⟩
  exact defined

theorem Problem.validate_of_prepare {problem : Problem α σ ε parameters.size}
    (prepared : Problem.prepare objective parameters config = .ok problem) :
    objective.validate parameters.size = .ok () :=
  (prepare_eq_ok_iff.mp prepared).2.2.1

end

end CurveFitting

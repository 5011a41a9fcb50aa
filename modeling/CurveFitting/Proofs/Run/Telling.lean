import CurveFitting.Proofs.Run.Episodes
import CurveFitting.Proofs.Run.Points
import CurveFitting.Proofs.Run.Chronicle

/-! # The stream of events

What a fit tells is a chronicle of its steps and their checks, whatever the observer
answers. The one exception is a fit that finds no lower cost at its start: it may tell of
the check of its starting point, and of nothing else.
-/

namespace CurveFitting

variable {α σ ω ε : Type}

/-! ## What the observer remembers -/

def Session.Remembers (session : Session α σ ω) (observer : Observer α ω) (first : ω) : Prop :=
  session.observerMemory = observer.memoryAfter first session.events.toList

namespace Session.Remembers

variable {session told : Session α σ ω} {observer : Observer α ω} {first : ω}

theorem shown (remembers : session.Remembers observer first) (event : Event α) :
    (session.shown observer event).Remembers observer first := by
  rw [Remembers, Session.shown, Array.toList_push, Observer.memoryAfter_concat, ← remembers]

theorem answer_eq (remembers : session.Remembers observer first) (event : Event α) :
    session.answer observer event = observer.answerTo first session.events.toList event := by
  rw [Session.answer, Observer.answerTo, ← remembers]

end Session.Remembers

variable [Scalar α] {n : Nat}

namespace Problem

variable {problem : Problem α σ ε n} {observer : Observer α ω} {first : ω} {x : Vector α n}
  {state next : State α n} {session final origin : Session α σ ω}
  {answer : Except (FitError α ε) (Check α n)}

private theorem Checks.remembers (checks : problem.Checks observer state session answer final)
    (remembers : session.Remembers observer first) : final.Remembers observer first := by
  cases checks with
  | noRoom => exact remembers
  | refused => exact remembers
  | failed => exact remembers
  | stopped _ _ telling =>
      subst telling
      exact remembers.shown _
  | passed _ _ telling =>
      subst telling
      exact remembers.shown _

private theorem Episode.remembers (episode : problem.Episode observer state session answer final)
    (remembers : session.Remembers observer first) : final.Remembers observer first := by
  cases episode with
  | refused => exact remembers
  | quiet => exact remembers
  | settled _ _ _ checks => exact (checks.remembers remembers :)
  | stopped _ telling =>
      subst telling
      exact remembers.shown _
  | unchecked _ telling =>
      subst telling
      exact remembers.shown _
  | checked _ telling _ checks =>
      subst telling
      exact checks.remembers (remembers.shown _)

private theorem turn_remembers (turned : problem.turn observer state session = (answer, final))
    (remembers : session.Remembers observer first) : final.Remembers observer first := by
  have episode := problem.episode_turn observer state session
  rw [turned] at episode
  exact episode.remembers remembers

theorem AtHead.remembers {remaining : Nat}
    (head : problem.AtHead observer x origin remaining state session)
    (remembers : origin.Remembers observer first) : session.Remembers observer first := by
  induction head with
  | first => exact remembers
  | next _ _ turned induction => exact turn_remembers turned induction

theorem run_remembers {answer : Except (FitError α ε) (Ending α n)}
    (ran : problem.run observer x origin = (answer, final))
    (remembers : origin.Remembers observer first) : final.Remembers observer first := by
  have ends := problem.ends_run observer x origin
  rw [ran] at ends
  cases ends with
  | refusedStart => exact remembers
  | failedStart => exact remembers
  | limit head => exact (head.remembers remembers :)
  | refused head _ turned => exact turn_remembers turned (head.remembers remembers)
  | ended head _ turned => exact turn_remembers turned (head.remembers remembers)

/-! ## What is told -/

/-- The events told are a chronicle of some steps and report no more than some calls. -/
structure Told (problem : Problem α σ ε n) (observer : Observer α ω) (first : ω)
    (steps calls : Nat) (events : Array (Event α)) : Prop where
  chronicle : Chronicle problem.config observer first steps events.toList
  calls_le : ∀ event ∈ events.toList, event.calls ≤ calls

variable {events told : Array (Event α)}

private theorem Told.of_push {steps : Nat} (last : Event α)
    (chronicle : Chronicle problem.config observer first steps (events.toList ++ [last])) :
    problem.Told observer first steps last.calls (events.push last) := by
  have increase := chronicle.calls_increase
  rw [← Array.toList_push] at chronicle
  refine ⟨chronicle, ?_⟩
  rw [Array.toList_push]
  intro event member
  rcases List.mem_append.mp member with earlier | single
  · exact Nat.le_of_lt ((List.pairwise_append.mp increase).2.2 event earlier last
      List.mem_cons_self)
  · rcases List.mem_singleton.mp single with rfl
    exact Nat.le_refl _

section

variable {passed : State α n} {multiplier : α} {updated positiveDefinite : Bool}
  {memory middle after before : σ}
  (history : problem.Told observer first state.iterations state.calls events)
  (positive : 0 < n)
  (step : problem.iterate state memory = (.ok (.advanced next multiplier updated), middle))

include history positive step

private theorem Told.steps :
    (next.iteratedEvent multiplier updated).Steps events.toList state.iterations where
  step := congrArg some (iterate_iterations step)
  later event member := by
    have reported := history.calls_le event member
    have charged := iterate_charges step
    change event.calls < next.calls
    omega
  finite cost member := by
    cases member
    exact iterate_cost_finite step

private theorem Told.stepped :
    problem.Told observer first next.iterations next.calls
      (events.push (next.iteratedEvent multiplier updated)) := by
  refine Told.of_push (next.iteratedEvent multiplier updated) ?_
  rw [iterate_iterations step]
  exact .unchecked history.chronicle (history.steps positive step)

omit history step in
private theorem checksStep {asked : Option Action}
    (reason : asked = some .refineHessian ∨
      problem.config.refineHessian = true ∧ problem.isClose next = true)
    (refinement : problem.refine next before = (.ok (.checked passed positiveDefinite), after)) :
    (next.iteratedEvent multiplier updated).ChecksStep problem.config asked
      (passed.refinedEvent next.edm positiveDefinite) := by
  have same : next.SamePoint passed := refine_samePoint refinement
  have charged : passed.calls = next.calls + 2 * (n * n) := refine_calls refinement
  have more : 0 < n * n := Nat.mul_pos positive positive
  rw [State.refinedEvent, same.iterations, same.x]
  refine .intro (reason.imp_right fun close => ⟨close.1, of_decide_eq_true close.2⟩) ?_ ?_
  · omega
  · intro indefinite
    subst indefinite
    exact (refine_stands refinement).edm

private theorem Told.checked
    (reason : observer.answerTo first events.toList (next.iteratedEvent multiplier updated) =
        some .refineHessian ∨
      problem.config.refineHessian = true ∧ problem.isClose next = true)
    (refinement : problem.refine next before = (.ok (.checked passed positiveDefinite), after)) :
    problem.Told observer first passed.iterations passed.calls
      ((events.push (next.iteratedEvent multiplier updated)).push
        (passed.refinedEvent next.edm positiveDefinite)) := by
  have same : next.SamePoint passed := refine_samePoint refinement
  refine Told.of_push (passed.refinedEvent next.edm positiveDefinite) ?_
  rw [Array.toList_push, ← List.append_cons, same.iterations, iterate_iterations step]
  exact .checked history.chronicle (history.steps positive step)
    (checksStep positive reason refinement)

end

/-- However a turn goes on or ends, the events told are a chronicle of the steps of the
state that is left. -/
def Chronicles (problem : Problem α σ ε n) (observer : Observer α ω) (first : ω)
    (answer : Except (FitError α ε) (Check α n)) (told : Array (Event α)) : Prop :=
  ∃ steps calls, problem.Told observer first steps calls told ∧
    ∀ check, answer = .ok check → check.state.iterations = steps ∧ calls ≤ check.state.calls

private theorem Told.chronicles {check : Check α n} {steps calls : Nat}
    (history : problem.Told observer first steps calls told) (same : check.state.iterations = steps)
    (reported : calls ≤ check.state.calls) :
    problem.Chronicles observer first (.ok check) told := by
  refine ⟨_, _, history, ?_⟩
  intro other equal
  cases equal
  exact ⟨same, reported⟩

private theorem Told.chronicles_error {cause : FitError α ε} {steps calls : Nat}
    (history : problem.Told observer first steps calls told) :
    problem.Chronicles observer first (.error cause) told :=
  ⟨steps, calls, history, nofun⟩

private theorem Chronicles.convergeIfClose
    (chronicles : problem.Chronicles observer first answer told) :
    problem.Chronicles observer first (answer.map problem.convergeIfClose) told := by
  rcases chronicles with ⟨steps, calls, history, reported⟩
  refine ⟨steps, calls, history, ?_⟩
  intro check equal
  cases answer with
  | error => cases equal
  | ok given =>
      cases equal
      rw [state_convergeIfClose]
      exact reported given rfl

private theorem Checks.chronicles {multiplier : α} {updated : Bool} {before memory : σ}
    (history : problem.Told observer first state.iterations state.calls events)
    (positive : 0 < n)
    (step : problem.iterate state before = (.ok (.advanced next multiplier updated), memory))
    (pushed : session.events = events.push (next.iteratedEvent multiplier updated))
    (reason : observer.answerTo first events.toList (next.iteratedEvent multiplier updated) =
        some .refineHessian ∨
      problem.config.refineHessian = true ∧ problem.isClose next = true)
    (checks : problem.Checks observer next session answer final) :
    problem.Chronicles observer first answer final.events := by
  have stepped := history.stepped positive step
  rw [← pushed] at stepped
  cases checks with
  | noRoom => exact stepped.chronicles rfl (Nat.le_refl _)
  | refused => exact stepped.chronicles_error
  | failed _ refinement =>
      rcases refine_eq_failed refinement with ⟨_, rfl⟩
      exact stepped.chronicles rfl (Nat.le_add_right _ _)
  | stopped _ refinement telling =>
      have checked := history.checked positive step reason refinement
      rw [← pushed] at checked
      subst telling
      exact checked.chronicles rfl (Nat.le_refl _)
  | passed _ refinement telling =>
      have checked := history.checked positive step reason refinement
      rw [← pushed] at checked
      subst telling
      exact checked.chronicles rfl (Nat.le_refl _)

structure FirstCheck (problem : Problem α σ ε n) (state : State α n) (memory : σ)
    (answer : Except (FitError α ε) (Check α n)) (told : Array (Event α)) : Prop where
  fresh : state.iterations = 0
  stalled : ∃ searched after, problem.iterate state memory = (.ok (.stalled searched), after)
  ended : ∃ status next edmBefore positiveDefinite,
    answer = .ok (.ended ⟨status, next⟩) ∧ next.iterations = 0 ∧
      told.toList = [next.refinedEvent edmBefore positiveDefinite]

/-- After the first step a fit that finds no lower cost is not close, so there is no check. -/
theorem Checks.chronicles_of_stalled {memory middle : σ}
    (checks : problem.Checks observer next session answer final)
    (history : problem.Told observer first state.iterations state.calls session.events)
    (goesOn : problem.GoesOn state)
    (step : problem.iterate state memory = (.ok (.stalled next), middle))
    (close : problem.isClose next = true) :
    problem.Chronicles observer first (answer.map problem.settleCheck) final.events ∨
      problem.FirstCheck state memory (answer.map problem.settleCheck) final.events := by
  have stands : state.Stands next := iterate_standsAt step
  have charged : state.calls ≤ next.calls := iterate_le step
  have fresh : next.iterations = 0 := by
    rcases goesOn.of_stands stands with none | far
    · exact none
    · cases far.symm.trans close
  have none : session.events.toList = [] :=
    history.chronicle.eq_nil (stands.iterations.symm.trans fresh)
  cases checks with
  | noRoom => exact .inl (history.chronicles stands.iterations charged)
  | refused => exact .inl history.chronicles_error
  | failed _ refinement =>
      rcases refine_eq_failed refinement with ⟨_, rfl⟩
      exact .inl (history.chronicles stands.iterations (Nat.le_add_right_of_le charged))
  | @stopped last positiveDefinite _ _ _ _ refinement telling =>
      subst telling
      refine .inr ⟨stands.iterations.symm.trans fresh, ⟨next, middle, step⟩, _, last, next.edm,
        positiveDefinite, rfl, (refine_samePoint refinement).iterations.trans fresh, ?_⟩
      rw [Session.shown, Array.toList_push, none]
      rfl
  | @passed last positiveDefinite _ _ _ _ refinement telling =>
      subst telling
      refine .inr ⟨stands.iterations.symm.trans fresh, ⟨next, middle, step⟩, _, last, next.edm,
        positiveDefinite, rfl, (refine_samePoint refinement).iterations.trans fresh, ?_⟩
      rw [Session.shown, Array.toList_push, none]
      rfl

private theorem Episode.chronicles (positive : 0 < n) (goesOn : problem.GoesOn state)
    (history : problem.Told observer first state.iterations state.calls session.events)
    (remembers : session.Remembers observer first)
    (episode : problem.Episode observer state session answer final) :
    problem.Chronicles observer first answer final.events ∨
      problem.FirstCheck state session.objectiveMemory answer final.events := by
  cases episode with
  | refused => exact .inl history.chronicles_error
  | @quiet step ending _ _ stepped ends =>
      have charged : state.calls ≤ ending.state.calls := by
        rw [ends.state_eq]
        exact iterate_le stepped
      exact .inl (history.chronicles (ends.stands stepped).iterations charged)
  | settled step close _ checks =>
      exact (checks.chronicles_of_stalled history goesOn step close :)
  | stopped step telling =>
      subst telling
      exact .inl ((history.stepped positive step).chronicles rfl (Nat.le_refl _))
  | @unchecked next multiplier updated _ _ _ step telling =>
      subst telling
      have passed : problem.Chronicles observer first (.ok (.passed next)) _ :=
        (history.stepped positive step).chronicles rfl (Nat.le_refl _)
      exact .inl passed.convergeIfClose
  | @checked next multiplier updated memory notes told _ _ step telling reason checks =>
      subst telling
      refine .inl (Chronicles.convergeIfClose ?_)
      refine checks.chronicles history positive step rfl (reason.imp_left fun asked => ?_)
      rw [← remembers.answer_eq]
      exact asked

/-! ## Whole fits -/

theorem turn_iterations
    (turned : problem.turn observer state session = (.ok (.passed next), final)) :
    next.iterations = state.iterations + 1 := by
  rcases turn_eq_passed turned with ⟨moved, _, _, _, step, same⟩
  rw [same.iterations, iterate_iterations step]

theorem AtHead.started {remaining : Nat}
    (head : problem.AtHead observer x origin remaining state session)
    (fresh : state.iterations = 0) :
    problem.start x origin.objectiveMemory = (.ok (.ready state), session.objectiveMemory) := by
  cases head with
  | first started => exact started
  | next _ _ turned =>
      rw [turn_iterations turned] at fresh
      cases fresh

private theorem turn_chronicles (positive : 0 < n) (goesOn : problem.GoesOn state)
    (history : problem.Told observer first state.iterations state.calls session.events)
    (remembers : session.Remembers observer first)
    (turned : problem.turn observer state session = (answer, final)) :
    problem.Chronicles observer first answer final.events ∨
      problem.FirstCheck state session.objectiveMemory answer final.events := by
  have episode := problem.episode_turn observer state session
  rw [turned] at episode
  exact episode.chronicles positive goesOn history remembers

section

variable (positive : 0 < n) (untold : origin.events = #[])
  (remembers : origin.Remembers observer first)

include positive untold remembers

theorem AtHead.history {remaining : Nat}
    (head : problem.AtHead observer x origin remaining state session) :
    problem.Told observer first state.iterations state.calls session.events := by
  induction head with
  | first started =>
      rw [start_iterations started]
      refine ⟨?_, ?_⟩
      · rw [untold]
        exact .start
      · rw [untold]
        nofun
  | next before room turned induction =>
      rcases turn_chronicles positive before.goesOn induction (before.remembers remembers)
        turned with ⟨steps, calls, history, left⟩ | ended
      · rcases left _ rfl with ⟨rfl, reported⟩
        exact ⟨history.chronicle, fun event member =>
          Nat.le_trans (history.calls_le event member) reported⟩
      · rcases ended.ended with ⟨_, _, _, _, equal, _⟩
        cases equal

/-- The one event of a fit whose first line search finds no lower cost tells of the check of
its starting point. The fit ends with it. -/
def StallsAtStart (problem : Problem α σ ε n) (x : Vector α n) (origin : Session α σ ω)
    (answer : Except (FitError α ε) (Ending α n)) (told : Array (Event α)) : Prop :=
  (∃ ready memory found after,
    problem.start x origin.objectiveMemory = (.ok (.ready ready), memory) ∧
      problem.lineSearch ready memory = (.ok (.stalled found), after)) ∧
  ∃ ending edmBefore positiveDefinite, answer = .ok ending ∧ ending.state.iterations = 0 ∧
    told.toList = [ending.state.refinedEvent edmBefore positiveDefinite]

theorem run_chronicles {answer : Except (FitError α ε) (Ending α n)}
    (ran : problem.run observer x origin = (answer, final)) :
    (∃ steps, Chronicle problem.config observer first steps final.events.toList ∧
      ∀ ending, answer = .ok ending → ending.state.iterations = steps) ∨
    problem.StallsAtStart x origin answer final.events := by
  have ends := problem.ends_run observer x origin
  rw [ran] at ends
  cases ends with
  | refusedStart =>
      refine .inl ⟨0, ?_, nofun⟩
      rw [untold]
      exact .start
  | failedStart started =>
      refine .inl ⟨0, ?_, ?_⟩
      · rw [untold]
        exact .start
      · intro ending equal
        cases equal
        exact (start_failed started).1
  | limit head =>
      refine .inl ⟨_, (head.history positive untold remembers).chronicle, ?_⟩
      intro ending equal
      cases equal
      rfl
  | refused head _ turned =>
      rcases turn_chronicles positive head.goesOn (head.history positive untold remembers)
        (head.remembers remembers) turned with ⟨steps, calls, history, _⟩ | ended
      · exact .inl ⟨steps, history.chronicle, nofun⟩
      · rcases ended.ended with ⟨_, _, _, _, equal, _⟩
        cases equal
  | @ended remaining state session ending _ head _ turned =>
      rcases turn_chronicles positive head.goesOn (head.history positive untold remembers)
        (head.remembers remembers) turned with ⟨steps, calls, history, left⟩ | check
      · refine .inl ⟨steps, history.chronicle, ?_⟩
        intro other equal
        cases equal
        exact (left _ rfl).1
      -- A check without a step before it is that of the starting point.
      · have started := head.started check.fresh
        rcases check.stalled with ⟨searched, after, stalled⟩
        rcases iterate_stalled (start_reset started) stalled with ⟨found, middle, search⟩
        rcases check.ended with ⟨status, next, edmBefore, positiveDefinite, equal, fresh, told⟩
        cases equal
        exact .inr ⟨⟨state, _, found, middle, started, search⟩, ⟨status, next⟩, edmBefore,
          positiveDefinite, rfl, fresh, told⟩

end

end Problem

end CurveFitting

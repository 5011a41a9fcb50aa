import CurveFitting.Proofs.Run.Events
import CurveFitting.Proofs.Run.Telling

/-! # Watched fits

A fit with an observer that can only stop it is compared, move by move, with the same fit
that nobody watches. They go along together until the observer stops the first one. Then
the second one goes on alone.
-/

namespace CurveFitting

variable {α σ ω ε : Type}

/-! ## Observers that can only stop -/

namespace Observer

variable (observer : Observer α ω) (first : ω)

/-- The observer never asks for a check against a full Hessian. -/
def IsPassive : Prop :=
  ∀ events event, observer.answerTo first events event ≠ some .refineHessian

def LetsPass (events : List (Event α)) : Prop :=
  ∀ before event after, events = before ++ event :: after →
    observer.answerTo first before event ≠ some .stopEarly

/-- Of the events the observer stops the fit at the last one, and at no other. -/
structure StopsAt (before : List (Event α)) (event : Event α) : Prop where
  letsPass : observer.LetsPass first before
  stop : observer.answerTo first before event = some .stopEarly

variable {observer first}

theorem letsPass_nil : observer.LetsPass first [] := by
  intro before event after told
  exact absurd told (by simp)

private theorem LetsPass.concat {events : List (Event α)} {event : Event α}
    (letsPass : observer.LetsPass first events)
    (goesOn : observer.answerTo first events event ≠ some .stopEarly) :
    observer.LetsPass first (events ++ [event]) := by
  intro before other after told
  rcases Chronicle.eq_last_or_earlier told with ⟨rfl, rfl⟩ | ⟨rest, earlier⟩
  · exact goesOn
  · exact letsPass before other rest earlier

theorem StopsAt.not_letsPass {before after : List (Event α)} {event : Event α}
    (stops : observer.StopsAt first before event) :
    ¬observer.LetsPass first (before ++ event :: after) :=
  fun letsPass => letsPass before event after rfl stops.stop

theorem StopsAt.unique {before otherBefore after otherAfter : List (Event α)}
    {event other : Event α} (stops : observer.StopsAt first before event)
    (otherStops : observer.StopsAt first otherBefore other)
    (same : before ++ event :: after = otherBefore ++ other :: otherAfter) :
    before = otherBefore ∧ event = other := by
  rcases List.append_eq_append_iff.mp same with ⟨between, equal, rest⟩ | ⟨between, equal, rest⟩
  · cases between with
    | nil => exact ⟨(equal.trans (List.append_nil _)).symm, (List.cons.inj rest).1⟩
    | cons next between =>
        rcases (List.cons.inj rest).1 with rfl
        exact absurd otherStops.letsPass (equal ▸ stops.not_letsPass)
  · cases between with
    | nil => exact ⟨equal.trans (List.append_nil _), (List.cons.inj rest).1.symm⟩
    | cons next between =>
        rcases (List.cons.inj rest).1 with rfl
        exact absurd stops.letsPass (equal ▸ otherStops.not_letsPass)

end Observer

/-! ## Sessions side by side -/

structure State.DescribedBy {n : Nat} (state : State α n) (event : Event α) : Prop where
  x : event.x = state.x.toList
  iteration : event.iteration = state.iterations
  calls : event.calls = state.calls
  edm : event.edm = state.edm
  cost : ∀ cost ∈ event.cost?, cost = state.cost

/-- A watched session that has not been stopped, and the same one that nobody watches. -/
structure Session.Beside (observer : Observer α ω) (first : ω) (watched : Session α σ ω)
    (alone : Session α σ Unit) : Prop where
  objectiveMemory : watched.objectiveMemory = alone.objectiveMemory
  events : watched.events = alone.events
  remembers : watched.Remembers observer first
  letsPass : observer.LetsPass first watched.events.toList

variable {n : Nat} {observer : Observer α ω} {first : ω} {watched : Session α σ ω}
  {alone : Session α σ Unit}

private theorem Session.answer_silent (event : Event α) :
    alone.answer Observer.silent event = none := rfl

namespace Session.Beside

variable (beside : watched.Beside observer first alone)

include beside

private theorem noted (notes aloneNotes : Array (Note α)) :
    ({ watched with notes := notes } : Session α σ ω).Beside observer first
      { alone with notes := aloneNotes } :=
  ⟨beside.objectiveMemory, beside.events, beside.remembers, beside.letsPass⟩

private theorem evaluated (memory : σ) :
    ({ watched with objectiveMemory := memory } : Session α σ ω).Beside observer first
      { alone with objectiveMemory := memory } :=
  ⟨rfl, beside.events, beside.remembers, beside.letsPass⟩

private theorem shown {event : Event α} (goesOn : watched.answer observer event ≠ some .stopEarly) :
    (watched.shown observer event).Beside observer first (alone.shown Observer.silent event) where
  objectiveMemory := beside.objectiveMemory
  events := congrArg (·.push event) beside.events
  remembers := beside.remembers.shown event
  letsPass := by
    rw [beside.remembers.answer_eq] at goesOn
    rw [Session.shown, Array.toList_push]
    exact beside.letsPass.concat goesOn

end Session.Beside

/-- How a computation of a watched fit ends, and how the same one ends that nobody
watches. If the observer stops the fit, then in the state that the last event describes. -/
inductive Session.EndsBeside (observer : Observer α ω) (first : ω) {value : Type}
    (stopped : State α n → value) : Except (FitError α ε) value × Session α σ ω →
      Except (FitError α ε) value × Session α σ Unit → Prop
  | same (answer) {watched alone} (beside : watched.Beside observer first alone) :
      EndsBeside observer first stopped (answer, watched) (answer, alone)
  | stopped {state before event watched answer alone}
      (told : watched.events.toList = before ++ [event])
      (stops : observer.StopsAt first before event) (described : state.DescribedBy event)
      (grows : watched.events.toList <+: alone.events.toList) :
      EndsBeside observer first stopped (.ok (stopped state), watched) (answer, alone)

namespace Session.EndsBeside

variable {value result : Type} {stopped : State α n → value} {passesOn : State α n → result}

private theorem bind {full : Run α σ ω ε value} {copy : Run α σ Unit ε value}
    {next : value → Run α σ ω ε result} {copyNext : value → Run α σ Unit ε result}
    (ends : EndsBeside observer first stopped (full watched) (copy alone))
    (goesOn : ∀ given {watched : Session α σ ω} {alone : Session α σ Unit},
      watched.Beside observer first alone →
      EndsBeside observer first passesOn (next given watched) (copyNext given alone))
    (keeps : ∀ state watched, (next (stopped state) watched).1 = .ok (passesOn state) ∧
      (next (stopped state) watched).2.events = watched.events)
    (grows : ∀ given (alone : Session α σ Unit),
      alone.events.toList <+: (copyNext given alone).2.events.toList) :
    EndsBeside observer first passesOn ((full >>= next) watched) ((copy >>= copyNext) alone) := by
  rw [Computation.bind_apply, Computation.bind_apply]
  generalize full watched = outcome at ends
  generalize copy alone = copyOutcome at ends
  cases ends with
  | same answer beside =>
      cases answer with
      | error cause => exact .same (.error cause) beside
      | ok given => exact goesOn given beside
  | @stopped state _ _ watched answer _ told stops described more =>
      rcases keeps state watched with ⟨kept, same⟩
      rw [← same] at told more
      dsimp only
      generalize next (stopped state) watched = last at kept told more ⊢
      rcases last with ⟨_, last⟩
      rcases kept with rfl
      cases answer with
      | error => exact .stopped told stops described more
      | ok given => exact .stopped told stops described (more.trans (grows given _))

/-- The observer stops the fit at an event, whatever comes of the fit without it. -/
theorem stop {event : Event α} {state : State α n}
    {outcome : Except (FitError α ε) value × Session α σ Unit}
    (beside : watched.Beside observer first alone)
    (answered : watched.answer observer event = some .stopEarly)
    (described : state.DescribedBy event)
    (grows : (alone.shown Observer.silent event).events.toList <+: outcome.2.events.toList) :
    EndsBeside observer first stopped (.ok (stopped state), watched.shown observer event)
      outcome := by
  refine .stopped Array.toList_push ⟨beside.letsPass, ?_⟩ described ?_
  · rw [← beside.remembers.answer_eq]
    exact answered
  · rw [Session.shown, beside.events]
    exact grows

end Session.EndsBeside

/-! ## Moves -/

theorem State.describedBy_iteratedEvent (state : State α n) (multiplier : α) (updated : Bool) :
    state.DescribedBy (state.iteratedEvent multiplier updated) where
  x := rfl
  iteration := rfl
  calls := rfl
  edm := rfl
  cost _ member := (Option.some.inj member).symm

theorem State.describedBy_refinedEvent (state : State α n) (edmBefore : α)
    (positiveDefinite : Bool) :
    state.DescribedBy (state.refinedEvent edmBefore positiveDefinite) where
  x := rfl
  iteration := rfl
  calls := rfl
  edm := rfl
  cost _ member := by cases member

namespace Problem

variable [Scalar α]

/-! ## Checks -/

private def stoppedCheck (state : State α n) : Check α n := .ended ⟨.stoppedByObserver, state⟩

private def checkIfClose (problem : Problem α σ ε n) (observer : Observer α ω) (state : State α n) :
    Run α σ ω ε (Check α n) :=
  if problem.isClose state && problem.config.refineHessian then
    problem.check observer state
  else
    pure (.passed state)

private def endStalled (problem : Problem α σ ε n) : Check α n → Run α σ ω ε (Ending α n)
  | .ended ending => pure ending
  | .passed state =>
      if problem.isClose state then
        pure ⟨.converged, state⟩
      else do
        Run.note (.stalled state.edm state.cost)
        pure ⟨.aboveMaxEdm, state⟩

variable (problem : Problem α σ ε n) (state : State α n)

private theorem checkIfClose_grows (observer : Observer α ω) (session : Session α σ ω) :
    session.events.toList <+:
      (problem.checkIfClose observer state session).2.events.toList := by
  rw [checkIfClose, Computation.if_apply]
  split
  · exact (check_tells rfl).grows
  · exact List.prefix_refl _

private theorem endStalled_grows (check : Check α n) (session : Session α σ ω) :
    session.events.toList <+: (problem.endStalled check session).2.events.toList := by
  cases check with
  | ended => exact List.prefix_refl _
  | passed =>
      rw [endStalled, Computation.if_apply]
      split
      · exact List.prefix_refl _
      · exact List.prefix_refl _

private theorem settle_eq (observer : Observer α ω) (session : Session α σ ω) :
    problem.settle observer state session =
      (problem.checkIfClose observer state >>= problem.endStalled) session := by
  unfold settle checkIfClose
  split
  · rfl
  · rfl

private theorem afterStep_eq (observer : Observer α ω) (multiplier : α) (updated : Bool)
    (session : Session α σ ω) :
    let event := state.iteratedEvent multiplier updated
    let noted : Session α σ ω := { session with
      notes := session.notes.push (.iterated state.iterations state.calls state.cost state.edm
        multiplier updated) }
    problem.afterStep observer state multiplier updated session =
      match noted.answer observer event with
      | some .stopEarly => (.ok (stoppedCheck state), noted.shown observer event)
      | some .refineHessian => problem.check observer state (noted.shown observer event)
      | none => problem.checkIfClose observer state (noted.shown observer event) := by
  intro event noted
  unfold afterStep
  simp only [Computation.bind_apply, Run.note_apply, Run.emit_apply, Computation.if_apply]
  change (if noted.answer observer event = some .stopEarly then _ else
    if (decide (noted.answer observer event = some .refineHessian) || _) = true then _ else _) = _
  rcases noted.answer observer event with _ | _ | _
  · rw [checkIfClose, Computation.if_apply]
    rfl
  · rfl
  · rfl

variable (beside : watched.Beside observer first alone)

include beside

private theorem check_beside : Session.EndsBeside observer first stoppedCheck
    (problem.check observer state watched) (problem.check Observer.silent state alone) := by
  unfold check
  by_cases full : problem.callLimit < state.calls + 2 * (n * n)
  · rw [if_pos full, if_pos full]
    exact .same _ (beside.noted _ _)
  · rw [if_neg full, if_neg full, Computation.bind_apply, Computation.bind_apply]
    rcases refinement : problem.refine state watched.objectiveMemory with
      ⟨cause | ⟨next, positiveDefinite⟩ | failed, memory⟩
    all_goals
      have aloneRefinement := refinement
      rw [beside.objectiveMemory] at aloneRefinement
    · rw [Run.evaluate_of_error refinement, Run.evaluate_of_error aloneRefinement]
      exact .same _ (beside.evaluated memory)
    · rw [Run.evaluate_of_ok refinement, Run.evaluate_of_ok aloneRefinement]
      -- The notes before the event differ, which is nothing that the comparison looks at.
      cases positiveDefinite
      all_goals
        simp only [Bool.not_true, Bool.not_false, Bool.false_eq_true, if_true, if_false,
          Computation.bind_apply, Run.note_apply, Run.emit_apply, Computation.if_apply,
          Session.answer_silent, reduceCtorEq]
        split
        · rename_i stop
          exact .stop ((beside.evaluated memory).noted _ _) stop
            (next.describedBy_refinedEvent _ _) (List.prefix_refl _)
        · rename_i goesOn
          exact .same _ (((beside.evaluated memory).noted _ _).shown goesOn)
    · rw [Run.evaluate_of_ok refinement, Run.evaluate_of_ok aloneRefinement]
      exact .same _ ((beside.evaluated memory).noted _ _)

private theorem checkIfClose_beside : Session.EndsBeside observer first stoppedCheck
    (problem.checkIfClose observer state watched)
    (problem.checkIfClose Observer.silent state alone) := by
  rw [checkIfClose, checkIfClose, Computation.if_apply, Computation.if_apply]
  split
  · exact problem.check_beside state beside
  · exact .same _ beside

private theorem settle_beside : Session.EndsBeside observer first (Ending.mk .stoppedByObserver)
    (problem.settle observer state watched) (problem.settle Observer.silent state alone) := by
  rw [settle_eq, settle_eq]
  refine (problem.checkIfClose_beside state beside).bind ?_ (fun _ _ => ⟨rfl, rfl⟩)
    problem.endStalled_grows
  intro check watched alone beside
  cases check with
  | ended ending => exact .same _ beside
  | passed passed =>
      rw [endStalled, endStalled, Computation.if_apply, Computation.if_apply]
      split
      · exact .same _ beside
      · exact .same _ (beside.noted _ _)

/-! ## Turns -/

variable (passive : observer.IsPassive first)

include passive

private theorem afterStep_beside (multiplier : α) (updated : Bool) :
    Session.EndsBeside observer first stoppedCheck
      (problem.afterStep observer state multiplier updated watched)
      (problem.afterStep Observer.silent state multiplier updated alone) := by
  rw [afterStep_eq, afterStep_eq, Session.answer_silent]
  split
  · rename_i stop
    exact .stop (beside.noted _ _) stop (state.describedBy_iteratedEvent _ _)
      (problem.checkIfClose_grows state _ _)
  · rename_i asked
    rw [(beside.noted _ #[]).remembers.answer_eq] at asked
    exact absurd asked (passive _ _)
  · rename_i quiet
    refine problem.checkIfClose_beside state ((beside.noted _ _).shown ?_)
    rw [quiet]
    nofun

private theorem turn_beside : Session.EndsBeside observer first stoppedCheck
    (problem.turn observer state watched) (problem.turn Observer.silent state alone) := by
  unfold turn
  rw [Computation.bind_apply, Computation.bind_apply]
  rcases step : problem.iterate state watched.objectiveMemory with
    ⟨cause | ⟨next, multiplier, updated⟩ | searched | searched | searched, memory⟩
  all_goals
    have aloneStep := step
    rw [beside.objectiveMemory] at aloneStep
    have evaluated := beside.evaluated memory
  · rw [Run.evaluate_of_error step, Run.evaluate_of_error aloneStep]
    exact .same _ evaluated
  · rw [Run.evaluate_of_ok step, Run.evaluate_of_ok aloneStep]
    refine (problem.afterStep_beside next evaluated passive multiplier updated).bind ?_
      (fun _ _ => ⟨rfl, rfl⟩) (fun _ _ => List.prefix_refl _)
    exact fun check _ _ beside => .same _ beside
  · rw [Run.evaluate_of_ok step, Run.evaluate_of_ok aloneStep]
    refine (problem.settle_beside searched evaluated).bind ?_ (fun _ _ => ⟨rfl, rfl⟩)
      (fun _ _ => List.prefix_refl _)
    exact fun ending _ _ beside => .same _ beside
  · rw [Run.evaluate_of_ok step, Run.evaluate_of_ok aloneStep]
    exact .same _ (evaluated.noted _ _)
  · rw [Run.evaluate_of_ok step, Run.evaluate_of_ok aloneStep]
    exact .same _ (evaluated.noted _ _)

/-! ## Whole fits -/

theorem search_beside (remaining : Nat) :
    Session.EndsBeside observer first (Ending.mk .stoppedByObserver)
      (problem.search observer remaining state watched)
      (problem.search Observer.silent remaining state alone) := by
  induction remaining generalizing state watched alone with
  | zero => exact .same _ (beside.noted _ _)
  | succ remaining induction =>
      rw [search_succ, search_succ]
      split
      · exact .same _ (beside.noted _ _)
      · have ends := problem.turn_beside state beside passive
        generalize problem.turn observer state watched = outcome at ends ⊢
        generalize problem.turn Observer.silent state alone = aloneOutcome at ends ⊢
        cases ends with
        | same answer beside =>
            rcases answer with cause | passed | ending
            · exact .same _ beside
            · exact induction passed beside
            · exact .same _ beside
        | @stopped _ _ _ _ answer _ told stops described grows =>
            rcases answer with cause | passed | ending
            · exact .stopped told stops described grows
            · exact .stopped told stops described (grows.trans (search_grows ..))
            · exact .stopped told stops described grows

theorem run_beside (x : Vector α n) :
    Session.EndsBeside observer first (Ending.mk .stoppedByObserver)
      (problem.run observer x watched) (problem.run Observer.silent x alone) := by
  unfold run
  rw [Computation.bind_apply, Computation.bind_apply]
  rcases started : problem.start x watched.objectiveMemory with ⟨cause | state | state, memory⟩
  all_goals
    have aloneStarted := started
    rw [beside.objectiveMemory] at aloneStarted
    have evaluated := beside.evaluated memory
  · rw [Run.evaluate_of_error started, Run.evaluate_of_error aloneStarted]
    exact .same _ evaluated
  · rw [Run.evaluate_of_ok started, Run.evaluate_of_ok aloneStarted]
    exact problem.search_beside state (evaluated.noted _ _) passive _
  · rw [Run.evaluate_of_ok started, Run.evaluate_of_ok aloneStarted]
    exact .same _ (evaluated.noted _ _)

end Problem

theorem minimize_beside [Scalar α] {objective : Objective α σ ε} {parameters : ParameterSet α}
    {config : Config α} {problem : Problem α σ ε parameters.size}
    (prepared : Problem.prepare objective parameters config = .ok problem)
    (passive : observer.IsPassive first) (beside : watched.Beside observer first alone) :
    Session.EndsBeside observer first (problem.result .stoppedByObserver)
      (minimize objective parameters config observer watched)
      (minimize objective parameters config Observer.silent alone) := by
  rw [minimize_of_prepare prepared, minimize_of_prepare prepared]
  refine (problem.run_beside beside passive parameters.values).bind ?_ (fun _ _ => ⟨rfl, rfl⟩)
    (fun _ _ => List.prefix_refl _)
  exact fun ending _ _ beside => .same _ (beside.noted _ _)

end CurveFitting

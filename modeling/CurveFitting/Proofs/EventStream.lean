import CurveFitting.Observers
import CurveFitting.Proofs.Run.Telling
import CurveFitting.Proofs.Limits

/-! # The stream of events

The events of a fit come in a fixed order, whatever the observer answers. Of the answers
to the event of a check only the one that stops the fit has an effect. A history keeps
one record of each event, and the costs of the steps among them.
-/

namespace CurveFitting

variable {α σ ω ε : Type} [Scalar α] {n : Nat}

/-! ## The order of events -/

/-- Events in the order in which a fit may tell them. -/
structure Event.InOrder (config : Config α) (observer : Observer α ω) (first : ω) (steps : Nat)
    (events : List (Event α)) : Prop where
  /-- The steps are counted from one. -/
  steps_eq : events.filterMap Event.step? = List.range' 1 steps
  /-- The check of a step is told right after it. -/
  check_follows : ∀ before check after step, events = before ++ check :: after →
    check.check? = some (step + 1) → ∃ earlier event, before = earlier ++ [event] ∧
      event.ChecksStep config (observer.answerTo first earlier event) check
  checks_nodup : (events.filterMap Event.check?).Nodup
  /-- Where the starting point is checked, nothing else is told. -/
  alone : ∀ check ∈ events, check.check? = some 0 → events = [check]
  calls_increase : events.Pairwise (·.calls < ·.calls)

private theorem Chronicle.inOrder {config : Config α} {observer : Observer α ω} {first : ω}
    {steps : Nat} {events : List (Event α)}
    (chronicle : Chronicle config observer first steps events) :
    Event.InOrder config observer first steps events where
  steps_eq := chronicle.steps_eq
  check_follows _ _ _ _ told checking := chronicle.check_follows told checking
  checks_nodup := chronicle.checks_nodup
  alone check member checking := by
    have numbered : 0 ∈ events.filterMap Event.check? :=
      List.mem_filterMap.mpr ⟨check, member, checking⟩
    cases (chronicle.checks_le 0 numbered).1
  calls_increase := chronicle.calls_increase

private theorem Event.inOrder_singleton (config : Config α) (observer : Observer α ω) (first : ω)
    {check : Event α} (checking : check.check? = some 0) :
    InOrder config observer first 0 [check] where
  steps_eq := by
    cases check with
    | iterated => cases checking
    | refined => rfl
  check_follows before other after step told otherChecking := by
    have member : other ∈ [check] := by
      rw [told]
      exact List.mem_append_right before List.mem_cons_self
    rw [List.mem_singleton.mp member, checking] at otherChecking
    cases otherChecking
  checks_nodup := by
    rw [List.filterMap_cons_some checking]
    exact List.pairwise_singleton _ _
  alone other member _ := by
    rw [List.mem_singleton.mp member]
  calls_increase := List.pairwise_singleton _ _

/-! ## Answers to checks -/

/-- The observer without its wishes for a check in answer to the event of a check. -/
def Observer.calm (observer : Observer α ω) : Observer α ω where
  observe event memory :=
    let reaction := observer.observe event memory
    match event, reaction.action with
    | .refined .., some .refineHessian => { reaction with action := none }
    | _, _ => reaction

namespace Session

variable (session : Session α σ ω) (observer : Observer α ω)

omit [Scalar α] in
private theorem shown_calm (event : Event α) : session.shown observer.calm event =
    session.shown observer event := by
  unfold shown Observer.calm
  dsimp only
  split <;> rfl

omit [Scalar α] in
private theorem answer_calm_refined {iteration calls : Nat} {x : List α} {edmBefore edm : α}
    {positiveDefinite : Bool} :
    session.answer observer.calm
          (.refined iteration calls x edmBefore edm positiveDefinite) = some .stopEarly ↔
      session.answer observer
          (.refined iteration calls x edmBefore edm positiveDefinite) = some .stopEarly := by
  unfold answer Observer.calm
  dsimp only
  split
  · rename_i asked
    simp [asked]
  · rfl

end Session

namespace Problem

variable (problem : Problem α σ ε n) (observer : Observer α ω) (state : State α n)
  (session : Session α σ ω)

private theorem check_calm :
    problem.check observer.calm state session = problem.check observer state session := by
  unfold check
  simp only [Computation.if_apply, Computation.bind_apply]
  split
  · rfl
  · rcases Run.evaluate (problem.refine state) session with
      ⟨cause | ⟨next, positiveDefinite⟩ | failed, middle⟩
    · rfl
    · -- The notes before the event are the same, so that only the answers are compared.
      cases positiveDefinite
      all_goals
        simp only [Bool.not_true, Bool.not_false, Bool.false_eq_true, if_true, if_false,
          Computation.bind_apply, Run.note_apply, Run.emit_apply, Computation.if_apply,
          Session.shown_calm, Session.answer_calm_refined]
    · rfl

private theorem afterStep_calm (multiplier : α) (updated : Bool) :
    problem.afterStep observer.calm state multiplier updated session =
      problem.afterStep observer state multiplier updated session := by
  unfold afterStep
  simp only [Computation.bind_apply, Run.note_apply, Run.emit_apply, Computation.if_apply,
    Session.shown_calm, check_calm]
  rfl

private theorem settle_calm :
    problem.settle observer.calm state session = problem.settle observer state session := by
  unfold settle
  simp only [Computation.bind_apply, Computation.if_apply, check_calm]

private theorem turn_calm :
    problem.turn observer.calm state session = problem.turn observer state session := by
  unfold turn
  rw [Computation.bind_apply, Computation.bind_apply]
  rcases Run.evaluate (problem.iterate state) session with
    ⟨cause | ⟨next, multiplier, updated⟩ | searched | searched | searched, middle⟩
  · rfl
  · exact Computation.bind_congr (problem.afterStep_calm observer next middle multiplier updated)
  · exact Computation.bind_congr (problem.settle_calm observer searched middle)
  · rfl
  · rfl

theorem search_calm (remaining : Nat) :
    problem.search observer.calm remaining state session =
      problem.search observer remaining state session := by
  induction remaining generalizing state session with
  | zero => rfl
  | succ remaining induction =>
      rw [search_succ, search_succ, turn_calm]
      simp only [induction]

theorem run_calm (x : Vector α n) :
    problem.run observer.calm x session = problem.run observer x session := by
  unfold run
  rw [Computation.bind_apply, Computation.bind_apply]
  rcases Run.evaluate (problem.start x) session with ⟨cause | state | state, middle⟩
  · rfl
  · exact problem.search_calm observer state _ _
  · rfl

end Problem

theorem minimize_calm (objective : Objective α σ ε) (parameters : ParameterSet α)
    (config : Config α) (observer : Observer α ω) (origin : Session α σ ω) :
    minimize objective parameters config observer.calm origin =
      minimize objective parameters config observer origin := by
  rcases prepared : Problem.prepare objective parameters config with cause | problem
  · rw [minimize_of_prepare_error prepared, minimize_of_prepare_error prepared]
  · rw [minimize_of_prepare prepared, minimize_of_prepare prepared]
    exact Computation.bind_congr (problem.run_calm observer origin parameters.values)

/-! ## Histories -/

def Event.record (event : Event α) : Record α := ⟨event.iteration, event.cost, event.edm⟩

namespace History

private theorem records_memoryAfter (history : History α) (events : List (Event α)) :
    (observer.memoryAfter history events).records =
      history.records ++ events.map Event.record := by
  induction events generalizing history with
  | nil => exact (List.append_nil _).symm
  | cons event events induction =>
      change (observer.memoryAfter (history.record event.record) events).records = _
      rw [induction, record, List.append_assoc]
      rfl

private theorem costs_append (records : List (Record α)) (history : History α) :
    costs ⟨history.records ++ records⟩ = history.costs ++ costs ⟨records⟩ := by
  rw [costs, List.map_append, List.filter_append]
  rfl

private theorem costs_records [Scalar.MarksMissing α] {events : List (Event α)}
    (finite : ∀ event ∈ events, ∀ cost ∈ event.cost?, Scalar.isFinite cost = true) :
    costs ⟨events.map Event.record⟩ = events.filterMap Event.cost? := by
  induction events with
  | nil => rfl
  | cons event events induction =>
      have rest := induction fun other member => finite other (List.mem_cons_of_mem _ member)
      rw [costs] at rest ⊢
      rw [List.map_cons, List.map_cons, List.filter_cons, rest]
      cases event with
      | iterated iteration calls x cost =>
          have present : Scalar.isNaN cost = false :=
            Scalar.MarksMissing.isNaN_of_isFinite (finite _ List.mem_cons_self cost rfl)
          change (if (!Scalar.isNaN cost) = true then cost :: _ else _) = _
          rw [present]
          rfl
      | refined =>
          change (if (!Scalar.isNaN (Scalar.notANumber : α)) = true then _ else _) = _
          rw [Scalar.MarksMissing.isNaN_notANumber]
          rfl

end History

omit [Scalar α] in
private theorem Event.length_costs (events : List (Event α)) :
    (events.filterMap Event.cost?).length = (events.filterMap Event.step?).length := by
  induction events with
  | nil => rfl
  | cons event events induction =>
      cases event with
      | iterated => exact congrArg (· + 1) induction
      | refined => exact induction

/-! ## Minimization -/

section

variable {objective : Objective α σ ε} {parameters : ParameterSet α} {config : Config α}
  {observer : Observer α ω} {first : ω} {origin final : Session α σ ω}
  {answer : Except (FitError α ε) (Minimum α parameters.size)}

private theorem Problem.size_pos_of_prepare {problem : Problem α σ ε parameters.size}
    (prepared : Problem.prepare objective parameters config = .ok problem) :
    0 < parameters.size := by
  have nonempty := (Problem.prepare_eq_ok_iff.mp prepared).1
  exact List.length_pos_iff.mpr fun empty => by
    rw [ParameterSet.isEmpty, empty] at nonempty
    cases nonempty

namespace Minimizes

theorem remembers (minimizes : Minimizes objective parameters config observer origin answer final)
    (remembers : origin.Remembers observer first) : final.Remembers observer first := by
  cases minimizes with
  | invalid => exact remembers
  | refused _ ran => exact Problem.run_remembers ran remembers
  | ended _ ran => exact (Problem.run_remembers ran remembers :)

/-- The events of a minimization are a chronicle, unless they are the one of a check of the
starting point. -/
theorem chronicles
    (minimizes : Minimizes objective parameters config observer origin answer final)
    (untold : origin.events = #[]) (remembers : origin.Remembers observer first) :
    (∃ steps, Chronicle config observer first steps final.events.toList ∧
      ∀ minimum, answer = .ok minimum → minimum.iterations = steps) ∨
    ∃ problem ready memory found after minimum check,
      Problem.prepare objective parameters config = .ok problem ∧
      problem.start parameters.values origin.objectiveMemory = (.ok (.ready ready), memory) ∧
      problem.lineSearch ready memory = (.ok (.stalled found), after) ∧
      answer = .ok minimum ∧ minimum.iterations = 0 ∧ minimum.calls = check.calls ∧
      minimum.edm = check.edm ∧ check.check? = some 0 ∧ final.events.toList = [check] := by
  cases minimizes with
  | invalid =>
      refine .inl ⟨0, ?_, nofun⟩
      rw [untold]
      exact .start
  | refused prepared ran =>
      rcases Problem.prepare_eq_ok prepared with ⟨rfl, _⟩
      rcases Problem.run_chronicles (Problem.size_pos_of_prepare prepared) untold remembers ran
        with ⟨steps, chronicle, _⟩ | ⟨_, ending, _, _, equal, _⟩
      · exact .inl ⟨steps, chronicle, nofun⟩
      · cases equal
  | @ended problem ending _ prepared ran =>
      rcases Problem.prepare_eq_ok prepared with ⟨rfl, _⟩
      rcases Problem.run_chronicles (Problem.size_pos_of_prepare prepared) untold remembers ran
        with ⟨steps, chronicle, left⟩ |
          ⟨⟨ready, memory, found, after, started, stalled⟩, last, edmBefore, positiveDefinite,
            equal, fresh, told⟩
      · refine .inl ⟨steps, chronicle, ?_⟩
        intro minimum equal
        cases equal
        exact left ending rfl
      · cases equal
        exact .inr ⟨problem, ready, memory, found, after, _,
          ending.state.refinedEvent edmBefore positiveDefinite, prepared, started, stalled, rfl,
          fresh, rfl, rfl, congrArg some fresh, told⟩

section

variable (minimizes : Minimizes objective parameters config observer origin answer final)
  (untold : origin.events = #[]) (remembers : origin.Remembers observer first)

include minimizes untold remembers

theorem inOrder : ∃ steps, Event.InOrder config observer first steps final.events.toList ∧
    ∀ minimum, answer = .ok minimum → minimum.iterations = steps := by
  rcases minimizes.chronicles untold remembers with ⟨steps, chronicle, left⟩ |
    ⟨_, _, _, _, _, minimum, check, _, _, _, equal, fresh, _, _, checking, told⟩
  · exact ⟨steps, chronicle.inOrder, left⟩
  · rw [told]
    refine ⟨0, Event.inOrder_singleton config observer first checking, ?_⟩
    intro other otherEqual
    cases equal.symm.trans otherEqual
    exact fresh

private theorem costs_finite :
    ∀ event ∈ final.events.toList, ∀ cost ∈ event.cost?, Scalar.isFinite cost = true := by
  rcases minimizes.chronicles untold remembers with ⟨_, chronicle, _⟩ |
    ⟨_, _, _, _, _, _, check, _, _, _, _, _, _, _, checking, told⟩
  · exact chronicle.costs_finite
  · rw [told]
    intro event member
    rw [List.mem_singleton.mp member]
    cases check with
    | iterated => cases checking
    | refined => nofun

private theorem stalled_of_check {check : Event α} (member : check ∈ final.events.toList)
    (checking : check.check? = some 0) :
    ∃ problem ready memory found after minimum,
      Problem.prepare objective parameters config = .ok problem ∧
      problem.start parameters.values origin.objectiveMemory = (.ok (.ready ready), memory) ∧
      problem.lineSearch ready memory = (.ok (.stalled found), after) ∧
      answer = .ok minimum ∧ minimum.iterations = 0 ∧ minimum.calls = check.calls ∧
      minimum.edm = check.edm := by
  rcases minimizes.chronicles untold remembers with ⟨_, chronicle, _⟩ |
    ⟨problem, ready, memory, found, after, minimum, only, prepared, started, stalled, equal,
      fresh, calls, edm, _, told⟩
  · have numbered : 0 ∈ final.events.toList.filterMap Event.check? :=
      List.mem_filterMap.mpr ⟨check, member, checking⟩
    cases (chronicle.checks_le 0 numbered).1
  · rw [told] at member
    rcases List.mem_singleton.mp member with rfl
    exact ⟨problem, ready, memory, found, after, minimum, prepared, started, stalled, equal,
      fresh, calls, edm⟩

end

end Minimizes

end

/-- The events of a fit come in order: the steps are counted from one up to those of the
result, each check of a step is told right after it and for a reason, and the calls that
are reported increase. The starting point is checked only where the first line search finds
no lower cost, and then the fit ends. To ask for a check in answer to one changes
nothing. A history that is shown a fit keeps a record of every event, and its costs
are those of the steps. -/
theorem minimize_tells_in_order [Scalar.MarksMissing α] (objective : Objective α σ ε)
    (parameters : ParameterSet α) (config : Config α) (observer : Observer α ω)
    (objectiveMemory : σ) (observerMemory : ω) (history : History α) :
    let origin := Session.start objectiveMemory observerMemory
    let outcome := minimize objective parameters config observer origin
    let events := outcome.2.events.toList
    let recorded := minimize objective parameters config History.observer
      (Session.start objectiveMemory history)
    let recordedEvents := recorded.2.events.toList
    (∃ steps, Event.InOrder config observer observerMemory steps events ∧
      ∀ minimum, outcome.1 = .ok minimum → minimum.iterations = steps) ∧
    (∀ check ∈ events, check.check? = some 0 →
      ∃ problem ready memory found after minimum,
        Problem.prepare objective parameters config = .ok problem ∧
        problem.start parameters.values objectiveMemory = (.ok (.ready ready), memory) ∧
        problem.lineSearch ready memory = (.ok (.stalled found), after) ∧
        outcome.1 = .ok minimum ∧ minimum.iterations = 0 ∧ minimum.calls = check.calls ∧
        minimum.edm = check.edm) ∧
    minimize objective parameters config observer.calm origin = outcome ∧
    recorded.2.observerMemory.records =
      history.records ++ recordedEvents.map Event.record ∧
    recorded.2.observerMemory.costs =
      history.costs ++ recordedEvents.filterMap Event.cost? ∧
    ∀ minimum, recorded.1 = .ok minimum →
      (recordedEvents.filterMap Event.cost?).length = minimum.iterations := by
  intro origin outcome events recorded recordedEvents
  have told := minimizes_minimize objective parameters config observer origin
  have fresh : origin.Remembers observer observerMemory := rfl
  have kept := minimizes_minimize objective parameters config History.observer
    (Session.start objectiveMemory history)
  have shown : (Session.start objectiveMemory history : Session α σ (History α)).Remembers
      History.observer history := rfl
  have records : recorded.2.observerMemory.records =
      history.records ++ recordedEvents.map Event.record := by
    have remembers : recorded.2.observerMemory =
        History.observer.memoryAfter history recordedEvents := kept.remembers shown
    rw [remembers, History.records_memoryAfter]
  refine ⟨told.inOrder rfl fresh, fun check member => told.stalled_of_check rfl fresh member,
    minimize_calm objective parameters config observer origin, records, ?_, ?_⟩
  · have costs := History.costs_append (recordedEvents.map Event.record) history
    rw [← records, History.costs_records (kept.costs_finite rfl shown)] at costs
    exact costs
  · intro minimum answered
    rcases kept.inOrder rfl shown with ⟨steps, inOrder, left⟩
    rw [Event.length_costs, inOrder.steps_eq, List.length_range', left minimum answered]

/-- The flat cost is fitted in one step, which is then checked. -/
theorem flatCost_tells_step_and_check :
    let recorded := minimize flatCost oneParameter Config.default History.observer
      (Session.start () History.empty)
    let events := recorded.2.events.toList
    events.map (fun event => (event.step?, event.check?, event.calls)) =
        [(some 1, none, 6), (none, some 1, 8)] ∧
      recorded.2.observerMemory.costs = events.filterMap Event.cost? := by
  intro recorded events
  refine ⟨by decide +kernel, ?_⟩
  rcases minimize_tells_in_order flatCost oneParameter Config.default History.observer ()
    History.empty History.empty with ⟨_, _, _, _, costs, _⟩
  exact costs

end CurveFitting

import CurveFitting.Observers
import CurveFitting.Proofs.Endings
import CurveFitting.Proofs.EventStream
import CurveFitting.Proofs.Run.Watched

/-! # Observers that can only stop

An observer that never asks for a check does not steer a fit. It sees the first events of
the fit that nobody watches, and either all of them, with the same result, or those up to
the one at which it stops the fit, with that as the result.
-/

namespace CurveFitting

variable {α σ ω ε : Type} [Scalar α] {n : Nat}

/-! ## Where a fit is stopped -/

namespace Problem

variable {problem : Problem α σ ε n} {observer : Observer α ω} {first : ω} {x : Vector α n}
  {state : State α n} {session final origin : Session α σ ω} {ending : Ending α n}

/-- The last event describes the state in which a fit ends, and is answered with a stop. -/
def StoppedBy (observer : Observer α ω) (first : ω) (state : State α n)
    (events : Array (Event α)) : Prop :=
  ∃ before event, events.toList = before ++ [event] ∧ state.DescribedBy event ∧
    observer.answerTo first before event = some .stopEarly

omit [Scalar α] in
private theorem stoppedBy_shown {event : Event α} (remembers : session.Remembers observer first)
    (stop : session.answer observer event = some .stopEarly) (described : state.DescribedBy event) :
    StoppedBy observer first state (session.shown observer event).events := by
  refine ⟨session.events.toList, event, Array.toList_push, described, ?_⟩
  rw [← remembers.answer_eq]
  exact stop

private theorem Checks.stoppedBy {answer : Except (FitError α ε) (Check α n)}
    (checks : problem.Checks observer state session answer final)
    (remembers : session.Remembers observer first)
    (ended : answer = .ok (.ended ending)) (status : ending.status = .stoppedByObserver) :
    StoppedBy observer first ending.state final.events := by
  cases checks with
  | noRoom =>
      cases ended
      cases status
  | refused => cases ended
  | failed =>
      cases ended
      cases status
  | stopped _ _ telling stop =>
      cases ended
      subst telling
      exact stoppedBy_shown remembers stop (State.describedBy_refinedEvent ..)
  | passed => cases ended

private theorem Episode.stoppedBy {answer : Except (FitError α ε) (Check α n)}
    (episode : problem.Episode observer state session answer final)
    (remembers : session.Remembers observer first)
    (ended : answer = .ok (.ended ending)) (status : ending.status = .stoppedByObserver) :
    StoppedBy observer first ending.state final.events := by
  cases episode with
  | refused => cases ended
  | quiet _ ends =>
      cases ended
      exact absurd status ends.unstopped
  | @settled searched _ given last _ _ _ _ checks =>
      -- Settling after a check that goes on ends the fit as converged or above the tolerance.
      rcases given with cause | passed | settled
      · cases ended
      · cases ended
        rcases Decidable.em (problem.isClose passed = true) with close | far
        · cases (if_pos close).symm.trans status
        · cases (if_neg far).symm.trans status
      · cases ended
        exact (checks.stoppedBy remembers rfl status :)
  | stopped _ telling stop =>
      cases ended
      subst telling
      exact stoppedBy_shown remembers stop (State.describedBy_iteratedEvent ..)
  | unchecked =>
      rcases convergeIfClose_eq_ended (Except.ok.inj ended) with ⟨_, rfl⟩
      cases status
  | @checked next multiplier updated _ _ _ given _ _ telling _ checks =>
      have remembered := remembers.shown (next.iteratedEvent multiplier updated)
      subst telling
      rcases given with cause | passed | stopped
      · cases ended
      · rcases convergeIfClose_eq_ended (Except.ok.inj ended) with ⟨_, rfl⟩
        cases status
      · cases ended
        exact checks.stoppedBy remembered rfl status

theorem run_stoppedBy (remembers : origin.Remembers observer first)
    (ran : problem.run observer x origin = (.ok ending, final))
    (status : ending.status = .stoppedByObserver) :
    StoppedBy observer first ending.state final.events := by
  have ends := problem.ends_run observer x origin
  rw [ran] at ends
  cases ends with
  | failedStart => cases status
  | limit => cases status
  | @ended _ state session _ _ head _ turned =>
      have episode := problem.episode_turn observer state session
      rw [turned] at episode
      exact episode.stoppedBy (head.remembers remembers) rfl status

end Problem

/-! ## Results -/

structure Minimum.StoppedAt (minimum : Minimum α n) (event : Event α) : Prop where
  status : minimum.status = .stoppedByObserver
  values : minimum.values.toList = event.x
  iterations : minimum.iterations = event.iteration
  calls : minimum.calls = event.calls
  edm : minimum.edm = event.edm
  cost : ∀ cost ∈ event.cost?, minimum.cost = cost

private theorem State.DescribedBy.stoppedAt {state : State α n} {event : Event α}
    (described : state.DescribedBy event) (problem : Problem α σ ε n) :
    (problem.result .stoppedByObserver state).StoppedAt event where
  status := rfl
  values := by rw [Minimum.values, Problem.values_result, described.x]
  iterations := described.iteration.symm
  calls := described.calls.symm
  edm := described.edm.symm
  cost cost member := (described.cost cost member).symm

section

variable (objective : Objective α σ ε) (parameters : ParameterSet α) (config : Config α)
  (objectiveMemory : σ) {observer : Observer α ω} {first : ω}

/-- A watched fit comes to the same as the fit that nobody watches, unless the observer stops
it. -/
theorem minimize_passive (passive : observer.IsPassive first) :
    let alone := minimize objective parameters config Observer.silent
      (Session.start objectiveMemory ())
    let watched := minimize objective parameters config observer
      (Session.start objectiveMemory first)
    watched.1 = alone.1 ∧ watched.2.Beside observer first alone.2 ∨
      ∃ before event minimum, watched.1 = .ok minimum ∧
        watched.2.events.toList = before ++ [event] ∧ observer.StopsAt first before event ∧
        minimum.StoppedAt event ∧ watched.2.events.toList <+: alone.2.events.toList := by
  intro alone watched
  have start : (Session.start objectiveMemory first : Session α σ ω).Beside observer first
      (Session.start objectiveMemory ()) :=
    ⟨rfl, rfl, rfl, Observer.letsPass_nil⟩
  rcases prepared : Problem.prepare objective parameters config with cause | problem
  · refine .inl ?_
    rw [show watched = _ from minimize_of_prepare_error prepared,
      show alone = _ from minimize_of_prepare_error prepared]
    exact ⟨rfl, start⟩
  · have ends := minimize_beside prepared passive start
    change Session.EndsBeside observer first _ watched alone at ends
    generalize watched = outcome at ends
    generalize alone = aloneOutcome at ends
    cases ends with
    | same _ beside => exact .inl ⟨rfl, beside⟩
    | stopped told stops described grows =>
        exact .inr ⟨_, _, _, rfl, told, stops, described.stoppedAt problem, grows⟩

section

variable (passive : observer.IsPassive first)

include passive

private theorem watched_grows :
    (minimize objective parameters config observer
        (Session.start objectiveMemory first)).2.events.toList <+:
      (minimize objective parameters config Observer.silent
        (Session.start objectiveMemory ())).2.events.toList := by
  rcases minimize_passive objective parameters config objectiveMemory passive with
    ⟨_, beside⟩ | ⟨_, _, _, _, _, _, _, grows⟩
  · exact ⟨[], by rw [beside.events, List.append_nil]⟩
  · exact grows

private theorem watched_same :
    let alone := minimize objective parameters config Observer.silent
      (Session.start objectiveMemory ())
    let watched := minimize objective parameters config observer
      (Session.start objectiveMemory first)
    observer.LetsPass first watched.2.events.toList →
      watched.1 = alone.1 ∧ watched.2.events = alone.2.events ∧
        watched.2.objectiveMemory = alone.2.objectiveMemory := by
  intro alone watched letsPass
  rcases minimize_passive objective parameters config objectiveMemory passive with
    ⟨same, beside⟩ | ⟨_, _, _, _, told, stops, _⟩
  · exact ⟨same, beside.events, beside.objectiveMemory⟩
  · exact absurd (told ▸ letsPass) stops.not_letsPass

private theorem watched_stops {before after : List (Event α)} {event : Event α}
    (told : (minimize objective parameters config Observer.silent
      (Session.start objectiveMemory ())).2.events.toList = before ++ event :: after)
    (stops : observer.StopsAt first before event) :
    let watched := minimize objective parameters config observer
      (Session.start objectiveMemory first)
    watched.2.events.toList = before ++ [event] ∧
      ∃ minimum, watched.1 = .ok minimum ∧ minimum.StoppedAt event := by
  intro watched
  rcases minimize_passive objective parameters config objectiveMemory passive with
    ⟨_, beside⟩ | ⟨_, _, minimum, answered, last, lastStops, stopped, rest, grown⟩
  · have letsPass := beside.letsPass
    rw [beside.events, told] at letsPass
    exact absurd letsPass stops.not_letsPass
  · rw [last, told, List.append_assoc, List.singleton_append] at grown
    rcases lastStops.unique stops grown with ⟨rfl, rfl⟩
    exact ⟨last, minimum, answered, stopped⟩

end

private theorem stopped_of_status {minimum : Minimum α parameters.size}
    (answered : (minimize objective parameters config observer
      (Session.start objectiveMemory first)).1 = .ok minimum)
    (status : minimum.status = .stoppedByObserver) :
    ∃ before event, (minimize objective parameters config observer
        (Session.start objectiveMemory first)).2.events.toList = before ++ [event] ∧
      observer.answerTo first before event = some .stopEarly := by
  have minimizes := minimizes_minimize objective parameters config observer
    (Session.start objectiveMemory first)
  rw [answered] at minimizes
  generalize (minimize objective parameters config observer
    (Session.start objectiveMemory first)).2 = final at minimizes
  cases minimizes with
  | @ended problem ending _ prepared ran =>
      have remembers : (Session.start objectiveMemory first : Session α σ ω).Remembers observer
          first := rfl
      rcases Problem.run_stoppedBy remembers ran status with ⟨before, event, told, _, stop⟩
      exact ⟨before, event, told, stop⟩

end

/-! ## Observers at work -/

namespace Observer

variable {observer : Observer α ω} {first : ω}

omit [Scalar α] in
private theorem isPassive_of_quiet
    (quiet : ∀ event memory, (observer.observe event memory).action = none) :
    observer.IsPassive first := by
  intro events event asked
  cases (quiet _ _).symm.trans asked

omit [Scalar α] in
private theorem letsPass_of_quiet
    (quiet : ∀ event memory, (observer.observe event memory).action = none)
    (events : List (Event α)) : observer.LetsPass first events := by
  intro before event after _ stop
  cases (quiet _ _).symm.trans stop

variable {target : α}

private theorem answerTo_stopBelow (events : List (Event α)) (event : Event α) :
    (stopBelow target).answerTo () events event =
      if event.cost ≤ target then some .stopEarly else none := rfl

private theorem stopBelow_isPassive : (stopBelow target).IsPassive () := by
  intro events event
  rw [answerTo_stopBelow]
  split
  · nofun
  · nofun

private theorem cost_le_iff [Scalar.ComparesPresent α] {event : Event α} :
    event.cost ≤ target ↔ ∃ cost ∈ event.cost?, cost ≤ target := by
  cases event with
  | iterated _ _ _ cost =>
      constructor
      · intro (below : cost ≤ target)
        exact ⟨cost, rfl, below⟩
      · intro reached
        rcases reached with ⟨_, given, below⟩
        cases given
        exact below
  | refined =>
      constructor
      · intro (below : Scalar.notANumber ≤ target)
        have present := (Scalar.ComparesPresent.present_of_le below).1
        cases Scalar.MarksMissing.isNaN_notANumber.symm.trans present
      · intro reached
        rcases reached with ⟨_, none, _⟩
        cases none

private theorem stopBelow_stops_iff [Scalar.ComparesPresent α] {events : List (Event α)}
    {event : Event α} :
    (stopBelow target).answerTo () events event = some .stopEarly ↔
      ∃ cost ∈ event.cost?, cost ≤ target := by
  rw [answerTo_stopBelow, ← cost_le_iff]
  split
  · rename_i below
    exact iff_of_true rfl below
  · rename_i above
    exact iff_of_false nofun above

private theorem stopBelow_letsPass [Scalar.ComparesPresent α] {events : List (Event α)}
    (above : ∀ event ∈ events, ∀ cost ∈ event.cost?, ¬cost ≤ target) :
    (stopBelow target).LetsPass () events := by
  intro before event after told stop
  have member : event ∈ events := by simp [told]
  rcases stopBelow_stops_iff.mp stop with ⟨cost, given, below⟩
  exact above event member cost given below

end Observer

/-! ## Minimization -/

/-- Where turns do not matter, an observer that never asks for a check can stop a fit, and has no
other influence on it. It is told the first events of the fit that nobody watches. If it stops
the fit at none of them, the result is the same. If it stops the fit, then at once, and the
result is that of the event. So a history and progress notes change nothing, and a target stops
a fit at the first step whose cost has reached it. -/
theorem observers_only_stop [Scalar.ComparesPresent α] (objective : Objective α σ ε)
    (parameters : ParameterSet α) (config : Config α) {pool : Pool}
    (same : SameTurns objective config parameters.size pool) (objectiveMemory : σ) :
    let alone := minimize objective parameters (config.withPool pool) Observer.silent
      (Session.start objectiveMemory ())
    let events := alone.2.events.toList
    (∀ (ω : Type) (observer : Observer α ω) (first : ω), observer.IsPassive first →
      let watched := minimize objective parameters config observer
        (Session.start objectiveMemory first)
      watched.2.Remembers observer first ∧ watched.2.events.toList <+: events ∧
      (observer.LetsPass first watched.2.events.toList →
        watched.1 = alone.1 ∧ watched.2.events = alone.2.events ∧
          watched.2.objectiveMemory = alone.2.objectiveMemory) ∧
      ∀ before event after, events = before ++ event :: after →
        observer.StopsAt first before event →
        watched.2.events.toList = before ++ [event] ∧
          ∃ minimum, watched.1 = .ok minimum ∧ minimum.StoppedAt event) ∧
    (∀ history : History α, (minimize objective parameters config History.observer
      (Session.start objectiveMemory history)).1 = alone.1) ∧
    (∀ level, (minimize objective parameters config (Observer.progress level)
      (Session.start objectiveMemory ())).1 = alone.1) ∧
    ∀ target,
      let stopped := minimize objective parameters config (Observer.stopBelow target)
        (Session.start objectiveMemory ())
      (∀ before event after cost, events = before ++ event :: after →
        (∀ earlier ∈ before, ∀ cost ∈ earlier.cost?, ¬cost ≤ target) →
        event.cost? = some cost → cost ≤ target →
        stopped.2.events.toList = before ++ [event] ∧
          ∃ minimum, stopped.1 = .ok minimum ∧ minimum.StoppedAt event) ∧
      ((∀ event ∈ events, ∀ cost ∈ event.cost?, ¬cost ≤ target) → stopped.1 = alone.1) ∧
      (∀ minimum, stopped.1 = .ok minimum → minimum.status = .stoppedByObserver →
        ∃ before event cost, stopped.2.events.toList = before ++ [event] ∧
          event.cost? = some cost ∧ cost ≤ target) ∧
      (Scalar.isNaN target = true → stopped.1 = alone.1) := by
  rw [minimize_withPool same]
  intro alone events
  refine ⟨?_, ?_, ?_, ?_⟩
  · intro ω observer first passive watched
    have remembers : (Session.start objectiveMemory first : Session α σ ω).Remembers observer
      first := rfl
    exact ⟨(minimizes_minimize objective parameters config observer _).remembers remembers,
      watched_grows objective parameters config objectiveMemory passive,
      watched_same objective parameters config objectiveMemory passive,
      fun before event after told stops =>
        watched_stops objective parameters config objectiveMemory passive told stops⟩
  · intro history
    have quiet (event : Event α) (memory : History α) :
        (History.observer.observe event memory).action = none := rfl
    exact (watched_same objective parameters config objectiveMemory
      (Observer.isPassive_of_quiet quiet) (Observer.letsPass_of_quiet quiet _)).1
  · intro level
    have quiet (event : Event α) (memory : Unit) :
        ((Observer.progress level).observe event memory).action = none := rfl
    exact (watched_same objective parameters config objectiveMemory
      (Observer.isPassive_of_quiet quiet) (Observer.letsPass_of_quiet quiet _)).1
  · intro target stopped
    have passive : (Observer.stopBelow target).IsPassive () := Observer.stopBelow_isPassive
    have unreached (above : ∀ event ∈ events, ∀ cost ∈ event.cost?, ¬cost ≤ target) :
        stopped.1 = alone.1 := by
      have grows := watched_grows objective parameters config objectiveMemory passive
      refine (watched_same objective parameters config objectiveMemory passive
        (Observer.stopBelow_letsPass fun event member => ?_)).1
      exact above event (grows.subset member)
    refine ⟨?_, unreached, ?_, ?_⟩
    · intro before event after cost told above given below
      have stops : (Observer.stopBelow target).StopsAt () before event :=
        ⟨Observer.stopBelow_letsPass above, Observer.stopBelow_stops_iff.mpr ⟨cost, given, below⟩⟩
      exact watched_stops objective parameters config objectiveMemory passive told stops
    · intro minimum answered status
      rcases stopped_of_status objective parameters config objectiveMemory answered status with
        ⟨before, event, told, stop⟩
      rcases Observer.stopBelow_stops_iff.mp stop with ⟨cost, given, below⟩
      exact ⟨before, event, cost, told, given, below⟩
    · intro missing
      apply unreached
      intro event _ cost _ below
      cases missing.symm.trans (Scalar.ComparesPresent.present_of_le below).2

/-- The flat cost reaches its target with the first step, whatever the threads do. -/
theorem flatCost_stopped_at_target :
    let stopped := minimize flatCost oneParameter parallelConfig (Observer.stopBelow 0.5)
      (Session.start () ())
    ∃ event minimum, stopped.2.events.toList = [event] ∧ event.step? = some 1 ∧
      stopped.1 = .ok minimum ∧ minimum.StoppedAt event := by
  intro stopped
  have same : SameTurns flatCost parallelConfig oneParameter.size (Pool.startingWith 0) :=
    .steady fun _ _ => rfl
  rcases observers_only_stop flatCost oneParameter parallelConfig same () with ⟨_, _, _, targets⟩
  rcases targets 0.5 with ⟨reached, _⟩
  let events := (minimize flatCost oneParameter (parallelConfig.withPool (Pool.startingWith 0))
    Observer.silent (Session.start () ())).2.events.toList
  have reported : events.map (fun event => (event.step?, event.cost?.any (· ≤ 0.5))) =
      [(some 1, true), (none, false)] := by decide +kernel
  rcases told : events with _ | ⟨event, after⟩
  · rw [told] at reported
    cases reported
  · rw [told] at reported
    rcases Prod.mk.inj (List.cons.inj reported).1 with ⟨step, below⟩
    rcases (Option.any_eq_true _ _).mp below with ⟨cost, given, low⟩
    rcases reached [] event after cost told nofun given (of_decide_eq_true low) with
      ⟨last, minimum, answered, result⟩
    exact ⟨event, minimum, last, step, answered, result⟩

/-- Where turns matter, a fit with a history may have a result, and the same fit that nobody
watches an error. -/
theorem splitCost_watched_otherwise :
    let watched := minimize splitCost twoParameters
      (parallelConfig.withPool (Pool.startingWith 1)) History.observer
      (Session.start () History.empty)
    let alone := minimize splitCost twoParameters
      (parallelConfig.withPool (Pool.startingWith 0)) Observer.silent (Session.start () ())
    (∃ minimum, watched.1 = .ok minimum ∧ minimum.status = .numericalFailure) ∧
      alone.1.toOption = none := by
  intro watched alone
  have reported : watched.1.toOption.map (·.status) = some .numericalFailure := by
    decide +kernel
  have refused : alone.1.toOption.map (·.status) = none := by decide +kernel
  rcases Computation.ok_of_toOption_map reported with ⟨minimum, answered, status⟩
  exact ⟨⟨minimum, answered, status⟩, Option.map_eq_none_iff.mp refused⟩

end CurveFitting

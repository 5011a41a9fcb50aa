import CurveFitting.Proofs.Run.Events
import CurveFitting.Proofs.Run.Reach
import CurveFitting.Proofs.Run.Telling

/-! # Loop heads after a check

A fit that has told of the check of a step goes on to the next loop head, in the state that
the check left, unless the observer stops it or the state is close. So the events of a
fit show its loop heads.
-/

namespace CurveFitting

variable {α σ ω ε : Type} [Scalar α] {n : Nat}

namespace Problem

variable {problem : Problem α σ ε n} {observer : Observer α ω} {first : ω} {x : Vector α n}
  {state : State α n} {session final origin : Session α σ ω}

def ToldOfCheck (problem : Problem α σ ε n) (x : Vector α n) (check : Event α)
    (state : State α n) : Prop :=
  ∃ before memory positiveDefinite after, problem.Reaches x before ∧
    problem.refine before memory = (.ok (.checked state positiveDefinite), after) ∧
    check = state.refinedEvent before.edm positiveDefinite

/-- A fit has gone on to a loop head right after the check that an event tells of. -/
def LedToHead (problem : Problem α σ ε n) (observer : Observer α ω) (x : Vector α n)
    (origin : Session α σ ω) (before : List (Event α)) (check : Event α) : Prop :=
  ∃ remaining state session, problem.AtHead observer x origin remaining state session ∧
    session.events.toList = before ++ [check] ∧ problem.ToldOfCheck x check state

section

variable {before after : List (Event α)} {check : Event α} {step : Nat} {events : Array (Event α)}

omit [Scalar α] in
private theorem told_last_or_earlier {last : Event α}
    (told : (events.push last).toList = before ++ check :: after) :
    check = last ∧ before = events.toList ∨ ∃ rest, events.toList = before ++ check :: rest := by
  rw [Array.toList_push] at told
  exact Chronicle.eq_last_or_earlier told

variable (checking : check.check? = some (step + 1))

include checking

omit [Scalar α] in
private theorem told_before_step {last : Event α} {number : Nat}
    (stepped : last.step? = some number)
    (told : (events.push last).toList = before ++ check :: after) :
    ∃ rest, events.toList = before ++ check :: rest := by
  rcases told_last_or_earlier told with ⟨rfl, _⟩ | earlier
  · cases (Event.check?_of_step? stepped).symm.trans checking
  · exact earlier

omit [Scalar α] in
private theorem told_before_first_check {next : State α n} {edmBefore : α} {positiveDefinite : Bool}
    (fresh : next.iterations = 0)
    (told : (events.push (next.refinedEvent edmBefore positiveDefinite)).toList =
      before ++ check :: after) :
    ∃ rest, events.toList = before ++ check :: rest := by
  rcases told_last_or_earlier told with ⟨rfl, _⟩ | earlier
  · cases fresh.symm.trans (Option.some.inj checking)
  · exact earlier

private theorem Checks.told_before_stalled {answer : Except (FitError α ε) (Check α n)}
    (fresh : state.iterations = 0) (checks : problem.Checks observer state session answer final)
    (told : final.events.toList = before ++ check :: after) :
    ∃ rest, session.events.toList = before ++ check :: rest := by
  cases checks with
  | noRoom => exact ⟨after, told⟩
  | refused => exact ⟨after, told⟩
  | failed => exact ⟨after, told⟩
  | stopped _ refinement telling =>
      subst telling
      have none := (refine_samePoint refinement).iterations.trans fresh
      exact told_before_first_check checking none told
  | passed _ refinement telling =>
      subst telling
      have none := (refine_samePoint refinement).iterations.trans fresh
      exact told_before_first_check checking none told

variable (unstopped : observer.answerTo first before check ≠ some .stopEarly)
  (far : ¬check.edm < problem.config.tolerance)

include unstopped far

private theorem Episode.check_told {answer : Except (FitError α ε) (Check α n)}
    (reaches : problem.Reaches x state) (goesOn : problem.GoesOn state)
    (remembers : session.Remembers observer first)
    (episode : problem.Episode observer state session answer final)
    (told : final.events.toList = before ++ check :: after) :
    (∃ rest, session.events.toList = before ++ check :: rest) ∨
      ∃ next, answer = .ok (.passed next) ∧ final.events.toList = before ++ [check] ∧
        problem.ToldOfCheck x check next := by
  cases episode with
  | refused => exact .inl ⟨after, told⟩
  | quiet => exact .inl ⟨after, told⟩
  | settled stalled close _ checks =>
      -- A close fit that finds no lower cost has made no step.
      rcases goesOn.of_stands (iterate_standsAt stalled) with fresh | distant
      · have earlier := checks.told_before_stalled checking fresh told
        exact .inl earlier
      · cases distant.symm.trans close
  | stopped _ telling =>
      subst telling
      exact .inl (told_before_step checking rfl told)
  | unchecked _ telling =>
      subst telling
      exact .inl (told_before_step checking rfl told)
  | @checked next multiplier updated _ _ _ _ _ advanced telling _ checks =>
      have remembered := remembers.shown (next.iteratedEvent multiplier updated)
      subst telling
      have stepped {events : List (Event α)}
          (pushed : (session.events.push (next.iteratedEvent multiplier updated)).toList =
            before ++ check :: events) : ∃ rest, session.events.toList = before ++ check :: rest :=
        told_before_step checking rfl pushed
      cases checks with
      | noRoom => exact .inl (stepped told)
      | refused => exact .inl (stepped told)
      | failed => exact .inl (stepped told)
      | stopped _ refinement checkTelling stop =>
          subst checkTelling
          rcases told_last_or_earlier told with ⟨rfl, rfl⟩ | ⟨_, earlier⟩
          · exact absurd ((remembered.answer_eq _).symm.trans stop) unstopped
          · exact .inl (stepped earlier)
      | @passed last positiveDefinite _ _ _ _ refinement checkTelling =>
          subst checkTelling
          rcases told_last_or_earlier told with ⟨rfl, rfl⟩ | ⟨_, earlier⟩
          · refine .inr ⟨last, ?_, Array.toList_push, next, _, positiveDefinite, _,
              reaches.iterated advanced, refinement, rfl⟩
            have distant : problem.isClose last = false := decide_eq_false far
            rw [Except.map, convergeIfClose, distant, if_neg Bool.false_ne_true]
          · exact .inl (stepped earlier)

/-- Up to any loop head the checks of steps that have been told of have led to loop heads. -/
theorem AtHead.check_told {remaining : Nat} (untold : origin.events = #[])
    (remembers : origin.Remembers observer first)
    (head : problem.AtHead observer x origin remaining state session)
    (told : session.events.toList = before ++ check :: after) :
    problem.LedToHead observer x origin before check := by
  induction head generalizing after with
  | first =>
      rw [untold] at told
      exact absurd told (by simp)
  | @next _ state session _ _ head room turned induction =>
      have episode := problem.episode_turn observer state session
      rw [turned] at episode
      rcases episode.check_told checking unstopped far head.reaches head.goesOn
          (head.remembers remembers) told with ⟨_, earlier⟩ | ⟨_, passed, last, checked⟩
      · exact induction earlier
      · cases passed
        exact ⟨_, _, _, .next head room turned, last, checked⟩

theorem run_check_told {answer : Except (FitError α ε) (Ending α n)}
    (untold : origin.events = #[]) (remembers : origin.Remembers observer first)
    (ran : problem.run observer x origin = (answer, final))
    (told : final.events.toList = before ++ check :: after) :
    problem.LedToHead observer x origin before check := by
  have nothing {events : List (Event α)} (none : origin.events.toList = before ++ check :: events) :
      False := by
    rw [untold] at none
    exact absurd none (by simp)
  -- A turn that ends the fit tells of no check that would let it go on.
  have ending {remaining : Nat} {state : State α n} {session last : Session α σ ω}
      {answer : Except (FitError α ε) (Check α n)}
      (head : problem.AtHead observer x origin (remaining + 1) state session)
      (turned : problem.turn observer state session = (answer, last))
      (ended : ∀ passed, answer ≠ .ok (.passed passed))
      (told : last.events.toList = before ++ check :: after) :
      problem.LedToHead observer x origin before check := by
    have episode := problem.episode_turn observer state session
    rw [turned] at episode
    rcases episode.check_told checking unstopped far head.reaches head.goesOn
        (head.remembers remembers) told with ⟨_, earlier⟩ | ⟨passed, goesOn, _⟩
    · exact head.check_told checking unstopped far untold remembers earlier
    · exact absurd goesOn (ended passed)
  have ends := problem.ends_run observer x origin
  rw [ran] at ends
  cases ends with
  | refusedStart => exact (nothing told).elim
  | failedStart => exact (nothing told).elim
  | limit head => exact head.check_told checking unstopped far untold remembers told
  | refused head _ turned => exact ending head turned (by intro _ equal; cases equal) told
  | ended head _ turned => exact ending head turned (by intro _ equal; cases equal) told

end

private theorem ChecksTell.eq_append {memory : σ} {events told : Array (Event α)}
    (tells : problem.ChecksTell state memory events told) :
    ∃ rest, told.toList = events.toList ++ rest ∧ ∀ event ∈ rest, event.step? = none := by
  cases tells with
  | silent => exact ⟨[], (List.append_nil _).symm, by simp⟩
  | @refined next positiveDefinite =>
      refine ⟨[next.refinedEvent state.edm positiveDefinite], Array.toList_push, ?_⟩
      intro event member
      rw [List.mem_singleton.mp member]
      rfl

theorem turn_tells_one_step {next : State α n} {multiplier : α} {updated : Bool} {memory : σ}
    (step : problem.iterate state session.objectiveMemory =
      (.ok (.advanced next multiplier updated), memory)) :
    ∃ rest, (problem.turn observer state session).2.events.toList =
        session.events.toList ++ next.iteratedEvent multiplier updated :: rest ∧
      ∀ event ∈ rest, event.step? = none := by
  rw [turn_of_advanced step, Computation.bind_apply]
  rcases followed : problem.afterStep observer next multiplier updated
    { session with objectiveMemory := memory } with ⟨cause | check, last⟩
  all_goals
    have tells := (afterStep_tells followed).eq_append
    rw [Array.toList_push] at tells
    simp only [List.append_assoc, List.singleton_append] at tells
    exact tells

theorem AtHead.remaining_eq {remaining : Nat}
    (head : problem.AtHead observer x origin remaining state session) :
    remaining + state.iterations = problem.config.maxIterations := by
  induction head with
  | first started => rw [start_iterations started, Nat.add_zero]
  | next _ _ turned induction =>
      rw [turn_iterations turned]
      omega

end Problem

end CurveFitting

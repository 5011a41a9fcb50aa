import CurveFitting.Proofs.Run.Episodes
import CurveFitting.Proofs.Run.Estimates
import CurveFitting.Proofs.Run.Points

/-! # What a state says about its point

An objective without a memory of its own is a function of the point. The cost and the
gradient of a state are those of this function at the point of the state, and the
point is the one of the last step that was told.
-/

namespace CurveFitting

variable {α σ ω ε : Type}

/-- The objective answers by a function of the point alone. -/
def Objective.Computes (objective : Objective α σ ε) (function : List α → Except ε α) : Prop :=
  ∀ point memory, (objective.evaluate point memory).1 = function point

theorem Objective.Computes.eq {objective : Objective α σ ε} {function : List α → Except ε α}
    (computes : objective.Computes function) {point : List α} {memory after : σ}
    {answer : Except ε α} (evaluates : objective.evaluate point memory = (answer, after)) :
    function point = answer := by
  rw [← computes point memory, evaluates]

variable [Scalar α] {n : Nat}

/-! ## Central differences -/

namespace Differences

def IsGradient (differences : Differences α n) (function : List α → Except ε α)
    (x gradient : Vector α n) : Prop :=
  ∀ i, ∃ above below,
    function (shift x i (differences.perturbation i (x.get i))).toList = .ok above ∧
    function (shift x i (-differences.perturbation i (x.get i))).toList = .ok below ∧
    gradient.get i = (above - below) / Scalar.double (differences.perturbation i (x.get i))

def MeetsNonFinite (differences : Differences α n) (function : List α → Except ε α)
    (x : Vector α n) : Prop :=
  ∃ i distance value,
    (distance = differences.perturbation i (x.get i) ∨
      distance = -differences.perturbation i (x.get i)) ∧
    function (shift x i distance).toList = .ok value ∧ Scalar.isFinite value = false

variable {differences : Differences α n} {objective : Objective α σ ε}
  {function : List α → Except ε α} (computes : objective.Computes function) {x : Vector α n}
  {cost : α} {memory after : σ}

include computes

private theorem isGradient {estimate : GradientEstimate α n}
    (found : differences.gradient objective x cost memory = (.ok estimate, after)) :
    differences.IsGradient function x estimate.gradient := by
  intro i
  rcases gradient_spans found i with ⟨above, below, spans⟩
  rcases spans.above_answered with ⟨_, _, aboveAnswered⟩
  rcases spans.below_answered with ⟨_, _, belowAnswered⟩
  exact ⟨above, below, computes.eq aboveAnswered, computes.eq belowAnswered, spans.slope_eq⟩

private theorem meetsNonFinite {index : Nat} {value : α}
    (found : differences.gradient objective x cost memory =
      (.error (.nonFinite index value), after)) :
    differences.MeetsNonFinite function x := by
  rcases gradient_eq_error found with ⟨probe, member, _, _, answer, evaluates, faulty⟩
  rcases Probe.fault?_eq_nonFinite faulty with ⟨rfl, missing⟩
  rcases Probe.mem_ofGradient.mp member with ⟨i, up, rfl⟩
  refine ⟨i, _, value, ?_, computes.eq evaluates, missing⟩
  rw [Probe.offset, get_perturbations]
  cases up
  · exact .inr rfl
  · exact .inl rfl

end Differences

namespace Problem

variable {problem : Problem α σ ε n} {function : List α → Except ε α} {state next : State α n}
  {calls : Nat} {x : Vector α n} {cost : α} {memory after : σ}

/-! ## States -/

/-- The cost and the gradient of a state are those at its point. -/
structure Consistent (problem : Problem α σ ε n) (function : List α → Except ε α)
    (state : State α n) : Prop where
  cost : function state.x.toList = .ok state.cost
  gradient : problem.differences.IsGradient function state.x state.gradient

private theorem Consistent.of_samePoint (consistent : problem.Consistent function state)
    (same : state.SamePoint next) : problem.Consistent function next := by
  refine ⟨?_, ?_⟩
  · rw [same.x, same.cost]
    exact consistent.cost
  · rw [same.x, same.gradient]
    exact consistent.gradient

/-- A fit fails at its start because the cost there, or one that the gradient takes, is not
finite. -/
structure FailsAtStart (problem : Problem α σ ε n) (function : List α → Except ε α)
    (ending : Ending α n) : Prop where
  status : ending.status = .numericalFailure
  iterations : ending.state.iterations = 0
  edm : ending.state.edm = Scalar.infinity
  reason : Scalar.isFinite ending.state.cost = false ∨
    problem.differences.MeetsNonFinite function ending.state.x

section

variable (computes : problem.objective.Computes function)

include computes

private theorem gradient?_isGradient {estimate : GradientEstimate α n}
    (found : problem.gradient? calls x cost memory = (.ok (some estimate), after)) :
    problem.differences.IsGradient function x estimate.gradient :=
  (Differences.isGradient computes (Differences.finiteOnly_eq_some found) :)

private theorem gradient?_meetsNonFinite
    (missing : problem.gradient? calls x cost memory = (.ok none, after)) :
    problem.differences.MeetsNonFinite function x := by
  rcases Differences.finiteOnly_eq_none missing with ⟨_, _, met⟩
  exact (Differences.meetsNonFinite computes met :)

private theorem start_consistent
    (started : problem.start x memory = (.ok (.ready state), after)) :
    problem.Consistent function state := by
  have starts := problem.starts_start memory x
  rw [started] at starts
  cases starts with
  | ready value _ gradient => exact ⟨computes.eq value, gradient?_isGradient computes gradient⟩

private theorem start_fails (started : problem.start x memory = (.ok (.failed state), after)) :
    function state.x.toList = .ok state.cost ∧
      problem.FailsAtStart function ⟨.numericalFailure, state⟩ := by
  have starts := problem.starts_start memory x
  rw [started] at starts
  cases starts with
  | nonFinite value infinite => exact ⟨computes.eq value, rfl, rfl, rfl, .inl infinite⟩
  | failed value _ gradient =>
      exact ⟨computes.eq value, rfl, rfl, rfl, .inr (gradient?_meetsNonFinite computes gradient)⟩

private theorem iterate_consistent {multiplier : α} {updated : Bool}
    (stepped : problem.iterate state memory = (.ok (.advanced next multiplier updated), after)) :
    problem.Consistent function next := by
  rcases iterate_eq_advanced stepped with
    ⟨trial, searched, middle, estimate, descent, gradient, rfl⟩
  rcases descend_accepted descent with ⟨_, before, later, evaluated⟩
  exact ⟨computes.eq evaluated, gradient?_isGradient computes gradient⟩

variable {observer : Observer α ω} {session final origin : Session α σ ω}

private theorem turn_consistent {check : Check α n} (consistent : problem.Consistent function state)
    (turned : problem.turn observer state session = (.ok check, final)) :
    problem.Consistent function check.state := by
  rcases turn_samePoint turned with same | ⟨moved, _, _, _, stepped, same⟩
  · exact consistent.of_samePoint same
  · exact (iterate_consistent computes stepped).of_samePoint same

theorem AtHead.consistent {remaining : Nat}
    (head : problem.AtHead observer x origin remaining state session) :
    problem.Consistent function state := by
  induction head with
  | first started => exact start_consistent computes started
  | next _ _ turned induction => exact (turn_consistent computes induction turned :)

/-- A fit ends with the cost and the gradient at its last point, unless it has failed at its
start. -/
theorem run_consistent {ending : Ending α n}
    (ran : problem.run observer x origin = (.ok ending, final)) :
    function ending.state.x.toList = .ok ending.state.cost ∧
      (problem.differences.IsGradient function ending.state.x ending.state.gradient ∨
        problem.FailsAtStart function ending) := by
  have ends := problem.ends_run observer x origin
  rw [ran] at ends
  cases ends with
  | failedStart started =>
      rcases start_fails computes started with ⟨cost, fails⟩
      exact ⟨cost, .inr fails⟩
  | limit head =>
      have consistent := AtHead.consistent computes head
      exact ⟨consistent.cost, .inl consistent.gradient⟩
  | ended head _ turned =>
      have consistent := turn_consistent computes (AtHead.consistent computes head) turned
      exact ⟨consistent.cost, .inl consistent.gradient⟩

end

end Problem

/-! ## The last point told -/

def Event.point? : Event α → Option (List α × α)
  | .iterated _ _ x cost .. => some (x, cost)
  | .refined .. => none

def State.Latest (x : Vector α n) (state : State α n) (events : Array (Event α)) : Prop :=
  (events.toList.filterMap Event.point?).getLast?.getD (x.toList, state.cost) =
    (state.x.toList, state.cost)

namespace State.Latest

omit [Scalar α]

variable {x : Vector α n} {state next : State α n} {events : Array (Event α)}

private theorem of_samePoint (latest : state.Latest x events) (same : state.SamePoint next) :
    next.Latest x events := by
  rw [Latest, same.x, same.cost]
  exact latest

private theorem refined (latest : state.Latest x events) (checked : State α n) (edmBefore : α)
    (positiveDefinite : Bool) :
    state.Latest x (events.push (checked.refinedEvent edmBefore positiveDefinite)) := by
  rw [Latest, Array.toList_push, List.filterMap_append, List.filterMap_cons_none rfl,
    List.filterMap_nil, List.append_nil]
  exact latest

private theorem iterated (x : Vector α n) (state : State α n) (events : Array (Event α))
    (multiplier : α) (updated : Bool) :
    state.Latest x (events.push (state.iteratedEvent multiplier updated)) := by
  have told : (state.iteratedEvent multiplier updated).point? =
      some (state.x.toList, state.cost) := rfl
  rw [Latest, Array.toList_push, List.filterMap_append, List.filterMap_cons_some told,
    List.filterMap_nil, List.getLast?_concat]
  rfl

end State.Latest

namespace Problem

variable {problem : Problem α σ ε n} {observer : Observer α ω} {x : Vector α n}
  {state : State α n} {session final origin : Session α σ ω} {check : Check α n}
  {answer : Except (FitError α ε) (Check α n)}

private theorem Checks.latest (checks : problem.Checks observer state session answer final)
    (latest : state.Latest x session.events) (left : answer = .ok check) :
    check.state.Latest x final.events := by
  cases checks with
  | noRoom =>
      cases left
      exact latest
  | refused => cases left
  | failed _ refinement =>
      cases left
      exact latest.of_samePoint (refine_samePoint refinement)
  | @stopped next positiveDefinite _ _ _ _ refinement telling =>
      cases left
      subst telling
      exact (latest.of_samePoint (refine_samePoint refinement)).refined next state.edm
        positiveDefinite
  | @passed next positiveDefinite _ _ _ _ refinement telling =>
      cases left
      subst telling
      exact (latest.of_samePoint (refine_samePoint refinement)).refined next state.edm
        positiveDefinite

theorem state_settleCheck (check : Check α n) :
    (problem.settleCheck check).state = check.state := by
  cases check <;> rfl

private theorem Episode.latest (latest : state.Latest x session.events)
    (episode : problem.Episode observer state session answer final) (left : answer = .ok check) :
    check.state.Latest x final.events := by
  cases episode with
  | refused => cases left
  | quiet stepped ends =>
      cases left
      exact latest.of_samePoint (ends.stands stepped).toSamePoint
  | @settled searched memory given last notes step _ _ checks =>
      cases given with
      | error => cases left
      | ok settled =>
          cases left
          rw [state_settleCheck]
          have stands : state.Stands searched := iterate_standsAt step
          exact (checks.latest (latest.of_samePoint stands.toSamePoint) rfl :)
  | stopped _ telling =>
      cases left
      subst telling
      exact .iterated ..
  | @unchecked next multiplier updated _ _ _ _ telling =>
      cases left
      subst telling
      rw [state_convergeIfClose]
      exact .iterated x next session.events multiplier updated
  | @checked next multiplier updated _ _ _ given last _ telling _ checks =>
      cases given with
      | error => cases left
      | ok passed =>
          cases left
          subst telling
          rw [state_convergeIfClose]
          exact checks.latest (.iterated x next session.events multiplier updated) rfl

private theorem turn_latest (latest : state.Latest x session.events)
    (turned : problem.turn observer state session = (.ok check, final)) :
    check.state.Latest x final.events := by
  have episode := problem.episode_turn observer state session
  rw [turned] at episode
  exact episode.latest latest rfl

private theorem start_latest {memory after : σ} {start : Start α n} {ready : State α n}
    (started : problem.start x memory = (.ok start, after))
    (left : start = .ready ready ∨ start = .failed ready) (untold : origin.events = #[]) :
    ready.Latest x origin.events := by
  have same : ready.x = x := by
    have starts := problem.starts_start memory x
    rw [started] at starts
    rcases left with rfl | rfl
    · cases starts
      rfl
    · cases starts <;> rfl
  rw [State.Latest, untold, same]
  rfl

theorem AtHead.latest {remaining : Nat} (untold : origin.events = #[])
    (head : problem.AtHead observer x origin remaining state session) :
    state.Latest x session.events := by
  induction head with
  | first started => exact start_latest started (.inl rfl) untold
  | next _ _ turned induction => exact (turn_latest induction turned :)

theorem run_latest {ending : Ending α n} (untold : origin.events = #[])
    (ran : problem.run observer x origin = (.ok ending, final)) :
    ending.state.Latest x final.events := by
  have ends := problem.ends_run observer x origin
  rw [ran] at ends
  cases ends with
  | failedStart started => exact start_latest started (.inr rfl) untold
  | limit head => exact (head.latest untold :)
  | ended head _ turned => exact turn_latest (head.latest untold) turned

end Problem

end CurveFitting

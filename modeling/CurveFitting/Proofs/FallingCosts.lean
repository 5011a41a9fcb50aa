import CurveFitting.Proofs.Exact.Signs
import CurveFitting.Proofs.LeastSquaresErrors
import CurveFitting.Proofs.LeastSquaresStep
import CurveFitting.Proofs.Run.Consistency

/-! # Falling costs

The seed is diagonal with squares on it, so its direction never points uphill. A line search
only starts along a direction that does not rise, and only accepts what lies below its
line. So no step raises the cost, however bad the approximation has become.
-/

namespace CurveFitting

variable {α σ ω ε : Type} [Scalar α] {n : Nat}

open Scalar.RespectsSigns

/-! ## The direction of the seed -/

namespace RowMatrix

private theorem get_mulVector {rows columns : Nat} (matrix : RowMatrix α rows columns)
    (vector : Vector α columns) (i : Fin rows) :
    (matrix.mulVector vector).get i =
      Summation.inTurn (Vector.zipWith (· * ·) (matrix.get i) vector).toList :=
  Vector.getElem_map ..

end RowMatrix

private theorem InverseHessian.get_seed (steps : Vector α n) (i j : Fin n) :
    ((seed steps).get i).get j = if i = j then steps.get i * steps.get i else 0 := by
  refine (RowMatrix.get_ofEntries ..).trans ?_
  split
  · exact Vector.getElem_map ..
  · rfl

variable [Scalar.RespectsSigns α]

namespace InverseHessian

variable (steps gradient : Vector α n)

omit [Scalar.RespectsSigns α] in
private theorem image_induction (holds : α → Prop)
    (add : ∀ left right, holds left → holds right → holds (left + right)) (zero : holds 0)
    (i : Fin n) (square : holds (steps.get i * steps.get i * gradient.get i))
    (nothing : ∀ value, holds (0 * value)) :
    holds (((seed steps).mulVector gradient).get i) := by
  rw [RowMatrix.get_mulVector]
  apply Summation.inTurn_induction add zero
  intro term member
  rcases mem_products_iff.mp member with ⟨j, rfl⟩
  rw [get_seed]
  split
  · rename_i same
    exact same ▸ square
  · exact nothing _

private theorem image_not_pos (i : Fin n) (nonpositive : ¬0 < gradient.get i) :
    ¬0 < ((seed steps).mulVector gradient).get i := by
  apply image_induction steps gradient (fun value => ¬0 < value)
    (fun _ _ => add_not_pos) (lt_irrefl 0) i
  · exact mul_not_pos (square_not_neg _) nonpositive
  · intro value
    rcases not_neg_or_not_pos value with nonnegative | nonpositive
    · exact mul_not_pos_of_not_pos (lt_irrefl 0) nonnegative
    · exact mul_not_pos (lt_irrefl 0) nonpositive

private theorem image_not_neg (i : Fin n) (nonnegative : ¬gradient.get i < 0) :
    ¬((seed steps).mulVector gradient).get i < 0 := by
  apply image_induction steps gradient (fun value => ¬value < 0)
    (fun _ _ => add_not_neg) (lt_irrefl 0) i
  · exact mul_not_neg (square_not_neg _) nonnegative
  · intro value
    rcases not_neg_or_not_pos value with nonnegative | nonpositive
    · exact mul_not_neg (lt_irrefl 0) nonnegative
    · exact mul_not_neg_of_not_pos (lt_irrefl 0) nonpositive

private theorem slope_seed_not_pos : ¬0 < dot gradient (-((seed steps).mulVector gradient)) := by
  have add (left right : α) : ¬0 < left → ¬0 < right → ¬0 < left + right := add_not_pos
  apply Summation.interleaved_induction add (lt_irrefl 0)
  intro term member
  rcases mem_products_iff.mp member with ⟨i, rfl⟩
  have negative : (-((seed steps).mulVector gradient)).get i =
      -((seed steps).mulVector gradient).get i := Vector.getElem_neg ..
  rw [negative]
  rcases not_neg_or_not_pos (gradient.get i) with nonnegative | nonpositive
  · exact mul_not_pos nonnegative (neg_not_pos (image_not_neg steps gradient i nonnegative))
  · exact mul_not_pos_of_not_pos nonpositive
      (neg_not_neg (image_not_pos steps gradient i nonpositive))

end InverseHessian

theorem Problem.slope_reset_not_pos (problem : Problem α σ ε n) (state : State α n) :
    ¬0 < (problem.reset state).ray.slope :=
  InverseHessian.slope_seed_not_pos problem.steps state.gradient

/-! ## Accepted steps -/

private theorem LineSearch.step_not_neg {floor : α} {count : Nat} {first step : α}
    (nonnegative : ¬first < 0) (member : step ∈ halvingsFrom floor count first) : ¬step < 0 := by
  induction count generalizing first with
  | zero => cases member
  | succ count induction =>
      rw [halvingsFrom] at member
      split at member
      · rcases List.mem_cons.mp member with rfl | later
        · exact nonnegative
        · exact induction (mul_not_neg nonnegative (lt_asymm half_pos)) later
      · cases member

private theorem Ray.le_of_accepts {ray : Ray α n} {armijo step value : α} (falling : ¬0 < ray.slope)
    (positive : 0 < armijo) (nonnegative : ¬step < 0)
    (accepts : ray.accepts armijo step value = true) : value ≤ ray.cost := by
  have below : value ≤ ray.cost + armijo * step * ray.slope :=
    of_decide_eq_true (Bool.and_eq_true_iff.mp accepts).2
  have share : ¬armijo * step < 0 := mul_not_neg (lt_asymm positive) nonnegative
  exact le_of_le_add (mul_not_pos share falling) below

namespace Problem

variable {problem : Problem α σ ε n} {state searched next : State α n} {trial : Trial α n}
  {memory after : σ} (positive : 0 < problem.config.armijo)

include positive

private theorem lineSearch_le (falling : ¬0 < state.ray.slope)
    (search : problem.lineSearch state memory = (.ok (.accepted trial searched), after)) :
    trial.cost ≤ state.cost := by
  rcases lineSearch_eq_ok search with ⟨outcome, answered, equal, _⟩
  cases outcome with
  | accepted found =>
      cases equal
      rcases (problem.tries_found state memory).of_accepted answered with ⟨member, _, accepts, _⟩
      have nonnegative := LineSearch.step_not_neg (lt_asymm one_pos) member
      exact Ray.le_of_accepts falling positive nonnegative accepts
  | stalled => cases equal
  | outOfCalls => cases equal

/-- Every line search of a descent follows a direction that does not rise: its own, where
that has been tested, or the one of the seed. -/
theorem descend_le
    (search : problem.descend state memory = (.ok (.accepted trial searched), after)) :
    trial.cost ≤ state.cost := by
  have descends := problem.descends_descend state memory
  rw [search] at descends
  cases descends with
  | uphill _ second => exact (lineSearch_le positive (problem.slope_reset_not_pos state) second :)
  | direct falling first => exact lineSearch_le positive falling first
  | @retried stalled _ _ _ _ first _ second =>
      have stands : state.Stands stalled := lineSearch_stands first
      rw [← stands.cost]
      exact (lineSearch_le positive (problem.slope_reset_not_pos stalled) second :)

private theorem iterate_cost_le {multiplier : α} {updated : Bool}
    (stepped : problem.iterate state memory = (.ok (.advanced next multiplier updated), after)) :
    next.cost ≤ state.cost := by
  rcases iterate_eq_advanced stepped with ⟨trial, searched, middle, estimate, descent, _, rfl⟩
  exact descend_le positive descent

end Problem

/-! ## Costs that are told -/

omit [Scalar.RespectsSigns α] in
/-- The events of a fit that starts at the cost `first` and whose cost is `last` by now. No
event tells of a higher cost than the one before. -/
inductive Event.Falls (first : α) : (last : α) → List (Event α) → Prop
  | start : Falls first first []
  | quiet {last events event} (before : Falls first last events) (silent : event.cost? = none) :
      Falls first last (events ++ [event])
  | step {last events event cost} (before : Falls first last events)
      (told : event.cost? = some cost) (lower : cost ≤ last) : Falls first cost (events ++ [event])

namespace Event.Falls

variable {first last : α} {events : List (Event α)}

private theorem costs (falls : Falls first last events) :
    (first :: events.filterMap Event.cost?).Pairwise (fun earlier later => later ≤ earlier) ∧
      (first :: events.filterMap Event.cost?).getLast? = some last ∧
      ∀ cost ∈ first :: events.filterMap Event.cost?, cost = last ∨ last ≤ cost := by
  induction falls with
  | start => simp
  | quiet _ silent induction =>
      rwa [List.filterMap_append, List.filterMap_cons_none silent, List.filterMap_nil,
        List.append_nil]
  | @step last events event cost _ told lower induction =>
      rcases induction with ⟨falling, _, above⟩
      have below : ∀ earlier ∈ first :: events.filterMap Event.cost?, cost ≤ earlier := by
        intro earlier member
        rcases above earlier member with rfl | higher
        · exact lower
        · exact le_trans lower higher
      rw [List.filterMap_append, List.filterMap_cons_some told, List.filterMap_nil,
        ← List.cons_append]
      refine ⟨List.pairwise_append.mpr ⟨falling, List.pairwise_singleton _ _, ?_⟩,
        List.getLast?_concat .., ?_⟩
      · intro earlier member later single
        rcases List.mem_singleton.mp single with rfl
        exact below earlier member
      · intro earlier member
        rcases List.mem_append.mp member with before | single
        · exact .inr (below earlier before)
        · exact .inl (List.mem_singleton.mp single)

end Event.Falls

namespace Problem

variable {problem : Problem α σ ε n} {observer : Observer α ω} {x : Vector α n} {first : α}
  {state next : State α n} {session final origin : Session α σ ω}
  {answer : Except (FitError α ε) (Check α n)} {told : Array (Event α)}

omit [Scalar.RespectsSigns α]

inductive LeavesFalling (first : α) (told : Array (Event α)) :
    Except (FitError α ε) (State α n) → Prop
  | state {state last} (falls : Event.Falls first last told.toList) (same : state.cost = last) :
      LeavesFalling first told (.ok state)
  | error {cause last} (falls : Event.Falls first last told.toList) :
      LeavesFalling first told (.error cause)

private theorem LeavesFalling.map {change : Check α n → Check α n}
    (keeps : ∀ check, (change check).state = check.state)
    (leaves : LeavesFalling first told (answer.map Check.state)) :
    LeavesFalling first told ((answer.map change).map Check.state) := by
  cases answer with
  | error => exact leaves
  | ok check =>
      change LeavesFalling first told (.ok (change check).state)
      rw [keeps]
      exact leaves

private theorem Checks.falls (checks : problem.Checks observer state session answer final)
    (falls : Event.Falls first state.cost session.events.toList) :
    LeavesFalling first final.events (answer.map Check.state) := by
  cases checks with
  | noRoom => exact .state falls rfl
  | refused => exact .error falls
  | failed _ refinement => exact .state falls (refine_samePoint refinement).cost
  | stopped _ refinement telling =>
      subst telling
      refine .state ?_ (refine_samePoint refinement).cost
      rw [Session.shown, Array.toList_push]
      exact .quiet falls rfl
  | passed _ refinement telling =>
      subst telling
      refine .state ?_ (refine_samePoint refinement).cost
      rw [Session.shown, Array.toList_push]
      exact .quiet falls rfl

variable [Scalar.RespectsSigns α] (positive : 0 < problem.config.armijo)

include positive

private theorem Episode.falls (episode : problem.Episode observer state session answer final)
    (falls : Event.Falls first state.cost session.events.toList) :
    LeavesFalling first final.events (answer.map Check.state) := by
  have stepped {next : State α n} {multiplier : α} {updated : Bool} {memory : σ}
      (step : problem.iterate state session.objectiveMemory =
        (.ok (.advanced next multiplier updated), memory)) :
      Event.Falls first next.cost
        (session.events.push (next.iteratedEvent multiplier updated)).toList := by
    rw [Array.toList_push]
    exact .step falls rfl (iterate_cost_le positive step)
  cases episode with
  | refused => exact .error falls
  | quiet stepped ends => exact .state falls (ends.stands stepped).cost
  | settled step _ _ checks =>
      have stands := iterate_standsAt step
      apply LeavesFalling.map problem.state_settleCheck
      apply checks.falls
      rwa [stands.cost]
  | stopped step telling =>
      subst telling
      exact .state (stepped step) rfl
  | unchecked step telling =>
      subst telling
      exact .state (stepped step) (congrArg State.cost (problem.state_convergeIfClose _))
  | checked step telling _ checks =>
      subst telling
      exact .map problem.state_convergeIfClose (checks.falls (stepped step))

private theorem turn_falls (turned : problem.turn observer state session = (answer, final))
    (falls : Event.Falls first state.cost session.events.toList) :
    LeavesFalling first final.events (answer.map Check.state) := by
  have episode := problem.episode_turn observer state session
  rw [turned] at episode
  exact episode.falls positive falls

variable {memory : σ} (fresh : origin.events = #[])
  (begins : problem.objective.evaluate x.toList origin.objectiveMemory = (.ok first, memory))

include fresh begins

theorem AtHead.falls {remaining : Nat}
    (head : problem.AtHead observer x origin remaining state session) :
    Event.Falls first state.cost session.events.toList := by
  induction head with
  | first started =>
      have starts := problem.starts_start origin.objectiveMemory x
      rw [started] at starts
      cases starts with
      | ready value =>
          cases begins.symm.trans value
          rw [fresh]
          exact .start
  | next _ _ turned induction =>
      cases turn_falls positive turned induction with
      | state falls same => exact same ▸ falls

theorem run_falls {answer : Except (FitError α ε) (Ending α n)}
    (ran : problem.run observer x origin = (answer, final)) :
    LeavesFalling first final.events (answer.map (·.state)) := by
  have ends := problem.ends_run observer x origin
  rw [ran] at ends
  have empty : Event.Falls first first origin.events.toList := fresh ▸ .start
  cases ends with
  | refusedStart => exact .error empty
  | failedStart started =>
      have starts := problem.starts_start origin.objectiveMemory x
      rw [started] at starts
      cases starts with
      | nonFinite value =>
          cases begins.symm.trans value
          exact .state empty rfl
      | failed value =>
          cases begins.symm.trans value
          exact .state empty rfl
  | limit head => exact .state (head.falls positive fresh begins :) rfl
  | refused head _ turned => exact turn_falls positive turned (head.falls positive fresh begins)
  | ended head _ turned => exact turn_falls positive turned (head.falls positive fresh begins)

end Problem

private theorem Minimizes.falls {objective : Objective α σ ε} {parameters : ParameterSet α}
    {config : Config α} {observer : Observer α ω} {origin final : Session α σ ω} {memory : σ}
    {first : α} {answer : Except (FitError α ε) (Minimum α parameters.size)}
    (positive : 0 < config.armijo) (fresh : origin.events = #[])
    (begins : objective.evaluate parameters.values.toList origin.objectiveMemory =
      (.ok first, memory))
    (minimizes : Minimizes objective parameters config observer origin answer final) :
    ∃ last, Event.Falls first last final.events.toList ∧
      ∀ minimum, answer = .ok minimum → minimum.cost = last := by
  cases minimizes with
  | invalid => exact ⟨first, fresh ▸ .start, nofun⟩
  | refused prepared ran =>
      rcases Problem.prepare_eq_ok_iff.mp prepared with ⟨_, _, _, rfl⟩
      cases Problem.run_falls positive fresh begins ran with
      | error falls => exact ⟨_, falls, nofun⟩
  | ended prepared ran =>
      rcases Problem.prepare_eq_ok_iff.mp prepared with ⟨_, _, _, rfl⟩
      cases Problem.run_falls positive fresh begins ran with
      | state falls same =>
          refine ⟨_, falls, ?_⟩
          intro minimum answered
          cases answered
          exact same

/-- The cost of a fit never goes up. The starting cost and the costs told of the steps after
it, in order, never rise, and the last of them is that of the result. Nothing is asked
of the objective, of the observer, or of the approximation. -/
theorem costs_never_rise {objective : Objective α σ ε} {parameters : ParameterSet α}
    (config : Config α) (observer : Observer α ω)
    {objectiveMemory memory : σ} (observerMemory : ω) {first : α}
    (begins : objective.evaluate parameters.values.toList objectiveMemory =
      (.ok first, memory)) :
    let outcome := minimize objective parameters config observer
      (Session.start objectiveMemory observerMemory)
    let costs := first :: outcome.2.events.toList.filterMap Event.cost?
    costs.Pairwise (fun earlier later => later ≤ earlier) ∧
      ∀ minimum, outcome.1 = .ok minimum → costs.getLast? = some minimum.cost := by
  intro outcome costs
  have minimizes := minimizes_minimize objective parameters config observer
    (Session.start objectiveMemory observerMemory)
  rcases minimizes.falls config.armijo_positive rfl begins with ⟨last, falls, left⟩
  rcases falls.costs with ⟨falling, ends, _⟩
  refine ⟨falling, ?_⟩
  intro minimum answered
  rw [left minimum answered]
  exact ends

open Exact in
/-- The fit to one point starts with a cost of one, and checks its approximation on the way. -/
theorem costs_of_one_point_never_rise :
    let outcome := minimize (polynomialFit 0 [(0, 1)] 1).objective singleParameter
      OnePoint.strictConfig OnePoint.insistent (Session.start () ())
    let costs := real 1 :: outcome.2.events.toList.filterMap Event.cost?
    ∃ minimum, outcome.1 = .ok minimum ∧
      costs.Pairwise (fun earlier later => later ≤ earlier) ∧
      costs.getLast? = some minimum.cost := by
  intro outcome costs
  have valid : (polynomialFit 0 [(0, 1)] 1).validate 1 = .ok () := rfl
  have begins : (polynomialFit 0 [(0, 1)] 1).objective.evaluate
      singleParameter.values.toList () = (.ok (real 1), ()) := by
    have evaluated := total_objective valid (fun _ => 0) ()
    rw [OnePoint.squares_eq, zero_sub, neg_one_sq] at evaluated
    exact evaluated
  rcases costs_never_rise OnePoint.strictConfig OnePoint.insistent () begins with
    ⟨falling, ends⟩
  have keeps : (polynomialFit 0 [(0, 1)] 1).objective.Keeps 1 (fun _ => True) (fun _ => False) :=
    LeastSquares.objective_keeps valid
  rcases keeps.answers OnePoint.strictPrepared OnePoint.insistent trivial with ⟨minimum, answered⟩
  exact ⟨minimum, answered, falling, ends minimum answered⟩

end CurveFitting

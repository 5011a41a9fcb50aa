import CurveFitting.Proofs.Run.ComparedFits

/-! # Invariants of the memory

A fit evaluates its objective only at vectors of as many entries as there are parameters.
So an objective that keeps to an invariant of its memory there, and has only certain
errors, makes every computation of a fit keep to the invariant and have only these errors.
-/

namespace CurveFitting

variable {α σ ω ε : Type} {n : Nat}

namespace Computation

variable {memory error value result : Type}

/-- A computation keeps to an invariant of its memory, and only certain errors end it. -/
abbrev Keeps (holds : memory → Prop) (allowed : error → Prop)
    (computation : ExceptT error (StateM memory) value) : Prop :=
  Ensures holds allowed (fun _ => True) computation

end Computation

open CurveFitting.Computation

def Objective.Keeps (objective : Objective α σ ε) (n : Nat) (holds : σ → Prop)
    (allowed : ε → Prop) : Prop :=
  ∀ point : Vector α n, Computation.Keeps holds allowed (objective.evaluate point.toList)

/-- A difference may meet any value. The errors that it passes on are certain ones. -/
def DifferenceError.Allowed (allowed : ε → Prop) : DifferenceError α ε → Prop
  | .objective cause => allowed cause
  | .nonFinite .. => True

def FitError.Allowed (allowed : ε → Prop) : FitError α ε → Prop
  | .objective cause => allowed cause
  | _ => False

variable {holds : σ → Prop} {allowed : ε → Prop}

/-! ## Derivatives -/

private theorem Computation.Ensures.adapt {value : Type} {evaluation : Evaluation σ ε value}
    (keeps : Computation.Keeps holds allowed evaluation) :
    Computation.Keeps holds (DifferenceError.Allowed (α := α) allowed)
      (evaluation.adapt .objective) where
  memory begun := keeps.memory begun
  answers _ _ := trivial
  errors begun fails := by
    rcases adapt_eq_error fails with ⟨cause, rfl, failed⟩
    exact keeps.errors begun failed

private theorem Computation.Ensures.finiteOnly {value : Type}
    {estimate : Evaluation σ (DifferenceError α ε) value}
    (keeps : Computation.Keeps holds (DifferenceError.Allowed allowed) estimate) :
    Computation.Keeps holds allowed (Differences.finiteOnly estimate) where
  memory {start} begun := by
    rw [Differences.finiteOnly_apply]
    exact keeps.memory begun
  answers _ _ := trivial
  errors {start cause final} begun fails := by
    rw [Differences.finiteOnly_apply] at fails
    rcases ended : estimate start with ⟨(inner | ⟨index, value⟩) | found, after⟩
    · rw [ended] at fails
      cases fails
      exact keeps.errors begun ended
    · rw [ended] at fails
      cases fails
    · rw [ended] at fails
      cases fails

variable [Scalar α]

namespace Objective.Keeps

open Differences

variable {objective : Objective α σ ε} (keeps : objective.Keeps n holds allowed)

include keeps

private theorem sample (i : Fin n) (point : Vector α n) :
    Computation.Keeps holds (DifferenceError.Allowed allowed) (sample objective i point) := by
  apply Computation.Ensures.bind (keeps point).adapt
  intro value _
  exact .ite (.pure trivial) (.throw trivial)

private theorem gradient (differences : Differences α n) (x : Vector α n) (cost : α) :
    Computation.Keeps holds (DifferenceError.Allowed allowed)
      (differences.gradient objective x cost) :=
  (gradient_ensures differences x cost fun probe _ => keeps.sample probe.index _).mono
    fun _ _ => trivial

private theorem hessian (differences : Differences α n) (x : Vector α n) (cost : α) :
    Computation.Keeps holds (DifferenceError.Allowed allowed)
      (differences.hessian objective x cost) :=
  (hessian_ensures differences x cost fun probe _ => keeps.sample probe.index _).mono
    fun _ _ => trivial

end Objective.Keeps

/-! ## Moves -/

namespace Objective.Keeps

variable {problem : Problem α σ ε n} (keeps : problem.objective.Keeps n holds allowed)

include keeps

private theorem trying (ray : Ray α n) (armijo : α) (callLimit : Nat) (steps : List α)
    (calls : Nat) :
    Computation.Keeps holds allowed
      (LineSearch.trying problem.objective ray armijo callLimit steps calls) := by
  induction steps generalizing calls with
  | nil => exact .pure trivial
  | cons step steps induction =>
      by_cases full : callLimit ≤ calls
      · rw [LineSearch.trying_of_full full]
        exact .pure trivial
      · rw [LineSearch.trying_of_room (Nat.lt_of_not_le full)]
        apply Computation.Ensures.bind (keeps _)
        intro value _
        exact .ite (.pure trivial) (induction (calls + 1))

private theorem lineSearch (state : State α n) :
    Computation.Keeps holds allowed (problem.lineSearch state) := by
  rw [Problem.lineSearch_eq_trying]
  apply Computation.Ensures.bind (keeps.trying ..)
  intro found _
  exact .pure trivial

private theorem descend (state : State α n) :
    Computation.Keeps holds allowed (problem.descend state) := by
  apply Computation.Ensures.ite (keeps.lineSearch _)
  apply Computation.Ensures.bind (keeps.lineSearch state)
  intro descent _
  cases descent with
  | accepted => exact .pure trivial
  | stalled searched => exact .ite (.pure trivial) (keeps.lineSearch _)
  | outOfCalls => exact .pure trivial

private theorem iterate (state : State α n) :
    Computation.Keeps holds allowed (problem.iterate state) := by
  apply Computation.Ensures.bind (keeps.descend state)
  intro descent _
  cases descent with
  | stalled => exact .pure trivial
  | outOfCalls => exact .pure trivial
  | accepted trial searched =>
      apply Computation.Ensures.bind (keeps.gradient (problem.differencesAfter _) _ _).finiteOnly
      intro found _
      cases found with
      | none => exact .pure trivial
      | some estimate => exact .pure trivial

private theorem refine (state : State α n) :
    Computation.Keeps holds allowed (problem.refine state) := by
  apply Computation.Ensures.bind (keeps.hessian (problem.differencesAfter _) _ _).finiteOnly
  intro found _
  cases found with
  | none => exact .pure trivial
  | some estimate =>
      dsimp only
      cases InverseHessian.ofHessian estimate.hessian with
      | none => exact .pure trivial
      | some inverse => exact .pure trivial

private theorem start (x : Vector α n) : Computation.Keeps holds allowed (problem.start x) := by
  apply Computation.Ensures.bind (keeps x)
  intro cost _
  apply Computation.Ensures.ite
  · apply Computation.Ensures.bind (keeps.gradient (problem.differencesAfter _) x cost).finiteOnly
    intro found _
    cases found <;> exact .pure trivial
  · exact .pure trivial

end Objective.Keeps

/-! ## Runs -/

abbrev Run.Keeps {value : Type} (holds : σ → Prop) (allowed : ε → Prop)
    (run : Run α σ ω ε value) : Prop :=
  Computation.Keeps (fun session => holds session.objectiveMemory) (FitError.Allowed allowed) run

namespace Computation.Ensures

omit [Scalar α]

private theorem evaluate {value : Type} {evaluation : Evaluation σ ε value}
    (keeps : Computation.Keeps holds allowed evaluation) :
    Run.Keeps holds allowed (Run.evaluate evaluation : Run α σ ω ε value) where
  memory begun := keeps.memory begun
  answers _ _ := trivial
  errors {session cause final} begun fails := by
    rcases ended : evaluation session.objectiveMemory with ⟨inner | answer, memory⟩
    · cases (Run.evaluate_of_error ended).symm.trans fails
      exact keeps.errors begun ended
    · cases (Run.evaluate_of_ok ended).symm.trans fails

private theorem note (entry : Note α) :
    Run.Keeps holds allowed (Run.note entry : Run α σ ω ε Unit) where
  memory begun := begun
  answers _ _ := trivial
  errors _ fails := by cases fails

private theorem noted {value : Type} (entry : Note α) (given : value) :
    Run.Keeps holds allowed (do Run.note entry; return given : Run α σ ω ε value) :=
  .bind (note entry) fun _ _ => .pure trivial

private theorem emit (observer : Observer α ω) (event : Event α) :
    Run.Keeps holds allowed (Run.emit observer event : Run α σ ω ε (Option Action)) where
  memory begun := begun
  answers _ _ := trivial
  errors _ fails := by cases fails

private theorem tell {value : Type} (observer : Observer α ω) (entry : Note α) (event : Event α)
    (stopped passed : value) :
    Run.Keeps holds allowed (Run.tell observer entry event stopped passed : Run α σ ω ε value) := by
  apply Computation.Ensures.bind (note entry)
  intro _ _
  apply Computation.Ensures.bind (emit observer event)
  intro answer _
  exact .ite (.pure trivial) (.pure trivial)

end Computation.Ensures

namespace Objective.Keeps

variable {problem : Problem α σ ε n} (keeps : problem.objective.Keeps n holds allowed)
  (observer : Observer α ω)

include keeps

private theorem check (state : State α n) :
    Run.Keeps holds allowed (problem.check observer state) := by
  apply Computation.Ensures.ite
  · exact .noted _ _
  · apply Computation.Ensures.bind (.evaluate (keeps.refine state))
    intro refinement _
    cases refinement with
    | failed => exact .noted _ _
    | checked next positiveDefinite =>
        apply Computation.Ensures.ite
        · apply Computation.Ensures.bind (.note _)
          intro _ _
          exact .tell observer _ _ _ _
        · exact .tell observer _ _ _ _

private theorem settle (state : State α n) :
    Run.Keeps holds allowed (problem.settle observer state) := by
  have unchecked : Run.Keeps holds allowed
      (pure (.passed state) : Run α σ ω ε (Check α n)) := .pure trivial
  refine Computation.Ensures.ite (.bind (keeps.check observer state) ?_) (.bind unchecked ?_)
  all_goals
    intro check _
    cases check with
    | ended => exact .pure trivial
    | passed next => exact .ite (.pure trivial) (.noted _ _)

private theorem afterStep (state : State α n) (multiplier : α) (updated : Bool) :
    Run.Keeps holds allowed (problem.afterStep observer state multiplier updated) := by
  apply Computation.Ensures.bind (.note _)
  intro _ _
  apply Computation.Ensures.bind (.emit observer _)
  intro answer _
  exact .ite (.pure trivial) (.ite (keeps.check observer state) (.pure trivial))

theorem search (remaining : Nat) (state : State α n) :
    Run.Keeps holds allowed (problem.search observer remaining state) := by
  induction remaining generalizing state with
  | zero => exact .noted _ _
  | succ remaining induction =>
      apply Computation.Ensures.ite
      · exact .noted _ _
      · apply Computation.Ensures.bind (.evaluate (keeps.iterate state))
        intro step _
        cases step with
        | stalled searched => exact keeps.settle observer searched
        | outOfCalls => exact .noted _ _
        | failed => exact .noted _ _
        | advanced next multiplier updated =>
            apply Computation.Ensures.bind (keeps.afterStep observer next multiplier updated)
            intro check _
            cases check with
            | ended => exact .pure trivial
            | passed passed => exact .ite (.pure trivial) (induction passed)

theorem run (x : Vector α n) : Run.Keeps holds allowed (problem.run observer x) := by
  apply Computation.Ensures.bind (.evaluate (keeps.start x))
  intro start _
  cases start with
  | failed => exact .noted _ _
  | ready state =>
      apply Computation.Ensures.bind (.note _)
      intro _ _
      exact keeps.search observer _ state

end Objective.Keeps

/-- Once a fit has passed its checks, it keeps to an invariant of its objective, and only an
error of the objective ends it. -/
theorem Objective.Keeps.minimize {objective : Objective α σ ε} {parameters : ParameterSet α}
    {config : Config α} {problem : Problem α σ ε parameters.size}
    (keeps : objective.Keeps parameters.size holds allowed)
    (prepared : Problem.prepare objective parameters config = .ok problem)
    (observer : Observer α ω) :
    Run.Keeps holds allowed (minimize objective parameters config observer) := by
  rcases Problem.prepare_eq_ok prepared with ⟨_, rfl, _⟩
  unfold CurveFitting.minimize
  rw [prepared]
  change Run.Keeps _ _ (problem.run observer parameters.values >>= _)
  apply Computation.Ensures.bind (keeps.run observer parameters.values)
  intro ending _
  exact .noted _ _

theorem Objective.Keeps.answers {objective : Objective α σ ε} {parameters : ParameterSet α}
    {config : Config α} {problem : Problem α σ ε parameters.size}
    (keeps : objective.Keeps parameters.size holds fun _ => False)
    (prepared : Problem.prepare objective parameters config = .ok problem)
    (observer : Observer α ω) {origin : Session α σ ω} (begun : holds origin.objectiveMemory) :
    ∃ minimum, (CurveFitting.minimize objective parameters config observer origin).1 =
      .ok minimum := by
  rcases answered : (CurveFitting.minimize objective parameters config observer origin).1 with
    cause | minimum
  · have allowed := (keeps.minimize prepared observer).errors begun (Prod.ext answered rfl)
    cases cause <;> exact allowed.elim
  · exact ⟨minimum, rfl⟩

def Objective.RefusesAt (objective : Objective α σ ε) (n : Nat) (refusal : ε) : Prop :=
  ∃ (point : Vector α n) (memory after : σ),
    objective.evaluate point.toList memory = (.error refusal, after)

theorem refused_of_minimize {objective : Objective α σ ε} {parameters : ParameterSet α}
    {config : Config α} {observer : Observer α ω} {origin : Session α σ ω} {cause : FitError α ε}
    (failed : (minimize objective parameters config observer origin).1 = .error cause) :
    Problem.prepare objective parameters config = .error cause ∨
      ∃ refusal, cause = .objective refusal ∧ objective.RefusesAt parameters.size refusal := by
  rcases prepared : Problem.prepare objective parameters config with early | problem
  · rw [minimize_of_prepare_error prepared] at failed
    cases failed
    exact .inl rfl
  · have keeps : objective.Keeps parameters.size (fun _ => True)
        (objective.RefusesAt parameters.size) :=
      fun point => ⟨fun _ => trivial, fun _ _ => trivial, fun _ fails => ⟨point, _, _, fails⟩⟩
    have allowed := (keeps.minimize prepared observer).errors trivial (Prod.ext failed rfl)
    cases cause with
    | objective refusal => exact .inr ⟨refusal, rfl, allowed⟩
    | noParameters => exact allowed.elim
    | errorDefinition => exact allowed.elim
    | configuration => exact allowed.elim

end CurveFitting

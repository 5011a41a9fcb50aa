import CurveFitting.Proofs.Run.Calls

/-! # The point of a fit

Only a whole step moves a fit to another point. Line searches, steps back to the seed and
checks against a full Hessian stay where they are, and so do all moves that break off.
-/

namespace CurveFitting

variable {α σ ω ε : Type} [Scalar α] {n : Nat}

namespace State

omit [Scalar α]

/-- A later state is at the same point, with the same cost and gradient. -/
structure SamePoint (before after : State α n) : Prop where
  x : after.x = before.x
  cost : after.cost = before.cost
  gradient : after.gradient = before.gradient
  iterations : after.iterations = before.iterations

structure Stands (before after : State α n) : Prop extends SamePoint before after where
  edm : after.edm = before.edm

private theorem SamePoint.refl (state : State α n) : state.SamePoint state := ⟨rfl, rfl, rfl, rfl⟩

private theorem SamePoint.trans {first second third : State α n} (earlier : first.SamePoint second)
    (later : second.SamePoint third) : first.SamePoint third where
  x := later.x.trans earlier.x
  cost := later.cost.trans earlier.cost
  gradient := later.gradient.trans earlier.gradient
  iterations := later.iterations.trans earlier.iterations

private theorem Stands.trans {first second third : State α n} (earlier : first.Stands second)
    (later : second.Stands third) : first.Stands third :=
  ⟨earlier.toSamePoint.trans later.toSamePoint, later.edm.trans earlier.edm⟩

theorem stands_calls (state : State α n) (calls : Nat) :
    state.Stands { state with calls := calls } := ⟨⟨rfl, rfl, rfl, rfl⟩, rfl⟩

end State

theorem Problem.stands_reset {σ ε : Type} (problem : Problem α σ ε n) (state : State α n) :
    state.Stands (problem.reset state) := ⟨⟨rfl, rfl, rfl, rfl⟩, rfl⟩

def Step.StandsAt (state : State α n) : Step α n → Prop
  | .advanced .. => True
  | .stalled searched => state.Stands searched
  | .outOfCalls searched => state.Stands searched
  | .failed searched => state.Stands searched

namespace Problem

variable {problem : Problem α σ ε n} {state : State α n} {memory after : σ}

theorem lineSearch_stands {descent : Descent α n}
    (search : problem.lineSearch state memory = (.ok descent, after)) :
    state.Stands descent.state := by
  rcases lineSearch_eq_ok search with ⟨outcome, _, rfl, _⟩
  rw [Descent.state_ofOutcome]
  exact state.stands_calls _

private theorem descend_stands {descent : Descent α n}
    (search : problem.descend state memory = (.ok descent, after)) :
    state.Stands descent.state := by
  rcases descend_eq_ok search with ⟨first, _, last, rfl | ⟨calls, rfl⟩⟩
  · exact lineSearch_stands last
  · exact ((state.stands_calls calls).trans (problem.stands_reset _)).trans (lineSearch_stands last)

theorem iterate_standsAt {step : Step α n}
    (stepped : problem.iterate state memory = (.ok step, after)) : step.StandsAt state := by
  have iterates := problem.iterates_iterate state memory
  rw [stepped] at iterates
  cases iterates with
  | stalled descent => exact (descend_stands descent :)
  | outOfCalls descent => exact (descend_stands descent :)
  | failed descent => exact (descend_stands descent).trans (State.stands_calls _ _)
  | advanced => trivial

theorem descend_accepted {trial : Trial α n} {searched : State α n}
    (search : problem.descend state memory = (.ok (.accepted trial searched), after)) :
    Scalar.isFinite trial.cost = true ∧ ∃ before later,
      problem.objective.evaluate trial.x.toList before = (.ok trial.cost, later) := by
  rcases descend_eq_ok search with ⟨first, middle, last, _⟩
  rcases lineSearch_eq_ok last with ⟨outcome, answered, equal, _⟩
  cases outcome with
  | accepted found =>
      cases equal
      rcases (problem.tries_found first middle).of_accepted answered with
        ⟨_, _, accepts, evaluated⟩
      exact ⟨(Bool.and_eq_true_iff.mp accepts).1, evaluated⟩
  | stalled => cases equal
  | outOfCalls => cases equal

theorem iterate_eq_advanced {next : State α n} {multiplier : α} {updated : Bool}
    (stepped : problem.iterate state memory = (.ok (.advanced next multiplier updated), after)) :
    ∃ trial searched middle estimate,
      problem.descend state memory = (.ok (.accepted trial searched), middle) ∧
      problem.gradient? searched.calls trial.x trial.cost middle = (.ok (some estimate), after) ∧
      next = (problem.moveTo searched trial estimate).1 := by
  have iterates := problem.iterates_iterate state memory
  rw [stepped] at iterates
  cases iterates with
  | advanced descent gradient => exact ⟨_, _, _, _, descent, gradient, rfl⟩

theorem iterate_iterations {next : State α n} {multiplier : α} {updated : Bool}
    (stepped : problem.iterate state memory = (.ok (.advanced next multiplier updated), after)) :
    next.iterations = state.iterations + 1 := by
  rcases iterate_eq_advanced stepped with ⟨trial, searched, middle, estimate, descent, _, rfl⟩
  exact congrArg (· + 1) (descend_stands descent).iterations

theorem iterate_cost_finite {next : State α n} {multiplier : α} {updated : Bool}
    (stepped : problem.iterate state memory = (.ok (.advanced next multiplier updated), after)) :
    Scalar.isFinite next.cost = true := by
  rcases iterate_eq_advanced stepped with ⟨trial, searched, middle, estimate, descent, _, rfl⟩
  exact (descend_accepted descent).1

theorem iterate_charges {next : State α n} {multiplier : α} {updated : Bool}
    (stepped : problem.iterate state memory = (.ok (.advanced next multiplier updated), after)) :
    state.calls + 2 * n ≤ next.calls := by
  rcases iterate_eq_advanced stepped with
    ⟨trial, searched, middle, estimate, descent, gradient, rfl⟩
  have spent : state.calls ≤ searched.calls := (descend_spends descent).le
  rw [← gradient?_calls gradient]
  exact Nat.add_le_add_right spent estimate.calls

theorem refine_samePoint {refinement : Refinement α n}
    (refined : problem.refine state memory = (.ok refinement, after)) :
    state.SamePoint refinement.state := by
  have refines := problem.refines_refine state memory
  rw [refined] at refines
  cases refines with
  | failed => exact ⟨rfl, rfl, rfl, rfl⟩
  | indefinite => exact ⟨rfl, rfl, rfl, rfl⟩
  | definite => exact ⟨rfl, rfl, rfl, rfl⟩

theorem refine_stands {next : State α n}
    (refined : problem.refine state memory = (.ok (.checked next false), after)) :
    state.Stands next := by
  have refines := problem.refines_refine state memory
  rw [refined] at refines
  cases refines with
  | indefinite => exact ⟨⟨rfl, rfl, rfl, rfl⟩, rfl⟩

theorem refine_eq_failed {failed : State α n}
    (refined : problem.refine state memory = (.ok (.failed failed), after)) :
    problem.hessian? state.calls state.x state.cost memory = (.ok none, after) ∧
      failed = state.addCalls (2 * (n * n)) := by
  have refines := problem.refines_refine state memory
  rw [refined] at refines
  cases refines with
  | failed hessian => exact ⟨hessian, rfl⟩

theorem start_iterations {x : Vector α n} {state : State α n}
    (started : problem.start x memory = (.ok (.ready state), after)) : state.iterations = 0 := by
  have starts := problem.starts_start memory x
  rw [started] at starts
  cases starts with
  | ready => rfl

theorem start_reset {x : Vector α n} {state : State α n}
    (started : problem.start x memory = (.ok (.ready state), after)) :
    problem.reset state = state := by
  have starts := problem.starts_start memory x
  rw [started] at starts
  cases starts with
  | ready => rfl

/-- Where a search from the seed finds no lower cost, its first line search finds none. -/
theorem iterate_stalled {searched : State α n} (seeded : problem.reset state = state)
    (stepped : problem.iterate state memory = (.ok (.stalled searched), after)) :
    ∃ found middle, problem.lineSearch state memory = (.ok (.stalled found), middle) := by
  have iterates := problem.iterates_iterate state memory
  rw [stepped] at iterates
  cases iterates with
  | stalled descent =>
      have descends := problem.descends_descend state memory
      rw [descent] at descends
      cases descends with
      | uphill _ search => exact ⟨_, _, seeded ▸ search⟩
      | direct _ search => exact ⟨_, _, search⟩
      | retried _ first => exact ⟨_, _, first⟩

theorem start_failed {x : Vector α n} {state : State α n}
    (started : problem.start x memory = (.ok (.failed state), after)) :
    state.iterations = 0 ∧ state.edm = Scalar.infinity := by
  have starts := problem.starts_start memory x
  rw [started] at starts
  cases starts with
  | nonFinite => exact ⟨rfl, rfl⟩
  | failed => exact ⟨rfl, rfl⟩

/-! ## Turns -/

variable {observer : Observer α ω} {session final : Session α σ ω}

theorem Checks.samePoint {check : Check α n} {answer : Except (FitError α ε) (Check α n)}
    (checks : problem.Checks observer state session answer final) (left : answer = .ok check) :
    state.SamePoint check.state := by
  cases checks with
  | noRoom =>
      cases left
      exact .refl state
  | refused => cases left
  | failed _ refinement =>
      cases left
      exact (refine_samePoint refinement :)
  | stopped _ refinement =>
      cases left
      exact (refine_samePoint refinement :)
  | passed _ refinement =>
      cases left
      exact (refine_samePoint refinement :)

private theorem check_samePoint {check : Check α n}
    (checked : problem.check observer state session = (.ok check, final)) :
    state.SamePoint check.state := by
  have checks := problem.checks_check observer state session
  rw [checked] at checks
  exact checks.samePoint rfl

private theorem afterStep_samePoint {multiplier : α} {updated : Bool} {check : Check α n}
    (followed : problem.afterStep observer state multiplier updated session =
      (.ok check, final)) : state.SamePoint check.state := by
  rcases afterStep_eq_ok followed with same | ⟨_, checked⟩
  · exact same ▸ .refl state
  · exact check_samePoint checked

theorem turn_eq_passed {next : State α n}
    (turned : problem.turn observer state session = (.ok (.passed next), final)) :
    ∃ moved multiplier updated memory, problem.iterate state session.objectiveMemory =
      (.ok (.advanced moved multiplier updated), memory) ∧ moved.SamePoint next := by
  have turns := problem.turns_turn observer state session
  rw [turned] at turns
  generalize answered : (.ok (.passed next) : Except (FitError α ε) (Check α n)) = answer at turns
  cases turns with
  | @advanced moved multiplier updated memory check _ step followed =>
      refine ⟨moved, multiplier, updated, memory, step, ?_⟩
      have same := afterStep_samePoint followed
      rwa [← state_convergeIfClose, ← Except.ok.inj answered] at same
  | _ => cases answered

/-- A turn leaves the fit at its point, or at the one to which it has stepped. -/
theorem turn_samePoint {check : Check α n}
    (turned : problem.turn observer state session = (.ok check, final)) :
    state.SamePoint check.state ∨
      ∃ moved multiplier updated memory, problem.iterate state session.objectiveMemory =
        (.ok (.advanced moved multiplier updated), memory) ∧ moved.SamePoint check.state := by
  rcases turn_eq_ok turned with ⟨step, memory, stepped, last⟩
  have same : step.state.SamePoint check.state := by
    rcases last with same | ⟨checked, middle, final, found, same⟩
    · exact same ▸ .refl step.state
    · exact same ▸ check_samePoint found
  have stands := iterate_standsAt stepped
  cases step with
  | advanced moved multiplier updated =>
      exact .inr ⟨moved, multiplier, updated, memory, stepped, same⟩
  | stalled => exact .inl (stands.toSamePoint.trans same)
  | outOfCalls => exact .inl (stands.toSamePoint.trans same)
  | failed => exact .inl (stands.toSamePoint.trans same)

/-! ## Loop heads -/

/-- Where a fit goes on, it has made no step or is not close. -/
def GoesOn (problem : Problem α σ ε n) (state : State α n) : Prop :=
  state.iterations = 0 ∨ problem.isClose state = false

variable {next : State α n} {x : Vector α n} {origin : Session α σ ω}

theorem GoesOn.of_stands (goesOn : problem.GoesOn state) (stands : state.Stands next) :
    problem.GoesOn next := by
  rw [GoesOn, stands.iterations, isClose, stands.edm]
  exact goesOn

private theorem convergeIfClose_eq_passed {check : Check α n}
    (passed : problem.convergeIfClose check = .passed next) : problem.isClose next = false := by
  cases check with
  | ended => cases passed
  | passed state =>
      rw [convergeIfClose] at passed
      split at passed
      · cases passed
      · rename_i far
        cases passed
        exact Bool.eq_false_iff.mpr far

theorem turn_far (turned : problem.turn observer state session = (.ok (.passed next), final)) :
    problem.isClose next = false := by
  have turns := problem.turns_turn observer state session
  rw [turned] at turns
  generalize answered : (.ok (.passed next) : Except (FitError α ε) (Check α n)) = answer at turns
  cases turns with
  | advanced =>
      exact convergeIfClose_eq_passed (Except.ok.inj answered).symm
  | _ => cases answered

theorem AtHead.goesOn {remaining : Nat}
    (head : problem.AtHead observer x origin remaining state session) : problem.GoesOn state := by
  cases head with
  | first started => exact .inl (start_iterations started)
  | next _ _ turned => exact .inr (turn_far turned)

end Problem

end CurveFitting

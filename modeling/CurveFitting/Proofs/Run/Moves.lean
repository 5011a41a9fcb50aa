import CurveFitting.Proofs.Run.Computation

/-! # The moves of a fit

What a line search, a step and a check against a full Hessian may come to. Each
move has one relation with a case for every way it can end, and the lemma that it
ends in one of these ways; all else is read off from the cases.
-/

namespace CurveFitting

variable {α σ ε : Type} [Scalar α] {n : Nat}

/-! ## Line search -/

namespace LineSearch

variable (objective : Objective α σ ε) (ray : Ray α n) (armijo : α) (callLimit : Nat)

/-- How trying the multipliers `steps` ends, after `calls` evaluations. -/
inductive Tries : (steps : List α) → (calls : Nat) → σ → Result α n ε → σ → Prop
  | stalled {calls memory} : Tries [] calls memory ⟨calls, .ok .stalled⟩ memory
  | outOfCalls {step steps calls memory} (full : callLimit ≤ calls) :
      Tries (step :: steps) calls memory ⟨calls, .ok .outOfCalls⟩ memory
  | refused {step steps calls memory after cause} (room : calls < callLimit)
      (fails : objective.evaluate (ray.point step).toList memory = (.error cause, after)) :
      Tries (step :: steps) calls memory ⟨calls, .error cause⟩ after
  | accepted {step steps calls memory after value} (room : calls < callLimit)
      (evaluates : objective.evaluate (ray.point step).toList memory = (.ok value, after))
      (accepts : ray.accepts armijo step value = true) :
      Tries (step :: steps) calls memory
        ⟨calls + 1, .ok (.accepted ⟨step, ray.point step, value⟩)⟩ after
  | rejected {step steps calls memory middle value found after}
      (room : calls < callLimit)
      (evaluates : objective.evaluate (ray.point step).toList memory = (.ok value, middle))
      (rejects : ray.accepts armijo step value = false)
      (rest : Tries steps (calls + 1) middle found after) :
      Tries (step :: steps) calls memory found after

variable {objective ray armijo callLimit} {step : α} {steps : List α} {calls : Nat}
  {memory after : σ}

theorem tryEach_of_error {cause : ε} (room : calls < callLimit)
    (fails : objective.evaluate (ray.point step).toList memory = (.error cause, after)) :
    tryEach objective ray armijo callLimit (step :: steps) calls memory =
      (⟨calls, .error cause⟩, after) := by
  rw [tryEach, if_neg (Nat.not_le_of_lt room)]
  simp only [bind, StateT.bind, ExceptT.run, fails]
  rfl

theorem tryEach_of_ok {value : α} (room : calls < callLimit)
    (evaluates : objective.evaluate (ray.point step).toList memory = (.ok value, after)) :
    tryEach objective ray armijo callLimit (step :: steps) calls memory =
      if ray.accepts armijo step value then
        (⟨calls + 1, .ok (.accepted ⟨step, ray.point step, value⟩)⟩, after)
      else tryEach objective ray armijo callLimit steps (calls + 1) after := by
  rw [tryEach, if_neg (Nat.not_le_of_lt room)]
  simp only [bind, StateT.bind, ExceptT.run, evaluates]
  split <;> rfl

variable (objective ray armijo callLimit)

theorem tries_tryEach : ∀ (steps : List α) (calls : Nat) (memory : σ),
    Tries objective ray armijo callLimit steps calls memory
      (tryEach objective ray armijo callLimit steps calls memory).1
      (tryEach objective ray armijo callLimit steps calls memory).2
  | [], _, _ => .stalled
  | step :: steps, calls, memory => by
      by_cases full : callLimit ≤ calls
      · rw [tryEach, if_pos full]
        exact .outOfCalls full
      · have room : calls < callLimit := Nat.lt_of_not_le full
        rcases evaluates : objective.evaluate (ray.point step).toList memory with
          ⟨cause | value, middle⟩
        · rw [tryEach_of_error room evaluates]
          exact .refused room evaluates
        · rw [tryEach_of_ok room evaluates]
          cases accepts : ray.accepts armijo step value with
          | true => exact .accepted room evaluates accepts
          | false =>
              exact .rejected room evaluates accepts
                (tries_tryEach steps (calls + 1) middle)

variable {objective ray armijo callLimit}

theorem Tries.of_accepted {found : Result α n ε} {trial : Trial α n}
    (tries : Tries objective ray armijo callLimit steps calls memory found after)
    (accepted : found.outcome = .ok (.accepted trial)) :
    trial.step ∈ steps ∧ trial.x = ray.point trial.step ∧
      ray.accepts armijo trial.step trial.cost = true ∧
      ∃ before after, objective.evaluate trial.x.toList before = (.ok trial.cost, after) := by
  induction tries with
  | stalled => cases accepted
  | outOfCalls => cases accepted
  | refused => cases accepted
  | accepted _ evaluates accepts =>
      cases accepted
      exact ⟨List.mem_cons_self, rfl, accepts, _, _, evaluates⟩
  | rejected _ _ _ _ induction =>
      rcases induction accepted with ⟨member, rest⟩
      exact ⟨List.mem_cons_of_mem _ member, rest⟩

end LineSearch

namespace Descent

def state : Descent α n → State α n
  | accepted _ state => state
  | stalled state => state
  | outOfCalls state => state

def ofOutcome (state : State α n) : LineSearch.Outcome α n → Descent α n
  | .accepted trial => accepted trial state
  | .stalled => stalled state
  | .outOfCalls => outOfCalls state

omit [Scalar α] in
@[simp] theorem state_ofOutcome (given : State α n) (outcome : LineSearch.Outcome α n) :
    (ofOutcome given outcome).state = given := by
  cases outcome <;> rfl

end Descent

def Step.state : Step α n → State α n
  | .advanced state _ _ => state
  | .stalled state => state
  | .outOfCalls state => state
  | .failed state => state

def Refinement.state : Refinement α n → State α n
  | .checked state _ => state
  | .failed state => state

namespace Problem

variable (problem : Problem α σ ε n) (state : State α n) (memory : σ)

def found : LineSearch.Result α n ε × σ :=
  LineSearch.backtrack problem.objective state.ray problem.config.armijo
    problem.config.minStep problem.callLimit state.calls memory

theorem lineSearch_apply :
    problem.lineSearch state memory =
      ((problem.found state memory).1.outcome.map
        (Descent.ofOutcome { state with calls := (problem.found state memory).1.calls }),
        (problem.found state memory).2) := by
  unfold lineSearch
  rw [Computation.lift_bind_apply, ← found]
  rcases problem.found state memory with ⟨⟨calls, cause | trial | _ | _⟩, after⟩ <;> rfl

/-! ## Search for a lower cost -/

inductive Descends : Except ε (Descent α n) → σ → Prop
  | uphill {answer after} (rising : 0 < state.ray.slope)
      (search : problem.lineSearch (problem.reset state) memory = (answer, after)) :
      Descends answer after
  | direct {answer after} (falling : ¬0 < state.ray.slope)
      (search : problem.lineSearch state memory = (answer, after))
      (settled : ∀ stalled, answer = .ok (.stalled stalled) →
        (stalled.inverseHessian == problem.seed) = true) :
      Descends answer after
  | retried {stalled middle answer after} (falling : ¬0 < state.ray.slope)
      (first : problem.lineSearch state memory = (.ok (.stalled stalled), middle))
      (differs : (stalled.inverseHessian == problem.seed) = false)
      (second : problem.lineSearch (problem.reset stalled) middle = (answer, after)) :
      Descends answer after

theorem descends_descend :
    problem.Descends state memory (problem.descend state memory).1
      (problem.descend state memory).2 := by
  unfold descend
  by_cases rising : 0 < state.ray.slope
  · rw [if_pos rising]
    exact .uphill rising rfl
  · rw [if_neg rising, Computation.bind_apply]
    rcases search : problem.lineSearch state memory with
      ⟨cause | trial | stalled | full, middle⟩
    · exact .direct rising search nofun
    · exact .direct rising search nofun
    · by_cases same : (stalled.inverseHessian == problem.seed) = true
      · simp only [same, if_true]
        exact .direct rising search (by intro _ equal; cases equal; exact same)
      · simp only [same]
        exact .retried rising search (Bool.eq_false_iff.mpr same) rfl
    · exact .direct rising search nofun

/-! ## Steps -/

inductive Iterates : Except ε (Step α n) → σ → Prop
  | refused {cause after}
      (descent : problem.descend state memory = (.error cause, after)) :
      Iterates (.error cause) after
  | stalled {searched after}
      (descent : problem.descend state memory = (.ok (.stalled searched), after)) :
      Iterates (.ok (.stalled searched)) after
  | outOfCalls {searched after}
      (descent : problem.descend state memory = (.ok (.outOfCalls searched), after)) :
      Iterates (.ok (.outOfCalls searched)) after
  | gradientRefused {trial searched middle cause after}
      (descent : problem.descend state memory = (.ok (.accepted trial searched), middle))
      (gradient : problem.gradient? searched.calls trial.x trial.cost middle =
        (.error cause, after)) :
      Iterates (.error cause) after
  | failed {trial searched middle after}
      (descent : problem.descend state memory = (.ok (.accepted trial searched), middle))
      (gradient : problem.gradient? searched.calls trial.x trial.cost middle = (.ok none, after)) :
      Iterates (.ok (.failed (searched.addCalls (2 * n)))) after
  | advanced {trial searched middle estimate after}
      (descent : problem.descend state memory = (.ok (.accepted trial searched), middle))
      (gradient : problem.gradient? searched.calls trial.x trial.cost middle =
        (.ok (some estimate), after)) :
      Iterates (.ok (.advanced (problem.moveTo searched trial estimate).1 trial.step
        (problem.moveTo searched trial estimate).2)) after

theorem iterates_iterate :
    problem.Iterates state memory (problem.iterate state memory).1
      (problem.iterate state memory).2 := by
  unfold iterate
  rw [Computation.bind_apply]
  rcases descent : problem.descend state memory with
    ⟨cause | ⟨trial, searched⟩ | searched | searched, middle⟩
  · exact .refused descent
  · simp only [Computation.bind_apply]
    rcases gradient : problem.gradient? searched.calls trial.x trial.cost middle with
      ⟨cause | _ | estimate, after⟩
    · exact .gradientRefused descent gradient
    · exact .failed descent gradient
    · exact .advanced descent gradient
  · exact .stalled descent
  · exact .outOfCalls descent

/-! ## Checks against a full Hessian -/

inductive Refines : Except ε (Refinement α n) → σ → Prop
  | refused {cause after}
      (hessian : problem.hessian? state.calls state.x state.cost memory = (.error cause, after)) :
      Refines (.error cause) after
  | failed {after}
      (hessian : problem.hessian? state.calls state.x state.cost memory = (.ok none, after)) :
      Refines (.ok (.failed (state.addCalls (2 * (n * n))))) after
  | indefinite {estimate after}
      (hessian : problem.hessian? state.calls state.x state.cost memory =
        (.ok (some estimate), after))
      (singular : InverseHessian.ofHessian estimate.hessian = none) :
      Refines (.ok (.checked (state.addCalls estimate.calls) false)) after
  | definite {estimate inverse after}
      (hessian : problem.hessian? state.calls state.x state.cost memory =
        (.ok (some estimate), after))
      (inverted : InverseHessian.ofHessian estimate.hessian = some inverse) :
      Refines (.ok (.checked
        (State.refreshEdm { state.addCalls estimate.calls with inverseHessian := inverse }
          problem.errorDefinition) true)) after

theorem refines_refine :
    problem.Refines state memory (problem.refine state memory).1
      (problem.refine state memory).2 := by
  unfold refine
  rw [Computation.bind_apply]
  rcases hessian : problem.hessian? state.calls state.x state.cost memory with
    ⟨cause | _ | estimate, after⟩
  · exact .refused hessian
  · exact .failed hessian
  · rcases inverted : InverseHessian.ofHessian estimate.hessian with _ | inverse
    · simp only [inverted]
      exact .indefinite hessian inverted
    · simp only [inverted]
      exact .definite hessian inverted

/-! ## The start -/

inductive Starts (x : Vector α n) : Except ε (Start α n) → σ → Prop
  | refused {cause after}
      (value : problem.objective.evaluate x.toList memory = (.error cause, after)) :
      Starts x (.error cause) after
  | nonFinite {cost after}
      (value : problem.objective.evaluate x.toList memory = (.ok cost, after))
      (infinite : Scalar.isFinite cost = false) :
      Starts x (.ok (.failed (problem.initialState x cost))) after
  | gradientRefused {cost middle cause after}
      (value : problem.objective.evaluate x.toList memory = (.ok cost, middle))
      (finite : Scalar.isFinite cost = true)
      (gradient : problem.gradient? (problem.initialState x cost).calls x cost middle =
        (.error cause, after)) :
      Starts x (.error cause) after
  | failed {cost middle after}
      (value : problem.objective.evaluate x.toList memory = (.ok cost, middle))
      (finite : Scalar.isFinite cost = true)
      (gradient : problem.gradient? (problem.initialState x cost).calls x cost middle =
        (.ok none, after)) :
      Starts x (.ok (.failed ((problem.initialState x cost).addCalls (2 * n)))) after
  | ready {cost middle estimate after}
      (value : problem.objective.evaluate x.toList memory = (.ok cost, middle))
      (finite : Scalar.isFinite cost = true)
      (gradient : problem.gradient? (problem.initialState x cost).calls x cost middle =
        (.ok (some estimate), after)) :
      Starts x (.ok (.ready (State.refreshEdm
        { (problem.initialState x cost).addCalls estimate.calls with
          gradient := estimate.gradient } problem.errorDefinition))) after

theorem starts_start (x : Vector α n) :
    problem.Starts memory x (problem.start x memory).1 (problem.start x memory).2 := by
  unfold start
  rw [Computation.bind_apply]
  rcases value : problem.objective.evaluate x.toList memory with ⟨cause | cost, middle⟩
  · exact .refused value
  · simp only [Computation.if_apply, Computation.bind_apply]
    cases finite : Scalar.isFinite cost with
    | false => exact .nonFinite value finite
    | true =>
        rcases gradient : problem.gradient? (problem.initialState x cost).calls x cost middle with
          ⟨cause | _ | estimate, after⟩
        · exact .gradientRefused value finite gradient
        · exact .failed value finite gradient
        · exact .ready value finite gradient

end Problem

end CurveFitting

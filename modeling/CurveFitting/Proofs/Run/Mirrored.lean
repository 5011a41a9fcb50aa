import CurveFitting.Proofs.Run.ComparedFits

/-! # Mirrored fits

Two fits that nobody watches are compared state by state. Where all that they compute from
alike states is alike, and they decide alike where to stop, the fits end alike.
-/

namespace CurveFitting

variable {α σ τ ω ε : Type} {n m : Nat}

/-! ## Computations -/

namespace Computation

variable {memory otherMemory error first second : Type}

inductive EndsAlike (memories : memory → otherMemory → Prop) (answers : first → second → Prop) :
    Except error first × memory → Except error second × otherMemory → Prop
  | answered {answer other final otherFinal} (alike : answers answer other)
      (left : memories final otherFinal) :
      EndsAlike memories answers (.ok answer, final) (.ok other, otherFinal)
  | failed {cause final otherFinal} (left : memories final otherFinal) :
      EndsAlike memories answers (.error cause, final) (.error cause, otherFinal)

theorem EndsAlike.results {memories : memory → otherMemory → Prop} {answers : first → second → Prop}
    {ending : Except error first × memory} {other : Except error second × otherMemory}
    (ends : EndsAlike memories answers ending other) :
    (∃ cause, ending.1 = .error cause ∧ other.1 = .error cause) ∨
      ∃ answer mirror, ending.1 = .ok answer ∧ other.1 = .ok mirror ∧ answers answer mirror := by
  cases ends with
  | answered alike => exact .inr ⟨_, _, rfl, rfl, alike⟩
  | failed => exact .inl ⟨_, rfl, rfl⟩

structure Mirrors (memories : memory → otherMemory → Prop) (answers : first → second → Prop)
    (computation : ExceptT error (StateM memory) first)
    (other : ExceptT error (StateM otherMemory) second) : Prop where
  ends : ∀ {start otherStart}, memories start otherStart →
    EndsAlike memories answers (computation start) (other otherStart)

namespace Mirrors

variable {memories : memory → otherMemory → Prop} {answers : first → second → Prop}
  {computation : ExceptT error (StateM memory) first}
  {other : ExceptT error (StateM otherMemory) second}

theorem pure {given : first} {otherGiven : second} (alike : answers given otherGiven) :
    Mirrors memories answers (pure given : ExceptT error (StateM memory) first)
      (pure otherGiven : ExceptT error (StateM otherMemory) second) :=
  ⟨.answered alike⟩

theorem bind {firstResult secondResult : Type} {results : firstResult → secondResult → Prop}
    {next : first → ExceptT error (StateM memory) firstResult}
    {otherNext : second → ExceptT error (StateM otherMemory) secondResult}
    (begun : Mirrors memories answers computation other)
    (rest : ∀ given otherGiven, answers given otherGiven →
      Mirrors memories results (next given) (otherNext otherGiven)) :
    Mirrors memories results (computation >>= next) (other >>= otherNext) where
  ends {start otherStart} alike := by
    have ends := begun.ends alike
    rw [bind_apply, bind_apply]
    generalize computation start = ending, other otherStart = otherEnding at ends
    cases ends with
    | answered alike left => exact (rest _ _ alike).ends left
    | failed left => exact .failed left

private theorem ite {condition otherCondition : Prop} [Decidable condition]
    [Decidable otherCondition] {elsewise : ExceptT error (StateM memory) first}
    {otherElsewise : ExceptT error (StateM otherMemory) second}
    (same : condition ↔ otherCondition) (yes : Mirrors memories answers computation other)
    (no : Mirrors memories answers elsewise otherElsewise) :
    Mirrors memories answers (if condition then computation else elsewise)
      (if otherCondition then other else otherElsewise) := by
  by_cases holds : condition
  · rw [if_pos holds, if_pos (same.mp holds)]
    exact yes
  · rw [if_neg holds, if_neg (same.not.mp holds)]
    exact no

theorem refl (computation : ExceptT error (StateM memory) first) :
    Mirrors Eq Eq computation computation where
  ends {start _} same := by
    subst same
    rcases computation start with ⟨cause | answer, final⟩
    · exact .failed rfl
    · exact .answered rfl rfl

theorem mono {results : first → second → Prop}
    (mirrors : Mirrors memories answers computation other)
    (implies : ∀ given otherGiven, answers given otherGiven → results given otherGiven) :
    Mirrors memories results computation other where
  ends {start otherStart} alike := by
    have ends := mirrors.ends alike
    generalize computation start = ending, other otherStart = otherEnding at ends
    cases ends with
    | answered alike left => exact .answered (implies _ _ alike) left
    | failed left => exact .failed left

end Mirrors

end Computation

open CurveFitting.Computation

/-! ## What alike states lead to -/

inductive Start.Alike (alike resembles : State α n → State α m → Prop) :
    Start α n → Start α m → Prop
  | ready {state other} (same : alike state other) :
      Alike alike resembles (.ready state) (.ready other)
  | failed {state other} (same : resembles state other) :
      Alike alike resembles (.failed state) (.failed other)

inductive Step.Alike (alike : State α n → State α m → Prop) : Step α n → Step α m → Prop
  | advanced {state other multiplier updated} (same : alike state other) :
      Alike alike (.advanced state multiplier updated) (.advanced other multiplier updated)
  | stalled {state other} (same : alike state other) : Alike alike (.stalled state) (.stalled other)
  | outOfCalls {state other} (same : alike state other) :
      Alike alike (.outOfCalls state) (.outOfCalls other)
  | failed {state other} (same : alike state other) : Alike alike (.failed state) (.failed other)

inductive Refinement.Alike (alike : State α n → State α m → Prop) :
    Refinement α n → Refinement α m → Prop
  | checked {state other positiveDefinite} (same : alike state other) :
      Alike alike (.checked state positiveDefinite) (.checked other positiveDefinite)
  | failed {state other} (same : alike state other) : Alike alike (.failed state) (.failed other)

structure Ending.Alike (alike : State α n → State α m → Prop) (ending : Ending α n)
    (other : Ending α m) : Prop where
  status : other.status = ending.status
  state : alike ending.state other.state

inductive Check.Alike (alike : State α n → State α m → Prop) : Check α n → Check α m → Prop
  | passed {state other} (same : alike state other) : Alike alike (.passed state) (.passed other)
  | ended {ending other} (same : ending.Alike alike other) :
      Alike alike (.ended ending) (.ended other)

variable [Scalar α]

/-! ## Moves from alike states -/

inductive LineSearch.Outcome.Alike (points : Vector α n → Vector α m → Prop) :
    Outcome α n → Outcome α m → Prop
  | accepted {step x y cost} (same : points x y) (finite : Scalar.isFinite cost = true) :
      Alike points (.accepted ⟨step, x, cost⟩) (.accepted ⟨step, y, cost⟩)
  | stalled : Alike points .stalled .stalled
  | outOfCalls : Alike points .outOfCalls .outOfCalls

inductive Descent.Alike (points : Vector α n → Vector α m → Prop)
    (alike : State α n → State α m → Prop) : Descent α n → Descent α m → Prop
  | accepted {step x y cost state other} (point : points x y)
      (finite : Scalar.isFinite cost = true) (same : alike state other) :
      Alike points alike (.accepted ⟨step, x, cost⟩ state) (.accepted ⟨step, y, cost⟩ other)
  | stalled {state other} (same : alike state other) :
      Alike points alike (.stalled state) (.stalled other)
  | outOfCalls {state other} (same : alike state other) :
      Alike points alike (.outOfCalls state) (.outOfCalls other)

inductive GradientEstimate.Alike (points : Vector α n → Vector α m → Prop) :
    Option (GradientEstimate α n) → Option (GradientEstimate α m) → Prop
  | found {estimate : GradientEstimate α n} {other : GradientEstimate α m}
      (gradient : points estimate.gradient other.gradient) (calls : other.calls = estimate.calls) :
      Alike points (some estimate) (some other)
  | none : Alike points none none

def Problem.readyState (problem : Problem α σ ε n) (x : Vector α n) (cost : α)
    (estimate : GradientEstimate α n) : State α n :=
  State.refreshEdm { (problem.initialState x cost).addCalls estimate.calls with
    gradient := estimate.gradient } problem.errorDefinition

/-- Two problems whose evaluations at alike points are the same, and for which all that a fit
computes from alike states is alike. Gradients are compared as points are. -/
structure Problem.Corresponds (problem : Problem α σ ε n) (other : Problem α τ ε m)
    (memories : σ → τ → Prop) (points : Vector α n → Vector α m → Prop)
    (alike resembles : State α n → State α m → Prop) : Prop where
  size : m = n
  callLimit : other.callLimit = problem.callLimit
  armijo : other.config.armijo = problem.config.armijo
  minStep : other.config.minStep = problem.config.minStep
  maxIterations : other.config.maxIterations = problem.config.maxIterations
  refineHessian : other.config.refineHessian = problem.config.refineHessian
  evaluate {x y} (same : points x y) :
    Mirrors memories Eq (problem.objective.evaluate x.toList) (other.objective.evaluate y.toList)
  gradient {x y cost} (calls : Nat) (same : points x y) (finite : Scalar.isFinite cost = true) :
    Mirrors memories (GradientEstimate.Alike points) (problem.gradient? calls x cost)
      (other.gradient? calls y cost)
  ready {x y cost estimate otherEstimate} (same : points x y)
    (finite : Scalar.isFinite cost = true)
    (estimates : GradientEstimate.Alike points (some estimate) (some otherEstimate)) :
    alike (problem.readyState x cost estimate) (other.readyState y cost otherEstimate)
  weaker {state mirror} (same : alike state mirror) : resembles state mirror
  initial {x y calls otherCalls} (same : points x y) (cost : α) (charged : otherCalls = calls) :
    resembles ((problem.initialState x cost).addCalls calls)
      ((other.initialState y cost).addCalls otherCalls)
  point {state mirror step} (same : alike state mirror)
    (member : step ∈ LineSearch.multipliers problem.config.minStep) :
    points (state.ray.point step) (mirror.ray.point step)
  slope {state mirror} (same : alike state mirror) : mirror.ray.slope = state.ray.slope
  cost {state mirror} (same : alike state mirror) : mirror.cost = state.cost
  calls {state mirror} (same : alike state mirror) : mirror.calls = state.calls
  withCalls {state mirror calls otherCalls} (same : alike state mirror)
    (charged : otherCalls = calls) :
    alike { state with calls := calls } { mirror with calls := otherCalls }
  reset {state mirror} (same : alike state mirror) :
    alike (problem.reset state) (other.reset mirror)
  seeded {state mirror} (same : alike state mirror) :
    (mirror.inverseHessian == other.seed) = (state.inverseHessian == problem.seed)
  moveTo {state mirror x y cost estimate otherEstimate} (same : alike state mirror)
    (moved : points x y) (finite : Scalar.isFinite cost = true) (step : α)
    (estimates : GradientEstimate.Alike points (some estimate) (some otherEstimate)) :
    alike (problem.moveTo state ⟨step, x, cost⟩ estimate).1
        (other.moveTo mirror ⟨step, y, cost⟩ otherEstimate).1 ∧
      (other.moveTo mirror ⟨step, y, cost⟩ otherEstimate).2 =
        (problem.moveTo state ⟨step, x, cost⟩ estimate).2
  refine {state mirror} (same : alike state mirror) :
    Mirrors memories (Refinement.Alike alike) (problem.refine state) (other.refine mirror)
  isClose {state mirror} (same : alike state mirror) : other.isClose mirror = problem.isClose state

namespace Problem.Corresponds

variable {problem : Problem α σ ε n} {other : Problem α τ ε m} {memories : σ → τ → Prop}
  {points : Vector α n → Vector α m → Prop} {alike resembles : State α n → State α m → Prop}
  {state : State α n} {mirror : State α m} {x : Vector α n} {y : Vector α m}
  (corresponds : problem.Corresponds other memories points alike resembles)

include corresponds

private theorem start (same : points x y) :
    Mirrors memories (Start.Alike alike resembles) (problem.start x) (other.start y) := by
  apply Mirrors.bind (corresponds.evaluate same)
  rintro cost _ rfl
  by_cases finite : Scalar.isFinite cost = true
  · rw [if_pos finite, if_pos finite]
    apply Mirrors.bind (corresponds.gradient _ same finite)
    intro found otherFound estimates
    cases found with
    | none =>
        cases estimates
        have charged : 2 * m = 2 * n := congrArg (2 * ·) corresponds.size
        exact .pure (.failed (corresponds.initial same cost charged))
    | some estimate =>
        cases otherFound with
        | none => cases estimates
        | some otherEstimate => exact .pure (.ready (corresponds.ready same finite estimates))
  · rw [if_neg finite, if_neg finite]
    exact .pure (.failed (corresponds.initial same cost (rfl : 0 = 0)))

private theorem accepts (same : alike state mirror) (step value : α) :
    mirror.ray.accepts other.config.armijo step value =
      state.ray.accepts problem.config.armijo step value := by
  have cost : mirror.ray.cost = state.ray.cost := corresponds.cost same
  rw [Ray.accepts, Ray.accepts, corresponds.armijo, corresponds.slope same, cost]

private theorem trying (same : alike state mirror) (steps : List α)
    (members : ∀ step ∈ steps, step ∈ LineSearch.multipliers problem.config.minStep)
    (calls : Nat) :
    Mirrors memories
      (fun found otherFound => otherFound.1 = found.1 ∧ found.2.Alike points otherFound.2)
      (LineSearch.trying problem.objective state.ray problem.config.armijo problem.callLimit steps
        calls)
      (LineSearch.trying other.objective mirror.ray other.config.armijo other.callLimit steps
        calls) := by
  rw [corresponds.callLimit]
  induction steps generalizing calls with
  | nil =>
      have both : LineSearch.Outcome.Alike points (.stalled : LineSearch.Outcome α n) .stalled :=
        .stalled
      exact ⟨.answered ⟨rfl, both⟩⟩
  | cons step steps induction =>
      rw [List.forall_mem_cons] at members
      by_cases full : problem.callLimit ≤ calls
      · rw [LineSearch.trying_of_full full, LineSearch.trying_of_full full]
        exact .pure ⟨rfl, .outOfCalls⟩
      · have room := Nat.lt_of_not_le full
        have point := corresponds.point same members.1
        rw [LineSearch.trying_of_room room, LineSearch.trying_of_room room]
        apply Mirrors.bind (corresponds.evaluate point)
        rintro value _ rfl
        by_cases accepted : state.ray.accepts problem.config.armijo step value = true
        · rw [corresponds.accepts same, if_pos accepted, if_pos accepted]
          exact .pure ⟨rfl, .accepted point (Bool.and_eq_true_iff.mp accepted).1⟩
        · rw [corresponds.accepts same, if_neg accepted, if_neg accepted]
          exact induction members.2 (calls + 1)

private theorem lineSearch (same : alike state mirror) :
    Mirrors memories (Descent.Alike points alike) (problem.lineSearch state)
      (other.lineSearch mirror) := by
  rw [Problem.lineSearch_eq_trying, Problem.lineSearch_eq_trying, corresponds.minStep,
    corresponds.calls same]
  apply Mirrors.bind (corresponds.trying same _ (fun _ => id) _)
  rintro ⟨made, outcome⟩ ⟨otherMade, otherOutcome⟩ ⟨charged, outcomes⟩
  have left := corresponds.withCalls same charged
  cases outcomes with
  | accepted point finite => exact .pure (.accepted point finite left)
  | stalled => exact .pure (.stalled left)
  | outOfCalls => exact .pure (.outOfCalls left)

private theorem descend (same : alike state mirror) :
    Mirrors memories (Descent.Alike points alike) (problem.descend state)
      (other.descend mirror) := by
  apply Mirrors.ite
  · rw [corresponds.slope same]
  · exact corresponds.lineSearch (corresponds.reset same)
  · apply Mirrors.bind (corresponds.lineSearch same)
    intro descent otherDescent descents
    cases descents with
    | accepted point finite left => exact .pure (.accepted point finite left)
    | stalled left =>
        apply Mirrors.ite
        · rw [corresponds.seeded left]
        · exact .pure (.stalled left)
        · exact corresponds.lineSearch (corresponds.reset left)
    | outOfCalls left => exact .pure (.outOfCalls left)

private theorem iterate (same : alike state mirror) :
    Mirrors memories (Step.Alike alike) (problem.iterate state) (other.iterate mirror) := by
  apply Mirrors.bind (corresponds.descend same)
  intro descent otherDescent descents
  cases descents with
  | stalled left => exact .pure (.stalled left)
  | outOfCalls left => exact .pure (.outOfCalls left)
  | @accepted step x y cost searched otherSearched point finite left =>
      dsimp only
      rw [corresponds.calls left]
      apply Mirrors.bind (corresponds.gradient _ point finite)
      intro found otherFound estimates
      cases found with
      | none =>
          cases estimates
          have charged : otherSearched.calls + 2 * m = searched.calls + 2 * n := by
            rw [corresponds.calls left, corresponds.size]
          exact .pure (.failed (corresponds.withCalls left charged))
      | some estimate =>
          cases otherFound with
          | none => cases estimates
          | some otherEstimate =>
              rcases corresponds.moveTo left point finite step estimates with ⟨moved, updated⟩
              dsimp only
              rw [updated]
              exact .pure (.advanced moved)

end Problem.Corresponds

/-! ## Runs -/

def Session.Mirrors (memories : σ → τ → Prop) (session : Session α σ ω)
    (other : Session α τ ω) : Prop :=
  memories session.objectiveMemory other.objectiveMemory

namespace Computation.Mirrors

omit [Scalar α]

variable {memories : σ → τ → Prop} {first second : Type} {answers : first → second → Prop}

private theorem evaluate {evaluation : Evaluation σ ε first} {other : Evaluation τ ε second}
    (mirrors : Mirrors memories answers evaluation other) :
    Mirrors (Session.Mirrors memories) answers (Run.evaluate evaluation : Run α σ ω ε first)
      (Run.evaluate other : Run α τ ω ε second) where
  ends {session otherSession} alike := by
    have ends := mirrors.ends alike
    rw [Run.evaluate, Run.evaluate]
    generalize evaluation session.objectiveMemory = ending,
      other otherSession.objectiveMemory = otherEnding at ends
    cases ends with
    | answered alike left => exact .answered alike left
    | failed left => exact .failed left

private theorem note (entry other : Note α) :
    Mirrors (Session.Mirrors memories) (fun _ _ => True) (Run.note entry : Run α σ ω ε Unit)
      (Run.note other : Run α τ ω ε Unit) where
  ends alike := .answered trivial alike

private theorem noted {entry other : Note α} {given : first} {otherGiven : second}
    (alike : answers given otherGiven) :
    Mirrors (Session.Mirrors memories) answers
      (do Run.note entry; return given : Run α σ ω ε first)
      (do Run.note other; return otherGiven : Run α τ ω ε second) :=
  .bind (note entry other) fun _ _ _ => .pure alike

private theorem emit (event other : Event α) :
    Mirrors (Session.Mirrors memories)
      (fun answer otherAnswer => answer = none ∧ otherAnswer = none)
      (Run.emit Observer.silent event : Run α σ Unit ε (Option Action))
      (Run.emit Observer.silent other : Run α τ Unit ε (Option Action)) where
  ends alike := .answered ⟨rfl, rfl⟩ alike

end Computation.Mirrors

namespace Problem.Corresponds

variable {problem : Problem α σ ε n} {other : Problem α τ ε m} {memories : σ → τ → Prop}
  {points : Vector α n → Vector α m → Prop} {alike resembles : State α n → State α m → Prop}
  {state : State α n} {mirror : State α m} {x : Vector α n} {y : Vector α m}
  (corresponds : problem.Corresponds other memories points alike resembles)

include corresponds

omit corresponds in
omit [Scalar α] in
private theorem tell {entry otherEntry : Note α} {event otherEvent : Event α}
    (same : alike state mirror) :
    Mirrors (Session.Mirrors memories) (Check.Alike alike)
      (Run.tell Observer.silent entry event (.ended ⟨.stoppedByObserver, state⟩) (.passed state) :
        Run α σ Unit ε (Check α n))
      (Run.tell Observer.silent otherEntry otherEvent (.ended ⟨.stoppedByObserver, mirror⟩)
        (.passed mirror)) := by
  apply Mirrors.bind (.note entry otherEntry)
  intro _ _ _
  apply Mirrors.bind (.emit event otherEvent)
  rintro _ _ ⟨rfl, rfl⟩
  exact .pure (.passed same)

private theorem check (same : alike state mirror) :
    Mirrors (Session.Mirrors memories) (Check.Alike alike)
      (problem.check Observer.silent state : Run α σ Unit ε (Check α n))
      (other.check Observer.silent mirror) := by
  apply Mirrors.ite
  · rw [corresponds.callLimit, corresponds.calls same, corresponds.size]
  · exact .noted (.ended ⟨rfl, same⟩)
  · apply Mirrors.bind (corresponds.refine same).evaluate
    intro refinement otherRefinement refined
    cases refined with
    | failed left => exact .noted (.ended ⟨rfl, left⟩)
    | checked left =>
        apply Mirrors.ite Iff.rfl
        · apply Mirrors.bind (.note _ _)
          intro _ _ _
          exact tell left
        · exact tell left

private theorem settle (same : alike state mirror) :
    Mirrors (Session.Mirrors memories) (Ending.Alike alike)
      (problem.settle Observer.silent state : Run α σ Unit ε (Ending α n))
      (other.settle Observer.silent mirror) := by
  have passed : Check.Alike alike (.passed state) (.passed mirror) := .passed same
  refine Mirrors.ite ?_ (.bind (corresponds.check same) ?_) (.bind (.pure passed) ?_)
  · rw [corresponds.isClose same, corresponds.refineHessian]
  all_goals
    intro check otherCheck checked
    cases checked with
    | ended left => exact .pure left
    | passed left =>
        apply Mirrors.ite
        · rw [corresponds.isClose left]
        · exact .pure ⟨rfl, left⟩
        · exact .noted ⟨rfl, left⟩

private theorem afterStep (same : alike state mirror) (multiplier : α) (updated : Bool) :
    Mirrors (Session.Mirrors memories) (Check.Alike alike)
      (problem.afterStep Observer.silent state multiplier updated : Run α σ Unit ε (Check α n))
      (other.afterStep Observer.silent mirror multiplier updated) := by
  apply Mirrors.bind (.note _ _)
  intro _ _ _
  apply Mirrors.bind (.emit _ _)
  rintro _ _ ⟨rfl, rfl⟩
  apply Mirrors.ite Iff.rfl
  · exact .pure (Check.Alike.ended ⟨rfl, same⟩)
  · apply Mirrors.ite
    · rw [corresponds.isClose same, corresponds.refineHessian]
    · exact corresponds.check same
    · exact .pure (Check.Alike.passed same)

theorem search (remaining : Nat) (same : alike state mirror) :
    Mirrors (Session.Mirrors memories) (Ending.Alike alike)
      (problem.search Observer.silent remaining state : Run α σ Unit ε (Ending α n))
      (other.search Observer.silent remaining mirror) := by
  induction remaining generalizing state mirror with
  | zero => exact .noted ⟨rfl, same⟩
  | succ remaining induction =>
      apply Mirrors.ite
      · rw [corresponds.callLimit, corresponds.calls same]
      · exact .noted ⟨rfl, same⟩
      · apply Mirrors.bind (corresponds.iterate same).evaluate
        intro step otherStep stepped
        cases stepped with
        | stalled left => exact corresponds.settle left
        | outOfCalls left => exact .noted ⟨rfl, left⟩
        | failed left => exact .noted ⟨rfl, left⟩
        | advanced left =>
            apply Mirrors.bind (corresponds.afterStep left _ _)
            intro check otherCheck checked
            cases checked with
            | ended last => exact .pure last
            | passed next =>
                apply Mirrors.ite
                · rw [corresponds.isClose next]
                · exact .pure ⟨rfl, next⟩
                · exact induction next

theorem run (same : points x y) :
    Mirrors (Session.Mirrors memories) (Ending.Alike resembles)
      (problem.run Observer.silent x : Run α σ Unit ε (Ending α n))
      (other.run Observer.silent y) := by
  apply Mirrors.bind (corresponds.start same).evaluate
  intro start otherStart started
  cases started with
  | failed left => exact .noted ⟨rfl, left⟩
  | ready ready =>
      apply Mirrors.bind (.note _ _)
      intro _ _ _
      rw [corresponds.maxIterations]
      apply (corresponds.search _ ready).mono
      intro ending otherEnding ended
      exact ⟨ended.status, corresponds.weaker ended.state⟩

end Problem.Corresponds

/-! ## Minimization -/

def Problem.Results (problem : Problem α σ ε n) (other : Problem α τ ε m)
    (resembles : State α n → State α m → Prop) (minimum : Minimum α n) (mirror : Minimum α m) :
    Prop :=
  ∃ status state otherState, resembles state otherState ∧
    minimum = problem.result status state ∧ mirror = other.result status otherState

/-- Fits of corresponding problems come to results that resemble each other. -/
theorem Problem.Corresponds.minimize {objective : Objective α σ ε}
    {otherObjective : Objective α τ ε} {parameters otherParameters : ParameterSet α}
    {config otherConfig : Config α} {problem : Problem α σ ε parameters.size}
    {other : Problem α τ ε otherParameters.size} {memories : σ → τ → Prop}
    {points : Vector α parameters.size → Vector α otherParameters.size → Prop}
    {alike resembles : State α parameters.size → State α otherParameters.size → Prop}
    (corresponds : problem.Corresponds other memories points alike resembles)
    (prepared : Problem.prepare objective parameters config = .ok problem)
    (otherPrepared : Problem.prepare otherObjective otherParameters otherConfig = .ok other)
    (same : points parameters.values otherParameters.values) :
    Mirrors (Session.Mirrors memories) (problem.Results other resembles)
      (minimize objective parameters config Observer.silent)
      (minimize otherObjective otherParameters otherConfig Observer.silent) := by
  unfold CurveFitting.minimize
  rw [prepared, otherPrepared]
  change Mirrors _ _ (problem.run Observer.silent parameters.values >>= _)
    (other.run Observer.silent otherParameters.values >>= _)
  apply Mirrors.bind (corresponds.run same)
  intro ending otherEnding ended
  refine .noted ⟨ending.status, ending.state, otherEnding.state, ended.state, rfl, ?_⟩
  rw [ended.status]

theorem Computation.Mirrors.refused {objective : Objective α σ ε} {otherObjective : Objective α τ ε}
    {parameters otherParameters : ParameterSet α} {config otherConfig : Config α}
    {memories : σ → τ → Prop} {cause : FitError α ε}
    {results : Minimum α parameters.size → Minimum α otherParameters.size → Prop}
    (refused : Problem.prepare objective parameters config = .error cause)
    (otherRefused : Problem.prepare otherObjective otherParameters otherConfig = .error cause) :
    Mirrors (Session.Mirrors memories) results
      (minimize objective parameters config (Observer.silent : Observer α Unit))
      (minimize otherObjective otherParameters otherConfig
        (Observer.silent : Observer α Unit)) where
  ends alike := by
    rw [minimize_of_prepare_error refused, minimize_of_prepare_error otherRefused]
    exact .failed alike

end CurveFitting

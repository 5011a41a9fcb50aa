import CurveFitting.Minimizer.Search
import CurveFitting.Proofs.Run.Estimates

/-! # Pools of threads

What the threads of a pool happen to do leaves a fit as it is where it evaluates in order,
and where the objective has one answer at each point, which is never an error.
-/

namespace CurveFitting

variable {α σ ω ε : Type} [Scalar α] {n : Nat}

def Config.withPool (config : Config α) (pool : Pool) : Config α := { config with pool := pool }

/-- Why a fit of `n` parameters goes the same way with another pool. -/
inductive SameTurns (objective : Objective α σ ε) (config : Config α) (n : Nat) (pool : Pool) :
    Prop
  | inOrder (sequential : config.parallel = false)
  | equal (schedules : ∀ calls, pool calls n = config.pool calls n)
  | steady {function : Vector α n → α} (answers : ∀ point memory,
      objective.evaluate point.toList memory = (.ok (function point), memory))

namespace Differences

variable (differences : Differences α n) (schedule : Schedule n) (objective : Objective α σ ε)
  (x : Vector α n) (cost : α)

private theorem gradient_withSchedule (inOrder : differences.parallel = false) :
    ({ differences with schedule := schedule } : Differences α n).gradient objective x cost =
      differences.gradient objective x cost := by
  unfold gradient
  rw [inOrder]
  rfl

private theorem hessian_withSchedule (inOrder : differences.parallel = false) :
    ({ differences with schedule := schedule } : Differences α n).hessian objective x cost =
      differences.hessian objective x cost := by
  unfold hessian
  rw [inOrder]
  rfl

variable {objective} {function : Vector α n → α} (answers : ∀ point memory,
  objective.evaluate point.toList memory = (.ok (function point), memory))

include answers

private theorem finiteOnly_gradient_withSchedule :
    finiteOnly (({ differences with schedule := schedule } : Differences α n).gradient
        objective x cost) =
      finiteOnly (differences.gradient objective x cost) := by
  have steady : Steady objective x (differences.perturbations x) (Probe.ofGradient n)
      fun probe => function (probe.point x (differences.perturbations x)) :=
    fun probe _ => answers _
  funext memory
  rw [finiteOnly_gradient steady]
  exact finiteOnly_gradient steady

private theorem finiteOnly_hessian_withSchedule :
    finiteOnly (({ differences with schedule := schedule } : Differences α n).hessian
        objective x cost) =
      finiteOnly (differences.hessian objective x cost) := by
  have steady : Steady objective x (differences.perturbations x) (Probe.ofHessian n)
      fun probe => function (probe.point x (differences.perturbations x)) :=
    fun probe _ => answers _
  funext memory
  rw [finiteOnly_hessian steady]
  exact finiteOnly_hessian steady

end Differences

namespace Problem

def withPool (problem : Problem α σ ε n) (pool : Pool) : Problem α σ ε n :=
  { problem with config := problem.config.withPool pool }

variable {problem : Problem α σ ε n} {pool : Pool}
  (same : SameTurns problem.objective problem.config n pool)

include same

/-! ## Derivatives -/

private theorem gradient?_withPool : (problem.withPool pool).gradient? = problem.gradient? := by
  funext calls x cost
  let differences := problem.differencesAfter calls
  cases same with
  | inOrder sequential =>
      exact congrArg Differences.finiteOnly (Differences.gradient_withSchedule differences
        (pool calls n) problem.objective x cost sequential)
  | equal schedules =>
      unfold gradient? differencesAfter
      rw [← schedules calls]
      rfl
  | steady answers =>
      exact Differences.finiteOnly_gradient_withSchedule differences (pool calls n) x cost answers

private theorem hessian?_withPool : (problem.withPool pool).hessian? = problem.hessian? := by
  funext calls x cost
  let differences := problem.differencesAfter calls
  cases same with
  | inOrder sequential =>
      exact congrArg Differences.finiteOnly (Differences.hessian_withSchedule differences
        (pool calls n) problem.objective x cost sequential)
  | equal schedules =>
      unfold hessian? differencesAfter
      rw [← schedules calls]
      rfl
  | steady answers =>
      exact Differences.finiteOnly_hessian_withSchedule differences (pool calls n) x cost answers

/-! ## Moves -/

private theorem start_withPool : (problem.withPool pool).start = problem.start := by
  funext x
  unfold start
  rw [gradient?_withPool same]
  rfl

private theorem iterate_withPool : (problem.withPool pool).iterate = problem.iterate := by
  funext state
  unfold iterate
  rw [gradient?_withPool same]
  rfl

private theorem refine_withPool : (problem.withPool pool).refine = problem.refine := by
  funext state
  unfold refine
  rw [hessian?_withPool same]
  rfl

/-! ## Runs -/

variable (observer : Observer α ω)

private theorem check_withPool :
    (problem.withPool pool).check observer = problem.check observer := by
  funext state
  unfold check
  rw [refine_withPool same]
  rfl

private theorem settle_withPool :
    (problem.withPool pool).settle observer = problem.settle observer := by
  funext state
  unfold settle
  rw [check_withPool same]
  rfl

private theorem afterStep_withPool :
    (problem.withPool pool).afterStep observer = problem.afterStep observer := by
  funext state multiplier updated
  unfold afterStep
  rw [check_withPool same]
  rfl

theorem search_withPool (remaining : Nat) :
    (problem.withPool pool).search observer remaining = problem.search observer remaining := by
  induction remaining with
  | zero => rfl
  | succ remaining induction =>
      funext state
      unfold search
      rw [iterate_withPool same, settle_withPool same, afterStep_withPool same, induction]
      rfl

theorem run_withPool : (problem.withPool pool).run observer = problem.run observer := by
  funext x
  unfold run
  rw [start_withPool same, search_withPool same]
  rfl

end Problem

theorem Problem.prepare_withPool (objective : Objective α σ ε) (parameters : ParameterSet α)
    (config : Config α) (pool : Pool) :
    Problem.prepare objective parameters (config.withPool pool) =
      (Problem.prepare objective parameters config).map (·.withPool pool) := by
  unfold prepare
  repeat' split
  all_goals rfl

theorem minimize_withPool {objective : Objective α σ ε} {parameters : ParameterSet α}
    {config : Config α} {pool : Pool} (same : SameTurns objective config parameters.size pool)
    (observer : Observer α ω) :
    minimize objective parameters (config.withPool pool) observer =
      minimize objective parameters config observer := by
  have prepares := Problem.prepare_withPool objective parameters config pool
  funext origin
  rcases prepared : Problem.prepare objective parameters config with cause | problem
  · rw [prepared] at prepares
    rw [minimize_of_prepare_error prepares, minimize_of_prepare_error prepared]
  · rw [prepared] at prepares
    rw [minimize_of_prepare prepares, minimize_of_prepare prepared]
    rcases Problem.prepare_eq_ok prepared with ⟨rfl, rfl, _⟩
    rw [Problem.run_withPool same]
    rfl

/-! ## Where turns matter -/

/-- The threads that happen to begin with the job of one parameter, and do the others in
order once it is done. -/
def Pool.startingWith (first : Nat) : Pool := fun _ n =>
  if within : first < n then ⟨[⟨first, within⟩, ⟨first, within⟩], []⟩ else .inOrder

/-- A job that meets a fault with its first turn, and takes the next one as well, ends the
gradient with this fault. -/
theorem Differences.gradient_of_first_turns {differences : Differences α n}
    {objective : Objective α σ ε} {x : Vector α n} {cost : α} {memory after : σ} {i : Fin n}
    {rest : List (Fin n)} {answer : Except ε α} {fault : DifferenceError α ε}
    (parallel : differences.parallel = true)
    (turns : differences.schedule.gradient = i :: i :: rest)
    (evaluates : objective.evaluate
      ((Probe.single i true).point x (differences.perturbations x)).toList memory =
        (answer, after))
    (faulty : (Probe.single i true).fault? answer = some fault) :
    differences.gradient objective x cost memory = (.error fault, after) := by
  have sampled : sample objective i (shift x i ((differences.perturbations x).get i)) memory =
      (.error fault, after) := sample_of_fault evaluates faulty
  unfold gradient
  rw [parallel, if_pos rfl, turns]
  refine Computation.bind_of_error ?_
  unfold takeTurns pair
  rw [Computation.bind_of_ok (advance_asks ..), sampled]
  unfold takeTurns
  refine Computation.bind_of_error ?_
  beta_reduce
  rw [if_pos rfl]
  rfl

/-- A cost that is refused where the first parameter is positive, and that has no value where
only the second one is. -/
def splitCost : Objective α Unit Unit where
  evaluate point :=
    if 0 < point.getD 0 0 then throw ()
    else if 0 < point.getD 1 0 then pure Scalar.notANumber
    else pure 0
  validate _ := .ok ()
  errorDefinition := 1

end CurveFitting

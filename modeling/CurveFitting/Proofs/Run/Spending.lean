import CurveFitting.Proofs.Run.Comparison
import CurveFitting.Proofs.Run.Evaluations

/-! # Evaluations spent

How many evaluations the moves of a fit make at most, whether they come to their end or
the objective refuses one of them. Nothing but the multipliers bounds a line search, and
nothing but a flag the number of line searches in a step.
-/

namespace CurveFitting

variable {α σ ω ε : Type} [Scalar α] {n : Nat}

private theorem Computation.Costs.made_le {memory error value : Type} {count : memory → Nat}
    {least cost : Nat} {computation : ExceptT error (StateM memory) value}
    {answer : Except error value} {start final : memory}
    (costs : Costs count least cost computation) (ended : computation start = (answer, final)) :
    count final ≤ count start + cost := by
  cases answer with
  | error cause => exact (costs.broken ended).2
  | ok given => exact Nat.le_of_eq (costs.exact ended)

omit [Scalar α] in
private theorem Differences.finiteOnly_made_le {value : Type} {count : σ → Nat} {least cost : Nat}
    {estimate : Evaluation σ (DifferenceError α ε) value}
    (costs : Computation.Costs count least cost estimate) {answer : Except ε (Option value)}
    {memory after : σ} (ended : finiteOnly estimate memory = (answer, after)) :
    count after ≤ count memory + cost := by
  rw [finiteOnly_apply] at ended
  cases ended
  exact costs.made_le rfl

/-! ## Searches for a lower cost -/

inductive Move where
  | lineSearch
  | reset
  deriving DecidableEq

namespace Problem

/-- The passes of a search for a lower cost, in a state and with a flag that tells whether
the approximation has been taken back to the seed. A pass takes it back and goes on, or it
ends with a line search; after one that finds no multiplier it may do both. Nothing but the
flag keeps the passes from going on. -/
inductive Attempts (problem : Problem α σ ε n) :
    (taken : Bool) → State α n → σ → List Move → Except ε (Descent α n) → σ → Prop
  | uphill {state memory moves answer after} (rising : 0 < state.ray.slope)
      (rest : Attempts problem true (problem.reset state) memory moves answer after) :
      Attempts problem false state memory (.reset :: moves) answer after
  | ended {taken state memory answer after} (ready : taken = true ∨ ¬0 < state.ray.slope)
      (search : problem.lineSearch state memory = (answer, after))
      (settled : ∀ stalled, answer = .ok (.stalled stalled) →
        taken = true ∨ (stalled.inverseHessian == problem.seed) = true) :
      Attempts problem taken state memory [.lineSearch] answer after
  | stalled {state memory stalled middle moves answer after} (falling : ¬0 < state.ray.slope)
      (search : problem.lineSearch state memory = (.ok (.stalled stalled), middle))
      (differs : (stalled.inverseHessian == problem.seed) = false)
      (rest : Attempts problem true (problem.reset stalled) middle moves answer after) :
      Attempts problem false state memory (.lineSearch :: .reset :: moves) answer after

variable {problem : Problem α σ ε n} {state : State α n} {memory after : σ} {moves : List Move}
  {answer : Except ε (Descent α n)}

private theorem Attempts.of_taken
    (attempts : problem.Attempts true state memory moves answer after) :
    moves = [.lineSearch] ∧ problem.lineSearch state memory = (answer, after) := by
  cases attempts with
  | ended _ search => exact ⟨rfl, search⟩

theorem attempts_descend (problem : Problem α σ ε n) (state : State α n) (memory : σ) :
    ∃ moves, problem.Attempts false state memory moves (problem.descend state memory).1
      (problem.descend state memory).2 := by
  have last (state : State α n) (memory : σ) {answer after}
      (search : problem.lineSearch state memory = (answer, after)) :
      problem.Attempts true state memory [.lineSearch] answer after :=
    .ended (.inl rfl) search fun _ _ => .inl rfl
  have descends := problem.descends_descend state memory
  generalize (problem.descend state memory).1 = answer,
    (problem.descend state memory).2 = after at descends ⊢
  cases descends with
  | uphill rising search => exact ⟨_, .uphill rising (last _ _ search)⟩
  | direct falling search settled =>
      exact ⟨_, .ended (.inr falling) search fun stalled equal => .inr (settled stalled equal)⟩
  | retried falling first differs second =>
      exact ⟨_, .stalled falling first differs (last _ _ second)⟩

theorem Attempts.descend_eq
    (attempts : problem.Attempts false state memory moves answer after) :
    problem.descend state memory = (answer, after) := by
  unfold descend
  cases attempts with
  | uphill rising rest => rw [if_pos rising, rest.of_taken.2]
  | ended ready search settled =>
      have falling := ready.resolve_left Bool.false_ne_true
      rw [if_neg falling, Computation.bind_apply, search]
      rcases answer with cause | _ | stalled | _
      · rfl
      · rfl
      · have same := (settled stalled rfl).resolve_left Bool.false_ne_true
        simp only [same, if_true]
        rfl
      · rfl
  | stalled falling search differs rest =>
      rw [if_neg falling, Computation.bind_apply, search]
      simp only [differs]
      exact rest.of_taken.2

theorem Attempts.count_lineSearch_le
    (attempts : problem.Attempts false state memory moves answer after) :
    moves.count .lineSearch ≤ 2 := by
  cases attempts with
  | uphill _ rest => rw [rest.of_taken.1]; decide
  | ended => decide
  | stalled _ _ _ rest => rw [rest.of_taken.1]; decide

theorem Attempts.count_reset_le
    (attempts : problem.Attempts false state memory moves answer after) :
    moves.count .reset ≤ 1 := by
  cases attempts with
  | uphill _ rest => rw [rest.of_taken.1]; decide
  | ended => decide
  | stalled _ _ _ rest => rw [rest.of_taken.1]; decide

end Problem

/-! ## Moves -/

private theorem LineSearch.Tries.made_le {objective : Objective α σ ε} {count : σ → Nat}
    {ray : Ray α n} {armijo : α} {callLimit : Nat} {steps : List α} {calls : Nat} {memory after : σ}
    {found : Result α n ε} (counted : objective.CountedBy count)
    (tries : Tries objective ray armijo callLimit steps calls memory found after) :
    count after ≤ count memory + steps.length := by
  induction tries with
  | stalled => exact Nat.le_refl _
  | outOfCalls => exact Nat.le_add_right _ _
  | refused _ fails =>
      rw [counted.made fails, List.length_cons]
      omega
  | accepted _ evaluates =>
      rw [counted.made evaluates, List.length_cons]
      omega
  | rejected _ evaluates _ _ induction =>
      rw [counted.made evaluates] at induction
      rw [List.length_cons]
      omega

namespace Problem

def multiplierCount (problem : Problem α σ ε n) : Nat :=
  (LineSearch.multipliers problem.config.minStep).length

/-- As many evaluations as a turn may make: two line searches, a gradient and a check. -/
def turnBound (problem : Problem α σ ε n) : Nat :=
  2 * problem.multiplierCount + 2 * n + 2 * (n * n)

variable {problem : Problem α σ ε n} {count : σ → Nat} {state : State α n} {memory after : σ}
  {x : Vector α n} {cost : α} {calls : Nat} (counted : problem.objective.CountedBy count)

include counted

theorem lineSearch_made_le {answer : Except ε (Descent α n)}
    (search : problem.lineSearch state memory = (answer, after)) :
    count after ≤ count memory + problem.multiplierCount := by
  rw [lineSearch_apply] at search
  cases search
  exact (problem.tries_found state memory).made_le counted

private theorem Attempts.made_le {taken : Bool} {moves : List Move}
    {answer : Except ε (Descent α n)}
    (attempts : problem.Attempts taken state memory moves answer after) :
    count after ≤ count memory + moves.count .lineSearch * problem.multiplierCount := by
  induction attempts with
  | uphill _ _ induction => exact induction
  | ended _ search =>
      have spent := lineSearch_made_le counted search
      exact Nat.le_trans spent (Nat.add_le_add_left (Nat.le_of_eq (Nat.one_mul _).symm) _)
  | @stalled _ _ _ _ moves _ _ _ search _ _ induction =>
      have spent := lineSearch_made_le counted search
      have moved : (.lineSearch :: .reset :: moves : List Move).count .lineSearch =
          moves.count .lineSearch + 1 := by simp
      rw [moved, Nat.add_mul]
      omega

private theorem descend_made_le {answer : Except ε (Descent α n)}
    (search : problem.descend state memory = (answer, after)) :
    count after ≤ count memory + 2 * problem.multiplierCount := by
  rcases problem.attempts_descend state memory with ⟨moves, attempts⟩
  rw [search] at attempts
  exact Nat.le_trans (attempts.made_le counted)
    (Nat.add_le_add_left (Nat.mul_le_mul_right _ attempts.count_lineSearch_le) _)

private theorem gradient?_made_le {answer : Except ε (Option (GradientEstimate α n))}
    (gradient : problem.gradient? calls x cost memory = (answer, after)) :
    count after ≤ count memory + 2 * n :=
  Differences.finiteOnly_made_le (Differences.gradient_costs counted _ x cost) gradient

private theorem hessian?_made_le {answer : Except ε (Option (HessianEstimate α n))}
    (hessian : problem.hessian? calls x cost memory = (answer, after)) :
    count after ≤ count memory + 2 * (n * n) :=
  Differences.finiteOnly_made_le (Differences.hessian_costs counted _ x cost) hessian

theorem iterate_made_le {answer : Except ε (Step α n)}
    (stepped : problem.iterate state memory = (answer, after)) :
    count after ≤ count memory + (2 * problem.multiplierCount + 2 * n) := by
  have iterates := problem.iterates_iterate state memory
  rw [stepped] at iterates
  have broken {found} (descent : problem.descend state memory = (found, after)) :
      count after ≤ count memory + (2 * problem.multiplierCount + 2 * n) := by
    have searched := descend_made_le counted descent
    omega
  have measured {found estimate calls} {x : Vector α n} {cost : α} {middle : σ}
      (descent : problem.descend state memory = (found, middle))
      (gradient : problem.gradient? calls x cost middle = (estimate, after)) :
      count after ≤ count memory + (2 * problem.multiplierCount + 2 * n) := by
    have searched := descend_made_le counted descent
    have last := gradient?_made_le counted gradient
    omega
  cases iterates with
  | refused descent => exact broken descent
  | stalled descent => exact broken descent
  | outOfCalls descent => exact broken descent
  | gradientRefused descent gradient => exact measured descent gradient
  | failed descent gradient => exact measured descent gradient
  | advanced descent gradient => exact measured descent gradient

private theorem refine_made_le {answer : Except ε (Refinement α n)}
    (refined : problem.refine state memory = (answer, after)) :
    count after ≤ count memory + 2 * (n * n) := by
  have refines := problem.refines_refine state memory
  rw [refined] at refines
  cases refines with
  | refused hessian => exact hessian?_made_le counted hessian
  | failed hessian => exact hessian?_made_le counted hessian
  | indefinite hessian => exact hessian?_made_le counted hessian
  | definite hessian => exact hessian?_made_le counted hessian

private theorem start_made_le {answer : Except ε (Start α n)}
    (started : problem.start x memory = (answer, after)) :
    count after ≤ count memory + (1 + 2 * n) := by
  have starts := problem.starts_start memory x
  rw [started] at starts
  have measured {cost : α} {middle : σ} {found calls}
      (value : problem.objective.evaluate x.toList memory = (.ok cost, middle))
      (gradient : problem.gradient? calls x cost middle = (found, after)) :
      count after ≤ count memory + (1 + 2 * n) := by
    have first := counted.made value
    have last := gradient?_made_le counted gradient
    omega
  cases starts with
  | refused value =>
      rw [counted.made value]
      omega
  | nonFinite value =>
      rw [counted.made value]
      omega
  | gradientRefused value _ gradient => exact measured value gradient
  | failed value _ gradient => exact measured value gradient
  | ready value _ gradient => exact measured value gradient

/-! ## Turns -/

variable {observer : Observer α ω} {session final : Session α σ ω}

private theorem check_made_le {answer : Except (FitError α ε) (Check α n)}
    (checked : problem.check observer state session = (answer, final)) :
    count final.objectiveMemory ≤ count session.objectiveMemory + 2 * (n * n) := by
  have checks := problem.checks_check observer state session
  rw [checked] at checks
  cases checks with
  | noRoom => exact Nat.le_add_right _ _
  | refused _ refinement => exact (refine_made_le counted refinement :)
  | failed _ refinement => exact (refine_made_le counted refinement :)
  | stopped _ refinement telling =>
      subst telling
      exact (refine_made_le counted refinement :)
  | passed _ refinement telling =>
      subst telling
      exact (refine_made_le counted refinement :)

private theorem settle_made_le {answer : Except (FitError α ε) (Ending α n)}
    (settled : problem.settle observer state session = (answer, final)) :
    count final.objectiveMemory ≤ count session.objectiveMemory + 2 * (n * n) := by
  have settles := problem.settles_settle observer state session
  rw [settled] at settles
  cases settles with
  | unchecked => exact Nat.le_add_right _ _
  | far => exact Nat.le_add_right _ _
  | refused _ _ checked => exact check_made_le counted checked
  | ended _ _ checked => exact check_made_le counted checked
  | confirmed _ _ checked => exact check_made_le counted checked
  | refuted _ _ checked => exact (check_made_le counted checked :)

private theorem afterStep_made_le {multiplier : α} {updated : Bool}
    {answer : Except (FitError α ε) (Check α n)}
    (followed : problem.afterStep observer state multiplier updated session = (answer, final)) :
    count final.objectiveMemory ≤ count session.objectiveMemory + 2 * (n * n) := by
  have follows := problem.follows_afterStep observer state session multiplier updated
  rw [followed] at follows
  cases follows with
  | stopped telling =>
      subst telling
      exact Nat.le_add_right _ _
  | unchecked telling =>
      subst telling
      exact Nat.le_add_right _ _
  | checked telling _ checked =>
      subst telling
      exact (check_made_le counted checked :)

private theorem turn_made_le {answer : Except (FitError α ε) (Check α n)}
    (turned : problem.turn observer state session = (answer, final)) :
    count final.objectiveMemory ≤ count session.objectiveMemory + problem.turnBound := by
  have turns := problem.turns_turn observer state session
  rw [turned] at turns
  have broken {step memory}
      (stepped : problem.iterate state session.objectiveMemory = (step, memory)) :
      count memory ≤ count session.objectiveMemory + problem.turnBound :=
    Nat.le_trans (iterate_made_le counted stepped)
      (Nat.add_le_add_left (Nat.le_add_right _ _) _)
  have checked {step memory}
      (stepped : problem.iterate state session.objectiveMemory = (step, memory))
      (last : count final.objectiveMemory ≤ count memory + 2 * (n * n)) :
      count final.objectiveMemory ≤ count session.objectiveMemory + problem.turnBound := by
    have first := iterate_made_le counted stepped
    unfold turnBound
    omega
  cases turns with
  | refused step => exact broken step
  | refusedStalled step settled => exact checked step (settle_made_le counted settled :)
  | stalled step settled => exact checked step (settle_made_le counted settled :)
  | outOfCalls step => exact broken step
  | failed step => exact broken step
  | refusedAdvanced step followed => exact checked step (afterStep_made_le counted followed :)
  | advanced step followed => exact checked step (afterStep_made_le counted followed :)

/-! ## Runs -/

variable {origin : Session α σ ω}

/-- What has been spent at a loop head leaves room for the turns that are left. -/
theorem AtHead.made_le {remaining : Nat}
    (head : problem.AtHead observer x origin remaining state session) :
    count session.objectiveMemory + remaining * problem.turnBound ≤
      count origin.objectiveMemory + (1 + 2 * n) +
        problem.config.maxIterations * problem.turnBound := by
  induction head with
  | first started => exact Nat.add_le_add_right (start_made_le counted started) _
  -- Each turn spends no more than was set aside for it.
  | next _ _ turned induction =>
      have spent := turn_made_le counted turned
      rw [Nat.add_mul] at induction
      omega

theorem run_made_le {answer : Except (FitError α ε) (Ending α n)}
    (ran : problem.run observer x origin = (answer, final)) :
    count final.objectiveMemory ≤ count origin.objectiveMemory + (1 + 2 * n) +
      problem.config.maxIterations * problem.turnBound := by
  have ends := problem.ends_run observer x origin
  rw [ran] at ends
  have last {remaining : Nat} {state : State α n} {session : Session α σ ω} {check}
      (head : problem.AtHead observer x origin (remaining + 1) state session)
      (turned : problem.turn observer state session = (check, final)) :
      count final.objectiveMemory ≤ count origin.objectiveMemory + (1 + 2 * n) +
        problem.config.maxIterations * problem.turnBound := by
    have before := head.made_le counted
    have spent := turn_made_le counted turned
    rw [Nat.add_mul] at before
    omega
  cases ends with
  | refusedStart started => exact Nat.le_add_right_of_le (start_made_le counted started)
  | failedStart started => exact Nat.le_add_right_of_le (start_made_le counted started)
  | limit head => exact Nat.le_of_add_right_le (head.made_le counted :)
  | refused head _ turned => exact last head turned
  | ended head _ turned => exact last head turned

end Problem

end CurveFitting

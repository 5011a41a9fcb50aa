import CurveFitting.Proofs.Accounting
import CurveFitting.Proofs.Binary64.Halves
import CurveFitting.Proofs.Budget
import CurveFitting.Proofs.Limits
import CurveFitting.Proofs.Run.CheckedHeads
import CurveFitting.Proofs.Run.Spending

/-! # The end of a fit

However an objective and an observer answer, a fit comes to its end after a number of
evaluations that its settings and the number of its parameters bound. The limit on
evaluations bounds its steps, too: each of them is charged a line search with at least one
evaluation and a gradient, as much as the start has been charged before.
-/

namespace CurveFitting

variable {α σ ω ε : Type} [Scalar α] {n : Nat}

namespace Problem

variable {problem : Problem α σ ε n} {observer : Observer α ω} {state next : State α n}
  {memory after : σ} {x : Vector α n} {origin session final : Session α σ ω}

/-! ## Charges of steps -/

private theorem turn_iterations_le {check : Check α n}
    (turned : problem.turn observer state session = (.ok check, final)) :
    check.state.iterations ≤ state.iterations + 1 := by
  rcases turn_samePoint turned with same | ⟨moved, _, _, _, stepped, same⟩
  · rw [same.iterations]
    exact Nat.le_succ _
  · rw [same.iterations, iterate_iterations stepped]

variable (given : LineSearch.multipliers problem.config.minStep ≠ [])

include given

private theorem iterate_charges_step {multiplier : α} {updated : Bool}
    (room : state.calls < problem.callLimit)
    (stepped : problem.iterate state memory = (.ok (.advanced next multiplier updated), after)) :
    state.calls + (2 * n + 1) ≤ next.calls := by
  rcases iterate_eq_advanced stepped with
    ⟨trial, searched, middle, estimate, descent, gradient, rfl⟩
  have spent : state.calls < searched.calls := descend_calls_lt given room descent
  have charged : ((problem.moveTo searched trial estimate).1).calls = searched.calls + 2 * n := by
    rw [← gradient?_calls gradient]
    rfl
  omega

private theorem turn_charges_step (room : state.calls < problem.callLimit)
    (turned : problem.turn observer state session = (.ok (.passed next), final)) :
    state.calls + (2 * n + 1) ≤ next.calls := by
  rcases turn_eq_ok turned with ⟨step, memory, stepped, last⟩
  rcases turn_eq_passed turned with ⟨moved, _, _, _, advanced, _⟩
  cases stepped.symm.trans advanced
  have charged := iterate_charges_step given room advanced
  have later : moved.calls ≤ (Check.passed next).state.calls := by
    rcases last with same | ⟨checked, _, _, found, same⟩
    · exact Nat.le_of_eq (congrArg State.calls same.symm)
    · exact same ▸ check_le found
  exact Nat.le_trans charged later

/-- The start and each step so far have been charged at least a gradient and one more
evaluation. -/
theorem AtHead.charges {remaining : Nat}
    (head : problem.AtHead observer x origin remaining state session) :
    (state.iterations + 1) * (2 * n + 1) ≤ state.calls := by
  induction head with
  | first started =>
      rw [start_iterations started, start_calls started]
      omega
  | next _ room turned induction =>
      have charged := turn_charges_step given room turned
      rw [turn_iterations turned, Nat.add_mul]
      omega

theorem AtHead.iterations_lt {remaining : Nat}
    (head : problem.AtHead observer x origin remaining state session)
    (room : state.calls < problem.callLimit) :
    state.iterations + 1 ≤ (problem.callLimit - 1) / (2 * n + 1) := by
  rw [Nat.le_div_iff_mul_le (Nat.succ_pos _)]
  exact Nat.le_trans (head.charges given) (Nat.le_sub_one_of_lt room)

theorem AtHead.iterations_le {remaining : Nat}
    (head : problem.AtHead observer x origin remaining state session) :
    state.iterations ≤ (problem.callLimit - 1) / (2 * n + 1) := by
  cases head with
  | first started =>
      rw [start_iterations started]
      exact Nat.zero_le _
  | next before room turned =>
      rw [turn_iterations turned]
      exact before.iterations_lt given room

theorem run_iterations_le {ending : Ending α n}
    (ran : problem.run observer x origin = (.ok ending, final)) :
    ending.state.iterations ≤ (problem.callLimit - 1) / (2 * n + 1) := by
  have ends := problem.ends_run observer x origin
  rw [ran] at ends
  cases ends with
  | failedStart started =>
      rw [(start_failed started).1]
      exact Nat.zero_le _
  | limit head => exact head.iterations_le given
  | ended head room turned =>
      exact Nat.le_trans (turn_iterations_le turned) (head.iterations_lt given room)

omit given

theorem run_iterations_le_max {ending : Ending α n}
    (ran : problem.run observer x origin = (.ok ending, final)) :
    ending.state.iterations ≤ problem.config.maxIterations := by
  have ends := problem.ends_run observer x origin
  rw [ran] at ends
  cases ends with
  | failedStart started =>
      rw [(start_failed started).1]
      exact Nat.zero_le _
  | limit head => exact Nat.le_of_add_left_le (Nat.le_of_eq head.remaining_eq)
  | ended head _ turned =>
      have made := turn_iterations_le turned
      have left := head.remaining_eq
      change (Check.ended _).state.iterations ≤ _
      omega

end Problem

/-! ## Minimization -/

section

variable {objective : Objective α σ ε} {parameters : ParameterSet α} {config : Config α}
  {observer : Observer α ω} {origin final : Session α σ ω}

namespace Minimizes

private theorem iterations_le {minimum : Minimum α parameters.size}
    (minimizes : Minimizes objective parameters config observer origin (.ok minimum) final)
    (given : LineSearch.multipliers config.minStep ≠ []) :
    minimum.iterations ≤ config.maxIterations ∧ minimum.iterations ≤
      (config.callLimit parameters.size - 1) / (2 * parameters.size + 1) := by
  cases minimizes with
  | ended prepared ran =>
      have same := (Problem.prepare_eq_ok prepared).1
      rw [← Problem.callLimit_of_prepare prepared]
      refine ⟨?_, Problem.run_iterations_le (by rwa [same]) ran⟩
      rw [← same]
      exact Problem.run_iterations_le_max ran

private theorem made_le {count : σ → Nat} (counted : objective.CountedBy count)
    {answer : Except (FitError α ε) (Minimum α parameters.size)}
    (minimizes : Minimizes objective parameters config observer origin answer final) :
    count final.objectiveMemory ≤ count origin.objectiveMemory + (1 + 2 * parameters.size) +
      config.maxIterations * (2 * (LineSearch.multipliers config.minStep).length +
        2 * parameters.size + 2 * (parameters.size * parameters.size)) := by
  cases minimizes with
  | invalid => exact Nat.le_add_right_of_le (Nat.le_add_right _ _)
  | refused prepared ran =>
      rcases Problem.prepare_eq_ok prepared with ⟨rfl, rfl, _⟩
      exact Problem.run_made_le counted ran
  | ended prepared ran =>
      rcases Problem.prepare_eq_ok prepared with ⟨rfl, rfl, _⟩
      exact (Problem.run_made_le counted ran :)

end Minimizes

end

/-- Every fit ends, with a result or with an error, within a number of
evaluations that does not depend on what the objective and the observer answer. The
multipliers of its line searches are the halves of one that reach the floor, and there is
at least one of them. A step makes at most two line searches of at most as many evaluations
as there are multipliers, and takes the approximation back to the seed at most once. The
steps of a result keep to their own limit, and to what the limit on evaluations has room
for when the start and each step are charged a gradient and one more evaluation. -/
theorem fits_end_within_bounds [Scalar.ExhaustsHalves α] (objective : Objective α σ ε)
    (parameters : ParameterSet α) (config : Config α) (observer : Observer α ω)
    (objectiveMemory : σ) (observerMemory : ω) :
    let size := parameters.size
    let limit := config.callLimit size
    let tries := (LineSearch.multipliers config.minStep).length
    let counting := objective.withFaults ⟨none, none⟩
    let origin := Session.start (0, objectiveMemory) observerMemory
    (1 ≤ tries ∧ ∀ count, count < tries ↔ config.minStep ≤ Scalar.halved count) ∧
    (minimize counting parameters config observer origin).2.objectiveMemory.1 ≤
      1 + 2 * size + config.maxIterations * (2 * tries + 2 * size + 2 * (size * size)) ∧
    (∀ problem, Problem.prepare counting parameters config = .ok problem →
      (∀ state memory,
        (problem.lineSearch state memory).2.1 ≤ memory.1 + tries ∧
        (∃ moves, problem.Attempts false state memory moves
          (problem.descend state memory).1 (problem.descend state memory).2) ∧
        (∀ moves answer after, problem.Attempts false state memory moves answer after →
          problem.descend state memory = (answer, after) ∧
            moves.count .lineSearch ≤ 2 ∧ moves.count .reset ≤ 1) ∧
        (problem.iterate state memory).2.1 ≤ memory.1 + (2 * tries + 2 * size)) ∧
      ∀ remaining state session,
        problem.AtHead observer parameters.values origin remaining state session →
          remaining + state.iterations = config.maxIterations) ∧
    ∀ minimum, (minimize objective parameters config observer
        (Session.start objectiveMemory observerMemory)).1 = .ok minimum →
      minimum.iterations ≤ config.maxIterations ∧
      (limit = 0 → minimum.iterations = 0) ∧
      (1 ≤ limit → minimum.iterations ≤ (limit - 1) / (2 * size + 1)) := by
  intro size limit tries counting origin
  have given := config.multipliers_ne_nil
  have counted : counting.CountedBy Prod.fst := objective.withFaults_countedBy _
  refine ⟨⟨?_, ?_⟩, ?_, ?_, ?_⟩
  · exact List.length_pos_of_ne_nil given
  · intro count
    exact LineSearch.lt_length_multipliers config.minStep_positive
  · have minimizes := minimizes_minimize counting parameters config observer origin
    exact Nat.le_trans (minimizes.made_le counted)
      (Nat.le_of_eq (by rw [← Nat.add_assoc]; exact congrArg (· + _ + _) (Nat.zero_add 1)))
  · intro problem prepared
    rcases Problem.prepare_eq_ok prepared with ⟨rfl, same, _⟩
    rw [← same] at counted
    refine ⟨?_, fun _ _ _ head => head.remaining_eq⟩
    intro state memory
    refine ⟨Problem.lineSearch_made_le counted rfl, problem.attempts_descend state memory, ?_,
      Problem.iterate_made_le counted rfl⟩
    intro moves answer after attempts
    exact ⟨attempts.descend_eq, attempts.count_lineSearch_le, attempts.count_reset_le⟩
  · intro minimum answered
    have minimizes := minimizes_minimize objective parameters config observer
      (Session.start objectiveMemory observerMemory)
    rw [answered] at minimizes
    rcases minimizes.iterations_le given with ⟨steps, charged⟩
    refine ⟨steps, ?_, fun _ => charged⟩
    intro none
    have bound : minimum.iterations ≤ (limit - 1) / (2 * size + 1) := charged
    rw [none, Nat.zero_sub, Nat.zero_div] at bound
    exact Nat.le_zero.mp bound

/-- With the usual settings a line search tries 34 multipliers, and the limit of 305
evaluations has room for 101 steps in one parameter. -/
theorem flatCost_ends_within_bounds :
    let fit := (minimize flatCost oneParameter Config.default Observer.silent
      (Session.start () ())).1
    (LineSearch.multipliers (Config.default : Config Float).minStep).length = 34 ∧
      (∀ count, count < 34 ↔ (Config.default : Config Float).minStep ≤ Scalar.halved count) ∧
      ∃ minimum, fit = .ok minimum ∧ minimum.iterations ≤ 101 := by
  intro fit
  have tries : (LineSearch.multipliers (Config.default : Config Float).minStep).length = 34 := by
    decide +kernel
  have reported : fit.toOption.isSome = true := by decide +kernel
  rcases fits_end_within_bounds flatCost oneParameter Config.default Observer.silent ()
    () with ⟨⟨_, halves⟩, _, _, bounds⟩
  rw [tries] at halves
  refine ⟨tries, halves, ?_⟩
  rcases answered : fit with cause | minimum
  · rw [answered] at reported
    cases reported
  · exact ⟨minimum, rfl, (bounds minimum answered).2.2 (by decide)⟩

end CurveFitting

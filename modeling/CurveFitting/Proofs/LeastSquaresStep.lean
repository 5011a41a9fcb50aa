import CurveFitting.Proofs.EventStream
import CurveFitting.Proofs.LeastSquaresCovariance
import CurveFitting.Proofs.NewtonStep

/-! # The last step of fits by least squares

A fit by least squares that goes on after a check solves the normal equations with its
next step, and takes no other.
-/

namespace CurveFitting

open Exact Matrix

variable {n : Nat}

namespace Exact

/-! ## The solution -/

def ordinates (points : List (ℝ × ℝ)) : Fin points.length → ℝ := fun k => (points.get k).2

/-- The solution of the normal equations of a dataset. -/
noncomputable def solution (points : List (ℝ × ℝ)) : Fin n → ℝ :=
  (normalMatrix points)⁻¹ *ᵥ (design points)ᵀ *ᵥ ordinates points

theorem squaresSlope_eq (points : List (ℝ × ℝ)) (coefficients : Fin n → ℝ) :
    squaresSlope points coefficients =
      (2 : ℝ) • ((design points)ᵀ *ᵥ (design points *ᵥ coefficients - ordinates points)) := by
  rw [squaresSlope, ← Fin.sum_univ_fun_getElem]
  funext j
  rw [Finset.sum_apply, Pi.smul_apply, mulVec, dotProduct, Finset.smul_sum]
  refine Finset.sum_congr rfl fun k _ => ?_
  have row : (design points *ᵥ coefficients) k = coefficients ⬝ᵥ powers (points.get k).1 :=
    dotProduct_comm _ _
  rw [Pi.sub_apply, row, transpose_apply]
  simp only [Pi.smul_apply, smul_eq_mul, powers, design, of_apply, ordinates,
    List.get_eq_getElem]
  ring

private theorem squaresSlope_solution {points : List (ℝ × ℝ)}
    (distinct : n ≤ (points.map Prod.fst).toFinset.card) :
    squaresSlope points (solution points : Fin n → ℝ) = 0 := by
  have invertible :=
    (isUnit_iff_isUnit_det _).mp (normalMatrix_posDef (n := n) distinct).isUnit
  have solved : (design points : Matrix _ (Fin n) ℝ)ᵀ *ᵥ
      (design points : Matrix _ (Fin n) ℝ) *ᵥ solution points =
      (design points)ᵀ *ᵥ ordinates points := by
    rw [mulVec_mulVec, ← normalMatrix, solution, mulVec_mulVec, mul_nonsing_inv _ invertible,
      one_mulVec]
  rw [squaresSlope_eq, mulVec_sub, solved, sub_self, smul_zero]

private theorem squares_solution_lt {points : List (ℝ × ℝ)}
    (distinct : n ≤ (points.map Prod.fst).toFinset.card) {coefficients : Fin n → ℝ}
    (other : coefficients ≠ solution points) :
    squares points (solution points : Fin n → ℝ) < squares points coefficients :=
  (isQuadratic_squares points).lt_of_ne_minimum (squaresHessian_posDef distinct)
    (squaresSlope_solution distinct) other

end Exact

/-! ## Fits of polynomials -/

/-- A fit of a polynomial that goes on after a check comes to the least-squares solution with
its next step. It takes the full step, confirms the inverse Hessian, has no distance left,
and tells of no further step. A check that no step precedes ends the fit. -/
theorem step_after_check_solves {ω : Type} {degree : Nat} {points : List (ℝ × ℝ)}
    {errorDefinition : ℝ} {parameters : ParameterSet Exact} {config : Config Exact}
    (observer : Observer Exact ω) (first : ω)
    (distinct : degree + 1 ≤ (points.map Prod.fst).toFinset.card)
    (modest : config.armijo ≤ real (1 / 2)) :
    let origin := Session.start () first
    let outcome := minimize (polynomialFit degree points errorDefinition).objective parameters
      config observer origin
    let best : Fin parameters.size → ℝ := solution points
    ∀ before check after iteration, outcome.2.events.toList = before ++ check :: after →
      check.check? = some iteration →
      parameters.size = degree + 1 ∧
      (iteration = 0 → after = []) ∧
      (iteration ≠ 0 → observer.answerTo first before check ≠ some .stopEarly →
        ¬check.edm < config.tolerance → iteration < config.maxIterations →
        check.calls < config.callLimit parameters.size →
        ∃ problem remaining head session next rest,
          Problem.prepare (polynomialFit degree points errorDefinition).objective parameters
            config = .ok problem ∧
          problem.AtHead observer parameters.values origin (remaining + 1) head session ∧
          session.events.toList = before ++ [check] ∧
          problem.iterate head session.objectiveMemory =
            (.ok (.advanced next 1 true), session.objectiveMemory) ∧
          next.inverseHessian = matrix ((2 : ℝ) • normalMatrix points)⁻¹ ∧
          after = .iterated (iteration + 1) next.calls (vector best).toList
            (real (squares points best)) (real 0) 1 true :: rest ∧
          (∀ event ∈ rest, event.step? = none) ∧
          ∀ coefficients ≠ best, squares points best < squares points coefficients) := by
  intro origin outcome best before check after iteration told checking
  have remembers : origin.Remembers observer first := rfl
  have minimizes := minimizes_minimize (polynomialFit degree points errorDefinition).objective
    parameters config observer origin
  rcases prepared : Problem.prepare (polynomialFit degree points errorDefinition).objective
    parameters config with cause | problem
  · have untold : outcome.2 = origin := congrArg Prod.snd (minimize_of_prepare_error prepared)
    rw [untold] at told
    exact absurd told (by simp [origin, Session.start])
  · have validated := Problem.validate_of_prepare prepared
    have size := size_of_validate validated
    have enough := size ▸ distinct
    have total : Total problem.objective (squares points : (Fin parameters.size → ℝ) → ℝ) :=
      (Problem.prepare_eq_ok prepared).2.1 ▸ total_objective validated
    rcases Problem.prepare_eq_ok prepared with ⟨rfl, _⟩
    have isPositive := Problem.isPositive_of_prepare prepared
    rcases isPositive.errorDefinition with ⟨definition, defined, positive⟩
    refine ⟨size, ?_, ?_⟩
    · rintro rfl
      rcases minimizes.inOrder rfl remembers with ⟨_, inOrder, _⟩
      have member : check ∈ outcome.2.events.toList := by simp [told]
      have single := told.symm.trans (inOrder.alone check member checking)
      rcases List.append_eq_singleton_iff.mp single with ⟨_, last⟩ | ⟨_, none⟩
      · exact (List.cons.inj last).2
      · cases none
    · intro stepped unstopped far stepsLeft callsLeft
      rcases Nat.exists_eq_succ_of_ne_zero stepped with ⟨step, rfl⟩
      have zero := squaresSlope_solution (n := parameters.size) enough
      rw [show outcome.2.events = _ from minimize_events prepared] at told
      rcases Problem.run_after_check total (isQuadratic_squares points)
          (squaresHessian_posDef enough) defined positive zero modest isPositive
          parameters.values_real rfl remembers told checking unstopped far stepsLeft callsLeft with
        ⟨remaining, head, session, next, rest, atHead, events, moves, counted, knows, rfl, alone⟩
      refine ⟨problem, remaining, head, session, next, rest, rfl, atHead, events, moves, ?_, ?_,
        alone, fun _ other => squares_solution_lt enough other⟩
      · rw [knows.inverseHessian, squaresHessian_eq]
      · rw [State.iteratedEvent, counted, knows.point, knows.cost, knows.edm_eq_zero zero]

/-! ## One point -/

namespace OnePoint

/-- Settings with a tolerance that the first step does not reach. -/
noncomputable def strictConfig : Config Exact :=
  { config with
    tolerance := real 0.1
    tolerance_finite := rfl
    tolerance_positive := lt_iff.mpr (by norm_num) }

noncomputable def strictProblem : Problem Exact Unit LeastSquaresError 1 :=
  { problem with config := strictConfig }

theorem strictPrepared : Problem.prepare (polynomialFit 0 [(0, 1)] 1).objective singleParameter
    strictConfig = .ok strictProblem :=
  Problem.prepare_eq_ok_iff.mpr ⟨rfl, ⟨rfl, lt_iff.mpr one_pos⟩, rfl, rfl⟩

private theorem edm_of_refine {state next : State Exact 1} {positiveDefinite : Bool}
    (knows : state.Knows (squares [(0, 1)]) (squaresSlope [(0, 1)]))
    (point : state.x = vector fun _ => 1 / 2)
    (refined : problem.refine state () = (.ok (.checked next positiveDefinite), ())) :
    next.edm = real (1 / 4) := by
  have posDef : (squaresHessian [(0, 1)] : Matrix (Fin 1) (Fin 1) ℝ).PosDef :=
    squaresHessian_posDef (by simp)
  rcases knows with ⟨x, xEqual, costEqual, gradientEqual⟩
  rcases vector_injective (xEqual.symm.trans point) with rfl
  have distance := (Problem.refine_knowsAll (isQuadratic_squares (n := 1) [(0, 1)]) posDef
    total.computes xEqual costEqual gradientEqual rfl one_pos refined).2.edm
  rw [distance, inv_squaresHessian (by simp), normalMatrix_eq, inv_one, squaresSlope_eq]
  norm_num [dotProduct, smul_mulVec]

private theorem goes_on_after_check : ∃ before check after,
    (strictProblem.run insistent (vector fun _ => 0) (Session.start () ())).2.events.toList =
        before ++ check :: after ∧
      check.check? = some 1 ∧ check.edm = real (1 / 4) ∧ check.calls = 8 := by
  rcases first_step with ⟨first, next, updated, started, calls, step, point, nextCalls⟩
  have strictStep : strictProblem.iterate first () = (.ok (.advanced next 1 updated), ()) := step
  have room : first.calls < strictProblem.callLimit := by
    rw [calls]
    decide
  have nextRoom : next.calls + 2 * (1 * 1) ≤ strictProblem.callLimit := by
    rw [nextCalls]
    decide
  rcases Problem.refine_of_total total point () with ⟨last, positiveDefinite, refined⟩
  have knows := ((Problem.Reaches.started started).iterated step).knows
    (isQuadratic_squares [(0, 1)]) total.computes isPositive
  have distance := edm_of_refine knows point refined
  have far : strictProblem.isClose last = false := by
    rw [Problem.isClose, distance]
    refine decide_eq_false fun close => ?_
    have below : (1 / 4 : ℝ) < 0.1 := lt_iff.mp close
    norm_num at below
  have asks (event : Event Exact) (memory : Unit) :
      (insistent.observe event memory).action = some .refineHessian := rfl
  have head : strictProblem.AtHead insistent (vector fun _ => 0) (Session.start () ()) 1000 first
      _ := .first started
  rcases Problem.turn_of_iterate asks strictStep nextRoom refined with ⟨middle, turned, told⟩
  rw [Problem.convergeIfClose, far, if_neg Bool.false_ne_true] at turned
  have grows : middle.events.toList <+:
      (strictProblem.search insistent 999 last middle).2.events.toList :=
    Problem.search_grows 999 last middle
  rw [← (head.next room turned).run_eq_search, told, Array.toList_push] at grows
  rcases grows with ⟨after, events⟩
  have same : next.SamePoint last := Problem.refine_samePoint refined
  refine ⟨[next.iteratedEvent 1 updated], last.refinedEvent next.edm positiveDefinite, after, ?_,
    ?_, distance, ?_⟩
  · exact events.symm
  · exact congrArg some (by rw [same.iterations, Problem.iterate_iterations step,
      Problem.start_iterations started])
  · exact (Problem.refine_calls refined).trans (by rw [nextCalls])

end OnePoint

theorem fit_of_one_point_solved_after_check :
    let outcome := minimize (polynomialFit 0 [(0, 1)] 1).objective singleParameter
      OnePoint.strictConfig OnePoint.insistent (Session.start () ())
    ∃ before check calls rest, outcome.2.events.toList =
        before ++ check :: .iterated 2 calls (vector fun _ : Fin 1 => 1).toList (real 0) (real 0) 1
          true :: rest ∧
      check.check? = some 1 ∧ ∀ event ∈ rest, event.step? = none := by
  intro outcome
  rcases OnePoint.goes_on_after_check with ⟨before, check, after, ran, checking, distance, calls⟩
  have told : outcome.2.events.toList = before ++ check :: after := by
    rw [← ran]
    exact congrArg Array.toList (minimize_events OnePoint.strictPrepared)
  have far : ¬check.edm < OnePoint.strictConfig.tolerance := by
    rw [distance]
    intro close
    have below : (1 / 4 : ℝ) < 0.1 := lt_iff.mp close
    norm_num at below
  have modest : OnePoint.strictConfig.armijo ≤ real (1 / 2) := le_iff.mpr (by norm_num)
  rcases step_after_check_solves OnePoint.insistent () (by decide)
      modest before check after 1 told checking with ⟨_, _, solves⟩
  rcases solves one_ne_zero nofun far (by decide) (by rw [calls]; decide) with
    ⟨_, _, _, _, next, rest, _, _, _, _, _, solved, alone, least⟩
  -- The constant one leaves no residual, so it is the solution.
  have best : (fun _ : Fin 1 => (1 : ℝ)) = solution [(0, 1)] := by
    by_contra other
    have below : squares [(0, 1)] (solution [(0, 1)] : Fin 1 → ℝ) <
        squares [(0, 1)] (fun _ : Fin 1 => (1 : ℝ)) := least _ other
    rw [squares_eq_zero OnePoint.interpolates] at below
    exact absurd below (not_lt.mpr (squares_nonneg _ _))
  change after = .iterated 2 next.calls (vector (solution [(0, 1)] : Fin 1 → ℝ)).toList
    (real (squares [(0, 1)] (solution [(0, 1)] : Fin 1 → ℝ))) (real 0) 1 true :: rest at solved
  rw [← best, squares_eq_zero OnePoint.interpolates] at solved
  exact ⟨before, check, next.calls, rest, solved ▸ told, checking, alone⟩

end CurveFitting

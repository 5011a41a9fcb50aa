import Mathlib.Algebra.BigOperators.Group.List.Basic
import Mathlib.LinearAlgebra.Lagrange
import CurveFitting.Model.LeastSquares
import CurveFitting.Proofs.QuadraticFit
import CurveFitting.Proofs.TotalFit

/-! # Fits of polynomials by least squares

The sum of squared residuals of a polynomial is a quadratic function of its
coefficients, strictly convex as soon as there are as many different abscissas as
coefficients. A fit that converges to it is as close to the optimum as it says.
-/

namespace CurveFitting

open Exact Matrix

variable {n : Nat}

namespace Exact

def dataPoints (points : List (ℝ × ℝ)) : List (DataPoint Exact) :=
  points.map fun point => ⟨real point.1, real point.2⟩

def powers (x : ℝ) : Fin n → ℝ := fun i => x ^ i.val

/-- The sum of the squared residuals of the polynomial with given coefficients. -/
def squares (points : List (ℝ × ℝ)) (coefficients : Fin n → ℝ) : ℝ :=
  (points.map fun point => (coefficients ⬝ᵥ powers point.1 - point.2) ^ 2).sum

/-! ## The cost of the program -/

private theorem polynomialValue_real (coefficients : Fin n → ℝ) (x : ℝ) :
    polynomialValue (vector coefficients).toList (real x) =
      real (coefficients ⬝ᵥ powers x) := by
  rw [vector, Vector.toList_ofFn]
  induction n with
  | zero => simp [polynomialValue]
  | succ n induction =>
      have higher := induction fun i => coefficients i.succ
      rw [polynomialValue] at higher ⊢
      rw [List.ofFn_succ, List.foldr_cons, higher, mul_eq, add_eq]
      simp only [dotProduct, powers, Fin.sum_univ_succ, Fin.val_succ, Fin.val_zero, pow_zero,
        pow_succ, mul_one, Finset.sum_mul, mul_assoc, add_comm]

private theorem foldl_squares (coefficients : Fin n → ℝ) (points : List (ℝ × ℝ)) (total : ℝ) :
    (dataPoints points).foldl (fun total point =>
      let residual := polynomialValue (vector coefficients).toList point.x - point.y
      total + residual * residual) (real total) = real (total + squares points coefficients) := by
  induction points generalizing total with
  | nil => simp [dataPoints, squares]
  | cons point points induction =>
      rw [dataPoints, List.map_cons, List.foldl_cons]
      simp only [polynomialValue_real, sub_eq, mul_eq, add_eq]
      rw [← dataPoints, induction, squares, squares, List.map_cons, List.sum_cons, sq, add_assoc]

/-- The fit of a polynomial of a degree to a dataset of real numbers. -/
noncomputable def polynomialFit (degree : Nat) (points : List (ℝ × ℝ)) (errorDefinition : ℝ) :
    LeastSquares Exact :=
  ⟨polynomialModel degree, dataPoints points, real errorDefinition⟩

variable {degree : Nat} {points : List (ℝ × ℝ)} {errorDefinition : ℝ}

theorem cost_of_validate {coefficients : Fin n → ℝ}
    (valid : (polynomialFit degree points errorDefinition).validate n = .ok ()) :
    (polynomialFit degree points errorDefinition).cost (vector coefficients).toList =
      .ok (real (squares points coefficients)) := by
  have summed := foldl_squares coefficients points 0
  rw [zero_add] at summed
  rw [LeastSquares.cost, Vector.length_toList, valid]
  exact congrArg Except.ok summed

theorem total_objective
    (valid : (polynomialFit degree points errorDefinition).validate n = .ok ()) :
    Total (polynomialFit degree points errorDefinition).objective
      (squares points : (Fin n → ℝ) → ℝ) :=
  fun _ memory => congrArg (fun answer => (answer, memory)) (cost_of_validate valid)

theorem size_of_validate
    (valid : (polynomialFit degree points errorDefinition).validate n = .ok ()) :
    n = degree + 1 :=
  (LeastSquares.validate_eq_ok_iff.mp valid).2

/-! ## The cost as a quadratic function -/

def squaresSlope (points : List (ℝ × ℝ)) (coefficients : Fin n → ℝ) : Fin n → ℝ :=
  (points.map fun point =>
    (2 * (coefficients ⬝ᵥ powers point.1 - point.2)) • powers point.1).sum

def squaresHessian (points : List (ℝ × ℝ)) : Matrix (Fin n) (Fin n) ℝ :=
  (points.map fun point => (2 : ℝ) • vecMulVec (powers point.1) (powers point.1)).sum

private theorem quadratic_squaresHessian (points : List (ℝ × ℝ)) (v : Fin n → ℝ) :
    v ⬝ᵥ squaresHessian points *ᵥ v =
      (points.map fun point => 2 * (v ⬝ᵥ powers point.1) ^ 2).sum := by
  induction points with
  | nil => simp [squaresHessian]
  | cons point points induction =>
      rw [squaresHessian] at induction ⊢
      rw [List.map_cons, List.sum_cons, add_mulVec, dotProduct_add, induction, List.map_cons,
        List.sum_cons, smul_mulVec, dotProduct_smul, dotProduct_vecMulVec_mulVec,
        dotProduct_comm (powers point.1) v, smul_eq_mul, sq]

private theorem squaresHessian_isSymm (points : List (ℝ × ℝ)) :
    (squaresHessian points : Matrix (Fin n) (Fin n) ℝ).IsSymm := by
  induction points with
  | nil => exact isSymm_zero
  | cons point points induction =>
      rw [squaresHessian, List.map_cons, List.sum_cons]
      refine .add (.smul ?_ _) induction
      exact IsSymm.ext fun i j => mul_comm _ _

theorem isQuadratic_squares (points : List (ℝ × ℝ)) :
    IsQuadratic (squares points) (squaresSlope points)
      (squaresHessian points : Matrix (Fin n) (Fin n) ℝ) := by
  refine ⟨squaresHessian_isSymm points, fun x v => ?_⟩
  rw [quadratic_squaresHessian]
  induction points with
  | nil => simp [squares, squaresSlope]
  | cons point points induction =>
      rw [squares, squaresSlope] at induction ⊢
      rw [List.map_cons, List.sum_cons, induction]
      simp only [squares, List.map_cons, List.sum_cons, add_dotProduct, smul_dotProduct,
        smul_eq_mul, dotProduct_comm (powers point.1) v]
      ring

private theorem eq_zero_of_roots {points : List (ℝ × ℝ)}
    (distinct : n ≤ (points.map Prod.fst).toFinset.card) {v : Fin n → ℝ}
    (roots : ∀ point ∈ points, v ⬝ᵥ powers point.1 = 0) : v = 0 := by
  let polynomial : Polynomial ℝ := ∑ i : Fin n, Polynomial.C (v i) * Polynomial.X ^ i.val
  have degree : polynomial.degree < (points.map Prod.fst).toFinset.card :=
    lt_of_lt_of_le (Polynomial.degree_sum_fin_lt v) (by exact_mod_cast distinct)
  have zero : polynomial = 0 := by
    apply Polynomial.eq_zero_of_degree_lt_of_eval_finset_eq_zero _ degree
    intro x member
    rcases List.mem_map.mp (List.mem_toFinset.mp member) with ⟨point, listed, rfl⟩
    rw [← roots point listed]
    simp [polynomial, Polynomial.eval_finsetSum, dotProduct, powers]
  funext i
  have coefficient := congrArg (Polynomial.coeff · i.val) zero
  simpa [polynomial, Polynomial.finsetSum_coeff, Polynomial.coeff_X_pow, Fin.val_inj]
    using coefficient

theorem squaresHessian_posDef {points : List (ℝ × ℝ)}
    (distinct : n ≤ (points.map Prod.fst).toFinset.card) :
    (squaresHessian points : Matrix (Fin n) (Fin n) ℝ).PosDef := by
  refine .of_dotProduct_mulVec_pos
    (isHermitian_iff_isSymm.mpr (isQuadratic_squares points).symmetric) fun v nonzero => ?_
  rw [star_trivial, quadratic_squaresHessian]
  have nonnegative : ∀ term ∈ points.map fun point => 2 * (v ⬝ᵥ powers point.1) ^ 2,
      0 ≤ term := by
    intro term member
    rcases List.mem_map.mp member with ⟨point, _, rfl⟩
    positivity
  refine lt_of_le_of_ne (List.sum_nonneg nonnegative) fun zero => nonzero ?_
  apply eq_zero_of_roots distinct
  intro point listed
  have term := List.all_zero_of_le_zero_le_of_sum_eq_zero nonnegative zero.symm
    (List.mem_map_of_mem listed)
  simpa using term

theorem squares_nonneg (points : List (ℝ × ℝ)) (coefficients : Fin n → ℝ) :
    0 ≤ squares points coefficients := by
  apply List.sum_nonneg
  intro term member
  rcases List.mem_map.mp member with ⟨point, _, rfl⟩
  positivity

theorem squares_eq_zero {coefficients : Fin n → ℝ}
    (interpolates : ∀ point ∈ points, coefficients ⬝ᵥ powers point.1 = point.2) :
    squares points coefficients = 0 := by
  apply List.sum_eq_zero
  intro term member
  rcases List.mem_map.mp member with ⟨point, listed, rfl⟩
  rw [interpolates point listed, sub_self, sq, zero_mul]

noncomputable def fromZero (name : String) (step : ℝ) (positive : 0 < step) :
    Parameter Exact where
  name := name
  value := real 0
  step := real step
  bounds := Bounds.unlimited
  value_finite := isFinite_real
  step_finite := isFinite_real
  step_positive := lt_iff.mpr positive
  bounds_ordered := Bounds.ordered_unlimited
  value_within := Bounds.contains_unlimited _

noncomputable def lineParameters : ParameterSet Exact where
  entries := [fromZero "intercept" 1 one_pos, fromZero "slope" 0.5 (by norm_num)]
  distinct := by simp [fromZero]

end Exact

/-! ## One point -/

namespace OnePoint

noncomputable def config : Config Exact :=
  Config.standard (real 1) 1000 none rfl (lt_iff.mpr one_pos)

/-- Asks for a check against a full Hessian after every event. -/
def insistent : Observer Exact Unit where
  observe _ memory := ⟨some .refineHessian, memory, []⟩

/-- The fit of a constant to the point `(0, 1)`. -/
noncomputable def problem : Problem Exact Unit LeastSquaresError 1 where
  objective := (polynomialFit 0 [(0, 1)] 1).objective
  config := config
  names := #v["a"]
  steps := vector fun _ => 0.5
  errorDefinition := real 1

theorem prepared : Problem.prepare (polynomialFit 0 [(0, 1)] 1).objective singleParameter config =
    .ok problem :=
  Problem.prepare_eq_ok_iff.mpr ⟨rfl, ⟨rfl, lt_iff.mpr one_pos⟩, rfl, rfl⟩

theorem total : Total problem.objective (squares [(0, 1)] : (Fin 1 → ℝ) → ℝ) :=
  total_objective rfl

theorem squares_eq (c : ℝ) : squares [(0, 1)] (fun _ : Fin 1 => c) = (c - 1) ^ 2 := by
  simp [squares, dotProduct, powers]

theorem squaresSlope_eq (c : ℝ) :
    squaresSlope [(0, 1)] (fun _ : Fin 1 => c) = fun _ => 2 * (c - 1) := by
  funext i
  simp [squaresSlope, dotProduct, powers]

theorem interpolates : ∀ point ∈ ([(0, 1)] : List (ℝ × ℝ)),
    (fun _ : Fin 1 => 1) ⬝ᵥ powers point.1 = point.2 := by
  simp [dotProduct, powers]

theorem isPositive : problem.IsPositive :=
  ⟨⟨fun _ => 0.5, rfl, fun _ => by norm_num⟩, 1, rfl, one_pos⟩

/-- The first step of the fit goes half of the way to the minimum. -/
theorem ray_eq {first : State Exact 1} (point : first.x = vector fun _ => 0)
    (cost : first.cost = real 1) (gradient : first.gradient = vector fun _ => -2)
    (seeded : first.inverseHessian = problem.seed) :
    first.ray = ⟨vector fun _ => 0, real 1, vector fun _ => 1 / 2, real (-1)⟩ := by
  have seed : problem.seed = matrix (diagonal ((fun _ => 0.5) * fun _ => 0.5)) :=
    seed_real fun _ => 0.5
  have direction : -(diagonal ((fun _ => 0.5) * fun _ => 0.5) *ᵥ fun _ : Fin 1 => (-2 : ℝ)) =
      fun _ => 1 / 2 := by
    funext i
    simp only [Pi.neg_apply, mulVec_diagonal, Pi.mul_apply]
    norm_num
  have slope : (fun _ : Fin 1 => (-2 : ℝ)) ⬝ᵥ (fun _ => 1 / 2) = -1 := by
    simp [dotProduct]
  rw [State.ray, point, cost, gradient, seeded, seed]
  simp only [mulVector_matrix, vector_neg, direction, dot_vector, slope]

private theorem isClose_of_refine {state next : State Exact 1} {positiveDefinite : Bool}
    (knows : state.Knows (squares [(0, 1)]) (squaresSlope [(0, 1)]))
    (point : state.x = vector fun _ => 1 / 2)
    (refined : problem.refine state () = (.ok (.checked next positiveDefinite), ())) :
    problem.isClose next = true := by
  have quadratic := isQuadratic_squares (n := 1) [(0, 1)]
  have posDef : (squaresHessian [(0, 1)] : Matrix (Fin 1) (Fin 1) ℝ).PosDef :=
    squaresHessian_posDef (by simp)
  rcases knows with ⟨x, xEqual, costEqual, gradientEqual⟩
  rcases vector_injective (xEqual.symm.trans point) with rfl
  have distance := (Problem.refine_knowsAll quadratic posDef total.computes xEqual costEqual
    gradientEqual rfl one_pos refined).2.edm
  rcases (quadratic.isLeast posDef fun _ => 1 / 2).1 with ⟨lowest, attained⟩
  have above := squares_nonneg [(0, 1)] lowest
  rw [attained, squares_eq] at above
  rw [Problem.isClose, distance]
  refine decide_eq_true (lt_iff.mpr ?_)
  norm_num at above ⊢
  linarith

theorem first_step : ∃ first next updated,
    problem.start (vector fun _ => 0) () = (.ok (.ready first), ()) ∧
    first.calls = 3 ∧ problem.iterate first () = (.ok (.advanced next 1 updated), ()) ∧
    next.x = vector (fun _ => 1 / 2) ∧ next.calls = 6 := by
  have quadratic := isQuadratic_squares (n := 1) [(0, 1)]
  rcases Problem.start_of_total total (fun _ => 0) () with ⟨first, started, point, seeded⟩
  rcases Problem.knows_of_start quadratic total.computes started with
    ⟨x, xEqual, costEqual, gradientEqual⟩
  rcases vector_injective (xEqual.symm.trans point) with rfl
  have calls : first.calls = 3 := Problem.start_calls started
  have ray := ray_eq point (by rw [costEqual, squares_eq]; norm_num)
    (by rw [gradientEqual, squaresSlope_eq]; norm_num) seeded
  have falling : ¬0 < first.ray.slope := by
    rw [ray, zero_eq, lt_iff]
    norm_num
  have room : first.calls < problem.callLimit := by
    rw [calls]
    decide
  have positive : (0 : Exact) < problem.config.minStep := lt_iff.mpr (by norm_num)
  have within : problem.config.minStep ≤ 1 := le_iff.mpr (by norm_num)
  rcases LineSearch.multipliers_eq_cons positive within with ⟨rest, multipliers⟩
  have half : first.ray.point 1 = vector fun _ => 1 / 2 := by
    rw [ray, Ray.point, one_eq, scaleVector_vector, vector_add, one_smul]
    exact congrArg vector (zero_add _)
  have accepts : first.ray.accepts problem.config.armijo 1
      (real (squares [(0, 1)] fun _ : Fin 1 => 1 / 2)) = true := by
    rw [ray, squares_eq]
    refine decide_eq_true (le_iff.mpr ?_)
    norm_num
  rcases Problem.iterate_of_total falling room multipliers half accepts total () with
    ⟨next, updated, step, nextPoint, nextCalls⟩
  rw [calls] at nextCalls
  exact ⟨first, next, updated, started, calls, step, nextPoint, nextCalls⟩

theorem converges : ∃ ending final,
    problem.run insistent (vector fun _ => 0) (Session.start () ()) = (.ok ending, final) ∧
      ending.status = .converged := by
  rcases first_step with ⟨first, next, updated, started, calls, step, point, nextCalls⟩
  have room : ¬problem.callLimit ≤ first.calls := by
    rw [calls]
    decide
  have nextRoom : next.calls + 2 * (1 * 1) ≤ problem.callLimit := by
    rw [nextCalls]
    decide
  rcases Problem.refine_of_total total point () with ⟨last, positiveDefinite, refined⟩
  have knows := ((Problem.Reaches.started started).iterated step).knows
    (isQuadratic_squares [(0, 1)]) total.computes isPositive
  have asks (event : Event Exact) (memory : Unit) :
      (insistent.observe event memory).action = some .refineHessian := rfl
  have head : problem.AtHead insistent (vector fun _ => 0) (Session.start () ()) 1000 first _ :=
    .first started
  rcases Problem.turn_of_iterate asks step nextRoom refined with ⟨final, turned, _⟩
  rw [Problem.convergeIfClose, if_pos (isClose_of_refine knows point refined)] at turned
  refine ⟨⟨.converged, last⟩, final, ?_, rfl⟩
  rw [head.run_eq_search, Problem.search_succ, if_neg room, turned]

end OnePoint

/-! ## Converged fits -/

/-- A converged fit of a polynomial lies above the least-squares optimum by exactly the
distance that it reports, in units of the error definition, and thus by less than the
tolerance. On data without errors its cost itself is that distance. -/
theorem converged_fit_near_optimum {ω : Type} {degree : Nat} {points : List (ℝ × ℝ)}
    {errorDefinition : ℝ} {parameters : ParameterSet Exact} {config : Config Exact}
    {observer : Observer Exact ω} {origin final : Session Exact Unit ω}
    {minimum : Minimum Exact parameters.size}
    (distinct : degree + 1 ≤ (points.map Prod.fst).toFinset.card)
    (checking : config.refineHessian = true)
    (fitted : minimize (polynomialFit degree points errorDefinition).objective parameters config
      observer origin = (.ok minimum, final))
    (converged : minimum.status = .converged) :
    parameters.size = degree + 1 ∧
    (∀ q : Fin parameters.size → ℝ,
      (polynomialFit degree points errorDefinition).cost (vector q).toList =
        .ok (real (squares points q))) ∧
    ∃ (p : Fin parameters.size → ℝ) (edm tolerance optimum : ℝ),
      minimum.parameters.map (·.value) = vector p ∧
      minimum.cost = real (squares points p) ∧ minimum.edm = real edm ∧
      config.tolerance = real tolerance ∧
      IsLeast (Set.range fun q : Fin parameters.size → ℝ => squares points q) optimum ∧
      squares points p - optimum = errorDefinition * edm ∧
      squares points p < optimum + errorDefinition * tolerance ∧
      ∀ q : Fin parameters.size → ℝ, (∀ point ∈ points, q ⬝ᵥ powers point.1 = point.2) →
        squares points p = errorDefinition * edm ∧
          squares points p < errorDefinition * tolerance := by
  have minimizes := minimizes_minimize (polynomialFit degree points errorDefinition).objective
    parameters config observer origin
  rw [fitted] at minimizes
  cases minimizes with
  | ended prepared ran =>
      have valid := Problem.validate_of_prepare prepared
      rcases Problem.prepare_eq_ok prepared with ⟨configured, given, _, defined⟩
      have size := size_of_validate valid
      have enough := size ▸ distinct
      rcases Problem.distance_of_converged (isQuadratic_squares points) (squaresHessian_posDef
          enough) (given ▸ (total_objective valid).computes) (Problem.isPositive_of_prepare
          prepared) parameters.values_real (configured ▸ checking) ran converged with
          ⟨p, edm, definition, tolerance, pEqual, costEqual, edmEqual, definedReal, positive,
           tolerated, close, least⟩
      rcases real.inj (definedReal.symm.trans defined) with rfl
      have smaller := mul_lt_mul_of_pos_left close positive
      refine ⟨size, fun q => cost_of_validate valid, p, edm, tolerance, _, ?_, costEqual, edmEqual,
        configured ▸ tolerated, least, sub_sub_cancel _ _, by linarith, fun q interpolates => ?_⟩
      · rw [← pEqual]
        exact Problem.values_result _ _ _
      · have below := least.2 ⟨q, rfl⟩
        rw [squares_eq_zero interpolates] at below
        rcases least.1 with ⟨lowest, attained⟩
        have above := squares_nonneg points lowest
        rw [attained] at above
        constructor <;> linarith

theorem fit_of_one_point_near_optimum : ∃ minimum final,
    minimize (polynomialFit 0 [(0, 1)] 1).objective singleParameter OnePoint.config
      OnePoint.insistent (Session.start () ()) = (.ok minimum, final) ∧
    minimum.status = .converged ∧ minimum.cost = minimum.edm ∧ minimum.cost < 1 := by
  rcases OnePoint.converges with ⟨ending, last, ran, converged⟩
  have fitted := (minimize_of_prepare OnePoint.prepared).trans (Computation.bind_of_ok ran)
  rcases converged_fit_near_optimum (by decide) rfl fitted converged with
    ⟨_, _, p, edm, tolerance, _, _, cost, distance, tolerated, _, _, _, interpolated⟩
  rcases interpolated (fun _ => 1) OnePoint.interpolates with ⟨equal, below⟩
  refine ⟨_, _, fitted, converged, ?_, ?_⟩
  · rw [cost, distance, equal, one_mul]
  · rcases real.inj tolerated with rfl
    rw [one_mul] at below
    rw [cost]
    exact below

end CurveFitting

import CurveFitting.Proofs.Exact.Reordering
import CurveFitting.Proofs.LeastSquaresErrors
import CurveFitting.Proofs.LeastSquaresFit
import CurveFitting.Proofs.Pools
import CurveFitting.Proofs.PositiveDefinite
import CurveFitting.Proofs.ResultPoint
import CurveFitting.Proofs.Run.Mirrored

/-! # The order of the parameters does not matter

A fit of the same parameters in another order takes the same steps with their entries in
that order, and each parameter comes out with the same value and error.
-/

namespace CurveFitting

open Exact Matrix

variable {α σ ε : Type} {n m : Nat}

/-! ## Fits in another order -/

/-- The objective of parameters in another order. It restores the order of a point. -/
def Objective.reordered (objective : Objective α σ ε) (order : Fin m ≃ Fin n) :
    Objective α σ ε :=
  { objective with
    evaluate := fun point =>
      if full : point.length = m then
        objective.evaluate (CurveFitting.reordered order.symm ⟨point.toArray, full⟩).toList
      else
        objective.evaluate point }

/-- The problem of fitting the parameters in another order, on another pool. -/
def Problem.reordered [Scalar α] (problem : Problem α σ ε n) (order : Fin m ≃ Fin n) (pool : Pool) :
    Problem α σ ε m where
  objective := problem.objective.reordered order
  config := problem.config.withPool pool
  names := CurveFitting.reordered order problem.names
  steps := CurveFitting.reordered order problem.steps
  errorDefinition := problem.errorDefinition

private theorem Exact.Responds.reordered {objective : Objective Exact σ ε}
    {function : (Fin n → ℝ) → Exact} (responds : Responds objective function)
    (order : Fin m ≃ Fin n) :
    Responds (objective.reordered order) (reorderedFunction order function) := by
  intro point memory
  have full : (vector point).toList.length = m := Vector.length_toList
  have undone : CurveFitting.reordered order.symm ⟨(vector point).toList.toArray, full⟩ =
      vector (point ∘ order.symm) := reordered_vector order.symm point
  rw [Objective.reordered]
  simp only [dif_pos full]
  rw [undone]
  exact responds _ memory

/-! ## States -/

def Reorders (order : Fin m ≃ Fin n) (x : Vector Exact n) (y : Vector Exact m) : Prop :=
  ∃ entries, x = vector entries ∧ y = vector (entries ∘ order)

def RowMatrix.Reorders (order : Fin m ≃ Fin n) (first : RowMatrix Exact n n)
    (second : RowMatrix Exact m m) : Prop :=
  ∃ entries : Matrix (Fin n) (Fin n) ℝ, entries.IsSymm ∧ first = matrix entries ∧
    second = matrix (entries.submatrix order order)

private theorem Reorders.edm_eq {order : Fin m ≃ Fin n} {gradient : Vector Exact n}
    {other : Vector Exact m} {first : RowMatrix Exact n n} {second : RowMatrix Exact m m}
    (gradients : Reorders order gradient other) (matrices : first.Reorders order second)
    (errorDefinition : Exact) :
    InverseHessian.edm other second errorDefinition =
      InverseHessian.edm gradient first errorDefinition := by
  rcases gradients with ⟨entries, rfl, rfl⟩
  rcases matrices with ⟨approximation, _, rfl, rfl⟩
  exact edm_reordered ..

structure State.Reordered (order : Fin m ≃ Fin n) (state : State Exact n) (other : State Exact m) :
    Prop where
  x : Reorders order state.x other.x
  cost : other.cost = state.cost
  gradient : Reorders order state.gradient other.gradient
  inverseHessian : state.inverseHessian.Reorders order other.inverseHessian
  edm : other.edm = state.edm
  iterations : other.iterations = state.iterations
  calls : other.calls = state.calls

namespace State.Reordered

variable {order : Fin m ≃ Fin n} {state : State Exact n} {other : State Exact m}
  (same : state.Reordered order other)

include same

private theorem refreshEdm (errorDefinition : Exact) :
    (state.refreshEdm errorDefinition).Reordered order (other.refreshEdm errorDefinition) :=
  { same with edm := same.gradient.edm_eq same.inverseHessian errorDefinition }

private theorem withCalls {calls otherCalls : Nat} (charged : otherCalls = calls) :
    ({ state with calls := calls } : State Exact n).Reordered order
      { other with calls := otherCalls } :=
  { same with calls := charged }

private theorem direction : Reorders order state.ray.direction other.ray.direction := by
  rcases same.gradient with ⟨gradient, gradientEqual, otherGradient⟩
  rcases same.inverseHessian with ⟨approximation, symmetric, equal, otherEqual⟩
  refine ⟨-(approximation *ᵥ gradient), ?_, ?_⟩
  · rw [State.ray, gradientEqual, equal, mulVector_matrix, vector_neg]
  · rw [State.ray, otherGradient, otherEqual, mulVector_matrix, vector_neg, mulVec_reordered]
    rfl

private theorem slope : other.ray.slope = state.ray.slope := by
  rcases same.gradient with ⟨gradient, gradientEqual, otherGradient⟩
  rcases same.direction with ⟨direction, directionEqual, otherDirection⟩
  change dot other.gradient other.ray.direction = dot state.gradient state.ray.direction
  rw [gradientEqual, otherGradient, directionEqual, otherDirection, dot_reordered]

private theorem point {step : Exact} (real_step : ∃ value, step = real value) :
    Reorders order (state.ray.point step) (other.ray.point step) := by
  rcases same.x with ⟨x, xEqual, otherX⟩
  rcases same.direction with ⟨direction, directionEqual, otherDirection⟩
  rcases real_step with ⟨value, rfl⟩
  refine ⟨x + value • direction, ?_, ?_⟩
  · change state.x + scaleVector state.ray.direction (real value) = _
    rw [xEqual, directionEqual, scaleVector_vector, vector_add]
  · change other.x + scaleVector other.ray.direction (real value) = _
    rw [otherX, otherDirection, scaleVector_vector, vector_add]
    rfl

end State.Reordered

/-! ## Moves -/

section

variable (order : Fin m ≃ Fin n) (pool : Pool) {problem : Problem Exact σ ε n}
  {function : (Fin n → ℝ) → Exact}

private theorem Problem.seed_reordered {steps : Fin n → ℝ} (given : problem.steps = vector steps) :
    problem.seed.Reorders order (problem.reordered order pool).seed := by
  refine ⟨diagonal (steps * steps), isSymm_diagonal _, ?_, ?_⟩
  · rw [Problem.seed, given, seed_real]
  · change InverseHessian.seed (CurveFitting.reordered order problem.steps) = _
    rw [given, reordered_vector, Exact.seed_reordered]

private theorem Problem.perturbations_reordered (calls : Nat) {x h : Fin n → ℝ}
    (perturbed : (problem.differencesAfter calls).perturbations (vector x) = vector h) :
    ((problem.reordered order pool).differencesAfter calls).perturbations (vector (x ∘ order)) =
      vector (h ∘ order) :=
  Exact.perturbations_reordered order x h perturbed

private theorem Problem.gradient?_reordered (responds : Responds problem.objective function)
    (calls : Nat) (x : Fin n → ℝ) (cost : Exact) :
    Computation.Mirrors Eq (GradientEstimate.Alike (Reorders order))
      (problem.gradient? calls (vector x) cost)
      ((problem.reordered order pool).gradient? calls (vector (x ∘ order)) cost) := by
  rcases perturbations_real (problem.differencesAfter calls) x with ⟨h, positive, perturbed⟩
  have otherPerturbed := problem.perturbations_reordered order pool calls perturbed
  constructor
  rintro memory _ rfl
  have found : problem.gradient? calls (vector x) cost memory = _ :=
    Differences.finiteOnly_gradient (responds.steady perturbed)
  have otherFound :
      (problem.reordered order pool).gradient? calls (vector (x ∘ order)) cost memory = _ :=
    Differences.finiteOnly_gradient ((responds.reordered order).steady otherPerturbed)
  have reorders := Probe.forall_ofGradient_reordered order
    (fun probe => Scalar.isFinite (function (place x h probe)) = true)
  simp only [reorderedFunction_place] at otherFound
  rw [found, otherFound, perturbed, otherPerturbed]
  by_cases finite : ∀ probe ∈ Probe.ofGradient n,
      Scalar.isFinite (function (place x h probe)) = true
  · have otherFinite := reorders.mpr finite
    have otherPositive (i : Fin m) : 0 < (h ∘ order) i := positive (order i)
    have gradient := gradientOf_of_finite positive cost finite
    have otherGradient := gradientOf_of_finite otherPositive cost otherFinite
    have charge : 2 * m = 2 * n := by rw [Fin.equiv_iff_eq.mp ⟨order⟩]
    rw [Differences.unlessMissing_of_finite finite,
      Differences.unlessMissing_of_finite otherFinite]
    exact .answered (.found ⟨_, gradient, otherGradient⟩ charge) rfl
  · rw [Differences.unlessMissing_of_missing finite,
      Differences.unlessMissing_of_missing (mt reorders.mp finite)]
    exact .answered .none rfl

inductive HessianEstimate.Reordered (order : Fin m ≃ Fin n) :
    Option (HessianEstimate Exact n) → Option (HessianEstimate Exact m) → Prop
  | found {entries : Matrix (Fin n) (Fin n) ℝ} (symmetric : entries.IsSymm) (calls : Nat) :
      Reordered order (some ⟨matrix entries, calls⟩)
        (some ⟨matrix (entries.submatrix order order), calls⟩)
  | none : Reordered order none none

private theorem Problem.hessian?_reordered (responds : Responds problem.objective function)
    (calls : Nat) (x : Fin n → ℝ) (cost : ℝ) :
    Computation.Mirrors Eq (HessianEstimate.Reordered order)
      (problem.hessian? calls (vector x) (real cost))
      ((problem.reordered order pool).hessian? calls (vector (x ∘ order)) (real cost)) := by
  rcases perturbations_real (problem.differencesAfter calls) x with ⟨h, positive, perturbed⟩
  have otherPerturbed := problem.perturbations_reordered order pool calls perturbed
  constructor
  rintro memory _ rfl
  have found : problem.hessian? calls (vector x) (real cost) memory = _ :=
    Differences.finiteOnly_hessian (responds.steady perturbed)
  have otherFound :
      (problem.reordered order pool).hessian? calls (vector (x ∘ order)) (real cost) memory = _ :=
    Differences.finiteOnly_hessian ((responds.reordered order).steady otherPerturbed)
  -- Another order turns some entries to the other side of the diagonal, with the same corners.
  have corners (i j : Fin n) (iUp jUp : Bool) :
      function (place x h (.corner i j iUp jUp)) = function (place x h (.corner j i jUp iUp)) := by
    rw [place_corner_comm]
  have reorders := Probe.forall_ofHessian_reordered order
    (fun probe => Scalar.isFinite (function (place x h probe)) = true)
    fun i j iUp jUp finite => corners i j iUp jUp ▸ finite
  simp only [reorderedFunction_place] at otherFound
  rw [found, otherFound, perturbed, otherPerturbed]
  by_cases finite : ∀ probe ∈ Probe.ofHessian n,
      Scalar.isFinite (function (place x h probe)) = true
  · have otherFinite := reorders.mpr finite
    have entries := secondDerivatives_reordered order h
      (fun probe => (function (place x h probe)).toReal) cost fun i j iUp jUp =>
        congrArg toReal (corners i j iUp jUp)
    have otherPositive (i : Fin m) : 0 < (h ∘ order) i := positive (order i)
    have charge : 2 * (m * m) = 2 * (n * n) := by rw [Fin.equiv_iff_eq.mp ⟨order⟩]
    rw [Differences.unlessMissing_of_finite finite,
      Differences.unlessMissing_of_finite otherFinite, hessianOf_of_finite positive cost finite,
      hessianOf_of_finite otherPositive cost otherFinite, entries, charge]
    exact .answered (.found (secondDerivatives_isSymm ..) _) rfl
  · rw [Differences.unlessMissing_of_missing finite,
      Differences.unlessMissing_of_missing (mt reorders.mp finite)]
    exact .answered .none rfl

private theorem Problem.refine_reordered (responds : Responds problem.objective function)
    {state : State Exact n} {other : State Exact m} (same : state.Reordered order other)
    (finite : Scalar.isFinite state.cost = true) :
    Computation.Mirrors Eq (Refinement.Alike fun state other =>
        state.Reordered order other ∧ Scalar.isFinite state.cost = true)
      (problem.refine state) ((problem.reordered order pool).refine other) := by
  rcases same.x with ⟨x, xEqual, otherX⟩
  rcases isFinite_iff.mp finite with ⟨cost, costEqual⟩
  have hessian := Problem.hessian?_reordered order pool responds state.calls x cost
  rw [← xEqual, ← otherX, ← costEqual] at hessian
  nth_rewrite 2 [← same.cost, ← same.calls] at hessian
  apply Computation.Mirrors.bind hessian
  intro found otherFound estimates
  cases estimates with
  | none =>
      have charged : other.calls + 2 * (m * m) = state.calls + 2 * (n * n) := by
        rw [same.calls, Fin.equiv_iff_eq.mp ⟨order⟩]
      exact .pure (.failed ⟨same.withCalls charged, finite⟩)
  | @found entries symmetric calls =>
      have charged : other.calls + calls = state.calls + calls := by rw [same.calls]
      dsimp only
      rw [ofHessian_reordered order entries symmetric]
      cases inverted : InverseHessian.ofHessian (matrix entries) with
      | none => exact .pure (.checked ⟨same.withCalls charged, finite⟩)
      | some inverse =>
          rcases (ofHessian_eq_some symmetric).mp inverted with ⟨posDef, rfl⟩
          have replaced : State.Reordered order
              { state with inverseHessian := matrix entries⁻¹, calls := state.calls + calls }
              { other with
                inverseHessian := matrix (entries⁻¹.submatrix order order)
                calls := other.calls + calls } :=
            { same with
              inverseHessian := ⟨_, symmetric.inv, rfl, rfl⟩
              calls := charged }
          rw [Option.map_some, reordered_matrix]
          exact .pure (.checked ⟨replaced.refreshEdm problem.errorDefinition, finite⟩)

private theorem Problem.moveTo_reordered {state : State Exact n} {other : State Exact m}
    {x : Vector Exact n} {y : Vector Exact m} {cost : Exact} {estimate : GradientEstimate Exact n}
    {otherEstimate : GradientEstimate Exact m} (same : state.Reordered order other)
    (moved : Reorders order x y) (finite : Scalar.isFinite cost = true) (step : Exact)
    (estimates : GradientEstimate.Alike (Reorders order) (some estimate) (some otherEstimate)) :
    ((problem.moveTo state ⟨step, x, cost⟩ estimate).1.Reordered order
          ((problem.reordered order pool).moveTo other ⟨step, y, cost⟩ otherEstimate).1 ∧
        Scalar.isFinite (problem.moveTo state ⟨step, x, cost⟩ estimate).1.cost = true) ∧
      ((problem.reordered order pool).moveTo other ⟨step, y, cost⟩ otherEstimate).2 =
        (problem.moveTo state ⟨step, x, cost⟩ estimate).2 := by
  rcases same.x with ⟨before, beforeEqual, otherBefore⟩
  rcases same.gradient with ⟨slope, slopeEqual, otherSlope⟩
  rcases same.inverseHessian with ⟨approximation, symmetric, equal, otherEqual⟩
  rcases moved with ⟨after, rfl, rfl⟩
  cases estimates with
  | found gradients calls =>
      rcases gradients with ⟨gradient, gradientEqual, otherGradient⟩
      have moves : vector (after ∘ order) - other.x = vector ((after - before) ∘ order) := by
        rw [otherBefore, vector_sub]
        rfl
      have turns : otherEstimate.gradient - other.gradient =
          vector ((gradient - slope) ∘ order) := by
        rw [otherGradient, otherSlope, vector_sub]
        rfl
      have updates := update_reordered order (after - before) (gradient - slope) approximation
        symmetric
      rw [← moves, ← turns, ← otherEqual, ← vector_sub, ← vector_sub, ← beforeEqual,
        ← gradientEqual, ← slopeEqual, ← equal] at updates
      rcases updates with ⟨learns, learned⟩
      have gradients : Reorders order estimate.gradient otherEstimate.gradient :=
        ⟨gradient, gradientEqual, otherGradient⟩
      exact ⟨⟨⟨⟨after, rfl, rfl⟩, rfl, gradients, learned,
        gradients.edm_eq learned problem.errorDefinition, congrArg (· + 1) same.iterations,
        congrArg₂ (· + ·) same.calls calls⟩, finite⟩, learns⟩

/-- What a fit computes comes out in the order of its parameters. -/
theorem Problem.reordered_corresponds (responds : Responds problem.objective function)
    {steps : Fin n → ℝ} (given : problem.steps = vector steps) :
    problem.Corresponds (problem.reordered order pool) Eq (Reorders order)
      (fun state other => state.Reordered order other ∧ Scalar.isFinite state.cost = true)
      (State.Reordered order) where
  size := Fin.equiv_iff_eq.mp ⟨order⟩
  callLimit := congrArg problem.config.callLimit (Fin.equiv_iff_eq.mp ⟨order⟩)
  armijo := rfl
  minStep := rfl
  maxIterations := rfl
  refineHessian := rfl
  evaluate same := by
    rcases same with ⟨x, rfl, rfl⟩
    constructor
    rintro memory _ rfl
    have evaluated := responds.reordered order (x ∘ order) memory
    rw [reorderedFunction_apply] at evaluated
    change Computation.EndsAlike _ _ _
      ((problem.objective.reordered order).evaluate (vector (x ∘ order)).toList memory)
    rw [evaluated, responds x memory]
    exact .answered rfl rfl
  gradient calls same finite := by
    rcases same with ⟨x, rfl, rfl⟩
    exact Problem.gradient?_reordered order pool responds calls x _
  ready {x y cost estimate otherEstimate} same finite estimates := by
    cases estimates with
    | found gradient calls =>
        have begun : State.Reordered order
            { (problem.initialState x cost).addCalls estimate.calls with
              gradient := estimate.gradient }
            { ((problem.reordered order pool).initialState y cost).addCalls otherEstimate.calls with
              gradient := otherEstimate.gradient } :=
          ⟨same, rfl, gradient, Problem.seed_reordered order pool given, rfl, rfl,
            congrArg (1 + ·) calls⟩
        exact ⟨begun.refreshEdm problem.errorDefinition, finite⟩
  weaker same := same.1
  initial {x y calls otherCalls} same cost charged := by
    have flat : Reorders order (Vector.replicate n 0) (Vector.replicate m 0) :=
      ⟨0, (vector_eq_zero_iff.mpr rfl).symm, (vector_eq_zero_iff.mpr rfl).symm⟩
    exact ⟨same, rfl, flat, Problem.seed_reordered order pool given, rfl, rfl,
      congrArg (1 + ·) charged⟩
  point same member := same.1.point (real_of_mem_multipliers member)
  slope same := same.1.slope
  cost same := same.1.cost
  calls same := same.1.calls
  withCalls same charged := ⟨same.1.withCalls charged, same.2⟩
  reset same :=
    ⟨{ same.1 with inverseHessian := Problem.seed_reordered order pool given }, same.2⟩
  seeded same := by
    rcases same.1.inverseHessian with ⟨approximation, _, equal, otherEqual⟩
    rcases Problem.seed_reordered order pool given with ⟨seed, _, seedEqual, otherSeed⟩
    rw [equal, otherEqual, seedEqual, otherSeed, matrix_beq_reordered]
  moveTo same moved finite step estimates := by
    exact Problem.moveTo_reordered order pool same.1 moved finite step estimates
  refine same := Problem.refine_reordered order pool responds same.1 same.2
  isClose same := by
    change decide (_ < _) = decide (_ < _)
    rw [same.1.edm]
    rfl

end

/-! ## Results -/

private theorem toList_reordered_perm {value : Type} (order : Fin m ≃ Fin n)
    (entries : Vector value n) :
    (reordered order entries).toList.Perm entries.toList := by
  rcases (Fin.equiv_iff_eq.mp ⟨order⟩ : m = n) with rfl
  have all : entries.toList = List.ofFn entries.get := by
    rw [← Vector.toList_ofFn]
    congr 1
    ext i within
    rw [Vector.getElem_ofFn]
    rfl
  rw [reordered, Vector.toList_ofFn, all]
  exact Equiv.Perm.ofFn_comp_perm order entries.get

private theorem FittedParameter.find?_perm {entries others : List (FittedParameter α)}
    (perm : others.Perm entries) (distinct : (entries.map (·.name)).Nodup) (name : String) :
    others.find? (·.name == name) = entries.find? (·.name == name) := by
  cases found : entries.find? (·.name == name) with
  | none =>
      rw [List.find?_eq_none] at found ⊢
      exact fun entry member => found entry (perm.mem_iff.mp member)
  | some entry =>
      have named : entry.name = name := by simpa using List.find?_some found
      have member : entry ∈ others := perm.mem_iff.mpr (List.mem_of_find?_eq_some found)
      rw [← named]
      exact find?_name ((perm.map _).nodup_iff.mpr distinct) member

/-- One result is another one with its parameters in another order. -/
structure Minimum.ReordersTo [Scalar α] (order : Fin m ≃ Fin n) (minimum : Minimum α n)
    (other : Minimum α m) : Prop where
  status : other.status = minimum.status
  parameters : other.parameters = reordered order minimum.parameters
  cost : other.cost = minimum.cost
  edm : other.edm = minimum.edm
  gradient : other.gradient = reordered order minimum.gradient
  covariance : other.covariance.map (·.matrix) =
    minimum.covariance.map (·.matrix.reordered order)
  errors : other.errors = minimum.errors.map (reordered order)
  errorDefinition : other.errorDefinition = minimum.errorDefinition
  iterations : other.iterations = minimum.iterations
  calls : other.calls = minimum.calls
  parameter : ∀ name, other.parameter? name = minimum.parameter? name

private theorem Problem.result_reordersTo (order : Fin m ≃ Fin n) (pool : Pool)
    (problem : Problem Exact σ ε n) (distinct : problem.names.toList.Nodup) (status : Status)
    {state : State Exact n} {other : State Exact m} (same : state.Reordered order other) :
    (problem.result status state).ReordersTo order
      ((problem.reordered order pool).result status other) := by
  have inverse : other.inverseHessian = state.inverseHessian.reordered order := by
    rcases same.inverseHessian with ⟨entries, _, equal, otherEqual⟩
    rw [equal, otherEqual, reordered_matrix]
  have entries {x : Vector Exact n} {y : Vector Exact m} (given : Reorders order x y) :
      y = CurveFitting.reordered order x := by
    rcases given with ⟨entries, rfl, rfl⟩
    rw [reordered_vector]
  have covariances : ((problem.reordered order pool).result status other).covariance =
      (problem.result status state).covariance.map (Covariance.reordered order) := by
    change Covariance.estimate other.inverseHessian problem.errorDefinition = _
    rw [inverse]
    exact Covariance.estimate_reordered ..
  have parameters : ((problem.reordered order pool).result status other).parameters =
      CurveFitting.reordered order (problem.result status state).parameters := by
    refine Vector.ext fun i within => ?_
    have there := get_reordered order (problem.result status state).parameters ⟨i, within⟩
    have here := (problem.reordered order pool).get_parameters_result status other ⟨i, within⟩
    refine here.trans (Eq.trans ?_ there.symm)
    rw [problem.get_parameters_result, covariances, Option.map_map, entries same.x, get_reordered]
    congr 1
    · exact get_reordered order problem.names ⟨i, within⟩
    · simp only [Function.comp_def, Covariance.error_reordered]
  refine ⟨rfl, parameters, same.cost, same.edm, entries same.gradient, ?_, ?_, rfl, same.iterations,
    same.calls, ?_⟩
  · rw [covariances, Option.map_map]
    rfl
  · rw [Minimum.errors, Minimum.errors, covariances, Option.map_map, Option.map_map]
    congr 1
    funext covariance
    exact Covariance.errors_reordered order covariance
  · intro name
    rw [Minimum.parameter?, Minimum.parameter?, parameters]
    apply FittedParameter.find?_perm (toList_reordered_perm order _)
    rw [problem.names_result]
    exact distinct

/-! ## Sets of parameters -/

namespace ParameterSet

variable [Scalar α] (set : ParameterSet α) (order : Equiv.Perm (Fin set.size))

private theorem perm_reordered : (List.ofFn fun i => set.entries.get (order i)).Perm set.entries :=
  (Equiv.Perm.ofFn_comp_perm order set.entries.get).trans (.of_eq (List.ofFn_get set.entries))

private theorem distinct_reordered :
    ((List.ofFn fun i => set.entries.get (order i)).map (·.name)).Nodup :=
  ((set.perm_reordered order).map _).nodup_iff.mpr set.distinct

def reordered : ParameterSet α where
  entries := List.ofFn fun i => set.entries.get (order i)
  distinct := set.distinct_reordered order

private theorem size_reordered : (set.reordered order).size = set.size := List.length_ofFn

/-- Where in a set the parameters stand that come first, second and so on in another order. -/
def positions : Fin (set.reordered order).size ≃ Fin set.size :=
  (finCongr (set.size_reordered order)).trans order

private theorem toVector_reordered {value : Type} (field : Parameter α → value)
    (sized : (set.entries.map field).toArray.size = set.size)
    (otherSized : ((set.reordered order).entries.map field).toArray.size =
      (set.reordered order).size) :
    (⟨((set.reordered order).entries.map field).toArray, otherSized⟩ : Vector value _) =
      CurveFitting.reordered (set.positions order) ⟨(set.entries.map field).toArray, sized⟩ := by
  ext i within
  have placed : (set.reordered order).entries.get ⟨i, within⟩ =
      set.entries.get (set.positions order ⟨i, within⟩) := List.getElem_ofFn ..
  refine (List.getElem_map ..).trans ((congrArg field placed).trans ?_)
  rw [CurveFitting.reordered, Vector.getElem_ofFn]
  exact (List.getElem_map ..).symm

private theorem values_reordered : (set.reordered order).values =
    CurveFitting.reordered (set.positions order) set.values :=
  set.toVector_reordered order (·.value) _ _

private theorem steps_reordered : (set.reordered order).steps =
    CurveFitting.reordered (set.positions order) set.steps :=
  set.toVector_reordered order (·.step) _ _

private theorem nameVector_reordered : (set.reordered order).nameVector =
    CurveFitting.reordered (set.positions order) set.nameVector :=
  set.toVector_reordered order (·.name) _ _

end ParameterSet

private theorem Problem.prepare_reordered [Scalar α] (objective : Objective α σ ε)
    (parameters : ParameterSet α) (config : Config α) (order : Equiv.Perm (Fin parameters.size))
    (pool : Pool) :
    Problem.prepare (objective.reordered (parameters.positions order))
        (parameters.reordered order) (config.withPool pool) =
      (Problem.prepare objective parameters config).map
        (·.reordered (parameters.positions order) pool) := by
  have empty : (parameters.reordered order).isEmpty = parameters.isEmpty :=
    (parameters.perm_reordered order).isEmpty_eq
  have validates : (objective.reordered (parameters.positions order)).validate
      (parameters.reordered order).size = objective.validate parameters.size :=
    congrArg objective.validate (parameters.size_reordered order)
  have names := parameters.nameVector_reordered order
  have steps := parameters.steps_reordered order
  have definition : (objective.reordered (parameters.positions order)).errorDefinition =
      objective.errorDefinition := rfl
  unfold Problem.prepare
  rw [empty, validates, names, steps, definition]
  by_cases none : parameters.isEmpty = true
  · rw [if_pos none, if_pos none]
    rfl
  · rw [if_neg none, if_neg none]
    by_cases defined : Scalar.isFinite objective.errorDefinition = true ∧
        0 < objective.errorDefinition
    · rw [if_pos defined, if_pos defined]
      cases objective.validate parameters.size <;> rfl
    · rw [if_neg defined, if_neg defined]
      rfl

/-- The same parameters in another order are fitted in the same way, whatever the threads do:
the fit ends with the same error, or with the same result in that order. -/
theorem parameter_order_does_not_matter {objective : Objective Exact σ ε}
    {parameters : ParameterSet Exact} {function : List Exact → Exact}
    (responds : ∀ point memory, point.length = parameters.size →
      objective.evaluate point memory = (.ok (function point), memory))
    (order : Equiv.Perm (Fin parameters.size)) (config : Config Exact) (pool : Pool)
    (objectiveMemory : σ) :
    let positions := parameters.positions order
    let fit := (minimize objective parameters config Observer.silent
      (Session.start objectiveMemory ())).1
    let other := (minimize (objective.reordered positions) (parameters.reordered order)
      (config.withPool pool) Observer.silent (Session.start objectiveMemory ())).1
    (∃ cause, fit = .error cause ∧ other = .error cause) ∨
      ∃ minimum otherMinimum, fit = .ok minimum ∧ other = .ok otherMinimum ∧
        minimum.ReordersTo positions otherMinimum := by
  intro positions fit other
  have prepares := Problem.prepare_reordered objective parameters config order pool
  have everywhere : Responds objective
      fun point : Fin parameters.size → ℝ => function (vector point).toList :=
    fun point memory => responds _ memory Vector.length_toList
  have mirrors : Computation.Mirrors (Session.Mirrors Eq)
      (fun minimum mirror => minimum.ReordersTo positions mirror)
      (minimize objective parameters config Observer.silent)
      (minimize (objective.reordered positions) (parameters.reordered order)
        (config.withPool pool) Observer.silent) := by
    rcases prepared : Problem.prepare objective parameters config with cause | problem
    · rw [prepared] at prepares
      exact .refused prepared prepares
    · rw [prepared] at prepares
      rcases parameters.values_real with ⟨values, valuesReal⟩
      rcases parameters.steps_real with ⟨steps, stepsReal, _⟩
      have same : Reorders positions parameters.values (parameters.reordered order).values := by
        refine ⟨values, valuesReal, ?_⟩
        rw [parameters.values_reordered, valuesReal, reordered_vector]
      have given := (Problem.prepare_eq_ok_iff.mp prepared).2.2.2
      have distinct : problem.names.toList.Nodup := by
        rw [given]
        exact parameters.distinct
      have answers : Responds problem.objective
          fun point : Fin parameters.size → ℝ => function (vector point).toList := by
        rw [given]
        exact everywhere
      have scales : problem.steps = vector steps := by
        rw [given]
        exact stepsReal
      have corresponds := Problem.reordered_corresponds positions pool answers scales
      apply (corresponds.minimize prepared prepares same).mono
      rintro minimum mirror ⟨status, state, otherState, alike, rfl, rfl⟩
      exact Problem.result_reordersTo positions pool _ distinct status alike
  exact (mirrors.ends rfl).results

/-- The line through two points, fitted with its slope before its intercept. -/
theorem line_fit_reorders :
    let objective := (polynomialFit 1 [(0, 1), (1, 3)] 1).objective
    let order : Equiv.Perm (Fin lineParameters.size) :=
      Equiv.swap ⟨0, Nat.two_pos⟩ ⟨1, Nat.one_lt_two⟩
    let positions := lineParameters.positions order
    ∃ minimum other,
      (minimize objective lineParameters Config.default Observer.silent (Session.start () ())).1 =
        .ok minimum ∧
      (minimize (objective.reordered positions) (lineParameters.reordered order) Config.default
        Observer.silent (Session.start () ())).1 = .ok other ∧
      minimum.ReordersTo positions other := by
  intro objective order positions
  have responds (point : List Exact) (memory : Unit) (full : point.length = lineParameters.size) :
      objective.evaluate point memory =
        (.ok ((dataPoints [(0, 1), (1, 3)]).foldl (fun total dataPoint =>
          let residual := (polynomialFit 1 [(0, 1), (1, 3)] 1).residual point dataPoint
          total + residual * residual) 0), memory) := by
    have valid : (polynomialFit 1 [(0, 1), (1, 3)] 1).validate point.length = .ok () := by
      rw [full]
      rfl
    change ((polynomialFit 1 [(0, 1), (1, 3)] 1).cost point, memory) = _
    rw [LeastSquares.cost, valid]
    rfl
  have accepted : ∃ problem,
      Problem.prepare objective lineParameters Config.default = .ok problem :=
    ⟨_, Problem.prepare_eq_ok_iff.mpr ⟨rfl, ⟨rfl, lt_iff.mpr one_pos⟩, rfl, rfl⟩⟩
  rcases accepted with ⟨problem, prepared⟩
  have keeps : objective.Keeps lineParameters.size (fun _ => True) (fun _ => False) :=
    LeastSquares.objective_keeps rfl
  rcases parameter_order_does_not_matter responds order Config.default Pool.inOrder () with
    ⟨cause, failed, _⟩ | reordered
  · rcases keeps.answers prepared Observer.silent trivial with ⟨minimum, answered⟩
    cases failed.symm.trans answered
  · exact reordered

end CurveFitting

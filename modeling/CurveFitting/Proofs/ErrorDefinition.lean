import CurveFitting.Proofs.Exact.Signs
import CurveFitting.Proofs.LeastSquaresErrors
import CurveFitting.Proofs.LeastSquaresFit
import CurveFitting.Proofs.Pools
import CurveFitting.Proofs.ResultPoint
import CurveFitting.Proofs.Run.Mirrored

/-! # The error definition only rescales

The error definition enters the estimated distance, and through it all that is decided at a
tolerance, and it enters the covariance. Nothing else of a fit depends on it. A fit whose
tolerance is lowered as its error definition is raised takes the same steps.
-/

namespace CurveFitting

variable {σ ε : Type} {n : Nat}

/-! ## Scaled numbers -/

namespace Exact

variable {factor : ℝ} (positive : 0 < factor)

include positive

private theorem div_lt_div_iff (left right : Exact) :
    left / real factor < right / real factor ↔ left < right := by
  have nonzero : factor ≠ 0 := ne_of_gt positive
  cases left with
  | missing => exact iff_of_false not_missing_lt not_missing_lt
  | real left =>
      cases right with
      | missing => exact iff_of_false not_lt_missing not_lt_missing
      | real right =>
          rw [div_eq nonzero, div_eq nonzero, lt_iff, lt_iff]
          exact div_lt_div_iff_of_pos_right positive

omit positive in
private theorem infinity_scaled : (Scalar.infinity : Exact) / real factor = Scalar.infinity := by
  have infinite : (Scalar.infinity : Exact) = missing := if_pos rfl
  rw [infinite]
  rfl

private theorem edm_scaled {errorDefinition : ℝ} (defined : 0 < errorDefinition)
    (gradient : Vector Exact n) (approximation : RowMatrix Exact n n) :
    InverseHessian.edm gradient approximation (real factor * real errorDefinition) =
      InverseHessian.edm gradient approximation (real errorDefinition) / real factor := by
  have nonzero : factor ≠ 0 := ne_of_gt positive
  unfold InverseHessian.edm
  cases dot gradient (approximation.mulVector gradient) with
  | missing => exact infinity_scaled.symm
  | real quadratic =>
      simp only [half_eq, mul_eq, div_eq (ne_of_gt defined),
        div_eq (ne_of_gt (mul_pos positive defined)), isNaN_real, Bool.false_eq_true, if_false,
        zero_eq, larger_eq, div_eq nonzero]
      rw [div_mul_eq_div_div_swap, ← max_div_div_right (le_of_lt positive), zero_div]

end Exact

open Exact

/-! ## Derivatives -/

namespace Differences

variable {β ι : Type} {objective : Objective Exact σ ε} {errorDefinition : Exact}

theorem run_withErrorDefinition (job : Job Exact n β) :
    job.run { objective with errorDefinition := errorDefinition } = job.run objective := by
  induction job with
  | done => rfl
  | asks i point next induction =>
      unfold Job.run
      simp only [induction]
      rfl

private theorem finish_withErrorDefinition (progress : Progress Exact ε n β) :
    finish { objective with errorDefinition := errorDefinition } progress =
      finish objective progress := by
  cases progress with
  | error => rfl
  | ok job => exact run_withErrorDefinition job

private theorem advance_withErrorDefinition (progress : Progress Exact ε n β) :
    advance { objective with errorDefinition := errorDefinition } progress =
      advance objective progress := by
  rcases progress with _ | _ | _ <;> rfl

private theorem takeTurns_withErrorDefinition [DecidableEq ι] (turns : List ι)
    (jobs : ι → Progress Exact ε n β) :
    takeTurns { objective with errorDefinition := errorDefinition } turns jobs =
      takeTurns objective turns jobs := by
  induction turns generalizing jobs with
  | nil => rfl
  | cons turn turns induction =>
      unfold takeTurns
      simp only [advance_withErrorDefinition, induction]

variable (differences : Differences Exact n) (x : Vector Exact n) (cost : Exact)

private theorem gradient_withErrorDefinition :
    differences.gradient { objective with errorDefinition := errorDefinition } x cost =
      differences.gradient objective x cost := by
  unfold gradient
  simp only [takeTurns_withErrorDefinition, finish_withErrorDefinition]

private theorem hessian_withErrorDefinition :
    differences.hessian { objective with errorDefinition := errorDefinition } x cost =
      differences.hessian objective x cost := by
  unfold hessian
  simp only [takeTurns_withErrorDefinition, finish_withErrorDefinition]

end Differences

/-! ## Moves -/

/-- A state is another one with its distance in units of an error definition that is larger
by a factor. -/
def State.Rescaled (factor : ℝ) (state other : State Exact n) : Prop :=
  other = { state with edm := state.edm / real factor }

/-- The settings with a tolerance that is smaller by a factor. The number of calls may be
limited in another way. -/
noncomputable def Config.rescaled (config : Config Exact) {factor : ℝ} (positive : 0 < factor)
    (maxCalls : Option Nat) : Config Exact :=
  { config with
    tolerance := config.tolerance / real factor
    maxCalls := maxCalls
    tolerance_finite := by
      rcases isFinite_iff.mp config.tolerance_finite with ⟨tolerance, equal⟩
      rw [equal, div_eq (ne_of_gt positive)]
      exact isFinite_real
    tolerance_positive := by
      have scaled := (div_lt_div_iff positive 0 config.tolerance).mpr config.tolerance_positive
      rwa [zero_eq, div_eq (ne_of_gt positive), zero_div] at scaled }

/-- The problem with an error definition that is larger by a factor, and with a tolerance
that makes up for that. -/
noncomputable def Problem.rescaled (problem : Problem Exact σ ε n) {factor : ℝ}
    (positive : 0 < factor) (maxCalls : Option Nat) : Problem Exact σ ε n where
  objective := { problem.objective with
    errorDefinition := real factor * problem.objective.errorDefinition }
  config := problem.config.rescaled positive maxCalls
  names := problem.names
  steps := problem.steps
  errorDefinition := real factor * problem.errorDefinition

section

variable {problem : Problem Exact σ ε n} {factor errorDefinition : ℝ} {maxCalls : Option Nat}
  (positive : 0 < factor) (defined : 0 < errorDefinition)
  (definition : problem.errorDefinition = real errorDefinition)

include positive defined definition

private theorem Problem.rescaled_refreshEdm (state : State Exact n) (edm : Exact) :
    (state.refreshEdm problem.errorDefinition).Rescaled factor
      (State.refreshEdm { state with edm := edm }
        (problem.rescaled positive maxCalls).errorDefinition) := by
  have scaled := edm_scaled positive defined state.gradient state.inverseHessian
  rw [← definition] at scaled
  exact congrArg (fun edm => { state with edm := edm }) scaled

private theorem Problem.rescaled_refine (state : State Exact n) (edm : Exact)
    (same : edm = state.edm / real factor) :
    Computation.Mirrors Eq (Refinement.Alike (State.Rescaled factor)) (problem.refine state)
      ((problem.rescaled positive maxCalls).refine { state with edm := edm }) := by
  have hessian : (problem.rescaled positive maxCalls).hessian? state.calls state.x state.cost =
      problem.hessian? state.calls state.x state.cost :=
    congrArg Differences.finiteOnly (Differences.hessian_withErrorDefinition ..)
  have begun := Computation.Mirrors.refl (problem.hessian? state.calls state.x state.cost)
  nth_rewrite 2 [← hessian] at begun
  apply begun.bind
  rintro found _ rfl
  subst same
  cases found with
  | none => exact .pure (.failed rfl)
  | some estimate =>
      dsimp only
      cases InverseHessian.ofHessian estimate.hessian with
      | none => exact .pure (.checked rfl)
      | some inverse =>
          exact .pure (.checked (problem.rescaled_refreshEdm positive defined definition _ _))

/-- What a fit computes does not depend on its error definition, up to the distance. -/
theorem Problem.rescaled_corresponds
    (limit : (problem.rescaled positive maxCalls).callLimit = problem.callLimit) :
    problem.Corresponds (problem.rescaled positive maxCalls) Eq Eq (State.Rescaled factor)
      (State.Rescaled factor) where
  size := rfl
  callLimit := limit
  armijo := rfl
  minStep := rfl
  maxIterations := rfl
  refineHessian := rfl
  evaluate same := by
    subst same
    exact .refl _
  gradient {x _ cost} calls same finite := by
    subst same
    have gradient : (problem.rescaled positive maxCalls).gradient? calls x cost =
        problem.gradient? calls x cost :=
      congrArg Differences.finiteOnly (Differences.gradient_withErrorDefinition ..)
    rw [gradient]
    apply (Computation.Mirrors.refl (problem.gradient? calls x cost)).mono
    rintro found _ rfl
    cases found with
    | none => exact .none
    | some estimate => exact .found rfl rfl
  ready same finite estimates := by
    subst same
    cases estimates with
    | found gradient calls =>
        rw [Problem.readyState, Problem.readyState, ← gradient, calls]
        exact problem.rescaled_refreshEdm positive defined definition _ _
  weaker := id
  initial same cost charged := by
    subst same charged
    exact congrArg (fun edm => { (problem.initialState _ cost).addCalls _ with edm := edm })
      infinity_scaled.symm
  point same member := by
    rcases same with rfl
    rfl
  slope same := by
    rcases same with rfl
    rfl
  cost same := by
    rcases same with rfl
    rfl
  calls same := by
    rcases same with rfl
    rfl
  withCalls same charged := by
    rcases same with rfl
    subst charged
    rfl
  reset same := by
    rcases same with rfl
    rfl
  seeded same := by
    rcases same with rfl
    rfl
  moveTo same moved finite step estimates := by
    rcases same with rfl
    subst moved
    cases estimates with
    | found gradient calls =>
        refine ⟨?_, by rw [Problem.moveTo, Problem.moveTo, ← gradient]⟩
        rw [Problem.moveTo, Problem.moveTo, ← gradient, calls]
        exact problem.rescaled_refreshEdm positive defined definition _ _
  refine same := by
    rcases same with rfl
    exact problem.rescaled_refine positive defined definition _ _ rfl
  isClose same := by
    rcases same with rfl
    exact decide_eq_decide.mpr (div_lt_div_iff positive _ _)

end

/-! ## Covariances -/

namespace Covariance

variable {factor : ℝ} {covariance : Covariance Exact n}

private noncomputable def rescaled (covariance : Covariance Exact n) (factor : ℝ) :
    Covariance Exact n :=
  ⟨covariance.matrix.scale (real factor)⟩

structure IsProper (covariance : Covariance Exact n) : Prop where
  entry : ∀ i j, ∃ value, (covariance.matrix.get i).get j = real value
  variance : ∀ i, ∃ value, 0 ≤ value ∧ (covariance.matrix.get i).get i = real value

private theorem isProper_of_estimate {inverseHessian : RowMatrix Exact n n}
    {errorDefinition : Exact}
    (estimated : estimate inverseHessian errorDefinition = some covariance) :
    covariance.IsProper := by
  unfold estimate at estimated
  dsimp only at estimated
  split at estimated
  · rename_i proper
    cases estimated
    rcases Bool.and_eq_true_iff.mp proper with ⟨finite, variances⟩
    have entry (i j : Fin n) : ∃ value,
        ((inverseHessian.scale (Scalar.double errorDefinition)).get i).get j = real value := by
      have row := Vector.all_eq_true.mp finite i.val i.isLt
      exact isFinite_iff.mp (Vector.all_eq_true.mp row j.val j.isLt)
    refine ⟨entry, ?_⟩
    intro i
    rcases entry i i with ⟨value, equal⟩
    refine ⟨value, ?_, equal⟩
    have nonnegative := List.all_eq_true.mp variances i (List.mem_finRange i)
    rw [equal, Bool.not_eq_true', decide_eq_false_iff_not] at nonnegative
    exact not_lt.mp nonnegative
  · cases estimated

private theorem IsProper.error_real (proper : covariance.IsProper) (i : Fin n) :
    ∃ value, covariance.error i = real value := by
  rcases proper.variance i with ⟨value, nonnegative, equal⟩
  exact ⟨√value, by rw [error, equal, sqrt_eq nonnegative]⟩

variable (positive : 0 < factor)

include positive

private theorem estimate_rescaled (inverseHessian : RowMatrix Exact n n) (errorDefinition : ℝ) :
    estimate inverseHessian (real factor * real errorDefinition) =
      (estimate inverseHessian (real errorDefinition)).map (rescaled · factor) := by
  have scaled : inverseHessian.scale (Scalar.double (real factor * real errorDefinition)) =
      (inverseHessian.scale (Scalar.double (real errorDefinition))).scale (real factor) := by
    ext i rowWithin j within
    simp only [RowMatrix.scale, scaleVector, Vector.getElem_map, mul_eq, double_eq]
    cases inverseHessian[i][j] with
    | missing => rfl
    | real value =>
        rw [mul_eq, mul_eq, mul_eq]
        congr 1
        ring
  unfold estimate
  rw [scaled]
  generalize inverseHessian.scale (Scalar.double (real errorDefinition)) = entries
  have keeps : (Scalar.isFinite ∘ (· * real factor) : Exact → Bool) = Scalar.isFinite := by
    funext number
    cases number <;> rfl
  have finite : (entries.scale (real factor)).isFinite = entries.isFinite := by
    simp only [RowMatrix.isFinite, RowMatrix.scale, scaleVector, Vector.all_map, Function.comp_def]
      at keeps ⊢
    rw [keeps]
  have variances (i : Fin n) : ((entries.scale (real factor)).get i).get i < 0 ↔
      (entries.get i).get i < 0 := by
    rw [RowMatrix.get_scale]
    cases (entries.get i).get i with
    | missing => exact iff_of_false not_missing_lt not_missing_lt
    | real value =>
        rw [mul_eq, zero_eq, lt_iff, lt_iff, mul_neg_iff]
        simp [positive, not_lt_of_gt positive]
  simp only [finite, variances]
  split <;> rfl

private theorem error_rescaled (proper : covariance.IsProper) (i : Fin n) :
    (covariance.rescaled factor).error i = covariance.error i * real √factor := by
  rcases proper.variance i with ⟨value, nonnegative, equal⟩
  rw [error, error, rescaled, RowMatrix.get_scale, equal, mul_eq, sqrt_eq nonnegative,
    sqrt_eq (mul_nonneg nonnegative (le_of_lt positive)), mul_eq, Real.sqrt_mul nonnegative]

private theorem correlation_rescaled (proper : covariance.IsProper) (i j : Nat) :
    (covariance.rescaled factor).correlation i j = covariance.correlation i j := by
  have root : √factor ≠ 0 := (Real.sqrt_pos.mpr positive).ne'
  unfold correlation
  split
  · rename_i inRange
    dsimp only
    rw [error_rescaled positive proper, error_rescaled positive proper]
    rcases proper.entry ⟨i, inRange.1⟩ ⟨j, inRange.2⟩ with ⟨value, equal⟩
    rcases proper.error_real ⟨i, inRange.1⟩ with ⟨row, rowEqual⟩
    rcases proper.error_real ⟨j, inRange.2⟩ with ⟨column, columnEqual⟩
    rw [rowEqual, columnEqual, rescaled, RowMatrix.get_scale, equal, mul_eq, mul_eq]
    have zero (number : ℝ) : (real (number * √factor) == 0) = (real number == 0) := by
      rw [Bool.eq_iff_iff, zero_eq, beq_iff, beq_iff, mul_eq_zero_iff_right root]
    rw [zero, zero]
    split
    · rfl
    · rename_i nonzero
      rw [Bool.or_eq_true, not_or, zero_eq, beq_iff, beq_iff] at nonzero
      rcases nonzero with ⟨rowNonzero, columnNonzero⟩
      have square : √factor * √factor = factor := Real.mul_self_sqrt (le_of_lt positive)
      have scaled : row * √factor * (column * √factor) ≠ 0 := by positivity
      rw [mul_eq, mul_eq, mul_eq, div_eq scaled, div_eq (mul_ne_zero rowNonzero columnNonzero)]
      congr 2
      rw [mul_mul_mul_comm, square, mul_div_mul_right _ _ (ne_of_gt positive)]
  · rfl

end Covariance

/-! ## Results -/

/-- One result is another one in units of an error definition that is larger by a factor: the
fit is the same, at a distance that is smaller by the factor, with a covariance that is larger
by it and with errors that are larger by its root. -/
structure Minimum.RescalesTo (minimum other : Minimum Exact n) (factor : ℝ) : Prop where
  status : other.status = minimum.status
  names : ∀ i, (other.parameters.get i).name = (minimum.parameters.get i).name
  values : other.values = minimum.values
  cost : other.cost = minimum.cost
  gradient : other.gradient = minimum.gradient
  iterations : other.iterations = minimum.iterations
  calls : other.calls = minimum.calls
  edm : other.edm = minimum.edm / real factor
  errorDefinition : other.errorDefinition = real factor * minimum.errorDefinition
  covariance : other.covariance.map (·.matrix) =
    minimum.covariance.map (·.matrix.scale (real factor))
  errors : other.errors = minimum.errors.map (·.map (· * real √factor))
  error : ∀ i, (other.parameters.get i).error =
    (minimum.parameters.get i).error.map (· * real √factor)
  correlations : ∀ i j, other.covariance.map (·.correlation i j) =
    minimum.covariance.map (·.correlation i j)

private theorem Problem.result_rescalesTo {problem : Problem Exact σ ε n}
    {factor errorDefinition : ℝ} {maxCalls : Option Nat} (positive : 0 < factor)
    (definition : problem.errorDefinition = real errorDefinition) (status : Status)
    {state other : State Exact n} (rescaled : state.Rescaled factor other) :
    (problem.result status state).RescalesTo
      ((problem.rescaled positive maxCalls).result status other) factor := by
  rcases rescaled with rfl
  have covariances : ((problem.rescaled positive maxCalls).result status
      { state with edm := state.edm / real factor }).covariance =
        (problem.result status state).covariance.map (Covariance.rescaled · factor) := by
    change Covariance.estimate state.inverseHessian (real factor * problem.errorDefinition) =
      (Covariance.estimate state.inverseHessian problem.errorDefinition).map _
    rw [definition]
    exact Covariance.estimate_rescaled positive state.inverseHessian errorDefinition
  have proper (covariance : Covariance Exact n)
      (estimated : (problem.result status state).covariance = some covariance) :
      covariance.IsProper := Covariance.isProper_of_estimate estimated
  have errors (i : Fin n) : ((problem.result status state).covariance.map
      (Covariance.rescaled · factor)).map (·.error i) =
        ((problem.result status state).covariance.map (·.error i)).map (· * real √factor) := by
    cases estimated : (problem.result status state).covariance with
    | none => rfl
    | some covariance =>
        exact congrArg some (Covariance.error_rescaled positive (proper _ estimated) i)
  refine ⟨rfl, ?_, ?_, rfl, rfl, rfl, rfl, rfl, rfl, ?_, ?_, ?_, ?_⟩
  · intro i
    rw [Problem.name_result, Problem.name_result]
    rfl
  · exact (Problem.values_result ..).trans (problem.values_result status state).symm
  · rw [covariances, Option.map_map]
    rfl
  · rw [Minimum.errors, Minimum.errors, covariances]
    cases estimated : (problem.result status state).covariance with
    | none => rfl
    | some covariance =>
        refine congrArg some (Vector.ext fun i within => ?_)
        rw [Vector.getElem_map, Covariance.errors, Vector.getElem_ofFn, Covariance.errors,
          Vector.getElem_ofFn]
        exact Covariance.error_rescaled positive (proper _ estimated) ⟨i, within⟩
  · intro i
    rw [Problem.get_parameters_result, Problem.get_parameters_result, covariances]
    exact errors i
  · intro i j
    rw [covariances]
    cases estimated : (problem.result status state).covariance with
    | none => rfl
    | some covariance =>
        exact congrArg some (Covariance.correlation_rescaled positive (proper _ estimated) i j)

private theorem Problem.prepare_rescaled {objective : Objective Exact σ ε}
    {errorDefinition factor : ℝ} (defined : objective.errorDefinition = real errorDefinition)
    (definedPositive : 0 < errorDefinition)
    (positive : 0 < factor) (parameters : ParameterSet Exact) (config : Config Exact)
    (maxCalls : Option Nat) :
    Problem.prepare { objective with errorDefinition := real factor * objective.errorDefinition }
        parameters (config.rescaled positive maxCalls) =
      (Problem.prepare objective parameters config).map (·.rescaled positive maxCalls) := by
  have passes : Scalar.isFinite objective.errorDefinition = true ∧
      0 < objective.errorDefinition := by
    rw [defined]
    exact ⟨rfl, lt_iff.mpr definedPositive⟩
  have passesToo : Scalar.isFinite (real factor * objective.errorDefinition) = true ∧
      0 < real factor * objective.errorDefinition := by
    rw [defined]
    exact ⟨rfl, lt_iff.mpr (mul_pos positive definedPositive)⟩
  unfold Problem.prepare
  by_cases empty : parameters.isEmpty = true
  · rw [if_pos empty, if_pos empty]
    rfl
  · rw [if_neg empty, if_neg empty, if_pos passes, if_pos passesToo]
    cases objective.validate parameters.size <;> rfl

private theorem SameTurns.rescaled {objective : Objective Exact σ ε} {config : Config Exact}
    {pool : Pool} (same : SameTurns objective config n pool) {factor : ℝ} (positive : 0 < factor)
    (errorDefinition : Exact) (maxCalls : Option Nat) :
    SameTurns { objective with errorDefinition := errorDefinition }
      (config.rescaled positive maxCalls) n pool := by
  cases same with
  | inOrder sequential => exact .inOrder sequential
  | equal schedules => exact .equal schedules
  | steady answers => exact .steady answers

/-- A fit with a larger error definition, and with a tolerance that is smaller by as much, is
the same fit where turns do not matter: it ends with the same error, or with the same result in
other units. -/
theorem error_definition_only_rescales {objective : Objective Exact σ ε}
    {errorDefinition factor : ℝ} (defined : objective.errorDefinition = real errorDefinition)
    (definedPositive : 0 < errorDefinition) (positive : 0 < factor)
    (parameters : ParameterSet Exact) (config : Config Exact) {maxCalls : Option Nat}
    (limit : (config.rescaled positive maxCalls).callLimit parameters.size =
      config.callLimit parameters.size)
    {pool : Pool} (same : SameTurns objective config parameters.size pool) (objectiveMemory : σ) :
    let fit := (minimize objective parameters config Observer.silent
      (Session.start objectiveMemory ())).1
    let other := (minimize
      { objective with errorDefinition := real (factor * errorDefinition) } parameters
      ((config.rescaled positive maxCalls).withPool pool) Observer.silent
      (Session.start objectiveMemory ())).1
    (∃ cause, fit = .error cause ∧ other = .error cause) ∨
      ∃ minimum otherMinimum, fit = .ok minimum ∧ other = .ok otherMinimum ∧
        minimum.RescalesTo otherMinimum factor := by
  intro fit other
  have prepares := Problem.prepare_rescaled defined definedPositive positive parameters config
    maxCalls
  rw [defined, mul_eq] at prepares
  have mirrors : Computation.Mirrors (Session.Mirrors Eq)
      (fun minimum mirror => minimum.RescalesTo mirror factor)
      (minimize objective parameters config Observer.silent)
      (minimize { objective with errorDefinition := real (factor * errorDefinition) } parameters
        ((config.rescaled positive maxCalls).withPool pool) Observer.silent) := by
    rw [minimize_withPool (same.rescaled positive _ maxCalls)]
    rcases prepared : Problem.prepare objective parameters config with cause | problem
    · rw [prepared] at prepares
      exact .refused prepared prepares
    · rw [prepared] at prepares
      rcases Problem.prepare_eq_ok prepared with ⟨rfl, _, _, given⟩
      have definition := given.trans defined
      have corresponds := problem.rescaled_corresponds positive definedPositive definition limit
      apply (corresponds.minimize prepared prepares rfl).mono
      rintro minimum mirror ⟨status, state, otherState, rescaled, rfl, rfl⟩
      exact Problem.result_rescalesTo positive definition status rescaled
  exact (mirrors.ends rfl).results

/-- The fit to one point in units of an error definition of four, with its usual limit on calls
written out. -/
theorem fit_of_one_point_rescales :
    let objective := (polynomialFit 0 [(0, 1)] 1).objective
    let settings := OnePoint.config
    ∃ minimum other,
      (minimize objective singleParameter settings Observer.silent (Session.start () ())).1 =
        .ok minimum ∧
      (minimize { objective with errorDefinition := real (4 * 1) } singleParameter
        ((settings.rescaled four_pos (some 305)).withPool (Pool.startingWith 0))
        Observer.silent (Session.start () ())).1 = .ok other ∧
      minimum.RescalesTo other 4 := by
  intro objective settings
  have limit : (settings.rescaled four_pos (some 305)).callLimit singleParameter.size =
      settings.callLimit singleParameter.size := rfl
  have keeps : objective.Keeps singleParameter.size (fun _ => True) (fun _ => False) :=
    LeastSquares.objective_keeps rfl
  have defined : objective.errorDefinition = real 1 := rfl
  have same : SameTurns objective settings singleParameter.size (Pool.startingWith 0) :=
    .inOrder rfl
  rcases error_definition_only_rescales defined one_pos four_pos singleParameter settings limit
    same () with ⟨cause, failed, _⟩ | rescaled
  · rcases keeps.answers OnePoint.prepared Observer.silent trivial with ⟨minimum, answered⟩
    cases failed.symm.trans answered
  · exact rescaled

/-! ## Where turns matter -/

private theorem splitCost_apply (point : Fin 2 → ℝ) (memory : Unit) :
    (splitCost : Objective Exact Unit Unit).evaluate (vector point).toList memory =
      (if 0 < point 0 then .error ()
        else .ok (if 0 < point 1 then missing else real 0), memory) := by
  have entries : (vector point).toList = [real (point 0), real (point 1)] := rfl
  have unknown : (Scalar.notANumber : Exact) = missing := if_pos rfl
  rw [entries, ← unknown]
  unfold splitCost
  simp only [List.getD_cons_zero, List.getD_cons_succ, zero_eq, lt_iff]
  split
  · rfl
  · split <;> rfl

section

variable {problem : Problem Exact Unit Unit 2}
  (evaluates : problem.objective.evaluate = splitCost.evaluate)
  (parallel : problem.config.parallel = true)

include evaluates parallel

/-- The first turns at the split cost decide whether a gradient is refused or missing. -/
theorem splitCost_gradient? {i : Fin 2} (turns : (problem.config.pool 1 2).gradient = [i, i]) :
    problem.gradient? 1 (vector 0) (real 0) () =
      (if i = 0 then .error () else .ok none, ()) := by
  let differences := problem.differencesAfter 1
  rcases perturbations_real differences 0 with ⟨h, positive, perturbed⟩
  have up := positive i
  have probed : problem.objective.evaluate
      ((Probe.single i true).point (vector 0) (differences.perturbations (vector 0))).toList () =
        (if i = 0 then .error () else .ok missing, ()) := by
    rw [perturbed, evaluates, point_eq_place, splitCost_apply]
    fin_cases i
    · have first : 0 < place 0 h (.single 0 true) 0 := by simpa [place] using up
      exact congrArg (·, ()) (if_pos first)
    · have first : ¬0 < place 0 h (.single 1 true) 0 := by simp [place]
      have second : 0 < place 0 h (.single 1 true) 1 := by simpa [place] using up
      exact congrArg (·, ()) ((if_neg first).trans (congrArg Except.ok (if_pos second)))
  have parallel : differences.parallel = true := parallel
  have turns : differences.schedule.gradient = i :: i :: [] := turns
  rw [Problem.gradient?, Differences.finiteOnly_apply]
  fin_cases i
  · have refused : differences.gradient problem.objective (vector 0) (real 0) () =
        (.error (.objective ()), ()) :=
      Differences.gradient_of_first_turns parallel turns probed rfl
    rw [refused]
    rfl
  · have unknown : differences.gradient problem.objective (vector 0) (real 0) () =
        (.error (.nonFinite 1 missing), ()) :=
      Differences.gradient_of_first_turns parallel turns probed rfl
    rw [unknown]
    rfl

private theorem splitCost_start {i : Fin 2} (turns : (problem.config.pool 1 2).gradient = [i, i]) :
    problem.start (vector 0) () =
      (if i = 0 then .error ()
        else .ok (.failed ((problem.initialState (vector 0) (real 0)).addCalls 4)), ()) := by
  have value : problem.objective.evaluate (vector (0 : Fin 2 → ℝ)).toList () =
      (.ok (real 0), ()) := by
    rw [evaluates, splitCost_apply]
    simp
  have gradient := splitCost_gradient? evaluates parallel turns
  rw [Problem.start, Computation.bind_of_ok value]
  simp only [isFinite_real]
  fin_cases i
  · exact Computation.bind_of_error gradient
  · exact Computation.bind_of_ok gradient

private theorem splitCost_run {i : Fin 2} (turns : (problem.config.pool 1 2).gradient = [i, i]) :
    (problem.run Observer.silent (vector 0) (Session.start () ())).1 =
      if i = 0 then .error (.objective ())
      else .ok ⟨.numericalFailure,
        (problem.initialState (vector 0) (real 0)).addCalls 4⟩ := by
  have start := splitCost_start evaluates parallel turns
  unfold Problem.run
  fin_cases i
  · rw [Computation.bind_of_error (Run.evaluate_of_error start)]
    rfl
  · rw [Computation.bind_of_ok (Run.evaluate_of_ok start)]
    rfl

private theorem splitCost_minimize {i : Fin 2} (turns : (problem.config.pool 1 2).gradient = [i, i])
    {objective : Objective Exact Unit Unit} {config : Config Exact}
    (prepared : Problem.prepare objective lineParameters config = .ok problem) :
    (minimize objective lineParameters config Observer.silent (Session.start () ())).1 =
      if i = 0 then .error (.objective ())
      else .ok (problem.result .numericalFailure
        ((problem.initialState (vector 0) (real 0)).addCalls 4)) := by
  have origin : lineParameters.values = vector 0 := rfl
  rw [minimize_of_prepare prepared, origin]
  have ran : problem.run Observer.silent (vector 0) (Session.start () ()) = (_, _) :=
    Prod.ext (splitCost_run evaluates parallel turns) rfl
  fin_cases i
  · exact congrArg Prod.fst (Computation.bind_of_error ran)
  · exact congrArg Prod.fst (Computation.bind_of_ok ran)

end

/-- Where turns matter, a fit may end with an error in other units only. -/
theorem splitCost_not_rescaled :
    let settings : Config Exact := { OnePoint.config with parallel := true }
    let fit := (minimize splitCost lineParameters (settings.withPool (Pool.startingWith 1))
      Observer.silent (Session.start () ())).1
    let other := (minimize { splitCost with errorDefinition := real (4 * 1) } lineParameters
      ((settings.rescaled four_pos none).withPool (Pool.startingWith 0)) Observer.silent
      (Session.start () ())).1
    (∃ minimum, fit = .ok minimum ∧ minimum.status = .numericalFailure) ∧
      other = .error (.objective ()) := by
  intro settings fit other
  have prepared : Problem.prepare splitCost lineParameters
      (settings.withPool (Pool.startingWith 1)) = .ok _ :=
    Problem.prepare_eq_ok_iff.mpr ⟨rfl, ⟨rfl, lt_iff.mpr one_pos⟩, rfl, rfl⟩
  have otherPrepared : Problem.prepare { splitCost with errorDefinition := real (4 * 1) }
      lineParameters ((settings.rescaled four_pos none).withPool (Pool.startingWith 0)) = .ok _ :=
    Problem.prepare_eq_ok_iff.mpr ⟨rfl, ⟨rfl, lt_iff.mpr (by norm_num)⟩, rfl, rfl⟩
  have second : (Pool.startingWith 1 1 2).gradient = [1, 1] := rfl
  have first : (Pool.startingWith 0 1 2).gradient = [0, 0] := rfl
  have ends := splitCost_minimize rfl rfl second prepared
  have refuses := splitCost_minimize rfl rfl first otherPrepared
  exact ⟨⟨_, ends, rfl⟩, refuses⟩

end CurveFitting

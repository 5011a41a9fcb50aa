import CurveFitting.Objective.Expression
import CurveFitting.Proofs.Run.Reach
import CurveFitting.Scalar

/-! # Symmetric matrices

Neither the update of an approximation nor the inverse of a Hessian comes out symmetric
when every operation is rounded. Both are averaged with their transpose, and all else hands
a matrix on as it is. So as long as the order of two summands does not matter, every
approximation of a fit is symmetric to the last digit, and so is its covariance.
-/

namespace CurveFitting

variable {α σ ω ε : Type} [Scalar α] {n : Nat}

/-- Scalars for which the order of two operands does not matter. -/
class Scalar.Commutes (α : Type) [Scalar α] : Prop where
  add_comm (left right : α) : left + right = right + left
  mul_comm (left right : α) : left * right = right * left

/-! ## Binary64 numbers -/

namespace Binary64

open Float.Model Float.Model.UnpackedFloat

private theorem sign_mul_comm (left right : Sign) : left * right = right * left := by
  cases left <;> cases right <;> rfl

theorem unpacked_add_comm (format : Format) (left right : UnpackedFloat) :
    UnpackedFloat.add format left right = UnpackedFloat.add format right left := by
  cases left with
  | notANumber => cases right <;> rfl
  | infinity sign =>
      cases right with
      | infinity other => cases sign <;> cases other <;> rfl
      | _ => rfl
  | zero sign =>
      cases right with
      | zero other => cases sign <;> cases other <;> rfl
      | _ => rfl
  | finite sign mantissa exponent =>
      cases right with
      | finite other second scale =>
          change normalize format _ (min exponent scale) .positive =
            normalize format _ (min scale exponent) .positive
          rw [Int.min_comm, Int.add_comm]
      | _ => rfl

theorem unpacked_mul_comm (format : Format) (left right : UnpackedFloat) :
    UnpackedFloat.mul format left right = UnpackedFloat.mul format right left := by
  cases left with
  | notANumber => cases right <;> rfl
  | infinity sign =>
      cases right with
      | infinity other => exact congrArg infinity (sign_mul_comm sign other)
      | finite other => exact congrArg infinity (sign_mul_comm sign other)
      | _ => rfl
  | zero sign =>
      cases right with
      | zero other => exact congrArg zero (sign_mul_comm sign other)
      | finite other => exact congrArg zero (sign_mul_comm sign other)
      | _ => rfl
  | finite sign mantissa exponent =>
      cases right with
      | notANumber => rfl
      | infinity other => exact congrArg infinity (sign_mul_comm sign other)
      | zero other => exact congrArg zero (sign_mul_comm sign other)
      | finite other second scale =>
          change roundWithAccuracy format (sign * other) (mantissa * second) (exponent + scale) _ =
            roundWithAccuracy format (other * sign) (second * mantissa) (scale + exponent) _
          rw [sign_mul_comm, Nat.mul_comm, Int.add_comm]

end Binary64

/-- Binary64 numbers have a single missing value, so that they commute without exception. -/
instance : Scalar.Commutes Float where
  add_comm _ _ :=
    congrArg (fun sum => Float.ofModel (Float.Model.pack sum)) (Binary64.unpacked_add_comm ..)
  mul_comm _ _ :=
    congrArg (fun product => Float.ofModel (Float.Model.pack product))
      (Binary64.unpacked_mul_comm ..)

/-! ## Matrices -/

namespace RowMatrix

def IsSymmetric (matrix : RowMatrix α n n) : Prop :=
  ∀ i j, (matrix.get i).get j = (matrix.get j).get i

private theorem isSymmetric_diagonal (entries : Vector α n) : (diagonal entries).IsSymmetric := by
  intro i j
  rw [diagonal, get_ofEntries, get_ofEntries]
  by_cases same : i = j
  · rw [same]
  · rw [if_neg same, if_neg (Ne.symm same)]

theorem get_add (left right : RowMatrix α n n) (i j : Fin n) :
    ((left + right).get i).get j = (left.get i).get j + (right.get i).get j := by
  change (left + right)[i.val][j.val] = _
  rw [Vector.getElem_add, Vector.getElem_add]
  rfl

private theorem isSymmetric_symmetrize [Scalar.Commutes α] (matrix : RowMatrix α n n) :
    matrix.symmetrize.IsSymmetric := by
  intro i j
  rw [symmetrize, get_scale, get_scale, get_add, get_add, transpose, get_ofEntries,
    get_ofEntries, Scalar.Commutes.add_comm]

private theorem IsSymmetric.scale {matrix : RowMatrix α n n} (symmetric : matrix.IsSymmetric)
    (factor : α) : (matrix.scale factor).IsSymmetric := by
  intro i j
  rw [get_scale, get_scale, symmetric i j]

end RowMatrix

/-! ## Approximations -/

namespace InverseHessian

private theorem isSymmetric_seed (steps : Vector α n) : (seed steps).IsSymmetric :=
  RowMatrix.isSymmetric_diagonal _

variable [Scalar.Commutes α] {next : RowMatrix α n n}

private theorem isSymmetric_of_update {inverseHessian : RowMatrix α n n} {s y : Vector α n}
    (updated : update inverseHessian s y = some next) : next.IsSymmetric := by
  unfold update at updated
  dsimp only at updated
  split at updated
  · split at updated
    · cases updated
      exact RowMatrix.isSymmetric_symmetrize _
    · cases updated
  · cases updated

private theorem isSymmetric_of_ofHessian {hessian : RowMatrix α n n}
    (inverted : ofHessian hessian = some next) : next.IsSymmetric := by
  rcases Option.map_eq_some_iff.mp inverted with ⟨factor, _, rfl⟩
  exact RowMatrix.isSymmetric_symmetrize _

end InverseHessian

namespace Problem

variable {problem : Problem α σ ε n} {holds : RowMatrix α n n → Prop} {x : Vector α n}
  {state : State α n} {memory after : σ}

theorem inverseHessian_of_lineSearch {descent : Descent α n}
    (search : problem.lineSearch state memory = (.ok descent, after)) :
    descent.state.inverseHessian = state.inverseHessian := by
  rcases lineSearch_eq_ok search with ⟨outcome, _, rfl, _⟩
  rw [Descent.state_ofOutcome]

private theorem inverseHessian_of_descend {descent : Descent α n} (seeded : holds problem.seed)
    (before : holds state.inverseHessian)
    (search : problem.descend state memory = (.ok descent, after)) :
    holds descent.state.inverseHessian := by
  rcases descend_eq_ok search with ⟨first, _, last, rfl | ⟨calls, rfl⟩⟩
  · rwa [inverseHessian_of_lineSearch last]
  · rwa [inverseHessian_of_lineSearch last]

/-- What holds of the seed, of every update of an approximation and of every inverse of a
Hessian holds of the approximation in all states of a fit. -/
theorem Reaches.inverseHessian (seeded : holds problem.seed)
    (updated : ∀ {inverseHessian s y next}, holds inverseHessian →
      InverseHessian.update inverseHessian s y = some next → holds next)
    (inverted : ∀ {hessian next}, InverseHessian.ofHessian hessian = some next → holds next)
    (reaches : problem.Reaches x state) : holds state.inverseHessian := by
  induction reaches with
  | @started memory state after started =>
      have starts := problem.starts_start memory x
      rw [started] at starts
      cases starts with
      | ready => exact seeded
  | searched _ search induction => rwa [inverseHessian_of_lineSearch search]
  | reset => exact seeded
  | @iterated state memory step after _ iteration induction =>
      have iterates := problem.iterates_iterate state memory
      rw [iteration] at iterates
      cases iterates with
      | stalled descent => exact inverseHessian_of_descend seeded induction descent
      | outOfCalls descent => exact inverseHessian_of_descend seeded induction descent
      | failed descent => exact inverseHessian_of_descend seeded induction descent
      | @advanced trial searched _ estimate _ descent =>
          have kept : holds searched.inverseHessian :=
            inverseHessian_of_descend seeded induction descent
          change holds ((InverseHessian.update searched.inverseHessian (trial.x - searched.x)
            (estimate.gradient - searched.gradient)).getD searched.inverseHessian)
          -- A refused update leaves the approximation that the search ended with.
          rcases learned : InverseHessian.update searched.inverseHessian (trial.x - searched.x)
            (estimate.gradient - searched.gradient) with _ | next
          · exact kept
          · exact updated kept learned
  | @refined state memory next after _ refinement induction =>
      have refines := problem.refines_refine state memory
      rw [refinement] at refines
      cases refines with
      | failed => exact induction
      | indefinite => exact induction
      | definite _ inverse => exact inverted inverse

theorem inverseHessian_of_failed
    (started : problem.start x memory = (.ok (.failed state), after)) :
    state.inverseHessian = problem.seed := by
  have starts := problem.starts_start memory x
  rw [started] at starts
  cases starts with
  | nonFinite => rfl
  | failed => rfl

private theorem isSymmetric_of_failed
    (started : problem.start x memory = (.ok (.failed state), after)) :
    state.inverseHessian.IsSymmetric := by
  rw [inverseHessian_of_failed started]
  exact InverseHessian.isSymmetric_seed _

variable [Scalar.Commutes α]

theorem Reaches.isSymmetric (reaches : problem.Reaches x state) :
    state.inverseHessian.IsSymmetric :=
  reaches.inverseHessian (InverseHessian.isSymmetric_seed _)
    (fun _ => InverseHessian.isSymmetric_of_update) InverseHessian.isSymmetric_of_ofHessian

private theorem isSymmetric_of_run {observer : Observer α ω} {origin final : Session α σ ω}
    {ending : Ending α n} (ran : problem.run observer x origin = (.ok ending, final)) :
    ending.state.inverseHessian.IsSymmetric := by
  rcases reaches_of_run ran with reaches | ⟨_, failed⟩
  · exact reaches.isSymmetric
  · exact isSymmetric_of_failed failed

end Problem

/-! ## Covariances -/

namespace Covariance

private theorem isSymmetric_of_estimate {inverseHessian : RowMatrix α n n} {errorDefinition : α}
    {covariance : Covariance α n} (symmetric : inverseHessian.IsSymmetric)
    (estimated : estimate inverseHessian errorDefinition = some covariance) :
    covariance.matrix.IsSymmetric := by
  unfold estimate at estimated
  dsimp only at estimated
  split at estimated
  · cases estimated
    exact symmetric.scale _
  · cases estimated

private theorem correlation_comm [Scalar.Commutes α] {covariance : Covariance α n}
    (symmetric : covariance.matrix.IsSymmetric) (i j : Nat) :
    covariance.correlation i j = covariance.correlation j i := by
  unfold correlation
  by_cases inRange : i < n ∧ j < n
  · rw [dif_pos inRange, dif_pos inRange.symm]
    dsimp only
    rw [Bool.or_comm, symmetric, Scalar.Commutes.mul_comm]
  · rw [dif_neg inRange, dif_neg fun swapped => inRange swapped.symm]

end Covariance

/-- As long as the order of two operands does not matter, every approximation that a fit
comes to is symmetric, entry by entry, and so are the covariance and the correlations of
its result, however its operations are rounded. -/
theorem approximations_stay_symmetric [Scalar.Commutes α] (objective : Objective α σ ε)
    (parameters : ParameterSet α) (config : Config α) (observer : Observer α ω)
    (objectiveMemory : σ) (observerMemory : ω) :
    let origin := Session.start objectiveMemory observerMemory
    let outcome := minimize objective parameters config observer origin
    (∀ problem, Problem.prepare objective parameters config = .ok problem →
      (∀ state, problem.Reaches parameters.values state → state.inverseHessian.IsSymmetric) ∧
      (∀ memory state after,
        problem.start parameters.values memory = (.ok (.failed state), after) →
          state.inverseHessian.IsSymmetric) ∧
      (∀ remaining state session,
        problem.AtHead observer parameters.values origin remaining state session →
          problem.Reaches parameters.values state) ∧
      ∀ ending final, problem.run observer parameters.values origin = (.ok ending, final) →
        ending.state.inverseHessian.IsSymmetric) ∧
    ∀ minimum covariance, outcome.1 = .ok minimum → minimum.covariance = some covariance →
      covariance.matrix.IsSymmetric ∧
        ∀ i j, covariance.correlation i j = covariance.correlation j i := by
  intro origin outcome
  refine ⟨?_, ?_⟩
  · intro problem _
    exact ⟨fun _ reaches => reaches.isSymmetric,
      fun _ _ _ failed => Problem.isSymmetric_of_failed failed, fun _ _ _ head => head.reaches,
      fun _ _ ran => Problem.isSymmetric_of_run ran⟩
  · intro minimum covariance answered estimated
    have minimizes : Minimizes objective parameters config observer origin outcome.1 outcome.2 :=
      minimizes_minimize objective parameters config observer origin
    rw [answered] at minimizes
    generalize outcome.2 = final at minimizes
    cases minimizes with
    | ended prepared ran =>
        have symmetric : covariance.matrix.IsSymmetric :=
          Covariance.isSymmetric_of_estimate (Problem.isSymmetric_of_run ran) estimated
        exact ⟨symmetric, Covariance.correlation_comm symmetric⟩

def tiltedBowl : Objective Float Unit Empty :=
  Expression.objective (.add (.square (.parameter 0))
    (.square (.sub (.parameter 0) (.parameter 1)))) 1

private theorem tiltedValue_isFinite : Scalar.isFinite (2 : Float) = true := by decide +kernel

private theorem tiltedStep_isFinite : Scalar.isFinite (0.25 : Float) = true := by decide +kernel

private theorem tiltedStep_pos : (0 : Float) < 0.25 := by decide +kernel

def tiltedParameter (name : String) : Parameter Float where
  name := name
  value := 2
  step := 0.25
  bounds := Bounds.unlimited
  value_finite := tiltedValue_isFinite
  step_finite := tiltedStep_isFinite
  step_positive := tiltedStep_pos
  bounds_ordered := Bounds.ordered_unlimited
  value_within := Bounds.contains_unlimited _

def tiltedParameters : ParameterSet Float where
  entries := [tiltedParameter "a", tiltedParameter "b"]
  distinct := by decide

/-- One step down the bowl, after which the covariance is that of an update. -/
theorem covariance_of_tiltedBowl_symmetric : ∃ minimum covariance,
    (minimize tiltedBowl tiltedParameters { Config.default with maxIterations := 1 }
      Observer.silent (Session.start () ())).1 = .ok minimum ∧
    minimum.covariance = some covariance ∧ covariance.matrix.IsSymmetric ∧
      covariance.correlation 0 1 = covariance.correlation 1 0 := by
  let outcome := minimize tiltedBowl tiltedParameters { Config.default with maxIterations := 1 }
    Observer.silent (Session.start () ())
  have reported : (outcome.1.toOption.bind (·.covariance)).isSome = true := by decide +kernel
  rcases answered : outcome.1 with cause | minimum
  · rw [answered] at reported
    cases reported
  · rw [answered] at reported
    rcases Option.isSome_iff_exists.mp reported with ⟨covariance, estimated⟩
    rcases (approximations_stay_symmetric tiltedBowl tiltedParameters
      { Config.default with maxIterations := 1 } Observer.silent () ()).2 minimum covariance
        answered estimated with ⟨symmetric, correlations⟩
    exact ⟨minimum, covariance, rfl, estimated, symmetric, correlations 0 1⟩

end CurveFitting

import CurveFitting.Proofs.LeastSquaresErrors
import CurveFitting.Proofs.LeastSquaresFit
import CurveFitting.Proofs.Pools

/-! # The order of the samples does not matter

The cost of a least-squares fit is the sum of the squares of its residuals, in the order of
the dataset. A sum of exact numbers is the same in any order. So a dataset in another order
makes the same objective, and with it every fit is the same from its first event to its result.
-/

namespace CurveFitting

namespace LeastSquares

variable {α : Type} [Scalar α] {problem : LeastSquares α} {parameters : List α}

/-! ## Costs and residuals -/

def sumOfSquares (numbers : List α) : α :=
  (numbers.map fun number => number * number).foldl (· + ·) 0

private theorem cost_eq (problem : LeastSquares α) (parameters : List α) :
    problem.cost parameters = (problem.validate parameters.length).map fun _ =>
      sumOfSquares (problem.points.map (problem.residual parameters)) := by
  rw [cost, sumOfSquares, List.map_map, List.foldl_map]
  cases problem.validate parameters.length <;> rfl

private theorem residuals_eq_ok_iff {residuals : List α} :
    problem.residuals parameters = .ok residuals ↔
      parameters.length = problem.model.parameterCount ∧
        residuals = problem.points.map (problem.residual parameters) := by
  rw [LeastSquares.residuals, checkCount]
  split
  · rename_i same
    constructor
    · rintro ⟨⟩
      exact ⟨same, rfl⟩
    · rintro ⟨-, rfl⟩
      rfl
  · rename_i different
    constructor
    · rintro ⟨⟩
    · rintro ⟨same, -⟩
      exact absurd same different

private theorem cost_eq_error_iff {cause : LeastSquaresError} :
    problem.cost parameters = .error cause ↔
      problem.validate parameters.length = .error cause := by
  rw [cost_eq]
  cases problem.validate parameters.length with
  | error other => rw [Except.map, Except.error.injEq, Except.error.injEq]
  | ok => exact iff_of_false nofun nofun

private theorem exists_cost_iff : (∃ value, problem.cost parameters = .ok value) ↔
    problem.validate parameters.length = .ok () := by
  rw [cost_eq]
  cases problem.validate parameters.length with
  | error cause => exact iff_of_false nofun nofun
  | ok => exact iff_of_true ⟨_, rfl⟩ rfl

private theorem cost_of_valid (valid : problem.validate parameters.length = .ok ()) :
    problem.cost parameters =
      .ok (sumOfSquares (problem.points.map (problem.residual parameters))) := by
  rw [cost_eq, valid]
  rfl

private theorem cost_eq_ok_iff {value : α} : problem.cost parameters = .ok value ↔
    problem.points ≠ [] ∧ ∃ residuals, problem.residuals parameters = .ok residuals ∧
      value = sumOfSquares residuals := by
  simp only [residuals_eq_ok_iff]
  constructor
  · intro computed
    have valid := exists_cost_iff.mp ⟨value, computed⟩
    rcases validate_eq_ok_iff.mp valid with ⟨filled, same⟩
    exact ⟨filled, _, ⟨same, rfl⟩, Except.ok.inj (computed.symm.trans (cost_of_valid valid))⟩
  · rintro ⟨filled, _, ⟨same, rfl⟩, rfl⟩
    exact cost_of_valid (validate_eq_ok_iff.mpr ⟨filled, same⟩)

theorem minimize_withPool {ω : Type} (problem : LeastSquares α) (parameters : ParameterSet α)
    (config : Config α) (pool : Pool) (observer : Observer α ω) :
    minimize problem.objective parameters (config.withPool pool) observer =
      minimize problem.objective parameters config observer := by
  have prepares := Problem.prepare_withPool problem.objective parameters config pool
  rcases prepared : Problem.prepare problem.objective parameters config with cause | checked
  · funext origin
    rw [prepared] at prepares
    rw [minimize_of_prepare_error prepares, minimize_of_prepare_error prepared]
  · have answers (point : Vector α parameters.size) (memory : Unit) :
        problem.objective.evaluate point.toList memory =
          (.ok (sumOfSquares (problem.points.map (problem.residual point.toList))), memory) := by
      have valid : problem.validate point.toList.length = .ok () := by
        rw [Vector.length_toList]
        exact Problem.validate_of_prepare prepared
      exact congrArg (·, memory) (cost_of_valid valid)
    exact CurveFitting.minimize_withPool (.steady answers) observer

end LeastSquares

/-! ## Exact sums -/

namespace Exact

private theorem add_add_swap (total left right : Exact) :
    total + left + right = total + right + left := by
  cases total with
  | missing => rfl
  | real total =>
      cases left <;> cases right
      · exact congrArg real (add_right_comm ..)
      · rfl
      · rfl
      · rfl

private theorem sumOfSquares_perm {numbers others : List Exact} (perm : numbers.Perm others) :
    LeastSquares.sumOfSquares numbers = LeastSquares.sumOfSquares others :=
  (perm.map fun number => number * number).foldl_eq' (fun _ _ _ _ _ => add_add_swap ..) 0

private theorem objective_perm {model : CurveModel Exact} {points permuted : List (DataPoint Exact)}
    (perm : permuted.Perm points) (errorDefinition : Exact) :
    (LeastSquares.mk model permuted errorDefinition).objective =
      (LeastSquares.mk model points errorDefinition).objective := by
  have validates (count : Nat) : (LeastSquares.mk model permuted errorDefinition).validate count =
      (LeastSquares.mk model points errorDefinition).validate count := by
    rw [LeastSquares.validate, LeastSquares.validate, perm.isEmpty_eq]
    rfl
  have costs (parameters : List Exact) :
      (LeastSquares.mk model permuted errorDefinition).cost parameters =
        (LeastSquares.mk model points errorDefinition).cost parameters := by
    rw [LeastSquares.cost_eq, LeastSquares.cost_eq, validates]
    congr 1
    funext _
    exact sumOfSquares_perm (perm.map _)
  unfold LeastSquares.objective
  congr 1
  · funext parameters
    rw [costs]
  · exact funext validates

end Exact

open Exact

/-- A polynomial fit has a cost wherever the number of coefficients is accepted, which is where
there is data and the number is right. A lack of data is reported first. The cost is the sum of
the squares of the residuals, which in exact numbers are those of the polynomial in power form.
So in exact numbers a fit to the samples in another order tells the same events and ends with the
same result or error, whatever its threads do. -/
theorem sample_order_does_not_matter {α : Type} [Scalar α] (degree : Nat)
    (points : List (DataPoint α)) (errorDefinition : α) (coefficients : List α) :
    let problem : LeastSquares α := ⟨polynomialModel degree, points, errorDefinition⟩
    ((∃ value, problem.cost coefficients = .ok value) ↔
      points ≠ [] ∧ coefficients.length = degree + 1) ∧
    ((∃ value, problem.cost coefficients = .ok value) ↔
      problem.validate coefficients.length = .ok ()) ∧
    (∀ cause, problem.cost coefficients = .error cause ↔
      points = [] ∧ cause = .emptyDataset ∨
      points ≠ [] ∧ coefficients.length ≠ degree + 1 ∧
        cause = .parameterCount (degree + 1) coefficients.length) ∧
    (∀ value, problem.cost coefficients = .ok value ↔
      points ≠ [] ∧ ∃ residuals, problem.residuals coefficients = .ok residuals ∧
        value = LeastSquares.sumOfSquares residuals) ∧
    (∀ (samples : List (ℝ × ℝ)) (definition : ℝ) (p : Fin (degree + 1) → ℝ), samples ≠ [] →
      (polynomialFit degree samples definition).cost (vector p).toList =
        .ok (real (samples.map fun sample =>
          (∑ k : Fin (degree + 1), p k * sample.1 ^ k.val - sample.2) ^ 2).sum)) ∧
    ∀ (samples permuted : List (DataPoint Exact)) (definition : Exact), permuted.Perm samples →
      ∀ {ω : Type} (parameters : ParameterSet Exact) (config : Config Exact) (pool : Pool)
        (observer : Observer Exact ω) (origin : Session Exact Unit ω),
      minimize (LeastSquares.mk (polynomialModel degree) permuted definition).objective parameters
          (config.withPool pool) observer origin =
        minimize (LeastSquares.mk (polynomialModel degree) samples definition).objective parameters
          config observer origin := by
  intro problem
  refine ⟨?_, LeastSquares.exists_cost_iff, fun cause => ?_, fun value => ?_, ?_, ?_⟩
  · exact LeastSquares.exists_cost_iff.trans LeastSquares.validate_eq_ok_iff
  · exact LeastSquares.cost_eq_error_iff.trans LeastSquares.validate_eq_error_iff
  · exact LeastSquares.cost_eq_ok_iff
  · intro samples definition p filled
    have valid : (polynomialFit degree samples definition).validate (degree + 1) = .ok () :=
      LeastSquares.validate_eq_ok_iff.mpr ⟨List.map_eq_nil_iff.not.mpr filled, rfl⟩
    exact cost_of_validate valid
  · intro samples permuted definition perm ω parameters config pool observer origin
    rw [objective_perm perm, LeastSquares.minimize_withPool]

/-- The line through two points has the same fit from either point on. -/
theorem line_fit_in_either_order :
    (polynomialFit 1 [(0, 1), (1, 3)] 1).cost (vector ![1, 1]).toList = .ok (real 1) ∧
    ∃ minimum final,
      minimize (polynomialFit 1 [(0, 1), (1, 3)] 1).objective lineParameters Config.default
        Observer.silent (Session.start () ()) = (.ok minimum, final) ∧
      minimize (polynomialFit 1 [(1, 3), (0, 1)] 1).objective lineParameters Config.default
        Observer.silent (Session.start () ()) = (.ok minimum, final) := by
  rcases sample_order_does_not_matter 1 (dataPoints [(0, 1), (1, 3)]) (real 1) [] with
    ⟨_, _, _, _, powerForm, permutes⟩
  constructor
  · have sum : ([(0, 1), (1, 3)].map fun sample : ℝ × ℝ =>
        (∑ k : Fin 2, ![1, 1] k * sample.1 ^ k.val - sample.2) ^ 2).sum = 1 := by
      norm_num [Fin.sum_univ_two]
    have cost := powerForm [(0, 1), (1, 3)] 1 ![1, 1] (List.cons_ne_nil _ _)
    exact cost.trans (congrArg (fun total => Except.ok (real total)) sum)
  · have swapped := permutes (dataPoints [(0, 1), (1, 3)]) (dataPoints [(1, 3), (0, 1)]) (real 1)
      (.swap ..) lineParameters Config.default Pool.inOrder Observer.silent (Session.start () ())
    have keeps : (polynomialFit 1 [(0, 1), (1, 3)] 1).objective.Keeps lineParameters.size
        (fun _ => True) (fun _ => False) := LeastSquares.objective_keeps rfl
    have accepted : ∃ problem, Problem.prepare (polynomialFit 1 [(0, 1), (1, 3)] 1).objective
        lineParameters Config.default = .ok problem :=
      ⟨_, Problem.prepare_eq_ok_iff.mpr ⟨rfl, ⟨rfl, lt_iff.mpr one_pos⟩, rfl, rfl⟩⟩
    rcases accepted with ⟨problem, prepared⟩
    rcases keeps.answers prepared Observer.silent trivial with ⟨minimum, answered⟩
    exact ⟨minimum, _, Prod.ext answered rfl, swapped.trans (Prod.ext answered rfl)⟩

end CurveFitting

import CurveFitting.Proofs.Exact.Covariance
import CurveFitting.Proofs.PositiveDefinite
import CurveFitting.Proofs.Run.Invariants
import CurveFitting.Proofs.Symmetry

/-! # Correlations

On exact numbers a positive semidefinite approximation has a covariance whose correlations
lie between minus one and one. The approximation of a fit is positive definite whichever way
the fit ends, so a result always comes with its covariance, and no error in it is zero.
-/

namespace CurveFitting

open Exact Matrix

variable {σ ω ε : Type} {n : Nat}

/-! ## One approximation -/

/-- What the covariance of an approximation says about each parameter and about each pair. -/
structure Covariance.BelongsTo (covariance : Covariance Exact n)
    (approximation : Matrix (Fin n) (Fin n) ℝ) (errorDefinition : ℝ) : Prop where
  error : ∀ i, ∃ error, covariance.errors.get i = real error ∧ 0 ≤ error ∧
    error ^ 2 = 2 * errorDefinition * approximation i i
  outside : ∀ i j, ¬(i < n ∧ j < n) → covariance.correlation i j = none
  missing : ∀ i j : Fin n, covariance.correlation i j = none ↔
    approximation i i = 0 ∨ approximation j j = 0
  symmetric : ∀ i j, covariance.correlation i j = covariance.correlation j i
  same : ∀ i : Fin n, approximation i i ≠ 0 → covariance.correlation i i = some 1
  bounded : ∀ i j correlation, covariance.correlation i j = some correlation →
    -1 ≤ correlation ∧ correlation ≤ 1
  product : ∀ (i j : Fin n) correlation, covariance.correlation i j = some correlation →
    correlation * covariance.errors.get i * covariance.errors.get j =
      real (2 * errorDefinition * approximation i j)

namespace Exact

variable {approximation : Matrix (Fin n) (Fin n) ℝ} {errorDefinition : ℝ}

private theorem correlation_covariance_bounded {entries : Matrix (Fin n) (Fin n) ℝ}
    (semidefinite : entries.PosSemidef) {i j : Nat} {correlation : Exact}
    (known : (covariance entries).correlation i j = some correlation) :
    -1 ≤ correlation ∧ correlation ≤ 1 := by
  by_cases inRange : i < n ∧ j < n
  · rcases correlation_covariance_cases semidefinite ⟨i, inRange.1⟩ ⟨j, inRange.2⟩ with
      ⟨_, none⟩ | ⟨_, _, some⟩
    · cases known.symm.trans none
    · cases known.symm.trans some
      rw [one_eq, neg_eq, le_iff, le_iff]
      exact abs_le.mp (abs_normalized_le_one semidefinite _ _)
  · cases known.symm.trans (Covariance.correlation_of_out_of_range _ inRange)

private theorem correlation_covariance_comm {entries : Matrix (Fin n) (Fin n) ℝ}
    (semidefinite : entries.PosSemidef) (i j : Nat) :
    (covariance entries).correlation i j = (covariance entries).correlation j i := by
  by_cases inRange : i < n ∧ j < n
  · let row : Fin n := ⟨i, inRange.1⟩
    let column : Fin n := ⟨j, inRange.2⟩
    rcases correlation_covariance_cases semidefinite row column with
      ⟨zero, none⟩ | ⟨first, second, some⟩
    · exact none.trans (correlation_covariance_of_zero semidefinite zero.symm).symm
    · rw [← normalized_comm semidefinite] at some
      exact some.trans (correlation_covariance semidefinite second first).symm
  · rw [Covariance.correlation_of_out_of_range _ inRange,
      Covariance.correlation_of_out_of_range _ fun swapped => inRange swapped.symm]

private theorem covariance_belongsTo (semidefinite : approximation.PosSemidef)
    (positive : 0 < errorDefinition) :
    (covariance ((2 * errorDefinition) • approximation)).BelongsTo approximation
      errorDefinition := by
  have scale : 0 < 2 * errorDefinition := by positivity
  have scaled := semidefinite.smul (le_of_lt scale)
  have zero_iff (i : Fin n) :
      ((2 * errorDefinition) • approximation) i i = 0 ↔ approximation i i = 0 := by
    rw [Matrix.smul_apply, smul_eq_mul, mul_eq_zero_iff_left scale.ne']
  have cases := correlation_covariance_cases scaled
  refine ⟨?_, fun i j => Covariance.correlation_of_out_of_range _, ?_,
    correlation_covariance_comm scaled, ?_, fun i j _ => correlation_covariance_bounded scaled,
    ?_⟩
  · intro i
    exact ⟨_, get_errors_covariance scaled i, Real.sqrt_nonneg _,
      Real.sq_sqrt scaled.diag_nonneg⟩
  · intro i j
    rw [← zero_iff i, ← zero_iff j]
    rcases cases i j with ⟨zero, none⟩ | ⟨first, second, some⟩
    · exact iff_of_true none zero
    · rw [some]
      exact iff_of_false nofun (not_or.mpr ⟨first.ne', second.ne'⟩)
  · intro i nonzero
    have first := scaled.diag_nonneg.lt_of_ne' ((zero_iff i).not.mpr nonzero)
    rw [correlation_covariance scaled first first, normalized_self first, one_eq]
  · intro i j correlation known
    rcases cases i j with ⟨_, none⟩ | ⟨first, second, some⟩
    · cases known.symm.trans none
    · cases known.symm.trans some
      rw [get_errors_covariance scaled, get_errors_covariance scaled, mul_eq, mul_eq,
        normalized_mul_sqrt first second, Matrix.smul_apply, smul_eq_mul]

private theorem correlation_covariance_smul (semidefinite : approximation.PosSemidef) {factor : ℝ}
    (positive : 0 < factor) (i j : Nat) :
    (covariance (factor • approximation)).correlation i j =
      (covariance approximation).correlation i j := by
  have scaled := semidefinite.smul (le_of_lt positive)
  by_cases inRange : i < n ∧ j < n
  · let row : Fin n := ⟨i, inRange.1⟩
    let column : Fin n := ⟨j, inRange.2⟩
    rcases correlation_covariance_cases semidefinite row column with
      ⟨zero, none⟩ | ⟨first, second, some⟩
    · have stays (k : Fin n) (zero : approximation k k = 0) :
          (factor • approximation) k k = 0 := by
        rw [Matrix.smul_apply, zero, smul_zero]
      exact (correlation_covariance_of_zero scaled
        (zero.imp (stays row) (stays column))).trans none.symm
    · rw [← normalized_smul positive] at some
      exact (correlation_covariance scaled (mul_pos positive first)
        (mul_pos positive second)).trans some.symm
  · rw [Covariance.correlation_of_out_of_range _ inRange,
      Covariance.correlation_of_out_of_range _ inRange]

private theorem covariance_of_posDef {entries : Matrix (Fin n) (Fin n) ℝ}
    (posDef : entries.PosDef) :
    (∀ i, 0 < (covariance entries).errors.get i) ∧
    ∀ i j : Fin n, ∃ correlation, (covariance entries).correlation i j = some correlation ∧
      -1 ≤ correlation ∧ correlation ≤ 1 := by
  have semidefinite := posDef.posSemidef
  refine ⟨?_, ?_⟩
  · intro i
    rw [get_errors_covariance semidefinite, zero_eq, lt_iff]
    exact Real.sqrt_pos.mpr posDef.diag_pos
  · intro i j
    have known := correlation_covariance semidefinite (posDef.diag_pos (i := i))
      (posDef.diag_pos (i := j))
    exact ⟨_, known, correlation_covariance_bounded semidefinite known⟩

end Exact

/-! ## Fits -/

/-- A fit ends with a positive definite approximation, also where it fails at its start. -/
theorem Problem.posDef_of_run {problem : Problem Exact σ ε n} {observer : Observer Exact ω}
    {origin final : Session Exact σ ω} {ending : Ending Exact n} {x : Fin n → ℝ}
    (positive : problem.IsPositive)
    (ran : problem.run observer (vector x) origin = (.ok ending, final)) :
    ∃ approximation : Matrix (Fin n) (Fin n) ℝ,
      ending.state.inverseHessian = matrix approximation ∧ approximation.PosDef := by
  rcases reaches_of_run ran with reaches | ⟨memory, failed⟩
  · exact (reaches.isDefinite positive).inverseHessian
  · rw [inverseHessian_of_failed failed]
    exact seed_isPosDef positive

private theorem Minimizes.covariance {objective : Objective Exact σ ε}
    {parameters : ParameterSet Exact} {config : Config Exact} {observer : Observer Exact ω}
    {origin final : Session Exact σ ω}
    {minimum : Minimum Exact parameters.size}
    (minimizes : Minimizes objective parameters config observer origin (.ok minimum) final) :
    ∃ entries : Matrix (Fin parameters.size) (Fin parameters.size) ℝ,
      minimum.covariance = some (covariance entries) ∧ entries.PosDef := by
  cases minimizes with
  | @ended problem ending _ prepared ran =>
      have positive := Problem.isPositive_of_prepare prepared
      rcases positive.errorDefinition with ⟨definition, defined, definitionPositive⟩
      rcases parameters.values_real with ⟨x, values⟩
      rcases Problem.posDef_of_run positive (values ▸ ran) with ⟨approximation, equal, posDef⟩
      refine ⟨(2 * definition) • approximation, ?_, posDef.smul (by positivity)⟩
      change Covariance.estimate ending.state.inverseHessian problem.errorDefinition = _
      rw [equal, defined, estimate_of_posSemidef posDef.posSemidef definitionPositive]

/-- The covariance of a positive semidefinite approximation is that of random variables: its
errors square to the variances, and a correlation is missing exactly where a variance is zero,
is one for a parameter and itself, lies between minus one and one, and does not depend on the
error definition. A fit has such a covariance, with errors above zero, however it ends, and it
has a result unless it is refused at once or its objective refuses an evaluation. -/
theorem correlations_are_normalized :
    (∀ {n : Nat} {approximation : Matrix (Fin n) (Fin n) ℝ} {errorDefinition : ℝ},
      approximation.PosSemidef → 0 < errorDefinition →
      ∃ covariance : Covariance Exact n,
        Covariance.estimate (matrix approximation) (real errorDefinition) = some covariance ∧
        covariance.BelongsTo approximation errorDefinition ∧
        ∀ other, 0 < other → ∃ rescaled : Covariance Exact n,
          Covariance.estimate (matrix approximation) (real other) = some rescaled ∧
          ∀ i j, rescaled.correlation i j = covariance.correlation i j) ∧
    ∀ {σ ω ε : Type} (objective : Objective Exact σ ε) (parameters : ParameterSet Exact)
      (config : Config Exact) (observer : Observer Exact ω) (origin : Session Exact σ ω),
      let outcome := (minimize objective parameters config observer origin).1
      (∀ cause, outcome = .error cause →
        Problem.prepare objective parameters config = .error cause ∨
        ∃ refusal, cause = .objective refusal ∧ objective.RefusesAt parameters.size refusal) ∧
      ∀ minimum, outcome = .ok minimum → ∃ covariance : Covariance Exact parameters.size,
        minimum.covariance = some covariance ∧ (∀ i, 0 < covariance.errors.get i) ∧
        ∀ i j : Fin parameters.size, ∃ correlation,
          covariance.correlation i j = some correlation ∧ -1 ≤ correlation ∧ correlation ≤ 1 := by
  refine ⟨?_, ?_⟩
  · intro n approximation errorDefinition semidefinite positive
    refine ⟨_, estimate_of_posSemidef semidefinite positive,
      covariance_belongsTo semidefinite positive, ?_⟩
    intro other otherPositive
    refine ⟨_, estimate_of_posSemidef semidefinite otherPositive, fun i j => ?_⟩
    rw [correlation_covariance_smul semidefinite (by positivity),
      correlation_covariance_smul semidefinite (by positivity)]
  · intro σ ω ε objective parameters config observer origin outcome
    refine ⟨fun _ => refused_of_minimize, fun minimum answered => ?_⟩
    have minimizes := minimizes_minimize objective parameters config observer origin
    change Minimizes _ _ _ _ _ outcome _ at minimizes
    rw [answered] at minimizes
    rcases minimizes.covariance with ⟨entries, estimated, posDef⟩
    exact ⟨covariance entries, estimated, covariance_of_posDef posDef⟩

def Exact.opposed : Matrix (Fin 3) (Fin 3) ℝ := vecMulVec ![1, -1, 0] ![1, -1, 0]

private theorem Exact.opposed_posSemidef : opposed.PosSemidef :=
  posSemidef_vecMulVec_self_star ![1, -1, 0]

/-- The third variable has no correlation, and the fit of a cost that falls without end has a
covariance as well. -/
theorem opposed_correlations_normalized :
    opposed.PosSemidef ∧ (0 : ℝ) < 1 ∧
    (∃ covariance : Covariance Exact 3,
      Covariance.estimate (matrix opposed) (real 1) = some covariance ∧
      covariance.BelongsTo opposed 1 ∧ covariance.correlation 0 0 = some 1 ∧
      covariance.correlation 0 2 = none) ∧
    ∃ minimum covariance,
      (minimize endlessCost singleParameter Config.default Observer.silent
        (Session.start () ())).1 = .ok minimum ∧
      minimum.covariance = some covariance ∧ ∀ i, 0 < covariance.errors.get i := by
  refine ⟨opposed_posSemidef, one_pos, ?_, ?_⟩
  · rcases correlations_are_normalized.1 opposed_posSemidef one_pos with
      ⟨covariance, estimated, belongs, _⟩
    have first : opposed 0 0 ≠ 0 := by simp [opposed]
    have third : opposed 2 2 = 0 := by simp [opposed]
    exact ⟨covariance, estimated, belongs, belongs.same 0 first,
      (belongs.missing 0 2).mpr (.inr third)⟩
  · have results := correlations_are_normalized.2 endlessCost singleParameter Config.default
      Observer.silent (Session.start () ())
    have accepted : ∃ problem,
        Problem.prepare endlessCost singleParameter Config.default = .ok problem :=
      ⟨_, Problem.prepare_eq_ok_iff.mpr ⟨rfl, ⟨rfl, lt_iff.mpr one_pos⟩, rfl, rfl⟩⟩
    rcases answered : (minimize endlessCost singleParameter Config.default Observer.silent
      (Session.start () ())).1 with cause | minimum
    · rcases accepted with ⟨problem, prepared⟩
      rcases results.1 cause answered with refused | ⟨refusal, _⟩
      · cases prepared.symm.trans refused
      · exact refusal.elim
    · rcases results.2 minimum answered with ⟨covariance, estimated, errors, _⟩
      exact ⟨minimum, covariance, rfl, estimated, errors⟩

end CurveFitting

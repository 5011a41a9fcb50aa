import CurveFitting.Proofs.QuadraticDifferences
import CurveFitting.Proofs.Run.Comparison

/-! # Checks against a full Hessian

On exact numbers a check tells whether the Hessian is positive definite. If it is, the check
leaves its inverse behind, with the distance that follows from it. In every other case the
state is the one before, up to the number of evaluations.
-/

namespace CurveFitting

open Exact Matrix

variable {α σ ε : Type} {n : Nat}

namespace Problem

section

variable [Scalar α] {problem : Problem α σ ε n} {state : State α n} {memory after : σ}

/-- What a check makes of a Hessian that has no estimate. -/
def withoutHessian (state : State α n) : DifferenceError α ε → Except ε (Refinement α n)
  | .nonFinite _ _ => .ok (.failed (state.addCalls (2 * (n * n))))
  | .objective cause => .error cause

private theorem refine_of_fault {fault : DifferenceError α ε}
    (failed : (problem.differencesAfter state.calls).hessian problem.objective state.x state.cost
      memory = (.error fault, after)) :
    problem.refine state memory = (withoutHessian state fault, after) := by
  have missing : problem.hessian? state.calls state.x state.cost memory =
      (Differences.finite (.error fault), after) := by
    rw [hessian?, Differences.finiteOnly_apply, failed]
  cases fault with
  | nonFinite index value =>
      rw [refine, Computation.bind_of_ok missing]
      rfl
  | objective cause => exact Computation.bind_of_error missing

end

variable {problem : Problem Exact σ ε n} {state : State Exact n} {memory after : σ}

/-- The state in which a check against the Hessian `A` leaves a fit with the gradient `g`, and
its verdict. -/
structure ChecksAgainst (state : State Exact n) (g : Fin n → ℝ) (up : ℝ)
    (A : Matrix (Fin n) (Fin n) ℝ) (next : State Exact n) (positiveDefinite : Bool) : Prop where
  verdict : positiveDefinite = true ↔ A.PosDef
  installed : A.PosDef → ∃ B : Matrix (Fin n) (Fin n) ℝ, B.IsSymm ∧ B * A = 1 ∧
    next = { state.addCalls (2 * (n * n)) with
      inverseHessian := matrix B
      edm := real (1 / 2 * (g ⬝ᵥ B *ᵥ g) / up) }
  kept : ¬A.PosDef → next = state.addCalls (2 * (n * n))

private theorem refine_of_hessian {g : Fin n → ℝ} {up : ℝ} {A : Matrix (Fin n) (Fin n) ℝ}
    (gradient : state.gradient = vector g) (defined : problem.errorDefinition = real up)
    (positive : 0 < up) (symmetric : A.IsSymm)
    (found : (problem.differencesAfter state.calls).hessian problem.objective state.x state.cost
      memory = (.ok ⟨matrix A, 2 * (n * n)⟩, after)) :
    ∃ next positiveDefinite,
      problem.refine state memory = (.ok (.checked next positiveDefinite), after) ∧
      ChecksAgainst state g up A next positiveDefinite := by
  have estimated : problem.hessian? state.calls state.x state.cost memory =
      (.ok (some ⟨matrix A, 2 * (n * n)⟩), after) := by
    rw [hessian?, Differences.finiteOnly_apply, found]
    rfl
  rw [refine, Computation.bind_of_ok estimated]
  by_cases posDef : A.PosDef
  · have inverted := (ofHessian_eq_some symmetric).mpr ⟨posDef, rfl⟩
    have invertible := (isUnit_iff_isUnit_det _).mp posDef.isUnit
    have distance : InverseHessian.edm state.gradient (matrix A⁻¹) problem.errorDefinition =
        real (1 / 2 * (g ⬝ᵥ A⁻¹ *ᵥ g) / up) := by
      rw [gradient, defined, edm_real posDef.inv g positive]
    simp only [inverted]
    refine ⟨_, _, rfl, iff_of_true rfl posDef, fun _ => ?_, fun indefinite => ?_⟩
    · refine ⟨A⁻¹, symmetric.inv, nonsing_inv_mul _ invertible, ?_⟩
      rw [← distance]
      rfl
    · exact absurd posDef indefinite
  · have singular : InverseHessian.ofHessian (matrix A) = none := by
      refine Option.eq_none_iff_forall_ne_some.mpr fun inverse inverted => posDef ?_
      exact ((ofHessian_eq_some symmetric).mp inverted).1
    simp only [singular]
    exact ⟨_, _, rfl, iff_of_false Bool.false_ne_true posDef,
      fun definite => absurd definite posDef, fun _ => rfl⟩

end Problem

open Problem in
/-- A check installs the inverse of the Hessian that it finds if this is positive definite, and
otherwise only counts the evaluations. It finds one where no probe can be answered without a
real value, and where its probes are evaluated in turn and all these answers are real. It
counts the evaluations as well where a value is missing. -/
theorem check_installs_inverse_or_nothing (problem : Problem Exact σ ε n)
    (state : State Exact n) (memory : σ) {x g : Fin n → ℝ} {cost up : ℝ}
    (point : state.x = vector x) (value : state.cost = real cost)
    (gradient : state.gradient = vector g) (defined : problem.errorDefinition = real up)
    (positive : 0 < up) :
    let differences := problem.differencesAfter state.calls
    let estimate := differences.hessian problem.objective state.x state.cost
    let probes := Probe.ofHessian n
    let h := differences.perturbations state.x
    let answer := Probe.answerTo problem.objective state.x h probes memory
    (∀ found after, estimate memory = (.ok found, after) →
      ∃ (d : Fin n → ℝ) (values : Probe n → ℝ), h = vector d ∧ (∀ i, 0 < d i) ∧
        (∀ probe ∈ probes, Answers problem.objective (place x d probe) (values probe)) ∧
        let A := secondDerivatives cost d values
        A.IsSymm ∧ found = ⟨matrix A, 2 * (n * n)⟩ ∧
        ∃ next positiveDefinite,
          problem.refine state memory = (.ok (.checked next positiveDefinite), after) ∧
          ChecksAgainst state g up A next positiveDefinite) ∧
    (∀ fault after, estimate memory = (.error fault, after) →
      Differences.HasFault problem.objective state.x h probes fault ∧
      problem.refine state memory = (withoutHessian state fault, after)) ∧
    ((∀ fault, ¬Differences.HasFault problem.objective state.x h probes fault) →
      ∃ found after, estimate memory = (.ok found, after)) ∧
    (problem.config.parallel = false →
      ((∀ turn (within : turn < probes.length), probes[turn].fault? (answer turn within) = none) →
        ∃ (d : Fin n → ℝ) (values : Probe n → ℝ), h = vector d ∧ (∀ i, 0 < d i) ∧
          (∀ turn within, answer turn within = .ok (real (values probes[turn]))) ∧
          let A := secondDerivatives cost d values
          let after := problem.objective.memoryAfter (Probe.points state.x h probes) memory
          A.IsSymm ∧ estimate memory = (.ok ⟨matrix A, 2 * (n * n)⟩, after) ∧
          ∃ next positiveDefinite,
            problem.refine state memory = (.ok (.checked next positiveDefinite), after) ∧
            ChecksAgainst state g up A next positiveDefinite) ∧
      (∀ turn (within : turn < probes.length) fault,
        (∀ earlier (listed : earlier < probes.length), earlier < turn →
          probes[earlier].fault? (answer earlier listed) = none) →
        probes[turn].fault? (answer turn within) = some fault →
        problem.refine state memory = (withoutHessian state fault,
          problem.objective.memoryAfter (Probe.points state.x h (probes.take (turn + 1)))
            memory))) ∧
    ∀ refinement after, problem.refine state memory = (.ok refinement, after) →
      refinement.state.calls = state.calls + 2 * (n * n) := by
  intro differences estimate probes h answer
  rcases perturbations_real differences x with ⟨d, small, perturbed⟩
  rw [← point] at perturbed
  have samples (inOrder : differences.parallel = false) :=
    Differences.hessian_samples inOrder problem.objective state.x state.cost
  have faulty {fault : DifferenceError Exact ε} {after : σ}
      (failed : estimate memory = (.error fault, after)) :
      Differences.HasFault problem.objective state.x h probes fault :=
    Differences.hessian_eq_error failed
  refine ⟨fun found after estimated => ?_, fun fault after failed => ?_, fun faultless => ?_,
    fun inOrder => ⟨fun faultless => ?_, fun turn within fault faultless fails => ?_⟩,
    fun _ _ refined => refine_calls refined⟩
  · rcases Differences.hessian_eq_ok estimated with ⟨answers, answered, rfl⟩
    have finite (probe : Probe n) (member : probe ∈ probes) :
        Scalar.isFinite (answers probe) = true := (answered probe member).2
    let values (probe : Probe n) : ℝ := (answers probe).toReal
    have symmetric := secondDerivatives_isSymm cost d values
    have equal : Differences.hessianOf state.cost h answers =
        ⟨matrix (secondDerivatives cost d values), 2 * (n * n)⟩ := by
      rw [value, ← hessianOf_of_finite small cost finite]
      exact congrArg (Differences.hessianOf _ · answers) perturbed
    refine ⟨d, values, perturbed, small, fun probe member => ?_, symmetric, equal,
      refine_of_hessian gradient defined positive symmetric (estimated.trans ?_)⟩
    · apply answers_place
      rw [← point, ← perturbed]
      exact answered probe member
    · exact congrArg (fun found => (Except.ok found, after)) equal
  · exact ⟨faulty failed, refine_of_fault failed⟩
  · rcases estimated : estimate memory with ⟨fault | found, after⟩
    · exact absurd (faulty estimated) (faultless fault)
    · exact ⟨found, after, rfl⟩
  · rcases exists_real_values (Probe.nodup_ofHessian n) faultless with ⟨values, valued⟩
    have symmetric := secondDerivatives_isSymm cost d values
    have found := (samples inOrder).of_values (fun probe => real (values probe)) faultless valued
    rw [perturbed, value, hessianOf_real small, ← perturbed, ← value] at found
    exact ⟨d, values, perturbed, small, valued, symmetric, found,
      refine_of_hessian gradient defined positive symmetric found⟩
  · exact refine_of_fault ((samples inOrder).fails
      (Probe.firstFault?_of_fault within faultless fails))

noncomputable def tiltedProblem : Problem Exact Unit Empty 2 where
  objective := tiltedCost
  config := Config.default
  names := #v["p", "q"]
  steps := vector ![1, 0.5]
  errorDefinition := real 1

/-- A check of the tilted cost replaces a guess for the inverse Hessian by the inverse, for eight
evaluations. -/
theorem tiltedProblem_checked :
    let state : State Exact 2 := {
      x := vector ![1, 1]
      cost := real 4
      gradient := vector ![4, 3]
      inverseHessian := matrix 1
      edm := real 1
      iterations := 0
      calls := 5 }
    ∃ B : Matrix (Fin 2) (Fin 2) ℝ, B.IsSymm ∧ B * !![2, 1; 1, 2] = 1 ∧
      (tiltedProblem.refine state ()).1 = .ok (.checked { state with
        inverseHessian := matrix B
        edm := real (1 / 2 * (![4, 3] ⬝ᵥ B *ᵥ ![4, 3]) / 1)
        calls := 13 } true) := by
  intro state
  have symmetric := isHermitian_iff_isSymm.mp tilted_posDef.isHermitian
  have exact := (tiltedCost_answersWith.derivatives (isQuadratic_quadratic symmetric ![1, 0] 0)
    (tiltedProblem.differencesAfter 5) ![1, 1] ()).2
  rw [tiltedCost_value] at exact
  rcases perturbations_real (tiltedProblem.differencesAfter 5) ![1, 1] with ⟨h, -, perturbed⟩
  rcases check_installs_inverse_or_nothing tiltedProblem state () rfl rfl rfl rfl one_pos with
    ⟨-, -, -, inTurn, -⟩
  have faultless (turn : Nat) (within : turn < (Probe.ofHessian 2).length) :=
    tiltedCost_answersWith.faultless (x := ![1, 1]) (h := h) () within
  rw [← perturbed] at faultless
  rcases (inTurn rfl).1 faultless with
    ⟨_, _, _, _, _, _, found, next, positiveDefinite, refined, against⟩
  have same := (congrArg Prod.fst found).symm.trans exact
  rw [matrix_injective (HessianEstimate.mk.inj (Except.ok.inj same)).1] at against
  rcases against.installed tilted_posDef with ⟨B, symmetricInverse, inverse, rfl⟩
  rw [against.verdict.mpr tilted_posDef] at refined
  exact ⟨B, symmetricInverse, inverse, congrArg Prod.fst refined⟩

end CurveFitting

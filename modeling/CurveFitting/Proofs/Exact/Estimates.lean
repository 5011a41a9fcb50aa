import CurveFitting.Proofs.Exact.Derivatives
import CurveFitting.Proofs.Run.Estimates

/-! # Estimates on exact numbers

From real values at its probes a gradient and a Hessian are the difference quotients of these
values.
-/

namespace CurveFitting.Exact

open Differences Matrix

variable {σ ε : Type} {n : Nat}

def place (x h : Fin n → ℝ) : Probe n → Fin n → ℝ
  | .single i up => x + Pi.single i (if up then h i else -h i)
  | .corner i j iUp jUp =>
      x + Pi.single i (if iUp then h i else -h i) + Pi.single j (if jUp then h j else -h j)

noncomputable def firstDerivatives (h : Fin n → ℝ) (values : Probe n → ℝ) (i : Fin n) : ℝ :=
  (values (.single i true) - values (.single i false)) / (h i + h i)

noncomputable def secondDerivative (cost : ℝ) (h : Fin n → ℝ) (values : Probe n → ℝ)
    (i j : Fin n) : ℝ :=
  if i = j then
    (values (.single i true) + values (.single i false) - (cost + cost)) / (h i * h i)
  else
    (values (.corner i j true true) - values (.corner i j true false) -
      values (.corner i j false true) + values (.corner i j false false)) /
        ((h i + h i + (h i + h i)) * h j)

noncomputable def secondDerivatives (cost : ℝ) (h : Fin n → ℝ) (values : Probe n → ℝ) :
    Matrix (Fin n) (Fin n) ℝ :=
  Matrix.of fun i j =>
    if i ≤ j then secondDerivative cost h values i j else secondDerivative cost h values j i

theorem secondDerivatives_isSymm (cost : ℝ) (h : Fin n → ℝ) (values : Probe n → ℝ) :
    (secondDerivatives cost h values).IsSymm :=
  Matrix.IsSymm.ext fun i j => mirrored_comm (secondDerivative cost h values) i j

variable {h : Fin n → ℝ}

theorem point_eq_place (x : Fin n → ℝ) (probe : Probe n) :
    probe.point (vector x) (vector h) = vector (place x h probe) := by
  have offset (i : Fin n) (up : Bool) :
      Probe.offset (vector h) i up = real (if up then h i else -h i) := by
    cases up <;> simp [Probe.offset]
  cases probe with
  | single i up => rw [Probe.point, offset, shift_real, place]
  | corner i j iUp jUp => rw [Probe.point, offset, offset, shift_real, shift_real, place]

theorem exists_real_values {objective : Objective Exact σ ε} {x h : Vector Exact n}
    {probes : List (Probe n)} {memory : σ} (distinct : probes.Nodup)
    (faultless : ∀ turn (within : turn < probes.length),
      probes[turn].fault? (Probe.answerTo objective x h probes memory turn within) = none) :
    ∃ values : Probe n → ℝ, ∀ turn (within : turn < probes.length),
      Probe.answerTo objective x h probes memory turn within =
        .ok (real (values probes[turn])) := by
  rcases Probe.exists_values distinct faultless with ⟨values, valued⟩
  refine ⟨fun probe => (values probe).toReal, fun turn within => ?_⟩
  rcases Probe.fault?_eq_none_iff.mp (faultless turn within) with ⟨answer, answered, finite⟩
  cases answered.symm.trans (valued turn within)
  rw [valued turn within, real_toReal finite]

variable (positive : ∀ i, 0 < h i) (cost : ℝ) (values : Probe n → ℝ)

include positive

private theorem entryOf_real (i j : Fin n) :
    entryOf (real cost) (vector h) (fun probe => real (values probe)) i j =
      real (secondDerivative cost h values i j) := by
  have single : h i * h i ≠ 0 := ne_of_gt (mul_pos (positive i) (positive i))
  have twice : 0 < h i + h i := add_pos (positive i) (positive i)
  have mixed : (h i + h i + (h i + h i)) * h j ≠ 0 :=
    ne_of_gt (mul_pos (add_pos twice twice) (positive j))
  unfold entryOf secondDerivative
  split
  · simp [secondDifference, Scalar.double, div_eq single]
  · simp [Scalar.double, div_eq mixed]

private theorem gradient_gradientOf_real (cost : Exact) :
    (gradientOf cost (vector h) fun probe => real (values probe)).gradient =
      vector (firstDerivatives h values) := by
  refine congrArg Vector.ofFn (funext fun i => ?_)
  rw [get_vector, Scalar.double, sub_eq, add_eq,
    div_eq (ne_of_gt (add_pos (positive i) (positive i))), firstDerivatives]

theorem gradientOf_real :
    gradientOf (real cost) (vector h) (fun probe => real (values probe)) =
      ⟨vector (firstDerivatives h values),
        vector fun i => secondDerivative cost h values i i, 2 * n⟩ := by
  have gradient := gradient_gradientOf_real positive values (real cost)
  have curvature (i : Fin n) := entryOf_real positive cost values i i
  simp only [entryOf, if_true] at curvature
  exact congrArg₂ (GradientEstimate.mk · · (2 * n)) gradient
    (congrArg Vector.ofFn (funext curvature))

theorem hessianOf_real :
    hessianOf (real cost) (vector h) (fun probe => real (values probe)) =
      ⟨matrix (secondDerivatives cost h values), 2 * (n * n)⟩ := by
  unfold hessianOf matrix
  simp only [entryOf_real positive, secondDerivatives, Matrix.of_apply, apply_ite real]

section

variable {answers : Probe n → Exact}

theorem gradientOf_of_finite (cost : Exact)
    (finite : ∀ probe ∈ Probe.ofGradient n, Scalar.isFinite (answers probe) = true) :
    (gradientOf cost (vector h) answers).gradient =
      vector (firstDerivatives h fun probe => (answers probe).toReal) := by
  rw [← gradient_gradientOf_real positive _ cost]
  exact congrArg (·.gradient)
    (gradientOf_congr cost fun probe member => (real_toReal (finite probe member)).symm)

theorem hessianOf_of_finite
    (finite : ∀ probe ∈ Probe.ofHessian n, Scalar.isFinite (answers probe) = true) :
    hessianOf (real cost) (vector h) answers =
      ⟨matrix (secondDerivatives cost h fun probe => (answers probe).toReal), 2 * (n * n)⟩ := by
  rw [← hessianOf_real positive]
  exact hessianOf_congr _ fun probe member => (real_toReal (finite probe member)).symm

end

omit positive

theorem answers_place {objective : Objective Exact σ ε} {x : Fin n → ℝ} {probe : Probe n}
    {answer : Exact}
    (answered : objective.Answers (probe.point (vector x) (vector h)).toList answer ∧
      Scalar.isFinite answer = true) :
    Answers objective (place x h probe) answer.toReal := by
  have known := answered.1
  rwa [point_eq_place, ← real_toReal answered.2] at known

/-! ## Derivatives that have been computed -/

section

variable {objective : Objective Exact σ ε} {differences : Differences Exact n} {x : Fin n → ℝ}
  {probes : List (Probe n)} {memory after : σ}

theorem gradient_real {cost : Exact} {estimate : GradientEstimate Exact n}
    (found : differences.gradient objective (vector x) cost memory = (.ok estimate, after)) :
    ∃ h gradient : Fin n → ℝ, (∀ i, 0 < h i) ∧ estimate.gradient = vector gradient ∧
      IsGradient objective x h gradient := by
  rcases perturbations_real differences x with ⟨h, positive, perturbed⟩
  rcases gradient_eq_ok found with ⟨values, answered, rfl⟩
  rw [perturbed] at answered ⊢
  have gradient := gradientOf_of_finite positive cost fun probe member => (answered probe member).2
  refine ⟨h, _, positive, gradient, fun i =>
    ⟨_, _, answers_place (answered (.single i true) ?_),
      answers_place (answered (.single i false) ?_), rfl⟩⟩
  · exact Probe.mem_ofGradient.mpr ⟨i, true, rfl⟩
  · exact Probe.mem_ofGradient.mpr ⟨i, false, rfl⟩

theorem hessian_real {cost : ℝ} {estimate : HessianEstimate Exact n}
    (found : differences.hessian objective (vector x) (real cost) memory =
      (.ok estimate, after)) :
    ∃ (h : Fin n → ℝ) (hessian : Matrix (Fin n) (Fin n) ℝ), (∀ i, 0 < h i) ∧
      hessian.IsSymm ∧ estimate.hessian = matrix hessian ∧
      ∀ i j, i ≤ j → IsSecondDerivative objective x cost h i j (hessian i j) := by
  rcases perturbations_real differences x with ⟨h, positive, perturbed⟩
  rcases hessian_eq_ok found with ⟨values, answered, rfl⟩
  rw [perturbed] at answered ⊢
  rw [hessianOf_of_finite positive cost fun probe member => (answered probe member).2]
  refine ⟨h, _, positive, secondDerivatives_isSymm cost h _, rfl, fun i j above => ?_⟩
  have listed (probe : Probe n) (member : probe ∈ Probe.ofEntry i j) :=
    answers_place (answered probe (Probe.ofEntry_subset above member))
  rw [secondDerivatives, of_apply, if_pos above, secondDerivative]
  rcases eq_or_ne i j with rfl | different
  · have up := listed (.single i true) (by simp [Probe.ofEntry, Probe.pair])
    have down := listed (.single i false) (by simp [Probe.ofEntry, Probe.pair])
    rw [if_pos rfl, ← two_mul]
    exact .single up down
  · have corner (iUp jUp : Bool) := listed (.corner i j iUp jUp) (by
      cases iUp <;> cases jUp <;> simp [Probe.ofEntry, Probe.corners, different])
    rw [if_neg different, ← two_mul, ← two_mul]
    exact .mixed different (corner true true) (corner true false) (corner false true)
      (corner false false)

end

/-! ## Objectives that always answer -/

/-- The objective answers everywhere with the value of a function, whatever it remembers. -/
def AnswersWith (objective : Objective Exact σ ε) (function : (Fin n → ℝ) → ℝ) : Prop :=
  ∀ point memory,
    (objective.evaluate (vector point).toList memory).1 = .ok (real (function point))

/-- The objective responds to every real vector, and remembers nothing of it. The response may
be missing. -/
def Responds (objective : Objective Exact σ ε) (function : (Fin n → ℝ) → Exact) : Prop :=
  ∀ point memory, objective.evaluate (vector point).toList memory = (.ok (function point), memory)

section

variable {objective : Objective Exact σ ε} {function : (Fin n → ℝ) → ℝ} {x : Fin n → ℝ}
  {probes : List (Probe n)}

theorem Total.answersWith (total : Total objective function) : AnswersWith objective function :=
  fun point memory => congrArg Prod.fst (total point memory)

namespace AnswersWith

variable (answers : AnswersWith objective function)

include answers

theorem faultless (memory : σ) {turn : Nat} (within : turn < probes.length) :
    probes[turn].fault? (Probe.answerTo objective (vector x) (vector h) probes memory turn within) =
      none := by
  refine Probe.fault?_eq_none_iff.mpr ⟨real (function (place x h probes[turn])), ?_, rfl⟩
  rw [Probe.answerTo, point_eq_place]
  exact answers _ _

theorem sample_ensures (x h : Fin n → ℝ) (probe : Probe n) :
    Computation.Ensures (fun _ => True) (fun _ => False) (· = real (function (place x h probe)))
      (sample objective probe.index (probe.point (vector x) (vector h))) := by
  rw [point_eq_place]
  exact sample_ensures_eq rfl fun _ => ⟨_, Prod.ext (answers _ _) rfl, trivial⟩

end AnswersWith

theorem Responds.steady {responses : (Fin n → ℝ) → Exact}
    (responds : Responds objective responses) {differences : Differences Exact n}
    (perturbed : differences.perturbations (vector x) = vector h) :
    Steady objective (vector x) (differences.perturbations (vector x)) probes fun probe =>
      responses (place x h probe) := by
  intro probe _ memory
  rw [perturbed, point_eq_place]
  exact responds _ memory

end

end CurveFitting.Exact

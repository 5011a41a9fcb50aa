import CurveFitting.Covariance
import CurveFitting.Proofs.Exact.Approximation
import CurveFitting.Proofs.Exact.Estimates

/-! # Reordering on exact numbers

With the entries of its vectors and the rows and columns of its matrices in another order,
each computation of a fit comes to the same numbers in that order.
-/

namespace CurveFitting

variable {n m : Nat} {value : Type}

def reordered (order : Fin m ≃ Fin n) (entries : Vector value n) : Vector value m :=
  Vector.ofFn fun i => entries.get (order i)

def RowMatrix.reordered (order : Fin m ≃ Fin n) (entries : RowMatrix value n n) :
    RowMatrix value m m :=
  .ofEntries fun i j => (entries.get (order i)).get (order j)

variable (order : Fin m ≃ Fin n)

theorem get_reordered (entries : Vector value n) (i : Fin m) :
    (reordered order entries).get i = entries.get (order i) := Vector.getElem_ofFn i.isLt

private theorem reordered_ofFn (entry : Fin n → value) :
    reordered order (Vector.ofFn entry) = Vector.ofFn fun i => entry (order i) := by
  refine congrArg Vector.ofFn (funext fun i => ?_)
  exact Vector.getElem_ofFn (order i).isLt

/-! ## Covariances -/

section

variable {α : Type}

private theorem RowMatrix.get_get_reordered (entries : RowMatrix α n n) (i j : Fin m) :
    ((entries.reordered order).get i).get j = (entries.get (order i)).get (order j) :=
  RowMatrix.get_ofEntries ..

variable [Scalar α]

private theorem RowMatrix.scale_reordered (entries : RowMatrix α n n) (factor : α) :
    (entries.reordered order).scale factor = (entries.scale factor).reordered order := by
  rw [← RowMatrix.ofEntries_get ((entries.reordered order).scale factor)]
  refine congrArg RowMatrix.ofEntries (funext fun i => funext fun j => ?_)
  rw [RowMatrix.get_scale, RowMatrix.get_get_reordered, RowMatrix.get_scale]

theorem RowMatrix.isFinite_iff (entries : RowMatrix α n n) :
    entries.isFinite = true ↔ ∀ i j, Scalar.isFinite ((entries.get i).get j) = true := by
  simp only [RowMatrix.isFinite, Vector.all_eq_true]
  exact ⟨fun finite i j => finite i i.isLt j j.isLt,
    fun finite i rowWithin j within => finite ⟨i, rowWithin⟩ ⟨j, within⟩⟩

private theorem RowMatrix.isFinite_reordered (entries : RowMatrix α n n) :
    (entries.reordered order).isFinite = entries.isFinite := by
  rw [Bool.eq_iff_iff, RowMatrix.isFinite_iff, RowMatrix.isFinite_iff]
  simp only [RowMatrix.get_get_reordered]
  exact ⟨fun finite i j => by simpa using finite (order.symm i) (order.symm j),
    fun finite i j => finite _ _⟩

private theorem all_finRange_reordered (condition : Fin n → Bool) :
    ((List.finRange m).all fun i => condition (order i)) = (List.finRange n).all condition := by
  rw [Bool.eq_iff_iff, List.all_eq_true, List.all_eq_true]
  simp only [List.mem_finRange, forall_const]
  exact ⟨fun all i => by simpa using all (order.symm i), fun all i => all (order i)⟩

namespace Covariance

def reordered (order : Fin m ≃ Fin n) (covariance : Covariance α n) : Covariance α m :=
  ⟨covariance.matrix.reordered order⟩

theorem estimate_reordered (inverseHessian : RowMatrix α n n) (errorDefinition : α) :
    estimate (inverseHessian.reordered order) errorDefinition =
      (estimate inverseHessian errorDefinition).map (reordered order) := by
  unfold estimate
  simp only [RowMatrix.scale_reordered, RowMatrix.isFinite_reordered, RowMatrix.get_get_reordered]
  rw [all_finRange_reordered order fun i =>
    !decide (((inverseHessian.scale (Scalar.double errorDefinition)).get i).get i < 0)]
  split <;> rfl

theorem error_reordered (covariance : Covariance α n) (i : Fin m) :
    (covariance.reordered order).error i = covariance.error (order i) := by
  rw [error, reordered, RowMatrix.get_get_reordered, error]

theorem errors_reordered (covariance : Covariance α n) :
    (covariance.reordered order).errors = CurveFitting.reordered order covariance.errors := by
  rw [errors, errors, reordered_ofFn]
  exact congrArg Vector.ofFn (funext fun i => error_reordered order covariance i)

end Covariance

end

/-! ## Probes -/

namespace Probe

def reordered (order : Fin m ≃ Fin n) : Probe m → Probe n
  | single i up => single (order i) up
  | corner i j iUp jUp => corner (order i) (order j) iUp jUp

theorem forall_ofGradient_reordered (condition : Probe n → Prop) :
    (∀ probe ∈ ofGradient m, condition (probe.reordered order)) ↔
      ∀ probe ∈ ofGradient n, condition probe := by
  simp only [mem_ofGradient]
  constructor
  · rintro holds _ ⟨i, up, rfl⟩
    have held := holds _ ⟨order.symm i, up, rfl⟩
    rwa [reordered, order.apply_symm_apply] at held
  · rintro holds _ ⟨i, up, rfl⟩
    exact holds _ ⟨order i, up, rfl⟩

private theorem forall_ofHessian_iff (condition : Probe n → Prop)
    (corners : ∀ i j iUp jUp, condition (.corner i j iUp jUp) → condition (.corner j i jUp iUp)) :
    (∀ probe ∈ ofHessian n, condition probe) ↔ (∀ i up, condition (.single i up)) ∧
      ∀ i j, i ≠ j → ∀ iUp jUp, condition (.corner i j iUp jUp) := by
  constructor
  · intro holds
    refine ⟨fun i up => ?_, fun i j different iUp jUp => ?_⟩
    · apply holds _ (ofEntry_subset (Fin.le_refl i) _)
      cases up <;> simp [ofEntry, pair]
    · have listed {i j : Fin n} (above : i < j) (iUp jUp : Bool) :
          condition (.corner i j iUp jUp) := by
        apply holds _ (ofEntry_subset (le_of_lt above) _)
        cases iUp <;> cases jUp <;> simp [ofEntry, Probe.corners, ne_of_lt above]
      rcases lt_or_gt_of_ne different with above | below
      · exact listed above iUp jUp
      · exact corners _ _ _ _ (listed below jUp iUp)
  · rintro ⟨singles, mixed⟩ probe member
    rcases mem_ofHessian.mp member with ⟨i, j, _, within⟩
    unfold ofEntry at within
    split at within
    · simp only [pair, List.mem_cons, List.not_mem_nil, or_false] at within
      rcases within with rfl | rfl <;> exact singles _ _
    · rename_i different
      simp only [Probe.corners, List.mem_cons, List.not_mem_nil, or_false] at within
      rcases within with rfl | rfl | rfl | rfl <;> exact mixed _ _ different _ _

theorem forall_ofHessian_reordered (condition : Probe n → Prop)
    (corners : ∀ i j iUp jUp, condition (.corner i j iUp jUp) → condition (.corner j i jUp iUp)) :
    (∀ probe ∈ ofHessian m, condition (probe.reordered order)) ↔
      ∀ probe ∈ ofHessian n, condition probe := by
  rw [forall_ofHessian_iff condition corners,
    forall_ofHessian_iff (fun probe => condition (probe.reordered order))
      fun i j => corners (order i) (order j)]
  constructor
  · rintro ⟨singles, mixed⟩
    refine ⟨fun i up => ?_, fun i j different iUp jUp => ?_⟩
    · have held := singles (order.symm i) up
      rwa [reordered, order.apply_symm_apply] at held
    · have held := mixed _ _ (order.symm.injective.ne different) iUp jUp
      rwa [reordered, order.apply_symm_apply, order.apply_symm_apply] at held
  · rintro ⟨singles, mixed⟩
    exact ⟨fun i => singles (order i), fun i j different =>
      mixed _ _ (order.injective.ne different)⟩

end Probe

namespace Exact

open Matrix Differences

variable (entries left right : Fin n → ℝ) (first second : Matrix (Fin n) (Fin n) ℝ)

theorem reordered_vector : reordered order (vector entries) = vector (entries ∘ order) := by
  ext i within
  rw [reordered, Vector.getElem_ofFn, get_vector, getElem_vector]
  rfl

theorem reordered_matrix :
    RowMatrix.reordered order (matrix first) = matrix (first.submatrix order order) := by
  refine congrArg RowMatrix.ofEntries (funext fun i => funext fun j => ?_)
  rw [get_matrix, get_vector]
  rfl

/-! ## Linear algebra -/

theorem dot_reordered : dot (vector (left ∘ order)) (vector (right ∘ order)) =
    dot (vector left) (vector right) := by
  rw [dot_vector, dot_vector, comp_equiv_dotProduct_comp_equiv]

theorem mulVec_reordered :
    first.submatrix order order *ᵥ left ∘ order = (first *ᵥ left) ∘ order := by
  rw [submatrix_mulVec_equiv, Function.comp_assoc, order.self_comp_symm, Function.comp_id]

theorem edm_reordered (errorDefinition : Exact) :
    InverseHessian.edm (vector (left ∘ order)) (matrix (first.submatrix order order))
        errorDefinition =
      InverseHessian.edm (vector left) (matrix first) errorDefinition := by
  unfold InverseHessian.edm
  rw [mulVector_matrix, mulVector_matrix, mulVec_reordered, dot_reordered]

theorem seed_reordered : InverseHessian.seed (vector (left ∘ order)) =
    matrix ((diagonal (left * left)).submatrix order order) := by
  rw [seed_real, submatrix_diagonal_equiv]
  rfl

private theorem matrix_beq : (matrix first == matrix second) = true ↔ first = second := by
  simp only [Vector.beq_eq_decide, decide_eq_true_eq, getElem_matrix, getElem_vector, beq_iff]
  constructor
  · intro same
    ext i j
    exact same i i.isLt j j.isLt
  · rintro rfl i _ j _
    rfl

theorem matrix_beq_reordered :
    (matrix (first.submatrix order order) == matrix (second.submatrix order order)) =
      (matrix first == matrix second) := by
  rw [Bool.eq_iff_iff, matrix_beq, matrix_beq]
  exact (reindex order.symm order.symm).injective.eq_iff

private theorem learned_reordered :
    learned (first.submatrix order order) (left ∘ order) (right ∘ order) =
      (learned first left right).submatrix order order := by
  unfold learned
  simp only [comp_equiv_dotProduct_comp_equiv, mulVec_reordered]
  rfl

theorem update_reordered (symmetric : first.IsSymm) :
    let updated := InverseHessian.update (matrix first) (vector left) (vector right)
    let other := InverseHessian.update (matrix (first.submatrix order order))
      (vector (left ∘ order)) (vector (right ∘ order))
    other.isSome = updated.isSome ∧ ∃ next : Matrix (Fin n) (Fin n) ℝ, next.IsSymm ∧
      updated.getD (matrix first) = matrix next ∧
      other.getD (matrix (first.submatrix order order)) = matrix (next.submatrix order order) := by
  intro updated other
  simp only [updated, other, update_real symmetric, update_real (symmetric.submatrix order),
    comp_equiv_dotProduct_comp_equiv, learned_reordered]
  split
  · exact ⟨rfl, _, learned_isSymm symmetric, rfl, rfl⟩
  · exact ⟨rfl, first, symmetric, rfl, rfl⟩

private theorem posDef_reordered : (first.submatrix order order).PosDef ↔ first.PosDef := by
  constructor
  · intro posDef
    simpa using posDef.submatrix order.symm.injective
  · intro posDef
    exact posDef.submatrix order.injective

theorem ofHessian_reordered (symmetric : first.IsSymm) :
    InverseHessian.ofHessian (matrix (first.submatrix order order)) =
      (InverseHessian.ofHessian (matrix first)).map (RowMatrix.reordered order) := by
  ext inverse
  rw [ofHessian_eq_some (symmetric.submatrix order), Option.map_eq_some_iff, posDef_reordered,
    inv_submatrix_equiv, ← reordered_matrix]
  simp only [ofHessian_eq_some symmetric]
  constructor
  · rintro ⟨posDef, rfl⟩
    exact ⟨_, ⟨posDef, rfl⟩, rfl⟩
  · rintro ⟨_, ⟨posDef, rfl⟩, rfl⟩
    exact ⟨posDef, rfl⟩

/-! ## Differences -/

variable (function : (Fin n → ℝ) → Exact) (x h : Fin n → ℝ) (cost : Exact)

/-- The function that undoes the order of its arguments. -/
def reorderedFunction (point : Fin m → ℝ) : Exact := function (point ∘ order.symm)

theorem perturbations_reordered {differences : Differences Exact n}
    (perturbed : differences.perturbations (vector x) = vector h) :
    Differences.perturbations
        { steps := reordered order differences.steps, relativeStep := differences.relativeStep }
        (vector (x ∘ order)) = vector (h ∘ order) := by
  rw [← reordered_vector, ← reordered_vector, ← perturbed]
  ext i within
  have found (i : Fin n) : (differences.perturbations (vector x)).get i =
      differences.perturbation i ((vector x).get i) := Vector.getElem_ofFn i.isLt
  rw [perturbations, Vector.getElem_ofFn, perturbation, get_reordered, get_reordered]
  exact ((get_reordered ..).trans (found (order ⟨i, within⟩))).symm

private theorem shift_reordered (point : Fin n → ℝ) (i : Fin m) (distance : ℝ) :
    point ∘ order + Pi.single i distance = (point + Pi.single (order i) distance) ∘ order := by
  funext j
  simp [Pi.single_apply]

theorem reorderedFunction_apply (point : Fin n → ℝ) :
    reorderedFunction order function (point ∘ order) = function point := by
  rw [reorderedFunction, Function.comp_assoc, order.self_comp_symm, Function.comp_id]

/-! ## Derivatives -/

private theorem place_reordered (probe : Probe m) :
    place (x ∘ order) (h ∘ order) probe = place x h (probe.reordered order) ∘ order := by
  cases probe with
  | single i up => exact shift_reordered order x i _
  | corner i j iUp jUp =>
      rw [Probe.reordered, place, place, shift_reordered, shift_reordered]
      rfl

theorem reorderedFunction_place (probe : Probe m) :
    reorderedFunction order function (place (x ∘ order) (h ∘ order) probe) =
      function (place x h (probe.reordered order)) := by
  rw [place_reordered, reorderedFunction_apply]

theorem place_corner_comm (i j : Fin n) (iUp jUp : Bool) :
    place x h (.corner i j iUp jUp) = place x h (.corner j i jUp iUp) :=
  add_right_comm x _ _

variable (values : Probe n → ℝ)

private theorem secondDerivative_comm (cost : ℝ) (corners : ∀ i j iUp jUp,
      values (.corner i j iUp jUp) = values (.corner j i jUp iUp)) (i j : Fin n) :
    secondDerivative cost h values i j = secondDerivative cost h values j i := by
  rcases eq_or_ne i j with rfl | different
  · rfl
  · unfold secondDerivative
    rw [if_neg different, if_neg different.symm, corners j i, corners j i, corners j i,
      corners j i]
    ring

theorem secondDerivatives_reordered (cost : ℝ) (corners : ∀ i j iUp jUp,
      values (.corner i j iUp jUp) = values (.corner j i jUp iUp)) :
    secondDerivatives cost (h ∘ order) (fun probe => values (probe.reordered order)) =
      (secondDerivatives cost h values).submatrix order order := by
  have entry (i j : Fin m) :
      secondDerivative cost (h ∘ order) (fun probe => values (probe.reordered order)) i j =
        secondDerivative cost h values (order i) (order j) := by
    simp only [secondDerivative, order.injective.eq_iff]
    rfl
  have comm := secondDerivative_comm h values cost corners
  ext i j
  rw [submatrix_apply, secondDerivatives, secondDerivatives, of_apply, of_apply, entry, entry,
    comm (order j), ite_self, ite_self]

end Exact

end CurveFitting
